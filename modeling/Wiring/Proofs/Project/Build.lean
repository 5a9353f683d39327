import Wiring.Project.Build
import Wiring.Proofs.Container.Population
import Wiring.Proofs.Declaration.WellFormed

/-!
# What every build has

However its sources are found and read, a build is assembled from well-formed providers: its
container is what populating a new one with them leaves (`yields_ofEntries`, `yields_ofText`). So
the container is a reachable one, and whatever its nodes require or provide is well-formed and can
be shown.
-/

namespace Wiring.Build

open Source (Reader)

/-- What is common to all builds. -/
structure Sound (b : Build) : Prop where
  /-- The container has been made by its operations. -/
  reachable : b.container.Reachable
  /-- The type of the root is made by the constructors of keys. -/
  root : ∀ t, b.container.rootType? = some t → t.WellFormed

/-- The build has well-formed providers, and its container is populated with them. -/
structure Assembled (rootMethod : String) (b : Build) : Prop where
  /-- The container is what populating a new one leaves. -/
  container : b.container =
    ((Container.populate b.providers).run.run (.new rootMethod)).2
  /-- The providers have types that are made by the constructors of keys. -/
  providers : ∀ p ∈ b.providers, p.WellFormed

/-! ## What assembled builds have -/

section Assembled

variable {rootMethod : String} {b : Build}

/-- An assembled build is sound. -/
theorem Assembled.sound (h : b.Assembled rootMethod) : b.Sound where
  reachable := by
    have hnew : Container.Reachable (.new rootMethod) := ⟨rootMethod, 0, [], rfl⟩
    rw [h.container]
    exact hnew.populate b.providers
  root t ht := by
    rw [h.container] at ht
    rcases Container.rootType?_populate ht with hnew | ⟨p, hp, hprovided⟩
    · cases hnew
    · exact (h.providers p hp).results t (List.mem_filter.mp hprovided).1

/-- Whatever a node of an assembled build requires or provides of itself is well-formed. -/
theorem Assembled.wellFormed (h : b.Assembled rootMethod) {role : Role}
    (hrole : role ∈ b.container.roles) :
    (∀ t ∈ role.requires, t.WellFormed) ∧ ∀ t ∈ role.provides, t.WellFormed := by
  rw [h.container] at hrole
  rcases Container.mem_roles_populate hrole with hnew | ⟨p, hp, rfl | ⟨u, hu, rfl⟩⟩
  · cases hnew
  · have hp := h.providers p hp
    exact ⟨hp.params, fun t ht => hp.results t (List.mem_filter.mp ht).1⟩
  · refine ⟨fun t ht => ?_, fun t ht => by cases ht⟩
    rw [List.mem_singleton.mp ht]
    exact (h.providers p hp).results u (List.mem_filter.mp hu).1

end Assembled

/-! ## Every build is assembled -/

/-- A build of well-formed providers is assembled. -/
theorem yields_ofProviders {rootMethod : String} {providers : List Provider}
    (hproviders : ∀ p ∈ providers, p.WellFormed) :
    Yields (Assembled rootMethod) (ofProviders rootMethod providers) := by
  unfold ofProviders
  cases hrun : (Container.populate providers).run.run (.new rootMethod) with
  | mk result c =>
    cases result with
    | error e => rintro _ ⟨⟩
    | ok diagnostics =>
      rintro _ ⟨⟩
      exact ⟨by rw [hrun], hproviders⟩

variable [Reader]

/-- A build of a single source is assembled. -/
theorem yields_ofText (text moduleName filePath : String) (options : BuildOptions) :
    Yields (Assembled options.rootMethod) (ofText text moduleName filePath options) := by
  have hproviders : Yields (fun ps => ∀ p ∈ ps, Provider.WellFormed p)
      (extractProviders text moduleName filePath options.marker) := by
    unfold extractProviders
    refine Yields.bind (fun _ _ => trivial) fun d _ => ?_
    exact (Declarations.yields_providersOf _).mapError
  exact hproviders.mapError.bind fun _ => yields_ofProviders

/-- A build of the sources below a directory is assembled. -/
theorem yields_ofEntries (directory : Path) (entries : List Entry) (options : BuildOptions)
    (exclusions : List String) :
    Yields (Assembled options.rootMethod) (ofEntries directory entries options exclusions) := by
  unfold ofEntries
  refine Yields.bind (fun _ _ => trivial) fun readings _ => ?_
  refine (Declarations.yields_providersOf _).mapError.bind fun providers hproviders => ?_
  refine (yields_ofProviders hproviders).bind fun b hb => ?_
  exact Yields.pure ⟨hb.container, hb.providers⟩

end Wiring.Build
