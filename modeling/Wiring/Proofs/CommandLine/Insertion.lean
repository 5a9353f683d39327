import Wiring.Proofs.CommandLine.Naming
import Wiring.Proofs.Container.Insertion

/-!
# Unneeded providers and the variables

A provider of types that nothing needs can be put anywhere among the others, and neither the build
order nor the variables show it (`buildOrder_insert_unneeded`). The rows of variables show labels
and types of the listed nodes and never their numbers, so build orders that run in step have the
same rows (`Inserted.variableRows_eq`). Only the missing node provides other types when there is one
provider more, and it is not listed where everything that is needed is provided.
-/

namespace Wiring

open Variable (Namer NamingError)

namespace Report

variable {c₁ c₂ : Container} {namer : Namer} {counts : OrderedMap TypeKey Nat}
  {vs₁ vs₂ : List (Node × TypeKey)}

/-- The rows depend on nothing but the labels of the nodes and the types. -/
theorem variableRows_congr
    (h : List.Forall₂ (fun x y => label x.1 = label y.1 ∧ x.2 = y.2) vs₁ vs₂) :
    variableRows c₁ namer counts vs₁ = variableRows c₂ namer counts vs₂ := by
  induction h generalizing namer counts with
  | nil => rfl
  | @cons x y vs₁ vs₂ hxy _ ih =>
    obtain ⟨n₁, t⟩ := x
    obtain ⟨n₂, u⟩ := y
    obtain ⟨hlabel, rfl⟩ : label n₁ = label n₂ ∧ t = u := hxy
    rw [variableRows, variableRows, hlabel]
    simp only [ih]

/-- The table of variables with the given rows. -/
def variableTable (rows : List (List String)) : ReportTable :=
  { title := "Variables", columns := ["Node", "Type", "Variable"], rows }

/-- With a build order, a report shows the table of variables in front of the problems, unless a
value cannot be named. -/
theorem naming_eq_map {b : Build} {order : List Node} {c : Container}
    (hrun : Container.buildOrder.run.run b.container = (.ok order, c)) :
    naming b = (variableRows c .empty .empty (values c order)).map fun rows =>
      { printed := .table (variableTable rows) :: problemLines b } := by
  unfold naming
  rw [hrun]
  rfl

end Report

namespace Container

variable {c c₁ c₂ : Container} {p : Provider} {xs ys : List Provider} {T U t : TypeKey}
  {n₁ n₂ : Node} {order order₁ order₂ : List Node}

/-- All that the root and what it transitively requires require is provided. -/
def Satisfied (c : Container) : Prop :=
  ∀ r, c.root? = some r → ∀ n, c.withMissing.Needed r n → ∀ t ∈ n.requires, c.isUnmet t = false

/-- The missing node provides nothing of itself, so what is unmet stays unmet when it is made. -/
theorem isUnmet_withMissing (c : Container) (t : TypeKey) :
    c.withMissing.isUnmet t = c.isUnmet t := by
  unfold withMissing
  split
  · rfl
  · rfl

/-- Where everything that is needed is provided, the missing node is not listed. -/
theorem Satisfied.isMissing_eq_false (h : c.Satisfied) (hc : c.withMissing.Consistent)
    (horder : (buildOrder.run.run c).1 = .ok order) : ∀ n ∈ order, n.role.isMissing = false := by
  obtain ⟨r, hr, hbuild, -⟩ := buildOrder_eq_ok hc horder
  intro n hn
  rw [Bool.eq_false_iff]
  intro hmissing
  obtain ⟨m, hm, t, ht, hunmet⟩ := hbuild.missing.mp ⟨n, hn, hmissing⟩
  rw [isUnmet_withMissing, h r hr m hm t ht] at hunmet
  cases hunmet

namespace Inserted

/-- Build orders that run in step list the same providers. -/
theorem map_role_filter_eq (h : Inserted xs p ys c₁ c₂ T U)
    (hstep : List.Forall₂ (Counterpart xs p ys c₁ c₂) order₁ order₂) :
    (order₁.filter (·.role.isProvider)).map (·.role) =
      (order₂.filter (·.role.isProvider)).map (·.role) := by
  induction hstep with
  | nil => rfl
  | cons hn _ ih =>
    rcases h.role_cases hn with heq | ⟨h₁, h₂⟩
    · rw [List.filter_cons, List.filter_cons, heq]
      split
      · rw [List.map_cons, List.map_cons, heq, ih]
      · exact ih
    · rw [List.filter_cons_of_neg (by simp [h₁, Role.isProvider]),
        List.filter_cons_of_neg (by simp [h₂, Role.isProvider]), ih]

/-- Counterparts that are not missing show the same values. -/
theorem forall₂_values (h : Inserted xs p ys c₁ c₂ T U) (hn : Counterpart xs p ys c₁ c₂ n₁ n₂)
    (hpresent : n₁.role.isMissing = false) :
    List.Forall₂ (fun x y => Report.label x.1 = Report.label y.1 ∧ x.2 = y.2)
      ((c₁.withMissing.provides n₁).map fun type => (n₁, type))
      ((c₂.withMissing.provides n₂).map fun type => (n₂, type)) := by
  have hprovides := h.provides_eq hn
  have hpresent₂ := hpresent
  rw [h.isMissing_eq hn] at hpresent₂
  rw [provides_of_not_isMissing hpresent, provides_of_not_isMissing hpresent₂, hprovides]
  rcases h.role_cases hn with heq | ⟨-, h₂⟩
  · have hlabel : Report.label n₁ = Report.label n₂ := by
      unfold Report.label
      rw [heq]
    rw [List.forall₂_map_left_iff, List.forall₂_map_right_iff, List.forall₂_same]
    exact fun t _ => ⟨hlabel, rfl⟩
  · -- The root provides nothing.
    rw [h₂]
    exact List.Forall₂.nil

/-- Build orders that run in step and do not list the missing node have the same rows. -/
theorem variableRows_eq (h : Inserted xs p ys c₁ c₂ T U)
    (hstep : List.Forall₂ (Counterpart xs p ys c₁ c₂) order₁ order₂)
    (hpresent : ∀ n ∈ order₁, n.role.isMissing = false) :
    Report.variableRows c₁.withMissing .empty .empty (Report.values c₁.withMissing order₁) =
      Report.variableRows c₂.withMissing .empty .empty (Report.values c₂.withMissing order₂) := by
  have hlisted := (List.forall₂_and_left order₁ order₂).mpr ⟨hpresent, hstep⟩
  exact Report.variableRows_congr
    (List.rel_flatMap hlisted fun _ _ hn => h.forall₂_values hn.2 hn.1)

/-- If all that is needed is provided in one of the containers, neither build order lists the
missing node. -/
theorem isMissing_eq_false (h : Inserted xs p ys c₁ c₂ T U)
    (hstep : List.Forall₂ (Counterpart xs p ys c₁ c₂) order₁ order₂)
    (horder₁ : (buildOrder.run.run c₁).1 = .ok order₁)
    (horder₂ : (buildOrder.run.run c₂).1 = .ok order₂) (hmet : c₁.Satisfied ∨ c₂.Satisfied) :
    ∀ n ∈ order₁, n.role.isMissing = false := by
  rcases hmet with hmet | hmet
  · exact hmet.isMissing_eq_false h.left.reachable.withMissing.consistent horder₁
  · -- What is listed has a counterpart that is listed, and that is not missing.
    have hpresent := hmet.isMissing_eq_false h.right.reachable.withMissing.consistent horder₂
    have hlisted := (List.forall₂_and_left order₂ order₁).mpr ⟨hpresent, hstep.flip⟩
    have hflipped : List.Forall₂ (fun n₁ n₂ => n₁.role.isMissing = false ∧ True) order₁ order₂ :=
      hlisted.flip.imp fun _ _ hn => ⟨(h.isMissing_eq hn.2).trans hn.1, trivial⟩
    exact ((List.forall₂_and_left order₁ order₂).mp hflipped).1

end Inserted

/-! ## The build order and the variables -/

/-- The second list has what the first has, in the same order and without the provider `p` that is
put between `xs` and `ys`. -/
structure SameListing (xs : List Provider) (p : Provider) (ys : List Provider) (c₁ c₂ : Container)
    (order₁ order₂ : List Node) : Prop where
  /-- At each place both have the same occurrence of a provider, the root, or the missing node. -/
  counterparts : List.Forall₂ (Counterpart xs p ys c₁ c₂) order₁ order₂
  /-- So both have the same providers in the same order. -/
  providers : (order₁.filter (·.role.isProvider)).map (·.role) =
    (order₂.filter (·.role.isProvider)).map (·.role)
  /-- The node of the provider in between is not listed. -/
  absent : ∀ n ∈ order₂, ¬ Stands (xs ++ p :: ys).zipIdx c₂ n (p, xs.length)

/-- Lists that run in step are the same. -/
theorem Inserted.sameListing (h : Inserted xs p ys c₁ c₂ T U)
    (hstep : List.Forall₂ (Counterpart xs p ys c₁ c₂) order₁ order₂) :
    SameListing xs p ys c₁ c₂ order₁ order₂ where
  counterparts := hstep
  providers := h.map_role_filter_eq hstep
  absent := by
    have hflipped : List.Forall₂ (fun n (_ : Node) =>
        ¬ Stands (xs ++ p :: ys).zipIdx c₂ n (p, xs.length) ∧ True) order₂ order₁ :=
      hstep.flip.imp fun _ _ hn => ⟨h.not_stands hn, trivial⟩
    exact ((List.forall₂_and_left order₂ order₁).mp hflipped).1

/-- Two containers are filled, the second with one provider more, and have equal roots. If the root
and what it transitively requires require nothing of that provider, a cycle is reported for both or
for neither, and then both build orders have the same providers in the same order. If all that is
needed is provided, the same table of variables is shown, or the same reason why a value cannot be
named. -/
theorem buildOrder_insert_unneeded {method₁ method₂ : String} {tag₁ tag₂ : Nat}
    (h₁ : Fills (new method₁ tag₁) (xs ++ ys) c₁) (h₂ : Fills (new method₂ tag₂) (xs ++ p :: ys) c₂)
    (hT : c₁.rootType? = some T) (hU : c₂.rootType? = some U) (hTU : (T == U) = true)
    (hp : c₁.Unneeded p ∨ c₂.Unneeded p) :
    ((∃ cycle, (buildOrder.run.run c₁).1 = .error (.cyclicDependency cycle)) ∧
        ∃ cycle, (buildOrder.run.run c₂).1 = .error (.cyclicDependency cycle)) ∨
      ∃ order₁ order₂, (buildOrder.run.run c₁).1 = .ok order₁ ∧
        (buildOrder.run.run c₂).1 = .ok order₂ ∧ SameListing xs p ys c₁ c₂ order₁ order₂ ∧
        (c₁.Satisfied ∨ c₂.Satisfied → ∀ b₁ b₂ : Build, b₁.container = c₁ → b₂.container = c₂ →
          ∃ table : Except NamingError ReportTable,
            Report.naming b₁ =
              table.map (fun t => { printed := .table t :: Report.problemLines b₁ }) ∧
            Report.naming b₂ =
              table.map fun t => { printed := .table t :: Report.problemLines b₂ }) := by
  have h : Inserted xs p ys c₁ c₂ T U :=
    ⟨h₁.holds hT, h₂.holds hU, hTU, h₁.any_isMissing rfl, h₂.any_isMissing rfl⟩
  rcases h.buildOrders hp with hcyclic | ⟨order₁, order₂, hrun₁, hrun₂, hstep⟩
  · exact Or.inl hcyclic
  have horder₁ := congrArg Prod.fst hrun₁
  have horder₂ := congrArg Prod.fst hrun₂
  refine Or.inr ⟨order₁, order₂, horder₁, horder₂, h.sameListing hstep, ?_⟩
  rintro hmet b₁ b₂ rfl rfl
  have hrows := h.variableRows_eq hstep (h.isMissing_eq_false hstep horder₁ horder₂ hmet)
  refine ⟨(Report.variableRows b₁.container.withMissing .empty .empty
    (Report.values b₁.container.withMissing order₁)).map Report.variableTable, ?_, ?_⟩
  · rw [Report.naming_eq_map hrun₁]
    cases Report.variableRows b₁.container.withMissing .empty .empty
      (Report.values b₁.container.withMissing order₁) with
    | error e => rfl
    | ok rows => rfl
  · rw [Report.naming_eq_map hrun₂, hrows]
    cases Report.variableRows b₂.container.withMissing .empty .empty
      (Report.values b₂.container.withMissing order₂) with
    | error e => rfl
    | ok rows => rfl

/-- A provider that requires the type of another. -/
def consumer : Provider := { name := "f", params := [.basic "B"], results := [.basic "A"] }

/-- That other provider. -/
def supplier : Provider := { name := "g", results := [.basic "B"] }

/-- A provider that requires what nobody provides, for a type that nobody requires. -/
def idler : Provider := { name := "h", params := [.basic "C"], results := [.basic "D"] }

/-- The consumer and its supplier, and then the type of the consumer as the root. -/
def quiet : Container :=
  new.after [.addProvider consumer, .addProvider supplier, .setRoot (.basic "A")]

/-- The same with the idler in between, and with the root set first. -/
def crowded : Container :=
  new.after
    [.setRoot (.basic "A"), .addProvider consumer, .addProvider idler, .addProvider supplier]

/-- Without the idler, no node requires its type, and all that is required is provided. -/
theorem requires_quiet {n : Node} (hn : n ∈ quiet.withMissing.members) :
    ¬ Wants n idler ∧ ∀ t ∈ n.requires, quiet.isUnmet t = false := by
  have hroles : ∀ role ∈ quiet.withMissing.roles,
      (¬ ∃ t ∈ role.requires, idler.provides.contains t = true) ∧
        ∀ t ∈ role.requires, quiet.isUnmet t = false := by decide +kernel
  obtain ⟨role, hrole, heq⟩ := exists_mem_members_iff.mp ⟨n, hn, rfl⟩
  rw [Wants, Node.requires, heq]
  exact hroles role hrole

/-- Nor does the root need a cycle. -/
theorem exists_buildOrder_quiet : ∃ order, (buildOrder.run.run quiet).1 = .ok order := by
  have hreachable : Reachable quiet := ⟨"run", 0, _, rfl⟩
  have hnone : (quiet.withMissing.neededGraph (quiet.nodeOf 2 (.root (.basic "A")))).findCycle =
      [] := by decide +kernel
  rcases buildOrder_cases hreachable.withMissing.consistent
    (r := quiet.nodeOf 2 (.root (.basic "A"))) rfl with ⟨hcycle, -⟩ | ⟨-, ids, -, hrun⟩
  · exact absurd hnone hcycle
  · exact ⟨_, congrArg Prod.fst hrun⟩

/-- Between the two providers the idler is not noticed. -/
theorem buildOrder_insert_unneeded_idler :
    ∃ order₁ order₂, (buildOrder.run.run quiet).1 = .ok order₁ ∧
      (buildOrder.run.run crowded).1 = .ok order₂ ∧
      SameListing [consumer] idler [supplier] quiet crowded order₁ order₂ ∧
      ∀ b₁ b₂ : Build, b₁.container = quiet → b₂.container = crowded →
        ∃ table : Except NamingError ReportTable,
          Report.naming b₁ =
            table.map (fun t => { printed := .table t :: Report.problemLines b₁ }) ∧
          Report.naming b₂ =
            table.map fun t => { printed := .table t :: Report.problemLines b₂ } := by
  have h₁ : Fills new ([consumer] ++ [supplier]) quiet :=
    .add consumer (.add supplier (.setRoot (.basic "A") (.done _)))
  have h₂ : Fills new ([consumer] ++ idler :: [supplier]) crowded :=
    .setRoot (.basic "A") (.add consumer (.add idler (.add supplier (.done _))))
  have hneeded : ∀ r, quiet.root? = some r → ∀ n, quiet.withMissing.Needed r n →
      n ∈ quiet.withMissing.members := fun r hr n hn =>
    hn.mem_members (mem_members_withMissing (root?_spec hr).1)
  have hunneeded : quiet.Unneeded idler := fun r hr n hn => (requires_quiet (hneeded r hr n hn)).1
  have hmet : quiet.Satisfied := fun r hr n hn => (requires_quiet (hneeded r hr n hn)).2
  rcases buildOrder_insert_unneeded h₁ h₂ rfl rfl (BEq.refl (TypeKey.basic "A"))
    (Or.inl hunneeded) with ⟨⟨cycle, hcycle⟩, -⟩ | ⟨order₁, order₂, horder₁, horder₂, hsame, hshown⟩
  · obtain ⟨order, horder⟩ := exists_buildOrder_quiet
    cases horder.symm.trans hcycle
  · exact ⟨order₁, order₂, horder₁, horder₂, hsame, hshown (Or.inl hmet)⟩

end Container

end Wiring
