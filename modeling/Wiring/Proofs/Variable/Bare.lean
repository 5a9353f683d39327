import Wiring.Proofs.TypeKey.Bare
import Wiring.Variable.Namer

/-!
# Names do not show methods

A namer looks types up by comparing them and otherwise reads their kinds, names and arguments. So it
gives a key without methods the name that it gives the key, and is left as it would be, but for the
methods of the types that it keeps (`Namer.name_bare`).
-/

namespace Wiring.Variable

/-! ## Basenames -/

/-- The name that a declared type has of itself does not show methods. -/
@[simp]
theorem declaredName?_bare (t : TypeKey) : declaredName? t.bare = declaredName? t := by
  unfold declaredName?
  rw [TypeKey.kind_bare, TypeKey.name_bare]

/-- Neither does that of a mapping. -/
@[simp]
theorem mapName?_bare (key value : TypeKey) :
    mapName? key.bare value.bare = mapName? key value := by
  unfold mapName?
  rw [TypeKey.kind_bare, TypeKey.kind_bare, TypeKey.name_bare, TypeKey.name_bare]

/-- Neither does the basename that a type has of itself. -/
theorem ownBasename?_bare (t : TypeKey) : ownBasename? t.bare = ownBasename? t := by
  unfold ownBasename?
  rw [TypeKey.kind_bare, TypeKey.key?_bare, TypeKey.value?_bare, TypeKey.elem?_bare,
    TypeKey.fields_bare, declaredName?_bare]
  cases t.kind with
  | named | other => rfl
  | map =>
    dsimp only
    cases t.key? with
    | error e => rfl
    | ok key =>
      cases t.value? with
      | error e => rfl
      | ok value =>
        cases key <;> cases value
        case some.some key value => exact congrArg Except.ok (mapName?_bare key value)
        all_goals rfl
  | element =>
    dsimp only
    cases t.elem? with
    | error e => rfl
    | ok elem =>
      cases elem with
      | none => rfl
      | some elem => exact congrArg Except.ok (declaredName?_bare elem)
  | struct =>
    dsimp only
    cases t.fields with
    | nil => rfl
    | cons field fields => exact congrArg Except.ok (declaredName?_bare field)

/-- Neither does any basename. -/
theorem basename_bare (t : TypeKey) : basename t.bare = basename t := by
  unfold basename
  rw [ownBasename?_bare]

/-! ## Namers -/

namespace Namer

/-- The namer whose types have no methods. -/
def bare (namer : Namer) : Namer where
  counter := namer.counter
  claimants := namer.claimants.onEntries id (List.map TypeKey.bare)
  table := ⟨namer.table.names.onEntries TypeKey.bare id⟩

/-- A claim does not depend on methods. -/
theorem claim_bare (t : TypeKey) (ts : List TypeKey) :
    claim t.bare (ts.map TypeKey.bare) = ((claim t ts).1, (claim t ts).2.map TypeKey.bare) := by
  have hplace : (ts.map TypeKey.bare).findIdx? (· == t.bare) = ts.findIdx? (· == t) := by
    rw [List.findIdx?_map]
    congr 1
    funext u
    exact TypeKey.bare_beq_bare u t
  unfold claim
  rw [hplace]
  cases ts.findIdx? (· == t) with
  | some i => rfl
  | none =>
    dsimp only
    rw [List.length_map, List.map_append]
    rfl

/-- Naming a type without methods is naming the type. -/
theorem nameType_bare (namer : Namer) (t : TypeKey) :
    namer.bare.nameType t.bare = (fun x => (x.1, x.2.bare)) <$> namer.nameType t := by
  have hknown : namer.bare.table.get? t.bare = namer.table.get? t := by
    have hfind := OrderedMap.find?_onEntries TypeKey.bare_beq_bare id namer.table.names t
    rwa [Option.map_id] at hfind
  have hcounter : namer.bare.counter = namer.counter := rfl
  unfold nameType
  rw [hknown, basename_bare, hcounter]
  cases namer.table.get? t with
  | some name => rfl
  | none =>
    dsimp only
    generalize (basename t).run.run namer.counter = result
    obtain ⟨_ | base, counter⟩ := result
    · rfl
    · -- The claimants of the basename correspond, and so does what is added to the tables.
      have hfind := OrderedMap.find?_onEntries (f := id) (fun _ _ => rfl) (List.map TypeKey.bare)
        namer.claimants base
      have hclaimants : (namer.bare.claimants.find? base).getD [] =
          ((namer.claimants.find? base).getD []).map TypeKey.bare := by
        show ((namer.claimants.onEntries id (List.map TypeKey.bare)).find? (id base)).getD [] = _
        rw [hfind]
        cases namer.claimants.find? base with
        | none => rfl
        | some ts => rfl
      dsimp only
      rw [hclaimants, claim_bare]
      dsimp only
      refine congrArg Except.ok (Prod.ext rfl ?_)
      show Namer.mk _ _ _ = Namer.mk _ _ _
      congr 1
      · exact OrderedMap.alter_onEntries (f := id) (fun _ _ => rfl) _ namer.claimants base
          (fun _ => (claim t ((namer.claimants.find? base).getD [])).2) _ fun _ => rfl
      · exact congrArg NameTable.mk (OrderedMap.alter_onEntries TypeKey.bare_beq_bare id
          namer.table.names t (fun _ => _) _ fun _ => rfl)

/-- A key without methods has the name of the key, and the namer is left as it would be but for
methods. -/
theorem name_bare (namer : Namer) (t : TypeKey) (n : Int) :
    namer.bare.name t.bare n = (fun x => (x.1, x.2.bare)) <$> namer.name t n := by
  unfold Namer.name
  split
  · rfl
  · rw [nameType_bare]
    cases namer.nameType t with
    | error e => rfl
    | ok result => rfl

end Namer

end Wiring.Variable
