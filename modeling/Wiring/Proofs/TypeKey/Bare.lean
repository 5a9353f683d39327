import Mathlib.Data.List.Forall2
import Wiring.TypeKey.Index

/-!
# Keys without their methods

Equal keys are the same once all methods are taken away (`TypeKey.bare`). What is computed of a key
does not notice the difference, with one exception: whether the key is runnable. So it commutes with
taking the methods away, from the printed form (`TypeKey.text_bare`) and the accessors to maps and
indices that have keys for their entries (`OrderedMap.find?_onEntries`, `TypeIndex.nodes_bare`).
-/

namespace Wiring

namespace TypeKey

/-! ## Taking methods away -/

mutual

/-- A key without methods has none to take away. -/
theorem bare_bare : ∀ t : TypeKey, t.bare.bare = t.bare
  | ⟨kind, name, scope, args, wrapper, _⟩ => by rw [bare, bare, bareAll_bareAll args]

/-- Nor have the keys of a list. -/
theorem bareAll_bareAll : ∀ ts : List TypeKey, bareAll (bareAll ts) = bareAll ts
  | [] => rfl
  | t :: ts => by rw [bareAll, bareAll, bare_bare t, bareAll_bareAll ts]

end

/-- Methods do not count when keys are compared. -/
@[simp]
theorem bare_beq_bare (t u : TypeKey) : (t.bare == u.bare) = (t == u) := by
  rw [Bool.eq_iff_iff, beq_iff_bare_eq, beq_iff_bare_eq, bare_bare, bare_bare]

/-- A key without methods has everything else of the key. -/
theorem bare_eq (t : TypeKey) :
    t.bare = ⟨t.kind, t.name, t.scope, t.args.map bare, t.wrapper, []⟩ := by
  obtain ⟨kind, name, scope, args, wrapper, methods⟩ := t
  rw [bare, bareAll_eq_map]

@[simp]
theorem kind_bare (t : TypeKey) : t.bare.kind = t.kind := by rw [bare_eq]

@[simp]
theorem name_bare (t : TypeKey) : t.bare.name = t.name := by rw [bare_eq]

/-- The arguments have their methods taken away too. -/
@[simp]
theorem args_bare (t : TypeKey) : t.bare.args = t.args.map bare := by rw [bare_eq]

/-- Without methods no key is runnable. -/
@[simp]
theorem isRunnable_bare (method : String) (t : TypeKey) : t.bare.isRunnable method = false := by
  rw [bare_eq]
  rfl

/-! ## Lists of keys -/

/-- Lists are equal key by key exactly if they are the same without methods. -/
theorem map_bare_eq_iff {ts us : List TypeKey} :
    ts.map bare = us.map bare ↔ List.Forall₂ (fun t u => (t == u) = true) ts us := by
  rw [← List.forall₂_eq_eq_eq, List.forall₂_map_left_iff, List.forall₂_map_right_iff]
  simp only [beq_iff_bare_eq]

/-- Membership does not depend on methods. -/
@[simp]
theorem contains_map_bare (ts : List TypeKey) (t : TypeKey) :
    (ts.map bare).contains t.bare = ts.contains t := by
  induction ts with
  | nil => rfl
  | cons u ts ih => rw [List.map_cons, List.contains_cons, List.contains_cons, ih, bare_beq_bare]

/-- Neither does which keys are repeated. -/
theorem distinct_map_bare (ts : List TypeKey) :
    distinct (ts.map bare) = (distinct ts).map bare := by
  -- The keys that are kept so far correspond all along.
  have hfold : ∀ seen : List TypeKey,
      (ts.map bare).foldl (fun seen t => if seen.contains t then seen else seen ++ [t])
          (seen.map bare) =
        (ts.foldl (fun seen t => if seen.contains t then seen else seen ++ [t]) seen).map bare := by
    induction ts with
    | nil => exact fun _ => rfl
    | cons t ts ih =>
      intro seen
      rw [List.map_cons, List.foldl_cons, List.foldl_cons, contains_map_bare]
      split
      · exact ih seen
      · rw [← ih (seen ++ [t]), List.map_append]
        rfl
  exact hfold []

/-! ## Printed forms -/

mutual

/-- The printed form shows no methods. -/
theorem text_bare : ∀ t : TypeKey, t.bare.text = t.text
  | ⟨.named, name, scope, args, wrapper, _⟩ => by rw [bare, text, text]
  | ⟨.other, name, scope, args, wrapper, _⟩ => by rw [bare, text, text]
  | ⟨.map, name, scope, args, wrapper, _⟩ => by rw [bare, text, text, textsUpTo_bareAll 2 args]
  | ⟨.element, name, scope, args, wrapper, _⟩ => by rw [bare, text, text, textsUpTo_bareAll 1 args]
  | ⟨.struct, name, scope, args, wrapper, _⟩ => by
    rw [bare, text, text, textsUpTo_bareAll, bareAll_eq_map, List.length_map]

/-- Neither do the printed forms of a list. -/
theorem textsUpTo_bareAll : ∀ (n : Nat) (ts : List TypeKey),
    textsUpTo n (bareAll ts) = textsUpTo n ts
  | 0, _ => by rw [textsUpTo, textsUpTo]
  | _ + 1, [] => rfl
  | n + 1, t :: ts => by rw [bareAll, textsUpTo, textsUpTo, text_bare t, textsUpTo_bareAll n ts]

end

/-- Printed forms with commas between them show no methods. -/
theorem textList_map_bare (ts : List TypeKey) : textList (ts.map bare) = textList ts := by
  have htext : text ∘ bare = text := funext text_bare
  rw [textList, List.mapM_map, htext]
  rfl

/-! ## Accessors -/

/-- An argument of a key without methods is that of the key without methods. -/
theorem arg_bare (t : TypeKey) (i : Nat) : t.bare.arg i = bare <$> t.arg i := by
  unfold arg
  rw [args_bare, List.getElem?_map]
  cases t.args[i]? with
  | none => rfl
  | some a => rfl

/-- So is an argument that only keys of one kind are asked for. -/
theorem argOf_bare (t : TypeKey) (kind : Kind) (i : Nat) :
    (if t.bare.kind = kind then some <$> t.bare.arg i else .ok none) =
      Option.map bare <$> (if t.kind = kind then some <$> t.arg i else .ok none) := by
  rw [kind_bare, arg_bare]
  split
  · cases t.arg i with
    | error e => rfl
    | ok a => rfl
  · rfl

theorem key?_bare (t : TypeKey) : t.bare.key? = Option.map bare <$> t.key? :=
  argOf_bare t .map 0

theorem value?_bare (t : TypeKey) : t.bare.value? = Option.map bare <$> t.value? :=
  argOf_bare t .map 1

theorem elem?_bare (t : TypeKey) : t.bare.elem? = Option.map bare <$> t.elem? :=
  argOf_bare t .element 0

/-- The fields of a record have their methods taken away too. -/
theorem fields_bare (t : TypeKey) : t.bare.fields = t.fields.map bare := by
  unfold fields
  rw [kind_bare, args_bare]
  split
  · rfl
  · rfl

end TypeKey

/-! ## Maps and indices -/

namespace OrderedMap

variable {α β γ : Type} {f : α → α}

/-- The map with its keys and values changed. -/
def onEntries (f : α → α) (g : β → γ) (m : OrderedMap α β) : OrderedMap α γ :=
  ⟨m.entries.map fun e => (f e.1, g e.2)⟩

/-- The keys are changed. -/
theorem keys_onEntries (f : α → α) (g : β → γ) (m : OrderedMap α β) :
    (m.onEntries f g).keys = m.keys.map f := by
  unfold onEntries keys
  rw [List.map_map, List.map_map]
  rfl

variable [BEq α]

/-- If the change of keys is not noticed by comparing them, what is found is changed. -/
theorem find?_onEntries (hf : ∀ a b, (f a == f b) = (a == b)) (g : β → γ)
    (m : OrderedMap α β) (k : α) : (m.onEntries f g).find? (f k) = (m.find? k).map g := by
  obtain ⟨entries⟩ := m
  unfold onEntries find?
  induction entries with
  | nil => rfl
  | cons e entries ih =>
    rw [List.map_cons, lookup, lookup, hf]
    split
    · rfl
    · exact ih

/-- Then an update of a changed map is the change of one that does the same to values. -/
theorem alter_onEntries (hf : ∀ a b, (f a == f b) = (a == b)) (g : β → γ)
    (m : OrderedMap α β) (k : α) (update : Option β → β) (update' : Option γ → γ)
    (hupdate : ∀ v, update' (v.map g) = g (update v)) :
    (m.onEntries f g).alter (f k) update' = (m.alter k update).onEntries f g := by
  obtain ⟨entries⟩ := m
  unfold onEntries alter
  congr 1
  induction entries with
  | nil =>
    have hnone := hupdate none
    rw [Option.map_none] at hnone
    simp [alterEntries, hnone]
  | cons e entries ih =>
    have hsome := hupdate (some e.2)
    rw [Option.map_some] at hsome
    dsimp only at ih
    rw [List.map_cons, alterEntries, alterEntries, hf]
    split
    · rw [hsome]
      rfl
    · rw [ih]
      rfl

end OrderedMap

namespace TypeIndex

variable {ν : Type}

/-- The index whose types have no methods. -/
def bare (index : TypeIndex ν) : TypeIndex ν := ⟨index.table.onEntries TypeKey.bare id⟩

/-- The nodes of a type do not depend on methods. -/
@[simp]
theorem nodes_bare (index : TypeIndex ν) (t : TypeKey) :
    index.bare.nodes t.bare = index.nodes t := by
  unfold nodes bare
  rw [OrderedMap.find?_onEntries TypeKey.bare_beq_bare, Option.map_id]
  rfl

/-- The types are those of the index without methods. -/
@[simp]
theorem types_bare (index : TypeIndex ν) : index.bare.types = index.types.map TypeKey.bare :=
  OrderedMap.keys_onEntries _ _ _

/-- Adding a node for types does not depend on methods. -/
theorem addAll_bare [DecidableEq ν] (index : TypeIndex ν) (ts : List TypeKey) (n : ν) :
    index.bare.addAll (ts.map TypeKey.bare) n = (index.addAll ts n).bare := by
  induction ts generalizing index with
  | nil => rfl
  | cons t ts ih =>
    have hadd : index.bare.add t.bare n = (index.add t n).bare := by
      unfold add bare
      rw [OrderedMap.alter_onEntries TypeKey.bare_beq_bare id _ _
        fun ns => addOnce n (ns.getD [])]
      intro v
      rw [Option.map_id]
      rfl
    have hstep : (index.addAll (t :: ts) n) = (index.add t n).addAll ts n := rfl
    rw [hstep, ← ih, ← hadd]
    rfl

end TypeIndex

end Wiring
