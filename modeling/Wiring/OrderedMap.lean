/-!
# Maps in insertion order

A map is the list of its entries in the order in which their keys were first seen. Keys are
compared by `==`, which may identify distinct keys; the key shown is then the first one seen.
`find?_alter` says what an update does to every look-up and `keys_alter` what it does to the keys.
-/

namespace Wiring

/-- A map whose entries stand in the order in which their keys were first inserted. -/
structure OrderedMap (α β : Type) where
  /-- The entries, oldest key first. -/
  entries : List (α × β) := []
deriving Repr

namespace OrderedMap

variable {α β : Type} [BEq α]

/-- The map without entries. -/
def empty : OrderedMap α β := {}

instance : EmptyCollection (OrderedMap α β) := ⟨empty⟩
instance : Inhabited (OrderedMap α β) := ⟨empty⟩

/-- The value of the first entry whose key is `k`. -/
def lookup (k : α) : List (α × β) → Option β
  | [] => none
  | (k', v) :: rest => if k' == k then some v else lookup k rest

/-- Replaces the value at `k` by `f` of it and keeps the key that stands there; a key that is not
there yet is added at the end with `f none`. -/
def alterEntries (k : α) (f : Option β → β) : List (α × β) → List (α × β)
  | [] => [(k, f none)]
  | (k', v) :: rest =>
    if k' == k then (k', f (some v)) :: rest else (k', v) :: alterEntries k f rest

/-- The value at `k`, if there is one. -/
def find? (m : OrderedMap α β) (k : α) : Option β := lookup k m.entries

/-- Whether some key is `k`. -/
def contains (m : OrderedMap α β) (k : α) : Bool := (m.find? k).isSome

/-- Updates the value at `k`, adding the key at the end if it is new. -/
def alter (m : OrderedMap α β) (k : α) (f : Option β → β) : OrderedMap α β :=
  ⟨alterEntries k f m.entries⟩

/-- Sets the value at `k`; the key keeps its place and its first-seen form. -/
def insert (m : OrderedMap α β) (k : α) (v : β) : OrderedMap α β := m.alter k fun _ => v

/-- The keys, oldest first. -/
def keys (m : OrderedMap α β) : List α := m.entries.map (·.1)

/-- The number of keys. -/
def size (m : OrderedMap α β) : Nat := m.entries.length

/-- The map that arises by inserting the pairs of a list one after the other. -/
def ofList (l : List (α × β)) : OrderedMap α β :=
  l.foldl (fun (m : OrderedMap α β) (e : α × β) => m.insert e.1 e.2) empty

theorem lookup_alterEntries [EquivBEq α] (k k' : α) (f : Option β → β) (l : List (α × β)) :
    lookup k' (alterEntries k f l) = if k == k' then some (f (lookup k l)) else lookup k' l := by
  induction l with
  | nil => rfl
  | cons e l ih =>
    obtain ⟨a, v⟩ := e
    by_cases hak : (a == k) = true
    · by_cases hkk : (k == k') = true
      · simp [alterEntries, lookup, hak, hkk, BEq.trans hak hkk]
      · have : ¬ (a == k') = true := fun h => hkk (BEq.trans (BEq.symm hak) h)
        simp [alterEntries, lookup, hak, hkk, this]
    · by_cases hkk : (k == k') = true
      · have : ¬ (a == k') = true := fun h => hak (BEq.trans h (BEq.symm hkk))
        simp [alterEntries, lookup, hak, hkk, this, ih]
      · simp [alterEntries, lookup, hak, hkk, ih]

/-- An update changes the value at its own key and at no other. -/
theorem find?_alter [EquivBEq α] (m : OrderedMap α β) (k k' : α) (f : Option β → β) :
    (m.alter k f).find? k' = if k == k' then some (f (m.find? k)) else m.find? k' :=
  lookup_alterEntries k k' f m.entries

/-- An insertion sets the value at its own key and leaves all others. -/
theorem find?_insert [EquivBEq α] (m : OrderedMap α β) (k k' : α) (v : β) :
    (m.insert k v).find? k' = if k == k' then some v else m.find? k' :=
  find?_alter m k k' fun _ => v

theorem map_fst_alterEntries (k : α) (f : Option β → β) (l : List (α × β)) :
    (alterEntries k f l).map (·.1) =
      if (lookup k l).isSome then l.map (·.1) else l.map (·.1) ++ [k] := by
  induction l with
  | nil => rfl
  | cons e l ih =>
    obtain ⟨a, v⟩ := e
    by_cases h : (a == k) = true
    · simp [alterEntries, lookup, h]
    · by_cases hl : (lookup k l).isSome = true
      · simp [alterEntries, lookup, h, ih, hl]
      · simp [alterEntries, lookup, h, ih, hl]

/-- An update adds its key at the end if it is new and otherwise leaves the keys as they are. -/
theorem keys_alter (m : OrderedMap α β) (k : α) (f : Option β → β) :
    (m.alter k f).keys = if m.contains k then m.keys else m.keys ++ [k] :=
  map_fst_alterEntries k f m.entries

end OrderedMap

end Wiring
