import Wiring.OrderedMap
import Wiring.TypeKey.Basic

/-!
# Method sets

The methods of a class are those of its own body, followed by those of its bases that have other
names, depth first and from left to right. `Hierarchy.methodSets` computes them once for each class;
a class that is met among its own bases contributes nothing there.

This is the recursion `method_set` in `_method_sets` with its memory and its set of classes in
progress.
-/

namespace Wiring

/-- A class: its scope and its name. -/
abbrev ClassId : Type := String × String

/-- What a class declares. -/
structure ClassBody where
  /-- The methods of its own body. -/
  methods : List MethodSignature
  /-- Its bases. -/
  bases : List ClassId
deriving Repr

/-- The classes that are known, each with what it declares. -/
abbrev Hierarchy : Type := OrderedMap ClassId ClassBody

/-- The methods that are known of classes. -/
abbrev MethodSets : Type := OrderedMap ClassId (List MethodSignature)

/-- Adds methods whose names are new. -/
def addMethods (methods inherited : List MethodSignature) : List MethodSignature :=
  inherited.foldl (fun ms m => if ms.any (·.name == m.name) then ms else ms ++ [m]) methods

namespace Hierarchy

/-- The methods of a class, which become known. The classes whose bases are being visited contribute
nothing; at most the given number of classes is visited one within another. This is `method_set`
within `_method_sets`. -/
def visit (h : Hierarchy) : Nat → List ClassId → ClassId → StateM MethodSets (List MethodSignature)
  | 0, _, _ => return []
  | depth + 1, visiting, id => do
    match (← get).find? id with
    | some methods => return methods
    | none =>
      match h.find? id with
      | none => return []
      | some body =>
        if visiting.contains id then return []
        let methods ← body.bases.foldlM (fun methods base => do
          return addMethods methods (← visit h depth (id :: visiting) base)) body.methods
        modify (·.insert id methods)
        return methods

/-- The methods of every class. Within a class that is being visited, no more classes are visited
than there are. This is `_method_sets`. -/
def methodSets (h : Hierarchy) : MethodSets :=
  (h.keys.forM fun id => do let _ ← visit h (h.size + 1) [] id).run .empty |>.2

end Hierarchy

end Wiring
