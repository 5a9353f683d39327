import Wiring.Text.Quoted

/-!
# The identity of a type

A `TypeKey` stands for a type of the program whose values are to be wired together. Two keys are
equal, `==`, when kind, name, scope, arguments and wrapper agree at every depth; the method sets
that a key carries never count. `beq_iff_bare_eq` states this as equality of the keys stripped of
all methods, which makes `==` an equivalence.

A key made by `named`, `basic`, `map`, `element` or `struct` is `WellFormed`; `mk` can build others,
and then an accessor or the printed form may ask for an argument that is not there.

The structures are the classes `TypeKind`, `MethodSignature` and `TypeKey` with their accessors; the
`Option` of an accessor is there for the kinds that have no such part. Runnable types are those of
`is_runnable_type` and `detect_root_type`.
-/

namespace Wiring

/-- What a key says about its type beyond its name: `TypeKind`. -/
inductive Kind where
  /-- A declared type with a name of its own. -/
  | named
  /-- A mapping from a key type to a value type. -/
  | map
  /-- A wrapper around one element type. -/
  | element
  /-- A record of field types without a name. -/
  | struct
  /-- Anything else; its name is its spelling. -/
  | other
deriving DecidableEq, Repr, Inhabited

namespace Kind

/-- The kind of the given name. -/
def ofName? : String → Option Kind
  | "named" => some .named
  | "map" => some .map
  | "element" => some .element
  | "struct" => some .struct
  | "other" => some .other
  | _ => none

/-- The wording for a name that is no kind's. -/
def unknownMessage (name : String) : String := Text.quoted name ++ " is not a valid TypeKind"

end Kind

/-- The shape of a method: its name and how many parameters and results it has. -/
structure MethodSignature where
  /-- The method's name. -/
  name : String
  /-- The number of parameters, the receiver left out. -/
  params : Int := 0
  /-- The number of results. -/
  results : Int := 0
deriving DecidableEq, Repr, Inhabited

/-- A method that takes nothing and returns nothing: `is_nullary`. -/
def MethodSignature.isNullary (m : MethodSignature) : Bool := m.params == 0 && m.results == 0

/-- The identity of a type, together with the methods known of it. -/
structure TypeKey where
  /-- The kind of type. -/
  kind : Kind
  /-- The declared name, or the spelling of a type of kind `other`. -/
  name : String := ""
  /-- The dotted path of the module and classes that declare the type. -/
  scope : String := ""
  /-- The types it is built from. -/
  args : List TypeKey := []
  /-- The name of the wrapper, for a type of kind `element`. -/
  wrapper : String := ""
  /-- The methods known of the type. -/
  methods : List MethodSignature := []
deriving Repr

namespace TypeKey

/-- The key of a declared type. -/
def named (name : String) (scope : String := "") (methods : List MethodSignature := []) :
    TypeKey :=
  { kind := .named, name, scope, methods }

/-- The key of a type known only by its spelling. -/
def basic (name : String) : TypeKey := { kind := .other, name }

/-- The key of a mapping from `key` to `value`: `map_of`. -/
def map (key value : TypeKey) : TypeKey := { kind := .map, args := [key, value] }

/-- The key of a wrapper around `elem`: `element_of`. -/
def element (wrapper : String) (elem : TypeKey) : TypeKey :=
  { kind := .element, args := [elem], wrapper }

/-- The key of a record with the given fields: `struct_of`. -/
def struct (fields : List TypeKey) : TypeKey := { kind := .struct, args := fields }

/-- The type of the error channel of a provider: `ERROR_TYPE`. -/
def error : TypeKey := named "Exception" "builtins"

instance : Inhabited TypeKey := ⟨basic ""⟩

/-! ### Equality -/

mutual

/-- The key without methods at any depth. -/
def bare : TypeKey → TypeKey
  | ⟨kind, name, scope, args, wrapper, _⟩ => ⟨kind, name, scope, bareAll args, wrapper, []⟩

/-- The keys of a list without methods at any depth. -/
def bareAll : List TypeKey → List TypeKey
  | [] => []
  | t :: ts => bare t :: bareAll ts

end

mutual

/-- Whether two keys agree in everything but methods: `__eq__`. -/
def same : TypeKey → TypeKey → Bool
  | ⟨kind, name, scope, args, wrapper, _⟩, ⟨kind', name', scope', args', wrapper', _⟩ =>
    kind == kind' && name == name' && scope == scope' && sameAll args args' &&
      wrapper == wrapper'

/-- Whether two lists of keys agree entry by entry in everything but methods. -/
def sameAll : List TypeKey → List TypeKey → Bool
  | [], [] => true
  | t :: ts, u :: us => same t u && sameAll ts us
  | _, _ => false

end

instance : BEq TypeKey := ⟨same⟩

theorem bareAll_eq_map (ts : List TypeKey) : bareAll ts = ts.map bare := by
  induction ts with
  | nil => rfl
  | cons t ts ih => simp [bareAll, ih]

mutual

theorem same_iff_bare_eq : ∀ a b : TypeKey, same a b = true ↔ a.bare = b.bare
  | ⟨kind, name, scope, args, wrapper, _⟩, ⟨kind', name', scope', args', wrapper', _⟩ => by
    simp only [same, bare, Bool.and_eq_true, beq_iff_eq, mk.injEq,
      sameAll_iff_bareAll_eq args args', and_true]
    exact ⟨fun ⟨⟨⟨⟨h₁, h₂⟩, h₃⟩, h₄⟩, h₅⟩ => ⟨h₁, h₂, h₃, h₄, h₅⟩,
      fun ⟨h₁, h₂, h₃, h₄, h₅⟩ => ⟨⟨⟨⟨h₁, h₂⟩, h₃⟩, h₄⟩, h₅⟩⟩

theorem sameAll_iff_bareAll_eq :
    ∀ as bs : List TypeKey, sameAll as bs = true ↔ bareAll as = bareAll bs
  | [], [] => by simp [sameAll]
  | [], _ :: _ => by simp [sameAll, bareAll]
  | _ :: _, [] => by simp [sameAll, bareAll]
  | a :: as, b :: bs => by
    simp [sameAll, bareAll, same_iff_bare_eq a b, sameAll_iff_bareAll_eq as bs]

end

/-- Keys are equal exactly when they are the same without their methods. -/
theorem beq_iff_bare_eq {a b : TypeKey} : (a == b) = true ↔ a.bare = b.bare :=
  same_iff_bare_eq a b

instance : EquivBEq TypeKey where
  rfl := beq_iff_bare_eq.2 rfl
  symm h := beq_iff_bare_eq.2 (beq_iff_bare_eq.1 h).symm
  trans h h' := beq_iff_bare_eq.2 ((beq_iff_bare_eq.1 h).trans (beq_iff_bare_eq.1 h'))

/-! ### Well-formed keys -/

mutual

/-- A key that has the arguments its kind asks for, at every depth, and methods only if it is
named. -/
def WellFormed : TypeKey → Prop
  | ⟨kind, _, _, args, _, methods⟩ =>
    (match kind with
      | .named | .other => args.length = 0
      | .map => args.length = 2
      | .element => args.length = 1
      | .struct => True) ∧
    (kind ≠ .named → methods = []) ∧ AllWellFormed args

/-- Every key of the list is well-formed. -/
def AllWellFormed : List TypeKey → Prop
  | [] => True
  | t :: ts => WellFormed t ∧ AllWellFormed ts

end

/-! ### Accessors and printed form -/

/-- An argument was asked for that the key does not have. -/
inductive MissingArgument where
  /-- The key has too few arguments for its kind. -/
  | outOfRange
deriving DecidableEq, Repr

/-- The wording of a missing argument. -/
def MissingArgument.message : MissingArgument → String
  | .outOfRange => "tuple index out of range"

/-- The argument at position `i`. -/
def arg (t : TypeKey) (i : Nat) : Except MissingArgument TypeKey :=
  match t.args[i]? with
  | some a => .ok a
  | none => .error .outOfRange

/-- The key type of a mapping, and nothing for any other kind. -/
def key? (t : TypeKey) : Except MissingArgument (Option TypeKey) :=
  if t.kind = .map then some <$> t.arg 0 else .ok none

/-- The value type of a mapping, and nothing for any other kind. -/
def value? (t : TypeKey) : Except MissingArgument (Option TypeKey) :=
  if t.kind = .map then some <$> t.arg 1 else .ok none

/-- The element type of a wrapper, and nothing for any other kind. -/
def elem? (t : TypeKey) : Except MissingArgument (Option TypeKey) :=
  if t.kind = .element then some <$> t.arg 0 else .ok none

/-- The field types of a record; no other kind has fields. -/
def fields (t : TypeKey) : List TypeKey := if t.kind = .struct then t.args else []

mutual

/-- The printed form: a dotted name, `dict[key, value]`, `wrapper[element]`, `tuple[fields]` or the
spelling. Arguments beyond those its kind asks for are not shown. This is `__str__`. -/
def text : TypeKey → Except MissingArgument String
  | ⟨.named, name, scope, _, _, _⟩ => .ok (if scope = "" then name else scope ++ "." ++ name)
  | ⟨.map, _, _, args, _, _⟩ => do
    match ← textsUpTo 2 args with
    | [key, value] => return "dict[" ++ key ++ ", " ++ value ++ "]"
    | _ => throw .outOfRange
  | ⟨.element, _, _, args, wrapper, _⟩ => do
    match ← textsUpTo 1 args with
    | [elem] => return wrapper ++ "[" ++ elem ++ "]"
    | _ => throw .outOfRange
  | ⟨.struct, _, _, args, _, _⟩ => do
    return "tuple[" ++ ", ".intercalate (← textsUpTo args.length args) ++ "]"
  | ⟨.other, name, _, _, _, _⟩ => .ok name

/-- The printed forms of the first `n` keys of a list. -/
def textsUpTo : Nat → List TypeKey → Except MissingArgument (List String)
  | 0, _ => .ok []
  | _, [] => .ok []
  | n + 1, t :: ts => do return (← text t) :: (← textsUpTo n ts)

end

/-- The printed forms of the keys of a list, separated by commas. -/
def textList (ts : List TypeKey) : Except MissingArgument String :=
  ", ".intercalate <$> ts.mapM text

/-! ### Runnable types -/

/-- A type is runnable for `method` if it has a nullary method of that name: `is_runnable_type`. -/
def isRunnable (method : String) (t : TypeKey) : Bool :=
  t.methods.any fun m => m.name == method && m.isNullary

/-- The members of a list without repetition, each in the form in which it first occurs. -/
def distinct (ts : List TypeKey) : List TypeKey :=
  ts.foldl (fun seen t => if seen.contains t then seen else seen ++ [t]) []

/-- The distinct runnable types of a list, in order of first occurrence. These are the candidates of
`detect_root_type`. -/
def runnables (method : String) (ts : List TypeKey) : List TypeKey :=
  distinct (ts.filter (isRunnable method))

end TypeKey

end Wiring
