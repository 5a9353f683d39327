import Wiring.Proofs.Source.Expression

/-!
# Names in statements

The names of the functions and classes that a text declares are words of the text
(`Statement.ensures_all`), so each of them is an identifier (`Stmt.isIdentifier_of_mem`). As for
literals, the rules of the grammar are followed one by one, each under the assumption that the rule
for nested statements does the same.
-/

namespace Wiring.Source

open Wiring.Text (isIdentifier)

namespace Stmt

mutual

/-- The names of the functions and classes in a statement. -/
def declaredNames : Stmt → List String
  | function head body => head.name :: declaredNamesOf body
  | classDef name _ body => name :: declaredNamesOf body
  | compound body => declaredNamesOf body
  | importModules _ | importFrom .. | simple => []

/-- The names of the functions and classes in the statements of a list. -/
def declaredNamesOf : List Stmt → List String
  | [] => []
  | s :: ss => declaredNames s ++ declaredNamesOf ss

end

/-- The names in a list of statements are those in its members. -/
theorem declaredNamesOf_eq_flatMap (ss : List Stmt) :
    declaredNamesOf ss = ss.flatMap declaredNames := by
  induction ss with
  | nil => rw [declaredNamesOf, List.flatMap_nil]
  | cons s ss ih => rw [declaredNamesOf, ih, List.flatMap_cons]

/-- The names in the statement are words with a property. -/
def Names (P : Token → Prop) (s : Stmt) : Prop := ∀ n ∈ s.declaredNames, Rule.WordOf P n

variable {P : Token → Prop} {ss body : List Stmt} {name : String}

/-- The names in the statements of a list are words if those in each of them are. -/
theorem wordOf_of_mem_declaredNamesOf (h : ∀ s ∈ ss, s.Names P) :
    ∀ n ∈ declaredNamesOf ss, Rule.WordOf P n := by
  intro n hn
  rw [declaredNamesOf_eq_flatMap] at hn
  obtain ⟨s, hs, hn⟩ := List.mem_flatMap.mp hn
  exact h s hs n hn

/-- Without names there is nothing to show. -/
theorem names_of_declaredNames_eq_nil {s : Stmt} (h : s.declaredNames = []) : s.Names P := by
  intro n hn
  rw [h] at hn
  cases hn

/-- The names of a class are its own and those in its body. -/
theorem names_classDef (bases : List Expr) (hname : Rule.WordOf P name)
    (hbody : ∀ s ∈ body, s.Names P) : (classDef name bases body).Names P := by
  intro n hn
  rw [declaredNames] at hn
  rcases List.mem_cons.mp hn with rfl | hn
  · exact hname
  · exact wordOf_of_mem_declaredNamesOf hbody n hn

/-- So are those of a function. -/
theorem names_function {head : FunctionHead} (hname : Rule.WordOf P head.name)
    (hbody : ∀ s ∈ body, s.Names P) : (function head body).Names P := by
  intro n hn
  rw [declaredNames] at hn
  rcases List.mem_cons.mp hn with rfl | hn
  · exact hname
  · exact wordOf_of_mem_declaredNamesOf hbody n hn

/-- Any other statement has only those in its body. -/
theorem names_compound (hbody : ∀ s ∈ body, s.Names P) : (compound body).Names P := by
  intro n hn
  rw [declaredNames] at hn
  exact wordOf_of_mem_declaredNamesOf hbody n hn

end Stmt

open Rule Nested Stmt

variable {P : Token → Prop}

/-! ## Patterns -/

namespace Pattern

variable {self : Rule Unit}

/-- A signed number is passed over. -/
theorem passes_number : Passes P number := by
  refine (passes_symbol _).optionally.then ((ensures_kind _).passes.then ?_)
  exact ((passes_oneOf _).seqRight (ensures_kind _)).optionally

/-- So is a dotted name. -/
theorem passes_path : Passes P path := (passes_name.sepBy1 ".").passes.then (ensures_pure trivial)

/-- So are literals and constants. -/
theorem passes_literals : Passes P (do let _ ← literals Nested.all) :=
  (ensures_literals ensures_all).passes.then (ensures_pure trivial)

/-- So is a single token. -/
theorem passes_single (accept : Token → Bool) : Passes P (do let _ ← token accept) :=
  (ensures_token _).passes.then (ensures_pure trivial)

section

variable (hself : Passes P self)

include hself

/-- So is an item of a sequence, if nested patterns are. -/
theorem passes_item : Passes P (item self) :=
  (((passes_symbol _).seqRight passes_name).passes.then (ensures_pure trivial)).orElse
    (hself.then (ensures_pure trivial))

/-- So is an entry of a pattern for maps. -/
theorem passes_entry : Passes P (entry self) := by
  refine Ensures.orElse ?_ (Ensures.then ?_ ((passes_symbol _).then hself))
  · exact ((passes_symbol _).seqRight passes_name).passes.then (ensures_pure trivial)
  · exact passes_number.orElse (passes_literals.orElse ((passes_single _).orElse passes_path))

/-- So is an argument of a pattern for objects. -/
theorem passes_argument : Passes P (argument self) :=
  ((passes_name.seqRight (passes_symbol _)).then (hself.then (ensures_pure trivial))).orElse
    (hself.then (ensures_pure trivial))

/-- So is a pattern in parentheses. -/
theorem passes_group : Passes P (group self) := by
  refine Ensures.between (Ensures.orElse ?_ (ensures_pure trivial)) _ _
  exact (passes_item hself).commas1.bind fun _ _ => passes_guard _

/-- So is a pattern that no bar divides. -/
theorem passes_closed : Passes P (closed self) := by
  refine passes_number.orElse (passes_literals.orElse ((passes_single _).orElse
    (Ensures.orElse ?_ ((passes_group hself).orElse (Ensures.orElse ?_ ?_)))))
  · refine passes_path.then (Ensures.optionally (Q := fun _ => True) ?_)
    exact Ensures.between ((passes_argument hself).commas.bind fun _ _ => passes_guard _) _ _
  · exact ((passes_item hself).commas.between _ _).passes.then (ensures_pure trivial)
  · exact ((passes_entry hself).commas.between _ _).passes.then (ensures_pure trivial)

/-- So is a pattern of any kind. -/
theorem passes_rule : Passes P (Pattern.rule self) :=
  ((passes_closed hself).sepBy1 "|").passes.then
    ((passes_word _).seqRight passes_name).optionally

end

/-- However deep patterns are nested, they are passed over. -/
theorem passes_upTo (depth : Nat) : Passes P (Pattern.upTo depth) := by
  induction depth with
  | zero => exact ensures_failure
  | succ depth ih => exact passes_rule ih

/-- So are items of a sequence without brackets. -/
theorem passes_patterns : Passes P patterns := by
  have hpattern : Passes P pattern := fun ts => passes_upTo (ts.length + 1) ts
  exact (passes_item hpattern).commas1.bind fun _ _ => passes_guard _

end Pattern

namespace Statement

/-- The names in all statements that are read are words that are read. -/
abbrev Declares (P : Token → Prop) (ss : List Stmt) : Prop := ∀ s ∈ ss, s.Names P

/-- Statements one after the other have the names of each. -/
theorem Declares.append {ss ss' : List Stmt} (h : Declares P ss) (h' : Declares P ss') :
    Declares P (ss ++ ss') := by
  intro s hs
  rcases List.mem_append.mp hs with hs | hs
  · exact h s hs
  · exact h' s hs

/-- So have any number of lists of them. -/
theorem Declares.flatten {sss : List (List Stmt)} (h : ∀ ss ∈ sss, Declares P ss) :
    Declares P sss.flatten := by
  intro s hs
  obtain ⟨ss, hss, hs⟩ := List.mem_flatten.mp hs
  exact h ss hss s hs

/-- No statements have no names. -/
theorem declares_nil : Declares P [] := by
  rintro _ ⟨⟩

/-! ## Simple statements -/

/-- A dotted name is passed over. -/
theorem passes_path : Passes P path := (passes_name.sepBy1 ".").map fun _ _ => trivial

/-- So is an imported name. -/
theorem passes_importedName {p : Rule String} (hp : Passes P p) : Passes P (importedName p) :=
  hp.bind fun _ _ => ((passes_word _).seqRight passes_name).optional.bind fun _ _ =>
    ensures_pure trivial

/-- So are the dots before a path. -/
theorem passes_dots : Passes P dots :=
  (passes_oneOf _).many.bind fun _ _ => ensures_pure trivial

/-- An import declares no functions and classes. -/
theorem ensures_importing : Ensures P (Names P) importing := by
  have hnames : ∀ dots path names, (Stmt.importFrom dots path names).Names P :=
    fun _ _ _ => names_of_declaredNames_eq_nil rfl
  refine Ensures.orElse ?_ ?_
  · exact (passes_word _).then (((passes_importedName passes_path).sepBy1 ",").bind fun _ _ =>
      ensures_pure (names_of_declaredNames_eq_nil rfl))
  · refine ((passes_word _).seqRight passes_dots).bind fun dots _ => ?_
    have hpath : Passes P (path <|> (do guard (dots != 0); return "")) :=
      passes_path.orElse ((passes_guard _).then (ensures_pure trivial))
    refine hpath.bind fun _ _ => (passes_word _).then ?_
    refine Ensures.orElse ?_ (Ensures.orElse ?_ ?_)
    · exact (passes_symbol _).then (ensures_pure (hnames _ _ _))
    · exact ((passes_importedName passes_name).commas1.between _ _).bind fun _ _ =>
        ensures_pure (hnames _ _ _)
    · exact ((passes_importedName passes_name).sepBy1 ",").bind fun _ _ =>
        ensures_pure (hnames _ _ _)

/-- An expression is passed over. -/
theorem passes_all (level : Level) : Passes P (Nested.all level) := (ensures_all level).passes

/-- So is what is assigned. -/
theorem passes_assigned : Passes P (assigned Nested.all) := (ensures_assigned ensures_all).passes

/-- So is an expression whose value may get a name. -/
theorem passes_named : Passes P (named Nested.all) := (ensures_named ensures_all).passes

/-- So are an assignment and an expression that is a statement. -/
theorem passes_expressions : Passes P Statement.expressions := by
  refine passes_assigned.bind fun _ _ => Ensures.orElse ?_ (Ensures.orElse ?_ ?_)
  · exact (passes_oneOf _).then ((passes_guard _).then
      (passes_assigned.then (ensures_pure trivial)))
  · refine (passes_guard _).then (((passes_symbol _).seqRight (passes_all _)).then ?_)
    exact ((passes_symbol _).seqRight passes_assigned).optionally
  · exact ((passes_symbol _).seqRight passes_assigned).many.bind fun _ _ => passes_guard _

/-- So is a parameter that stands for a type. -/
theorem passes_typeParameter : Passes P typeParameter := by
  refine Ensures.then (Ensures.orElse ?_ ?_) (Ensures.optionally (Q := fun _ => True) ?_)
  · exact ((passes_oneOf _).seqRight passes_name).then (ensures_pure trivial)
  · exact passes_name.then ((passes_symbol _).seqRight (passes_all _)).optionally
  · exact (passes_symbol _).seqRight
      ((ensures_starred (ensures_all _)).passes.orElse (passes_all _))

/-- So are such parameters. -/
theorem passes_typeParameters : Passes P typeParameters :=
  (passes_typeParameter.commas1.between _ _).bind fun _ _ => ensures_pure trivial

/-- So is the declaration of a name for a type. -/
theorem passes_typeAlias : Passes P (typeAlias typeParameters) :=
  ((passes_word _).seqRight passes_name).then (passes_typeParameters.optionally.then
    (((passes_symbol _).seqRight (passes_all _)).then (ensures_pure trivial)))

/-- So is a statement that starts with a reserved word. -/
theorem passes_worded : Passes P worded := by
  refine Ensures.orElse ?_ (Ensures.orElse ?_ (Ensures.orElse ?_ (Ensures.orElse ?_
    (Ensures.orElse ?_ ?_))))
  · exact ((passes_word _).orElse ((passes_word _).orElse (passes_word _))).then
      (ensures_pure trivial)
  · exact (passes_word _).then (ensures_expressions ensures_all).optionally
  · refine (passes_word _).then (Ensures.optionally (Q := fun _ => True) ?_)
    exact (passes_all _).then ((passes_word _).seqRight (passes_all _)).optionally
  · exact (((passes_word _).orElse (passes_word _)).seqRight
      (passes_name.sepBy1 ",").passes).then (ensures_pure trivial)
  · exact ((passes_word _).seqRight (passes_all _).commas1).bind fun _ _ => passes_guard _
  · exact ((passes_word _).seqRight (passes_all _)).then
      ((passes_symbol _).seqRight (passes_all _)).optionally

/-- A simple statement declares no functions and classes. -/
theorem ensures_single : Ensures P (Names P) single := by
  refine ensures_importing.orElse (Ensures.then ?_ (ensures_pure ?_))
  · exact passes_worded.orElse (passes_typeAlias.orElse passes_expressions)
  · exact names_of_declaredNames_eq_nil rfl

/-- Neither does a line of them. -/
theorem ensures_line : Ensures P (Declares P) line :=
  ((ensures_single.sepBy1 ";").seqLeft (passes_symbol _).optionally).seqLeft
    (ensures_kind _).passes

/-! ## Compound statements -/

section

variable {self : Rule (List Stmt)} (hself : Ensures P (Declares P) self)

include hself

/-- The names in a block are those in its statements. -/
theorem ensures_block : Ensures P (Declares P) (block self) := by
  refine (passes_symbol _).then (Ensures.orElse ?_ ensures_line)
  refine Ensures.bind ?_ fun _ hss => ensures_pure (Declares.flatten hss)
  exact (((ensures_kind _).passes.seqRight (ensures_kind _).passes).seqRight hself.many1).seqLeft
    (ensures_kind _).passes

/-- So are those in a part of a statement. -/
theorem ensures_part {α : Type} (keyword : String) {head : Rule α} (hhead : Passes P head) :
    Ensures P (Declares P) (part self keyword head) :=
  ((passes_word _).seqRight hhead).seqRight (ensures_block hself)

omit hself in
/-- A part that is left out has no names. -/
theorem ensures_perhaps {p : Rule (List Stmt)} (hp : Ensures P (Declares P) p) :
    Ensures P (Declares P) (perhaps p) :=
  hp.orElse (ensures_pure declares_nil)

/-- The names in a conditional statement are those in its parts. -/
theorem ensures_conditional : Ensures P (Declares P) (conditional self) := by
  refine (ensures_part hself _ passes_named).bind fun first hfirst => ?_
  refine (ensures_part hself _ passes_named).many.bind fun others hothers => ?_
  refine (ensures_perhaps (ensures_part hself _ (ensures_pure trivial))).bind fun last hlast => ?_
  exact ensures_pure ((hfirst.append (.flatten hothers)).append hlast)

/-- So are those in a loop. -/
theorem ensures_loop : Ensures P (Declares P) (loop self) := by
  have htargets : Passes P
      (targets Nested.all *> word "in" *> Nested.expressions Nested.all) :=
    ((passes_targets ensures_all).seqRight (passes_word _)).seqRight
      (ensures_expressions ensures_all).passes
  have hbody : Ensures P (Declares P) (part self "while" (named Nested.all) <|> do
      optionally (word "async")
      part self "for" (targets Nested.all *> word "in" *> Nested.expressions Nested.all)) :=
    (ensures_part hself _ passes_named).orElse
      ((passes_word _).optionally.then (ensures_part hself _ htargets))
  refine hbody.bind fun body hbody => ?_
  refine (ensures_perhaps (ensures_part hself _ (ensures_pure trivial))).bind fun last hlast => ?_
  exact ensures_pure (hbody.append hlast)

omit hself in
/-- A resource is passed over. -/
theorem passes_resource : Passes P resource := by
  refine (passes_all _).then (Ensures.optionally (Q := fun _ => True) ?_)
  exact ((passes_word _).seqRight ((ensures_starred (ensures_all _)).passes.orElse
    (passes_all _))).bind fun _ _ => passes_guard _

/-- The names in a statement that holds resources are those in its block. -/
theorem ensures_holding : Ensures P (Declares P) (holding self) := by
  refine (passes_word _).optionally.then ((passes_word _).then (Ensures.then ?_
    (ensures_block hself)))
  refine Ensures.orElse ?_ ?_
  · exact (passes_resource.commas1.between _ _).bind fun _ _ =>
      (passes_sees _).bind fun _ _ => passes_guard _
  · exact (passes_resource.sepBy1 ",").bind fun _ _ => ensures_pure trivial

/-- So are those in a part that handles errors. -/
theorem ensures_handler (starred : Bool) : Ensures P (Declares P) (handler self starred) := by
  have hkinds : Passes P (do
      let _ ← Nested.all .expression
      optionally (word "as" *> name)) :=
    (passes_all _).then ((passes_word _).seqRight passes_name).optionally
  refine ensures_part hself _ ?_
  dsimp only
  split
  · exact (passes_symbol _).seqRight hkinds
  · exact hkinds.optionally

/-- The names in a statement that handles errors are those in its parts. -/
theorem ensures_guarded : Ensures P (Declares P) (guarded self) := by
  have hplain : ∀ keyword, Ensures P (Declares P) (part self keyword (pure ())) :=
    fun _ => ensures_part hself _ (ensures_pure trivial)
  refine (hplain _).bind fun body hbody => Ensures.orElse ?_ ?_
  · exact (hplain _).bind fun last hlast => ensures_pure (hbody.append hlast)
  · refine ((ensures_handler hself true).many1.orElse (ensures_handler hself false).many1).bind
      fun handlers hhandlers => ?_
    refine (ensures_perhaps (hplain _)).bind fun otherwise hotherwise => ?_
    refine (ensures_perhaps (hplain _)).bind fun last hlast => ensures_pure ?_
    exact ((hbody.append (.flatten hhandlers)).append hotherwise).append hlast

/-- So are those in a statement that distinguishes patterns. -/
theorem ensures_matching : Ensures P (Declares P) (matching self) := by
  have hitems : Passes P (commas (item Nested.all)) := (ensures_item ensures_all).commas.passes
  refine (passes_word _).then (Ensures.then (Ensures.orElse ?_ ?_) ?_)
  · exact ((((ensures_starred (ensures_all _)).passes.seqRight (passes_symbol _)).seqRight
      hitems)).then (ensures_pure trivial)
  · exact passes_named.then ((passes_symbol _).seqRight hitems).optionally
  refine (((passes_symbol _).seqRight (ensures_kind _).passes).seqRight
    (ensures_kind _).passes).then ?_
  refine Ensures.bind (Ensures.many1 (ensures_part hself _ ?_)) fun cases hcases => ?_
  · exact Pattern.passes_patterns.then ((passes_word _).seqRight passes_named).optionally
  · exact (ensures_kind _).passes.then (ensures_pure (.flatten hcases))

/-- The names in a function are its own, which is a word, and those in its body. -/
theorem ensures_function (decorators : List Expr) :
    Ensures P (Names P) (function self decorators) := by
  have hrest : ∀ start : Token, Ensures P (Names P) (do
      let name ← name
      optionally typeParameters
      let parameters ← between "(" ")" (parameters Nested.all true)
      let returns ← optional (symbol "->" *> Nested.all .expression)
      let head : FunctionHead :=
        { name, decorators, parameters := parameters.filterMap Parameter.type?, returns,
          place := start.place }
      return .function head (← block self)) := by
    intro start
    refine ensures_name.bind fun name hname => passes_typeParameters.optionally.then ?_
    refine ((passes_parameters ensures_all true).between _ _).bind fun parameters _ => ?_
    refine ((passes_symbol _).seqRight (passes_all _)).optional.bind fun returns _ => ?_
    exact (ensures_block hself).bind fun body hbody => ensures_pure (names_function hname hbody)
  refine (ensures_token _).bind fun start _ => ?_
  dsimp only
  split
  · exact (passes_word _).then (hrest start)
  · exact hrest start

/-- The names in a class are its own, which is a word, and those in its body. -/
theorem ensures_classDef : Ensures P (Names P) (classDef self) := by
  refine ((passes_word _).seqRight ensures_name).bind fun name hname => ?_
  refine passes_typeParameters.optionally.then ?_
  refine Ensures.bind (Q := fun _ => True) ?_ fun args _ => ?_
  · exact ((passes_headArguments ensures_all).between _ _).orElse (ensures_pure trivial)
  · exact (ensures_block hself).bind fun body hbody =>
      ensures_pure (names_classDef _ hname hbody)

/-- The names in a statement that contains others are words that are read. -/
theorem ensures_compoundStmt : Ensures P (Names P) (compoundStmt self) := by
  refine Ensures.bind (Q := fun _ => True) ?_ fun decorators _ => ?_
  · exact (((passes_symbol _).seqRight passes_named).seqLeft (ensures_kind _).passes).many.passes
  refine (ensures_function hself decorators).orElse ((ensures_classDef hself).orElse ?_)
  refine (passes_guard _).then (Ensures.bind ?_ fun body hbody =>
    ensures_pure (names_compound hbody))
  exact (ensures_conditional hself).orElse ((ensures_loop hself).orElse
    ((ensures_holding hself).orElse ((ensures_guarded hself).orElse (ensures_matching hself))))

/-- So are those in a statement of any kind. -/
theorem ensures_rule : Ensures P (Declares P) (Statement.rule self) := by
  refine Ensures.orElse ?_ ensures_line
  refine (ensures_compoundStmt hself).bind fun s hs => ensures_pure ?_
  exact List.forall_mem_singleton.mpr hs

end

/-- However deep blocks are nested, the names in them are words that are read. -/
theorem ensures_upTo (depth : Nat) : Ensures P (Declares P) (Statement.upTo depth) := by
  induction depth with
  | zero => exact ensures_failure
  | succ depth ih => exact ensures_rule ih

/-- The names in all statements are words that are read. -/
theorem ensures_all : Ensures P (Declares P) Statement.all :=
  fun ts => ensures_upTo (ts.length + 1) ts

end Statement

/-- The names of functions and classes are identifiers. -/
theorem Stmt.isIdentifier_of_mem [Reader] {text : List Char} {stmts : List Stmt}
    (h : Stmt.ofText? text = some stmts) :
    ∀ n ∈ declaredNamesOf stmts, isIdentifier n.toList = true := by
  have h := (ofText?_eq_some_iff_parse?.1 h).1
  obtain ⟨tokens, hscan, h⟩ := Option.bind_eq_some_iff.mp h
  obtain ⟨⟨read, rest⟩, hread, h⟩ := Option.bind_eq_some_iff.mp h
  obtain rfl := Option.some.inj h
  have hrule := (Statement.ensures_all
    (P := fun t => t.kind = .word → isIdentifier t.code.toList = true)).many.seqLeft
      (Rule.ensures_kind .finish).passes
  have hread := (hrule tokens read rest (isIdentifier_of_mem_scan hscan) hread).1
  intro n hn
  obtain ⟨t, ht, hword, rfl⟩ :=
    wordOf_of_mem_declaredNamesOf (Statement.Declares.flatten hread) n hn
  exact ht hword

end Wiring.Source
