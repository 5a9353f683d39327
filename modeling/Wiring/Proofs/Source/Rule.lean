import Mathlib.Data.List.Basic
import Wiring.Source.Grammar.Basic

/-!
# What rules read

`Rule.Ensures` says what a rule makes of tokens that have some property: a construct that has a
property of its own, and tokens that are left and still have theirs. Each way of putting rules
together has one lemma that says how this is put together, so that a rule of a grammar is followed
by citing them in the order in which it is written.
-/

namespace Wiring.Source.Rule

variable {α β : Type} {P : Token → Prop} {Q : α → Prop} {R : β → Prop} {p : Rule α} {q : Rule β}

/-- What the rule reads of tokens with the property `P` has the property `Q`, and what it leaves are
such tokens. -/
def Ensures (P : Token → Prop) (Q : α → Prop) (p : Rule α) : Prop :=
  ∀ ts a rest, (∀ t ∈ ts, P t) → p ts = some (a, rest) → Q a ∧ ∀ t ∈ rest, P t

/-- The rule leaves such tokens, whatever it reads. -/
abbrev Passes (P : Token → Prop) (p : Rule α) : Prop := Ensures P (fun _ => True) p

/-! ## Single steps -/

/-- Nothing is read for a given construct. -/
theorem ensures_pure {a : α} (ha : Q a) : Ensures P Q (pure a) := by
  rintro ts _ _ hts ⟨⟩
  exact ⟨ha, hts⟩

/-- What fails reads nothing. -/
theorem ensures_failure : Ensures P Q (failure : Rule α) := by
  rintro ts _ _ _ ⟨⟩

/-- A condition reads nothing. -/
theorem passes_guard (b : Prop) [Decidable b] : Passes P (guard b : Rule Unit) := by
  unfold guard
  split
  · exact ensures_pure trivial
  · exact ensures_failure

/-- A token that is read is one of those that were there, and acceptable. -/
theorem ensures_token (accept : Token → Bool) :
    Ensures P (fun t => P t ∧ accept t = true) (token accept) := by
  intro ts a rest hts h
  cases ts with
  | nil => cases h
  | cons t ts =>
    have hread : (if accept t then some (t, ts) else none) = some (a, rest) := h
    split at hread
    · rename_i haccept
      cases hread
      exact ⟨⟨hts _ List.mem_cons_self, haccept⟩,
        fun t' ht' => hts t' (List.mem_cons_of_mem _ ht')⟩
    · cases hread

/-- Less may be said of what is read. -/
theorem Ensures.imp {Q' : α → Prop} (hp : Ensures P Q p) (himp : ∀ a, Q a → Q' a) :
    Ensures P Q' p := by
  intro ts a rest hts h
  obtain ⟨ha, hrest⟩ := hp ts a rest hts h
  exact ⟨himp a ha, hrest⟩

/-- Nothing needs to be said of what is read. -/
theorem Ensures.passes (hp : Ensures P Q p) : Passes P p := hp.imp fun _ _ => trivial

/-- Two steps read what the second reads with what the first read. -/
theorem Ensures.bind {f : α → Rule β} (hp : Ensures P Q p) (hf : ∀ a, Q a → Ensures P R (f a)) :
    Ensures P R (p >>= f) := by
  intro ts b rest hts h
  obtain ⟨⟨a, middle⟩, ha, hb⟩ := Option.bind_eq_some_iff.mp h
  obtain ⟨hQ, hmiddle⟩ := hp ts a middle hts ha
  exact hf a hQ middle b rest hmiddle hb

/-- Two steps of which the first does not matter read what the second reads. -/
theorem Ensures.then (hp : Passes P p) (hq : Ensures P R q) :
    Ensures P R (p >>= fun _ => q) :=
  hp.bind fun _ _ => hq

/-- What is read can be changed. -/
theorem Ensures.map {f : α → β} (hp : Ensures P Q p) (hf : ∀ a, Q a → R (f a)) :
    Ensures P R (f <$> p) := by
  intro ts b rest hts h
  obtain ⟨⟨a, rest'⟩, ha, hb⟩ := Option.bind_eq_some_iff.mp h
  cases hb
  obtain ⟨hQ, hrest⟩ := hp ts a rest hts ha
  exact ⟨hf a hQ, hrest⟩

/-- The second of two constructs is kept. -/
theorem Ensures.seqRight (hp : Passes P p) (hq : Ensures P R q) : Ensures P R (p *> q) :=
  hp.then hq

/-- The first of two constructs is kept. -/
theorem Ensures.seqLeft (hp : Ensures P Q p) (hq : Passes P q) : Ensures P Q (p <* q) :=
  hp.bind fun _ ha => hq.then (ensures_pure ha)

/-- Either of two constructs is read. -/
theorem Ensures.orElse {p' : Rule α} (hp : Ensures P Q p) (hp' : Ensures P Q p') :
    Ensures P Q (p <|> p') := by
  intro ts a rest hts h
  have hcases : (p ts <|> p' ts) = some (a, rest) := h
  cases hread : p ts with
  | none =>
    rw [hread] at hcases
    exact hp' ts a rest hts hcases
  | some read =>
    rw [hread] at hcases
    obtain rfl := Option.some.inj hcases
    exact hp ts a rest hts hread

/-- A construct is read or left out. -/
theorem Ensures.optional (hp : Ensures P Q p) :
    Ensures P (fun o => ∀ a ∈ o, Q a) (optional p) := by
  refine (hp.map fun a ha => ?_).orElse (ensures_pure ?_)
  · rintro _ ⟨⟩
    exact ha
  · rintro _ ⟨⟩

/-! ## Tokens -/

/-- A token of a kind is one of those that were there. -/
theorem ensures_kind (k : TokenKind) : Ensures P P (kind k) :=
  (ensures_token _).imp fun _ ht => ht.1

/-- A symbol is passed over. -/
theorem passes_symbol (code : String) : Passes P (symbol code) := (ensures_token _).passes

/-- A word is passed over. -/
theorem passes_word (code : String) : Passes P (word code) := (ensures_token _).passes

/-- The text is the code of a word with a property. -/
def WordOf (P : Token → Prop) (code : String) : Prop := ∃ t, P t ∧ t.kind = .word ∧ t.code = code

/-- A name is one of the words that were there. -/
theorem ensures_name : Ensures P (WordOf P) name := by
  refine (ensures_token _).bind fun t ht => ensures_pure ⟨t, ht.1, ?_, rfl⟩
  have haccept := ht.2
  rw [Bool.and_eq_true, beq_iff_eq] at haccept
  exact haccept.1

/-- A name is passed over. -/
theorem passes_name : Passes P name := ensures_name.passes

/-- Looking at the next token reads nothing. -/
theorem passes_sees (accept : Token → Bool) : Passes P (sees accept) := by
  rintro ts _ _ hts ⟨⟩
  exact ⟨trivial, hts⟩

/-! ## Repetitions -/

/-- Constructs read in a row are each read by the rule. -/
theorem Ensures.upTo (hp : Ensures P Q p) (n : Nat) :
    Ensures P (fun as => ∀ a ∈ as, Q a) (upTo p n) := by
  induction n with
  | zero => exact ensures_pure (by simp)
  | succ n ih =>
    intro ts as rest hts h
    unfold Rule.upTo at h
    dsimp only at h
    split at h
    · cases h
      exact ⟨by simp, hts⟩
    · rename_i a middle ha
      obtain ⟨⟨as', rest'⟩, has, heq⟩ := Option.map_eq_some_iff.mp h
      obtain ⟨rfl, rfl⟩ := Prod.mk.inj heq
      obtain ⟨hQ, hmiddle⟩ := hp ts a middle hts ha
      obtain ⟨hQs, hrest⟩ := ih middle as' rest' hmiddle has
      exact ⟨List.forall_mem_cons.mpr ⟨hQ, hQs⟩, hrest⟩

/-- So are any number of them. -/
theorem Ensures.many (hp : Ensures P Q p) : Ensures P (fun as => ∀ a ∈ as, Q a) (many p) :=
  fun ts => hp.upTo ts.length ts

/-- So is at least one. -/
theorem Ensures.many1 (hp : Ensures P Q p) : Ensures P (fun as => ∀ a ∈ as, Q a) (many1 p) :=
  hp.bind fun _ ha => hp.many.bind fun _ has =>
    ensures_pure (List.forall_mem_cons.mpr ⟨ha, has⟩)

/-- So are those with a separator between each two. -/
theorem Ensures.sepBy1 (hp : Ensures P Q p) (separator : String) :
    Ensures P (fun as => ∀ a ∈ as, Q a) (sepBy1 p separator) :=
  hp.bind fun _ ha => ((passes_symbol separator).seqRight hp).many.bind fun _ has =>
    ensures_pure (List.forall_mem_cons.mpr ⟨ha, has⟩)

/-- A construct that may be left out is passed over. -/
theorem Ensures.optionally (hp : Ensures P Q p) : Passes P (optionally p) :=
  (hp.passes.then (ensures_pure trivial)).orElse (ensures_pure trivial)

/-- Constructs with commas between them are each read by the rule. -/
theorem Ensures.commas1 (hp : Ensures P Q p) :
    Ensures P (fun x => ∀ a ∈ x.1, Q a) (commas1 p) :=
  hp.bind fun _ ha => ((passes_symbol ",").seqRight hp).many.bind fun _ has =>
    (passes_symbol ",").optional.bind fun _ _ =>
      ensures_pure (List.forall_mem_cons.mpr ⟨ha, has⟩)

/-- So are any number of them. -/
theorem Ensures.commas (hp : Ensures P Q p) : Ensures P (fun as => ∀ a ∈ as, Q a) (commas p) :=
  (hp.commas1.map fun _ has => has).orElse (ensures_pure (by simp))

/-- A construct in brackets is read by its rule. -/
theorem Ensures.between (hp : Ensures P Q p) (opening closing : String) :
    Ensures P Q (between opening closing p) :=
  ((passes_symbol opening).seqRight hp).seqLeft (passes_symbol closing)

/-! ## Code -/

/-- A construct is read with its tokens. -/
theorem Ensures.spanned (hp : Ensures P Q p) : Ensures P (fun x => Q x.1) (spanned p) := by
  intro ts x rest hts h
  obtain ⟨⟨a, rest'⟩, ha, heq⟩ := Option.map_eq_some_iff.mp h
  cases heq
  exact hp ts a rest hts ha

/-- A construct is handed its code. -/
theorem Ensures.coded {p : Rule (String → α)}
    (hp : Ensures P (fun make => ∀ code, Q (make code)) p) : Ensures P Q (coded p) :=
  hp.spanned.bind fun _ hmake => ensures_pure (hmake _)

/-- Of a construct only the code matters. -/
theorem Ensures.codeOnly {Q : Expr → Prop} (hother : ∀ code, Q (.other code)) (hp : Ensures P R q) :
    Ensures P Q (codeOnly q) :=
  Ensures.coded (hp.passes.then (ensures_pure hother))

/-- What continues an expression changes it. -/
theorem Ensures.continued {Q : Expr → Prop} {p : Rule (Expr → String → Expr)}
    (hp : Ensures P (fun make => ∀ e code, Q e → Q (make e code)) p) :
    Ensures P (fun f => ∀ e, Q e → Q (f e)) (continued p) :=
  hp.spanned.bind fun _ hmake => ensures_pure fun e he => hmake e _ he

/-- An expression is read with everything that continues it. -/
theorem Ensures.continuing {Q : Expr → Prop} {p : Rule Expr} {more : Rule (Expr → Expr)}
    (hp : Ensures P Q p) (hmore : Ensures P (fun f => ∀ e, Q e → Q (f e)) more) :
    Ensures P Q (continuing p more) := by
  refine hp.bind fun first hfirst => hmore.many.bind fun fs hfs => ensures_pure ?_
  induction fs generalizing first with
  | nil => exact hfirst
  | cons f fs ih =>
    rw [List.foldl_cons]
    exact ih (f first) (hfs f List.mem_cons_self first hfirst)
      fun f' hf' => hfs f' (List.mem_cons_of_mem f hf')

end Wiring.Source.Rule
