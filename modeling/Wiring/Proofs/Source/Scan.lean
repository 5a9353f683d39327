import Wiring.Source.Literal
import Wiring.Source.Scan

/-!
# Tokens are parts of the text

No token that is scanned has more characters than the text (`length_le_of_mem_scan`), and every word
is an identifier (`isIdentifier_of_mem_scan`). What follows a lexeme is never longer than the text
at its start, so what is still to be read gets shorter and shorter, and the characters of a token
are taken from there. `Scan.WellFormed` says all of this of the state of a scan, and every step
keeps it.
-/

namespace Wiring.Source

open Wiring.Text

/-! ## What follows a lexeme -/

/-- What precedes an end of a list is no longer than the list. -/
theorem length_passed_le {α : Type} (whole rest : List α) :
    (passed whole rest).length ≤ whole.length :=
  List.length_take_le' _ _

/-- What precedes an end of a list is what was put before it. -/
theorem passed_append {α : Type} (front rest : List α) : passed (front ++ rest) rest = front := by
  unfold passed
  rw [List.length_append, Nat.add_sub_cancel]
  exact List.take_left

/-- What follows a line break is shorter. -/
theorem length_le_of_takeBreak? {text lineBreak rest : List Char}
    (h : takeBreak? text = some (lineBreak, rest)) : rest.length ≤ text.length := by
  unfold takeBreak? at h
  split at h
  · cases h
    simp
  · cases h
    simp
    omega
  · cases h
    simp
  · cases h

/-- Digits are passed over. -/
theorem length_afterDigits_le (isDigit : Char → Bool) (text : List Char) :
    (afterDigits isDigit text).length ≤ text.length := by
  fun_induction afterDigits isDigit text with
  | case1 => exact Nat.le_refl _
  | case2 d rest hd ih => simp; omega
  | case3 d rest hd => exact Nat.le_refl _
  | case4 c rest _ hc ih => simp; omega
  | case5 c rest _ hc => exact Nat.le_refl _

/-- A fraction is passed over. -/
theorem length_afterFraction_le (text : List Char) :
    (afterFraction text).length ≤ text.length := by
  unfold afterFraction
  split
  · rename_i d rest
    have hdigits := length_afterDigits_le Char.isDigit (d :: rest)
    split
    · rw [List.length_cons]
      omega
    · simp
  · simp
  · exact Nat.le_refl _

/-- An exponent is passed over. -/
theorem length_afterExponent_le (text : List Char) :
    (afterExponent text).length ≤ text.length := by
  have hdigits : ∀ digits : List Char, digits.length ≤ text.length →
      (if digits.head?.any Char.isDigit then afterDigits Char.isDigit digits else text).length ≤
        text.length := by
    intro digits hle
    split
    · exact Nat.le_trans (length_afterDigits_le _ _) hle
    · exact Nat.le_refl _
  unfold afterExponent
  split
  · split
    · -- A sign may stand before the digits.
      dsimp only
      split
      · exact hdigits _ (by simp; omega)
      · exact hdigits _ (by simp; omega)
      · exact hdigits _ (by simp)
    · exact Nat.le_refl _
  · exact Nat.le_refl _

/-- A number is passed over. -/
theorem length_le_of_afterDecimal? {text rest : List Char} (h : afterDecimal? text = some rest) :
    rest.length ≤ text.length := by
  unfold afterDecimal? at h
  dsimp only at h
  split at h
  · cases h
  · obtain rfl := Option.some.inj h
    have hdigits := length_afterDigits_le Char.isDigit text
    have hfraction := length_afterFraction_le (afterDigits Char.isDigit text)
    have hexponent :=
      length_afterExponent_le (afterFraction (afterDigits Char.isDigit text))
    have himaginary : ∀ text : List Char, (afterImaginary text).length ≤ text.length := by
      intro text
      unfold afterImaginary
      split
      · simp
      · simp
      · exact Nat.le_refl _
    exact Nat.le_trans (himaginary _) (by omega)

/-- Digits of any base are passed over. -/
theorem length_le_of_afterNumber? {text rest : List Char} (h : afterNumber? text = some rest) :
    rest.length ≤ text.length := by
  unfold afterNumber? at h
  split at h
  · split at h
    · dsimp only at h
      split at h
      · obtain rfl := Option.some.inj h
        refine Nat.le_trans (length_afterDigits_le _ _) ?_
        simp
        omega
      · exact length_le_of_afterDecimal? h
    · exact length_le_of_afterDecimal? h
  · exact length_le_of_afterDecimal? h

/-- The body and the closing quotes of a literal are passed over. -/
theorem length_le_of_afterLiteral? {q : Quotes} {text rest : List Char}
    (h : afterLiteral? q text = some rest) : rest.length ≤ text.length := by
  fun_induction afterLiteral? q text with
  | case1 => cases h
  | case2 rest' ih => have hrest := ih h; simp; omega
  | case3 c rest' _ ih => have hrest := ih h; simp; omega
  | case4 c rest' _ _ hmarks =>
    obtain rfl := Option.some.inj h
    exact (List.drop_suffix _ _).length_le
  | case5 => cases h
  | case6 c rest' _ _ hmarks hbreak ih => have hrest := ih h; simp; omega

/-- The characters of a formatted text are passed over. -/
theorem length_le_of_afterTextPart? {q : Quotes} {inField inName : Bool} {text rest : List Char}
    (h : afterTextPart? q inField inName text = some rest) : rest.length ≤ text.length := by
  fun_induction afterTextPart? q inField inName text <;> grind

/-! ## The state of a scan -/

namespace Scan

variable {n : Nat} {s s' : Scan} {rest : List Char}

/-- No token so far, and nothing that is still to be read, has more than `n` characters, and the
words so far are identifiers. -/
structure WellFormed (n : Nat) (s : Scan) : Prop where
  /-- What is still to be read is no longer than that. -/
  rest : s.rest.length ≤ n
  /-- Neither are the tokens. -/
  tokens : ∀ t ∈ s.tokens, t.code.toList.length ≤ n
  /-- The words among them are identifiers. -/
  words : ∀ t ∈ s.tokens, t.kind = .word → isIdentifier t.code.toList = true

/-- Reading on without a token keeps the scan well-formed. -/
theorem WellFormed.moveTo (h : s.WellFormed n) (hrest : rest.length ≤ s.rest.length) :
    (s.moveTo rest).WellFormed n :=
  ⟨Nat.le_trans hrest h.rest, h.tokens, h.words⟩

/-- So does passing over what counts as a lead. -/
theorem WellFormed.skipTo (h : s.WellFormed n) (hrest : rest.length ≤ s.rest.length)
    (lead : List Char) : (s.skipTo rest lead).WellFormed n :=
  ⟨Nat.le_trans hrest h.rest, h.tokens, h.words⟩

/-- The characters of a token come from what was to be read. Those of a word are an identifier. -/
theorem WellFormed.tokenTo (h : s.WellFormed n) (hrest : rest.length ≤ s.rest.length)
    (kind : TokenKind) (hkind : kind = .word → isIdentifier (passed s.rest rest) = true) :
    (s.tokenTo kind rest).WellFormed n := by
  have hcode : (String.ofList (passed s.rest rest)).toList = passed s.rest rest :=
    String.toList_ofList
  refine ⟨Nat.le_trans hrest h.rest, ?_, ?_⟩
  · intro t ht
    rcases List.mem_cons.mp ht with rfl | ht
    · show (String.ofList (passed s.rest rest)).toList.length ≤ n
      rw [hcode]
      exact Nat.le_trans (length_passed_le _ _) h.rest
    · exact h.tokens t ht
  · intro t ht hword
    rcases List.mem_cons.mp ht with rfl | ht
    · show isIdentifier (String.ofList (passed s.rest rest)).toList = true
      rw [hcode]
      exact hkind hword
    · exact h.words t ht hword

/-- A token without characters keeps the scan well-formed. -/
theorem WellFormed.mark (h : s.WellFormed n) (kind : TokenKind) (hkind : kind ≠ .word) :
    (s.mark kind).WellFormed n :=
  h.tokenTo (Nat.le_refl _) kind fun hword => absurd hword hkind

/-- What is open and where the scan stands do not matter. -/
theorem WellFormed.congr (h : s.WellFormed n) (hrest : s'.rest = s.rest)
    (htokens : s'.tokens = s.tokens) : s'.WellFormed n := by
  refine ⟨?_, ?_, ?_⟩
  · rw [hrest]
    exact h.rest
  · rw [htokens]
    exact h.tokens
  · rw [htokens]
    exact h.words

/-! ### Starts of lines -/

/-- Closing blocks keeps the scan well-formed. -/
theorem WellFormed.closeBlocks {indent : Indent} {blocks : List Indent} (h : s.WellFormed n)
    (hclose : Scan.closeBlocks indent blocks s = some s') : s'.WellFormed n := by
  induction blocks generalizing s with
  | nil =>
    rw [Scan.closeBlocks] at hclose
    split at hclose
    · obtain rfl := Option.some.inj hclose
      exact h.congr rfl rfl
    · cases hclose
  | cons block outer ih =>
    rw [Scan.closeBlocks] at hclose
    split at hclose
    · exact ih (h.mark .dedent (by decide)) hclose
    split at hclose
    · obtain rfl := Option.some.inj hclose
      exact h.congr rfl rfl
    · cases hclose

/-- Starting a line keeps the scan well-formed. -/
theorem WellFormed.enterLine {indent : Indent} (h : s.WellFormed n)
    (henter : s.enterLine indent = some s') : s'.WellFormed n := by
  obtain ⟨entered, hblock, hline⟩ := Option.bind_eq_some_iff.mp henter
  obtain rfl := Option.some.inj hline
  have hentered : entered.WellFormed n := by
    unfold enterBlock at hblock
    split at hblock
    · split at hblock
      · obtain rfl := Option.some.inj hblock
        exact (h.mark .indent (by decide)).congr rfl rfl
      · cases hblock
    · exact h.closeBlocks hblock
  exact hentered.congr rfl rfl

/-- A comment is passed over. -/
theorem length_afterComment_le (text : List Char) : (afterComment text).length ≤ text.length :=
  (List.dropWhile_suffix _).length_le

/-- A line break is passed over. -/
theorem length_afterBreak_le (text : List Char) : (afterBreak text).length ≤ text.length := by
  unfold afterBreak
  cases h : takeBreak? text with
  | none => exact Nat.le_refl _
  | some taken => exact length_le_of_takeBreak? h

/-- Reading the start of a line keeps the scan well-formed. -/
theorem WellFormed.startLine (h : s.WellFormed n) (hstart : s.startLine = some s') :
    s'.WellFormed n := by
  have hblanks : (s.rest.dropWhile isBlank).length ≤ s.rest.length :=
    (List.dropWhile_suffix _).length_le
  unfold Scan.startLine at hstart
  dsimp only at hstart
  split at hstart
  · obtain rfl := Option.some.inj hstart
    exact h.moveTo (Nat.zero_le _)
  split at hstart
  · obtain rfl := Option.some.inj hstart
    exact h.moveTo (Nat.le_trans (length_afterBreak_le _)
      (Nat.le_trans (length_afterComment_le _) hblanks))
  split at hstart
  · obtain rfl := Option.some.inj hstart
    exact h.moveTo (Nat.le_trans (length_afterBreak_le _) hblanks)
  · exact (h.moveTo hblanks).enterLine hstart

/-! ### Within lines -/

/-- Reading blanks keeps the scan well-formed. -/
theorem WellFormed.blanks (h : s.WellFormed n) (hrest : rest.length ≤ s.rest.length)
    (lead : List Char) : (s.blanks rest lead).WellFormed n := by
  unfold Scan.blanks
  split
  · exact ⟨Nat.le_trans hrest h.rest, h.tokens, h.words⟩
  · exact h.skipTo hrest lead

/-- Reading a line break within brackets keeps the scan well-formed. -/
theorem WellFormed.breakInBrackets (h : s.WellFormed n) (hrest : rest.length ≤ s.rest.length)
    (lineBreak : List Char) : (s.breakInBrackets lineBreak rest).WellFormed n := by
  unfold Scan.breakInBrackets
  dsimp only
  generalize (if lineBreak == s.lineBreak then ['\n'] else lineBreak) = written
  have hskip := h.skipTo hrest written
  split
  · exact hskip.moveTo (List.drop_suffix _ _).length_le
  · exact hskip

/-- Reading the end of a line keeps the scan well-formed. -/
theorem WellFormed.endLine (h : s.WellFormed n) (hrest : rest.length ≤ s.rest.length) :
    (s.endLine rest).WellFormed n := by
  unfold Scan.endLine
  split
  · exact ⟨Nat.le_trans hrest h.rest, h.tokens, h.words⟩
  · exact (h.tokenTo hrest .newline nofun).congr rfl rfl

/-- Reading a word, or what it holds the letters of, keeps the scan well-formed. -/
theorem WellFormed.word {letters : List Char} (h : s.WellFormed n)
    (hsplit : s.rest = letters ++ rest) (hword : s.word letters rest = some s') :
    s'.WellFormed n := by
  have hrest : rest.length ≤ s.rest.length := by
    rw [hsplit]
    exact (List.suffix_append _ _).length_le
  have hidentifier : ∀ {s'}, (if isIdentifier letters then some (s.tokenTo .word rest) else none) =
      some s' → s'.WellFormed n := by
    intro s' hsome
    split at hsome
    · rename_i hletters
      obtain rfl := Option.some.inj hsome
      refine h.tokenTo hrest .word fun _ => ?_
      rwa [hsplit, passed_append]
    · cases hsome
  unfold Scan.word at hword
  dsimp only at hword
  split at hword
  · rename_i quotes body hopen
    have hbody : body.length ≤ s.rest.length :=
      Nat.le_trans (Nat.le_of_lt (Literal.length_lt_of_openQuotes? hopen)) hrest
    split at hword
    · obtain ⟨after, hafter, rfl⟩ := Option.map_eq_some_iff.mp hword
      exact h.tokenTo (Nat.le_trans (length_le_of_afterLiteral? hafter) hbody) .literal nofun
    split at hword
    · obtain rfl := Option.some.inj hword
      exact (h.tokenTo hbody .textStart nofun).congr rfl rfl
    · exact hidentifier hword
  · exact hidentifier hword

/-- Reading a symbol keeps the scan well-formed. -/
theorem WellFormed.symbol {code : String} (h : s.WellFormed n) (hsymbol : s.symbol code = some s') :
    s'.WellFormed n := by
  have hread : (s.tokenTo .symbol (s.rest.drop code.length)).WellFormed n :=
    h.tokenTo (List.drop_suffix _ _).length_le .symbol nofun
  unfold Scan.symbol at hsymbol
  dsimp only at hsymbol
  -- The cases differ in which brackets are open only.
  have hsome : ∀ {read : Scan}, some read = some s' →
      read.rest = (s.tokenTo .symbol (s.rest.drop code.length)).rest →
      read.tokens = (s.tokenTo .symbol (s.rest.drop code.length)).tokens → s'.WellFormed n := by
    intro read heq hrest htokens
    obtain rfl := Option.some.inj heq
    exact hread.congr hrest htokens
  split at hsymbol
  · exact hsome hsymbol rfl rfl
  split at hsymbol
  · split at hsymbol
    · split at hsymbol
      · exact hsome hsymbol rfl rfl
      · cases hsymbol
    · split at hsymbol
      · exact hsome hsymbol rfl rfl
      · cases hsymbol
    · cases hsymbol
  · exact hsome hsymbol rfl rfl

/-- Reading a token keeps the scan well-formed. -/
theorem WellFormed.lexeme (h : s.WellFormed n) (hlexeme : s.lexeme = some s') :
    s'.WellFormed n := by
  have hsymbol : ∀ {s'}, (symbol? s.rest >>= s.symbol) = some s' → s'.WellFormed n := by
    intro s' hsome
    obtain ⟨code, -, hcode⟩ := Option.bind_eq_some_iff.mp hsome
    exact h.symbol hcode
  unfold Scan.lexeme at hlexeme
  split at hlexeme
  · cases hlexeme
  · rename_i c rest hs
    have hrest : rest.length ≤ s.rest.length := by
      rw [hs]
      exact Nat.le_succ _
    split at hlexeme
    · obtain ⟨after, hafter, rfl⟩ := Option.map_eq_some_iff.mp hlexeme
      exact h.tokenTo (length_le_of_afterNumber? hafter) .number fun hword => by cases hword
    split at hlexeme
    · exact h.word (List.nil_append _).symm hlexeme
    split at hlexeme
    · exact h.word List.takeWhile_append_dropWhile.symm hlexeme
    split at hlexeme
    · split at hlexeme
      · obtain rfl := Option.some.inj hlexeme
        exact (h.tokenTo hrest .symbol fun hword => by cases hword).congr rfl rfl
      split at hlexeme
      · obtain rfl := Option.some.inj hlexeme
        exact h.tokenTo hrest .symbol fun hword => by cases hword
      · exact hsymbol hlexeme
    · exact hsymbol hlexeme

/-- A step within a line keeps the scan well-formed. -/
theorem WellFormed.within (h : s.WellFormed n) (hwithin : s.within = some s') :
    s'.WellFormed n := by
  unfold Scan.within at hwithin
  split at hwithin
  · cases hwithin
  · rename_i c rest hs
    have hrest : rest.length ≤ s.rest.length := by
      rw [hs]
      exact Nat.le_succ _
    split at hwithin
    · obtain rfl := Option.some.inj hwithin
      exact h.blanks hrest [c]
    split at hwithin
    · split at hwithin
      · rename_i lineBreak after hbreak
        split at hwithin
        · cases hwithin
        · obtain rfl := Option.some.inj hwithin
          exact h.blanks (Nat.le_trans (length_le_of_takeBreak? hbreak) hrest) _
      · cases hwithin
    split at hwithin
    · obtain rfl := Option.some.inj hwithin
      exact h.skipTo (length_afterComment_le _) _
    split at hwithin
    · rename_i lineBreak after hbreak
      have hafter := length_le_of_takeBreak? hbreak
      obtain rfl := Option.some.inj hwithin
      split
      · exact h.endLine hafter
      · exact h.breakInBrackets hafter lineBreak
    · exact h.lexeme hwithin

/-- A step in a formatted text keeps the scan well-formed. -/
theorem WellFormed.formatted {quotes : Quotes} {inField : Bool} {outer : List Frame}
    (h : s.WellFormed n) (hformatted : s.formatted quotes inField outer = some s') :
    s'.WellFormed n := by
  obtain ⟨rest, hpart, hformatted⟩ := Option.bind_eq_some_iff.mp hformatted
  have hrest := length_le_of_afterTextPart? hpart
  split at hformatted
  · obtain rfl := Option.some.inj hformatted
    exact h.tokenTo hrest .textPart nofun
  dsimp only at hformatted
  split at hformatted
  · rename_i rest hs
    obtain rfl := Option.some.inj hformatted
    exact (h.tokenTo (by rw [hs]; exact Nat.le_succ _) .symbol nofun).congr rfl rfl
  · rename_i rest hs
    split at hformatted
    · obtain rfl := Option.some.inj hformatted
      exact (h.tokenTo (by rw [hs]; exact Nat.le_succ _) .symbol nofun).congr rfl rfl
    · cases hformatted
  · split at hformatted
    · cases hformatted
    · obtain rfl := Option.some.inj hformatted
      exact (h.tokenTo (List.drop_suffix _ _).length_le .textEnd nofun).congr rfl rfl

/-! ### Whole texts -/

/-- Every step keeps the scan well-formed. -/
theorem WellFormed.step (h : s.WellFormed n) (hstep : s.step = some s') : s'.WellFormed n := by
  unfold Scan.step at hstep
  split at hstep
  · split at hstep
    · exact h.within hstep
    · exact h.startLine hstep
  · exact h.formatted hstep
  · exact h.formatted hstep
  · exact h.within hstep

/-- The tokens of the whole text are those of a well-formed scan. -/
theorem WellFormed.finish {tokens : List Token} (h : s.WellFormed n)
    (hfinish : s.finish = some tokens) :
    ∃ last : Scan, last.WellFormed n ∧ tokens = last.tokens.reverse := by
  have hmarks : ∀ (blocks : List Indent) {s : Scan}, s.WellFormed n →
      (blocks.foldl (fun s _ => s.mark .dedent) s).WellFormed n := by
    intro blocks
    induction blocks with
    | nil => exact fun h => h
    | cons block blocks ih => exact fun h => ih (h.mark .dedent (by decide))
  unfold Scan.finish at hfinish
  dsimp only at hfinish
  split at hfinish
  · cases hfinish
  · obtain rfl := Option.some.inj hfinish
    have hline : (if s.inLine then s.endLine [] else s).WellFormed n := by
      split
      · exact h.endLine (Nat.zero_le _)
      · exact h
    exact ⟨_, (hmarks _ hline).mark .finish (by decide), rfl⟩

/-- So they are after reading on to the end of the text. -/
theorem WellFormed.run {steps : Nat} {tokens : List Token} (h : s.WellFormed n)
    (hrun : Scan.run steps s = some tokens) :
    ∃ last : Scan, last.WellFormed n ∧ tokens = last.tokens.reverse := by
  induction steps generalizing s with
  | zero => cases hrun
  | succ steps ih =>
    rw [Scan.run] at hrun
    split at hrun
    · exact h.finish hrun
    · obtain ⟨s', hstep, hrun⟩ := Option.bind_eq_some_iff.mp hrun
      exact ih (h.step hstep) hrun

end Scan

variable {text : List Char} {tokens : List Token}

/-- The tokens of a text are those of a well-formed scan. -/
theorem exists_wellFormed_of_scan (h : scan text = some tokens) :
    ∃ last : Scan, last.WellFormed text.length ∧ tokens = last.tokens.reverse := by
  -- A byte order mark is dropped first.
  have hrun : ∀ {steps : Nat} {rest : List Char}, rest.length ≤ text.length →
      Scan.run steps { lineBreak := firstBreak rest, rest } = some tokens →
      ∃ last : Scan, last.WellFormed text.length ∧ tokens = last.tokens.reverse := by
    intro steps rest hrest hrun
    exact Scan.WellFormed.run ⟨hrest, by simp, by simp⟩ hrun
  unfold scan at h
  dsimp only at h
  split at h
  · exact hrun (Nat.le_succ _) h
  · exact hrun (Nat.le_refl _) h

/-- No token of a text has more characters than the text. -/
theorem length_le_of_mem_scan (h : scan text = some tokens) :
    ∀ t ∈ tokens, t.code.toList.length ≤ text.length := by
  obtain ⟨last, hlast, rfl⟩ := exists_wellFormed_of_scan h
  exact fun t ht => hlast.tokens t (List.mem_reverse.mp ht)

/-- The words of a text are identifiers. -/
theorem isIdentifier_of_mem_scan (h : scan text = some tokens) :
    ∀ t ∈ tokens, t.kind = .word → isIdentifier t.code.toList = true := by
  obtain ⟨last, hlast, rfl⟩ := exists_wellFormed_of_scan h
  exact fun t ht => hlast.words t (List.mem_reverse.mp ht)

end Wiring.Source
