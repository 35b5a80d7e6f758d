import Worksheet.Formula.Token
import Worksheet.Proofs.Number.Literal

/-!
# Scanning a text piece by piece

A text put together from symbols, words and blanks is scanned as it was put together, as long as
no word stands in front of a character that prolongs it, and neither `<` nor `>` in front of an
equals sign.

* `scan_spelling_append`, `scan_numeral_append`, `scan_name_append` and `scan_blanks_append` take
  one piece off the front of a text.
-/

namespace Worksheet.Formula

open Number (Numeral)
open Text (NotInFront isBlank trimStart notInFront_cons notInFront_nil takeWhile_append_of_front
  dropWhile_append_of_front notInFront_dropWhile)

/-! ## Characters of words -/

/-- Whether a character can go on a number or a name. -/
def continuesWord (c : Char) : Bool :=
  Lexeme.continuesName c || c == '.'

theorem continuesWord_iff_toNat {c : Char} :
    continuesWord c = true ↔
      (65 ≤ c.toNat ∧ c.toNat ≤ 90) ∨ (97 ≤ c.toNat ∧ c.toNat ≤ 122) ∨
        (48 ≤ c.toNat ∧ c.toNat ≤ 57) ∨ c.toNat = 95 ∨ c.toNat = 46 := by
  have hval : ∀ d : Char, c = d ↔ c.toNat = d.toNat := fun d => Char.toNat_inj.symm
  simp [continuesWord, Lexeme.continuesName, Char.isAlphanum, Char.isAlpha, Char.isUpper,
    Char.isLower, Char.isDigit, UInt32.le_iff_toNat_le, hval, or_assoc]

theorem isBlank_eq_false_of_continuesWord {c : Char} (h : continuesWord c = true) :
    isBlank c = false := by
  rw [continuesWord_iff_toNat] at h
  rw [Bool.eq_false_iff]
  simp only [isBlank, Bool.or_eq_true, Bool.and_eq_true, decide_eq_true_eq, beq_iff_eq, ne_eq]
  omega

theorem continuesWord_eq_false_of_isBlank {c : Char} (h : isBlank c = true) :
    continuesWord c = false := by
  rw [Bool.eq_false_iff]
  intro hword
  rw [isBlank_eq_false_of_continuesWord hword] at h
  cases h

theorem continuesWord_of_isDigit {c : Char} (h : c.isDigit = true) : continuesWord c = true := by
  simp [continuesWord, Lexeme.continuesName, Char.isAlphanum, h]

theorem continuesWord_of_isUpper {c : Char} (h : c.isUpper = true) : continuesWord c = true := by
  simp [continuesWord, Lexeme.continuesName, Char.isAlphanum, Char.isAlpha, h]

theorem beginsName_iff_toNat {c : Char} :
    Lexeme.beginsName c = true ↔
      (65 ≤ c.toNat ∧ c.toNat ≤ 90) ∨ (97 ≤ c.toNat ∧ c.toNat ≤ 122) ∨ c.toNat = 95 := by
  have hval : ∀ d : Char, c = d ↔ c.toNat = d.toNat := fun d => Char.toNat_inj.symm
  simp [Lexeme.beginsName, Char.isAlpha, Char.isUpper, Char.isLower, UInt32.le_iff_toNat_le, hval,
    or_assoc]

theorem continuesWord_of_beginsName {c : Char} (h : Lexeme.beginsName c = true) :
    continuesWord c = true := by
  rw [beginsName_iff_toNat] at h
  rw [continuesWord_iff_toNat]
  omega

theorem isDigit_eq_false_of_beginsName {c : Char} (h : Lexeme.beginsName c = true) :
    c.isDigit = false := by
  rw [beginsName_iff_toNat] at h
  rw [Bool.eq_false_iff]
  simp only [Char.isDigit, Bool.and_eq_true, decide_eq_true_eq, ne_eq, ge_iff_le,
    UInt32.le_iff_toNat_le]
  simp only [Char.reduceVal, UInt32.reduceToNat, Char.toNat] at h ⊢
  omega

theorem continuesWord_of_prolongs {c : Char} (h : Numeral.prolongs c = true) :
    continuesWord c = true := by
  simp only [Numeral.prolongs, Bool.or_eq_true, beq_iff_eq] at h
  rcases h with ((hdigit | rfl) | rfl) | rfl
  · exact continuesWord_of_isDigit hdigit
  all_goals rfl

/-- A numeral begins as a word. -/
theorem exists_numeral_eq_cons (n : Numeral) :
    ∃ c others, n.text = c :: others ∧ continuesWord c = true := by
  obtain ⟨c, others, htext, hc⟩ := n.exists_text_eq_cons
  refine ⟨c, others, htext, ?_⟩
  rcases hc with hdigit | rfl
  · exact continuesWord_of_isDigit hdigit
  · rfl

/-! ## Cutting one lexeme -/

/-- Whether an equals sign behind a symbol makes another symbol of it. -/
def Symbol.takesEqual (s : Symbol) : Bool :=
  s == .less || s == .greater

/-- A symbol may stand in front of a text. -/
def Symbol.EndsAt (s : Symbol) (rest : List Char) : Prop :=
  s.takesEqual = true → NotInFront (· == '=') rest

theorem Symbol.cut?_spelling_append (s : Symbol) {rest : List Char} (h : s.EndsAt rest) :
    Symbol.cut? (s.spelling ++ rest) = some (s, rest) := by
  cases rest with
  | nil => cases s <;> rfl
  | cons c rest =>
    have hc : s.takesEqual = true → ('=' == c) = false := by
      intro hs
      rw [BEq.comm]
      exact h hs c rfl
    cases s with
    | less | greater => simp [cut?, all, spelling, List.isPrefixOf, hc rfl]
    | _ => simp [cut?, all, spelling, List.isPrefixOf]

theorem Symbol.continuesWord_head (s : Symbol) :
    ∃ c others, s.spelling = c :: others ∧ continuesWord c = false := by
  cases s <;> exact ⟨_, _, rfl, by decide⟩

theorem Symbol.isBlank_head (s : Symbol) :
    ∃ c others, s.spelling = c :: others ∧ isBlank c = false := by
  cases s <;> exact ⟨_, _, rfl, by decide⟩

/-- No symbol begins with a character of a word. -/
theorem Symbol.cut?_eq_none {c : Char} {rest : List Char} (h : continuesWord c = true) :
    Symbol.cut? (c :: rest) = none := by
  rw [cut?, Option.map_eq_none_iff, List.find?_eq_none]
  intro s _ hfound
  obtain ⟨first, others, hspelling, hfirst⟩ := s.continuesWord_head
  rw [hspelling, List.isPrefixOf, Bool.and_eq_true, beq_iff_eq] at hfound
  rw [hfound.1, h] at hfirst
  cases hfirst

theorem cut?_spelling_append (s : Symbol) {rest : List Char} (h : s.EndsAt rest) :
    Lexeme.cut? (s.spelling ++ rest) = some (.symbol s, rest) := by
  have hcut := s.cut?_spelling_append h
  obtain ⟨c, others, hspelling, -⟩ := s.continuesWord_head
  rw [hspelling, List.cons_append] at hcut ⊢
  rw [Lexeme.cut?, hcut]

theorem cut?_numeral_append (n : Numeral) {rest : List Char} (h : NotInFront continuesWord rest) :
    Lexeme.cut? (n.text ++ rest) = some (.number n.text, rest) := by
  have hcut := n.cut?_text_append (h.mono fun c => continuesWord_of_prolongs)
  obtain ⟨c, others, htext, hword⟩ := exists_numeral_eq_cons n
  rw [htext, List.cons_append] at hcut ⊢
  rw [Lexeme.cut?, Symbol.cut?_eq_none hword, hcut]

theorem cut?_name_append {c : Char} {others rest : List Char} (hc : Lexeme.beginsName c = true)
    (hothers : ∀ d ∈ others, Lexeme.continuesName d = true) (h : NotInFront continuesWord rest) :
    Lexeme.cut? (c :: others ++ rest) = some (.name (c :: others), rest) := by
  have hrest : NotInFront Lexeme.continuesName rest :=
    h.mono fun d hd => by simp [continuesWord, hd]
  have hliteral : Number.Literal.cut? (c :: (others ++ rest)) = none := by
    refine Numeral.cut?_eq_none (isDigit_eq_false_of_beginsName hc) ?_
    rintro rfl
    exact absurd hc (by decide)
  rw [List.cons_append, Lexeme.cut?, Symbol.cut?_eq_none (continuesWord_of_beginsName hc),
    hliteral]
  dsimp only
  rw [if_pos hc, takeWhile_append_of_front hothers hrest, dropWhile_append_of_front hothers hrest]

/-! ## Scanning one piece -/

theorem trimStart_of_front {text : List Char} (h : NotInFront isBlank text) :
    trimStart text = text :=
  dropWhile_append_of_front (fun _ hc => absurd hc List.not_mem_nil) h

theorem eq_nil_of_cut?_eq_none {input : List Char} (h : Lexeme.cut? input = none) :
    input = [] := by
  fun_cases Lexeme.cut? input <;> simp_all [Lexeme.cut?]

/-- Blanks are passed over, and nothing else stands in front of the lexeme that is cut off. -/
theorem takeWhile_isBlank_append {input rest : List Char} {lexeme : Lexeme}
    (h : Lexeme.cut? (trimStart input) = some (lexeme, rest)) :
    input.takeWhile isBlank ++ (lexeme.text ++ rest) = input := by
  rw [Lexeme.cut?_append h]
  exact List.takeWhile_append_dropWhile

theorem lexemes_of_cut? {input rest : List Char} {lexeme : Lexeme}
    (h : Lexeme.cut? (trimStart input) = some (lexeme, rest)) :
    lexemes input = lexeme :: lexemes rest := by
  rw [lexemes]
  split
  · next hnone =>
    rw [h] at hnone
    cases hnone
  · next hsome =>
    rw [h] at hsome
    cases hsome
    rfl

theorem lexemes_of_cut?_eq_none {input : List Char}
    (h : Lexeme.cut? (trimStart input) = none) : lexemes input = [] := by
  rw [lexemes]
  split
  · rfl
  · next hsome =>
    rw [h] at hsome
    cases hsome

theorem lexemes_congr {input other : List Char} (h : trimStart input = trimStart other) :
    lexemes input = lexemes other := by
  cases hcut : Lexeme.cut? (trimStart other) with
  | none => rw [lexemes_of_cut?_eq_none hcut, lexemes_of_cut?_eq_none (h ▸ hcut)]
  | some found => rw [lexemes_of_cut? hcut, lexemes_of_cut? (h ▸ hcut)]

/-- One more token is scanned if its lexeme is cut off the front. -/
theorem scan_of_cut? {input rest : List Char} {lexeme : Lexeme} {token : Token}
    {after : List Token} (hfront : NotInFront isBlank input)
    (hcut : Lexeme.cut? input = some (lexeme, rest)) (htoken : Token.ofLexeme lexeme = .ok token)
    (hafter : Token.scan rest = .ok after) : Token.scan input = .ok (token :: after) := by
  rw [← trimStart_of_front hfront] at hcut
  rw [Token.scan] at hafter
  rw [Token.scan, lexemes_of_cut? hcut, List.mapM_cons, htoken, hafter]
  rfl

variable {rest : List Char} {after : List Token}

theorem scan_blanks_append {gap : List Char} (hgap : ∀ c ∈ gap, isBlank c = true)
    (hafter : Token.scan rest = .ok after) : Token.scan (gap ++ rest) = .ok after := by
  have htrim : trimStart (gap ++ rest) = trimStart rest := List.dropWhile_append_of_pos hgap
  rw [Token.scan, lexemes_congr htrim]
  exact hafter

theorem scan_spelling_append (s : Symbol) (hrest : s.EndsAt rest)
    (hafter : Token.scan rest = .ok after) :
    Token.scan (s.spelling ++ rest) = .ok (.symbol s :: after) := by
  obtain ⟨c, others, hspelling, hc⟩ := s.isBlank_head
  have hfront : NotInFront isBlank (s.spelling ++ rest) := by
    rw [hspelling]
    exact notInFront_cons.mpr hc
  exact scan_of_cut? hfront (cut?_spelling_append s hrest) rfl hafter

theorem scan_numeral_append (n : Numeral) (hrest : NotInFront continuesWord rest)
    (hafter : Token.scan rest = .ok after) :
    Token.scan (n.text ++ rest) = .ok (.number n.value.toFloat :: after) := by
  obtain ⟨c, others, htext, hword⟩ := exists_numeral_eq_cons n
  have hfront : NotInFront isBlank (n.text ++ rest) := by
    rw [htext]
    exact notInFront_cons.mpr (isBlank_eq_false_of_continuesWord hword)
  have htoken : Token.ofLexeme (.number n.text) = .ok (.number n.value.toFloat) := by
    rw [Token.ofLexeme, n.ofText?_text]
  exact scan_of_cut? hfront (cut?_numeral_append n hrest) htoken hafter

theorem scan_name_append {c : Char} {others : List Char} (hc : Lexeme.beginsName c = true)
    (hothers : ∀ d ∈ others, Lexeme.continuesName d = true)
    (hrest : NotInFront continuesWord rest) (hafter : Token.scan rest = .ok after) :
    Token.scan (c :: others ++ rest) = .ok (.name (String.ofList (c :: others)) :: after) := by
  have hfront : NotInFront isBlank (c :: others ++ rest) :=
    notInFront_cons.mpr (isBlank_eq_false_of_continuesWord (continuesWord_of_beginsName hc))
  exact scan_of_cut? hfront (cut?_name_append hc hothers hrest) rfl hafter

end Worksheet.Formula
