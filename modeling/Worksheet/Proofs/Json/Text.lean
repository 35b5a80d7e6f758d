import Worksheet.Json.Read
import Worksheet.Json.Write
import Worksheet.Proofs.Text.Digits

/-!
# Quoted texts

A text is read back from between its quotation marks, whatever characters it holds. What is
escaped, with a letter or with a code, comes back as the character that it stands for, and the text
ends at its own quotation mark.

* `StandsFor` relates a part of a quoted text to its character: `exists_unit_of_escapeChar` reads
  the part that a character is written as, and `assemble?_cons` puts the character back.
* `text?_escaped` and `text?_quoteText` read a whole text.
-/

namespace Worksheet

namespace Json

/-- A part of a quoted text stands for a character. Codes are used for control characters only. -/
inductive TextUnit.StandsFor : TextUnit → Char → Prop where
  | char (c : Char) : StandsFor (.char c) c
  | code {c : Char} (h : c.toNat < 0x20) : StandsFor (.code c.toNat) c

/-- The code of a control character is made of its two digits. -/
theorem code?_hexPair {n : Nat} (h : n < 0x20) :
    code? '0' '0' (Nat.digitChar (n / 16)) (Nat.digitChar (n % 16)) = some n := by
  have hzero : Text.hexValue? '0' = some 0 := by decide
  have hhigh := Text.hexValue?_digitChar (n / 16) (by omega)
  have hlow := Text.hexValue?_digitChar (n % 16) (by omega)
  have hvalue : n / 16 * 16 + n % 16 = n := by omega
  simp [code?, hzero, hhigh, hlow, hvalue]

theorem textUnits?_escaped {letter c : Char} (h : escaped? letter = some c) (rest : List Char) :
    textUnits? ('\\' :: letter :: rest) =
      (textUnits? rest).map fun (units, after) => (.char c :: units, after) := by
  have hletter : letter ≠ 'u' := by
    rintro rfl
    cases h
  rw [textUnits?]
  · rw [h]
    cases textUnits? rest <;> rfl
  · exact fun _ _ _ _ _ hu _ => absurd hu hletter

theorem textUnits?_code {n : Nat} (h : n < 0x20) (rest : List Char) :
    textUnits? (['\\', 'u', '0', '0'] ++ Text.hexPair n ++ rest) =
      (textUnits? rest).map fun (units, after) => (.code n :: units, after) := by
  simp only [Text.hexPair, List.cons_append, List.nil_append, textUnits?, code?_hexPair h]
  cases textUnits? rest <;> rfl

theorem textUnits?_cons {c : Char} (hquote : c ≠ '"') (hbackslash : c ≠ '\\')
    (hcontrol : ¬c.toNat < 0x20) (rest : List Char) :
    textUnits? (c :: rest) =
      (textUnits? rest).map fun (units, after) => (.char c :: units, after) := by
  rw [textUnits?]
  · rw [if_neg hcontrol]
    cases textUnits? rest <;> rfl
  · exact hquote
  · exact fun _ _ _ _ _ hc _ => hbackslash hc
  · exact fun _ _ hc _ => hbackslash hc

/-- A character is read back from the way it is written in a text. -/
theorem exists_unit_of_escapeChar (c : Char) :
    ∃ unit : TextUnit, unit.StandsFor c ∧ ∀ rest,
      textUnits? (escapeChar c ++ rest) =
        (textUnits? rest).map fun (units, after) => (unit :: units, after) := by
  unfold escapeChar
  split
  case h_8 hquote hbackslash _ _ _ _ _ =>
    split
    · next hcontrol => exact ⟨_, .code hcontrol, textUnits?_code hcontrol⟩
    · next hcontrol => exact ⟨_, .char c, textUnits?_cons hquote hbackslash hcontrol⟩
  all_goals exact ⟨_, .char _, textUnits?_escaped rfl⟩

/-- A part in front of others puts its character in front of theirs. -/
theorem assemble?_cons {unit : TextUnit} {c : Char} (h : unit.StandsFor c)
    (units : List TextUnit) : assemble? (unit :: units) = (assemble? units).map (c :: ·) := by
  cases h with
  | char => rw [assemble?]
  | code hcontrol =>
    have hhigh : isHighSurrogate c.toNat = false := by
      simp only [isHighSurrogate, Bool.and_eq_false_iff, decide_eq_false_iff_not]
      omega
    have hlow : isLowSurrogate c.toNat = false := by
      simp only [isLowSurrogate, Bool.and_eq_false_iff, decide_eq_false_iff_not]
      omega
    -- The code is no half of a pair, whatever follows it.
    cases units with
    | nil => simp [assemble?, hhigh, hlow, Char.ofNat_toNat]
    | cons next units =>
      cases next <;> simp [assemble?, hhigh, hlow, Char.ofNat_toNat]

/-- The characters of a text are read back up to its last quotation mark. -/
theorem textUnits?_flatMap_escapeChar (chars rest : List Char) :
    ∃ units, textUnits? (chars.flatMap escapeChar ++ '"' :: rest) = some (units, rest) ∧
      assemble? units = some chars := by
  induction chars with
  | nil => exact ⟨[], rfl, rfl⟩
  | cons c chars ih =>
    obtain ⟨units, hunits, hchars⟩ := ih
    obtain ⟨unit, hunit, hread⟩ := exists_unit_of_escapeChar c
    refine ⟨unit :: units, ?_, ?_⟩
    · rw [List.flatMap_cons, List.append_assoc, hread, hunits]
      rfl
    · rw [assemble?_cons hunit, hchars]
      rfl

/-- A text is read back from its quoted form; so is one without content. -/
theorem text?_quoteText (content : Option String) (rest : List Char) :
    ∃ body, quoteText content = '"' :: body ∧
      text? (body ++ rest) = some (content, rest) := by
  cases content with
  | none =>
    -- Half of a surrogate pair on its own spells no character.
    have hcode : code? 'd' '8' '0' '0' = some 0xD800 := by decide
    have hhigh : isHighSurrogate 0xD800 = true := by decide
    refine ⟨['\\', 'u', 'd', '8', '0', '0', '"'], by decide, ?_⟩
    simp [text?, textUnits?, hcode, assemble?, hhigh]
  | some content =>
    refine ⟨content.toList.flatMap escapeChar ++ ['"'], rfl, ?_⟩
    obtain ⟨units, hunits, hchars⟩ := textUnits?_flatMap_escapeChar content.toList rest
    rw [List.append_assoc, List.singleton_append, text?, hunits]
    simp only [Option.map_some, hchars, String.ofList_toList]

end Json

end Worksheet
