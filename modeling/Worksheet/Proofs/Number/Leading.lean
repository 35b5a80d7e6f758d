import Worksheet.Proofs.Number.Signed
import Worksheet.Proofs.Number.Text

/-!
# Numbers at the front of a text

A number is found at the front of every text that does not prolong it, and nothing of it is left
unread. This is so in particular for the numbers that are shown.

* `cutLeading?` is the number at the front of a text together with what follows it, and
  `leading?_eq` says that the number is the one that a cell counts as.
* `Signed.cutLeading?_append` cuts a number with its sign off a text, and `cutLeading?_text` is the
  case of a shown number that stands alone.
-/

namespace Worksheet.Number

open Text (NotInFront isBlank spanSign)

/-! ## What follows the number at the front -/

/-- The unsigned number at the front of a text, and what follows it. -/
def cutMagnitude? (text : List Char) : Option (Float × List Char) :=
  if infinityWord.isPrefixOf text then some (infinity, text.drop infinityWord.length)
  else
    match Literal.cut? text with
    | some (literal, rest) => (ofText? literal).map fun x => (x, rest)
    | none => none

/-- The number at the front of a text, behind blanks and an optional sign, and what follows it. -/
def cutLeading? (text : List Char) : Option (Float × List Char) :=
  match Text.trimStart text with
  | '-' :: rest => (cutMagnitude? rest).map fun cut => (-cut.1, cut.2)
  | '+' :: rest => cutMagnitude? rest
  | rest => cutMagnitude? rest

theorem magnitude?_eq (text : List Char) :
    magnitude? text = (cutMagnitude? text).map Prod.fst := by
  unfold magnitude? cutMagnitude?
  split
  · rfl
  · cases Literal.cut? text with
    | none => rfl
    | some cut =>
      show ofText? cut.1 = ((ofText? cut.1).map fun x => (x, cut.2)).map Prod.fst
      rw [Option.map_map]
      exact Option.map_id'.symm

theorem cutLeading?_of_unsigned {text : List Char}
    (hminus : ∀ rest, Text.trimStart text ≠ '-' :: rest)
    (hplus : ∀ rest, Text.trimStart text ≠ '+' :: rest) :
    cutLeading? text = cutMagnitude? (Text.trimStart text) := by
  unfold cutLeading?
  split
  · next rest hfront => exact absurd hfront (hminus rest)
  · next rest hfront => exact absurd hfront (hplus rest)
  · rfl

theorem leading?_eq (text : String) :
    leading? text = (cutLeading? text.toList).map Prod.fst := by
  unfold leading?
  split
  · next rest hfront =>
    simp only [cutLeading?, hfront, magnitude?_eq, Option.map_map]
    rfl
  · next rest hfront => simp only [cutLeading?, hfront, magnitude?_eq]
  · next hminus hplus =>
    rw [magnitude?_eq, cutLeading?_of_unsigned hminus hplus]

theorem map_withSign_of_ne {sign : List Char} (h : sign ≠ ['-'])
    (cut? : Option (Float × List Char)) :
    (cut?.map fun cut => (withSign sign cut.1, cut.2)) = cut? := by
  have hsame : (fun cut : Float × List Char => (withSign sign cut.1, cut.2)) = id := by
    funext cut
    rw [withSign, if_neg h]
    rfl
  rw [hsame, Option.map_id, id]

/-- The sign is split off first, and put on the number that is found behind it. -/
theorem cutLeading?_eq (text : List Char) :
    cutLeading? text = (cutMagnitude? (spanSign (Text.trimStart text)).2).map fun cut =>
      (withSign (spanSign (Text.trimStart text)).1 cut.1, cut.2) := by
  unfold cutLeading?
  split
  · next rest hfront =>
    rw [hfront]
    rfl
  · next rest hfront =>
    rw [hfront]
    exact (@map_withSign_of_ne ['+'] (by decide) _).symm
  · next hminus hplus =>
    have hspan : spanSign (Text.trimStart text) = ([], Text.trimStart text) := by
      unfold spanSign
      split
      · next rest hfront => exact absurd hfront (hplus rest)
      · next rest hfront => exact absurd hfront (hminus rest)
      · rfl
    rw [hspan]
    exact (@map_withSign_of_ne [] (by decide) _).symm

/-! ## Cutting a number off -/

variable {rest : List Char} {x : Float}

theorem cutMagnitude?_of_cut? {literal : List Char} {first : Char} {others : List Char}
    (hfirst : first ≠ 'I') (hcut : Literal.cut? (first :: others) = some (literal, rest)) :
    cutMagnitude? (first :: others) = (ofText? literal).map fun x => (x, rest) := by
  have hfront : ('I' == first) = false := beq_eq_false_iff_ne.mpr hfirst.symm
  have hword : infinityWord.isPrefixOf (first :: others) = false := by
    have hletters : infinityWord = 'I' :: "nfinity".toList := rfl
    rw [hletters, List.isPrefixOf, hfront, Bool.false_and]
  simp only [cutMagnitude?, hword, hcut, Bool.false_eq_true, if_false]

theorem Unsigned.cutMagnitude?_append (m : Unsigned) (hrest : NotInFront Numeral.prolongs rest) :
    cutMagnitude? (m.text ++ rest) = some (m.value, rest) := by
  cases m with
  | numeral n =>
    obtain ⟨c, others, htext, hc⟩ := n.exists_text_eq_cons
    have hfirst : c ≠ 'I' := by
      rcases hc with hdigit | rfl
      · exact Text.ne_of_isDigit hdigit (by decide)
      · decide
    have hcut := n.cut?_text_append hrest
    have hread := n.ofText?_text
    rw [htext, List.cons_append] at hcut
    rw [htext] at hread
    rw [Unsigned.text, htext, List.cons_append, cutMagnitude?_of_cut? hfirst hcut, hread]
    rfl
  | infinity =>
    have hword : infinityWord.isPrefixOf (infinityWord ++ rest) = true := by
      rw [List.isPrefixOf_iff_prefix]
      exact List.prefix_append _ _
    rw [Unsigned.text, cutMagnitude?, if_pos hword, List.drop_left]
    rfl

/-- A number is cut off whole, with its sign and the blanks in front of it. -/
theorem Signed.cutLeading?_append (s : Signed) {blanks : List Char}
    (hblanks : ∀ c ∈ blanks, isBlank c = true) (hrest : NotInFront Numeral.prolongs rest) :
    cutLeading? (blanks ++ (s.text ++ rest)) = some (s.value, rest) := by
  rw [cutLeading?_eq, s.trimStart_append hblanks, s.spanSign_text_append,
    s.magnitude.cutMagnitude?_append hrest]
  rfl

/-! ## Shown numbers -/

theorem Denotes.exists_unsigned {magnitude : List Char} (h : Denotes magnitude x) :
    ∃ m : Unsigned, m.text = magnitude ∧ m.value = x := by
  cases h with
  | numeral n hmark => exact ⟨.numeral n, rfl, rfl⟩
  | infinity => exact ⟨.infinity, rfl, rfl⟩

/-- The text of a number is that number with a minus sign or without a sign. -/
theorem exists_signed_text (h : x ≠ notANumber) :
    ∃ s : Signed, s.text = (text x).toList ∧ s.value = readBack x := by
  obtain ⟨magnitude, y, hdenotes, -, hshown⟩ := exists_denotes_text h
  obtain ⟨m, rfl, rfl⟩ := hdenotes.exists_unsigned
  rcases hshown with ⟨htext, hvalue⟩ | ⟨htext, hvalue⟩
  · exact ⟨⟨[], m, Or.inl rfl⟩, htext.symm, hvalue.symm⟩
  · exact ⟨⟨['-'], m, Or.inr (Or.inr rfl)⟩, htext.symm, hvalue.symm⟩

/-- A shown number is cut off whole, and what is no number is not taken for one. -/
theorem cutLeading?_text (x : Float) :
    cutLeading? (text x).toList = if x.isNaN then none else some (readBack x, []) := by
  by_cases h : x = notANumber
  · rw [if_pos (isNaN_iff_eq.mpr h), h]
    rfl
  · rw [if_neg fun hnan => h (isNaN_iff_eq.mp hnan)]
    obtain ⟨s, htext, hvalue⟩ := exists_signed_text h
    have hcut := s.cutLeading?_append (fun _ hc => absurd hc List.not_mem_nil) Text.notInFront_nil
    rwa [List.nil_append, List.append_nil, htext, hvalue] at hcut

end Worksheet.Number
