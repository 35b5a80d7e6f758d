import Worksheet.Formula.Reference
import Worksheet.Proofs.Address.Spelling

/-!
# Replacing references piece by piece

What the replacement of references makes of a text that is put together from references and text
without capitals.

* `Unreferenced` says of two neighbours that no reference begins with them; `cut?_eq_none_iff` is
  the search for a reference in these terms.
* `filled` is the replacement on character lists.
* `filled_text_append` replaces a reference at the front, and `filled_append_of_not_isUpper` leaves
  everything without capitals as it stands.
-/

namespace Worksheet.Formula

open Address (Spelling)
open Text (NotInFront)

/-- A text with its references replaced by what the cells show. -/
def filled (cells : Snapshot) (text : List Char) : List Char :=
  (pieces text).flatMap (Piece.replace cells)

theorem replaceReferences_eq (input : String) (cells : Snapshot) :
    replaceReferences input cells = String.ofList (filled cells input.toList) := rfl

/-- No reference begins with a character that has another one behind it. -/
def Unreferenced (c d : Char) : Prop :=
  c.isUpper = true → d.isDigit = false

theorem cut?_eq_none_iff {c : Char} {rest : List Char} :
    Spelling.cut? (c :: rest) = none ↔ ∀ d ∈ rest.head?, Unreferenced c d := by
  cases rest with
  | nil => simp [Spelling.cut?, Text.spanDigits]
  | cons d rest =>
    by_cases hd : d.isDigit = true
    · simp [Spelling.cut?, Text.spanDigits, Unreferenced, hd]
    · simp [Spelling.cut?, Text.spanDigits, Unreferenced, hd]

/-- Text whose characters may stand in front of any others may stand in front of any text. -/
theorem isChain_append_of_forall {R : Char → Char → Prop} {text rest : List Char}
    (h : ∀ c ∈ text, ∀ d, R c d) (hrest : rest.IsChain R) : (text ++ rest).IsChain R := by
  induction text with
  | nil => exact hrest
  | cons c text ih =>
    rw [List.forall_mem_cons] at h
    exact List.isChain_cons.mpr ⟨fun d _ => h.1 d, ih h.2⟩

theorem pieces_of_cut? {text rest : List Char} {spelling : Spelling}
    (h : Spelling.cut? text = some (spelling, rest)) :
    pieces text = .address spelling :: pieces rest := by
  cases text with
  | nil => cases h
  | cons c others =>
    rw [pieces]
    split
    · next hsome =>
      rw [h] at hsome
      cases hsome
      rfl
    · next hnone =>
      rw [h] at hnone
      cases hnone

theorem pieces_of_cut?_eq_none {c : Char} {rest : List Char}
    (h : Spelling.cut? (c :: rest) = none) :
    pieces (c :: rest) = Piece.attach c (pieces rest) := by
  rw [pieces]
  split
  · next hsome =>
    rw [h] at hsome
    cases hsome
  · rfl

theorem replace_attach (cells : Snapshot) (c : Char) (rest : List Piece) :
    (Piece.attach c rest).flatMap (Piece.replace cells) =
      c :: rest.flatMap (Piece.replace cells) := by
  fun_cases Piece.attach c rest <;> simp [Piece.replace]

variable {cells : Snapshot} {rest : List Char}

theorem filled_nil : filled cells [] = [] := by
  rw [filled, pieces]
  rfl

/-- A reference at the front is replaced, with all its digits. -/
theorem filled_text_append {spelling : Spelling} (h : spelling.Proper)
    (hrest : NotInFront Char.isDigit rest) :
    filled cells (spelling.text ++ rest) =
      (replacement cells (String.ofList spelling.text)).toList ++ filled cells rest := by
  rw [filled, pieces_of_cut? (Spelling.cut?_text_append h hrest)]
  rfl

theorem filled_cons_of_cut?_eq_none {c : Char} (h : Spelling.cut? (c :: rest) = none) :
    filled cells (c :: rest) = c :: filled cells rest := by
  rw [filled, pieces_of_cut?_eq_none h, replace_attach]
  rfl

theorem filled_cons_of_not_isUpper {c : Char} (h : c.isUpper = false) :
    filled cells (c :: rest) = c :: filled cells rest := by
  have hcut : Spelling.cut? (c :: rest) = none := by
    refine cut?_eq_none_iff.mpr fun d _ hupper => ?_
    rw [h] at hupper
    cases hupper
  exact filled_cons_of_cut?_eq_none hcut

/-- Text without capitals stays as it stands. -/
theorem filled_append_of_not_isUpper {text : List Char} (h : ∀ c ∈ text, c.isUpper = false) :
    filled cells (text ++ rest) = text ++ filled cells rest := by
  induction text with
  | nil => rfl
  | cons c text ih =>
    rw [List.forall_mem_cons] at h
    rw [List.cons_append, filled_cons_of_not_isUpper h.1, ih h.2, List.cons_append]

end Worksheet.Formula
