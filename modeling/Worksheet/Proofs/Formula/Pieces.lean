import Worksheet.Proofs.Formula.Reference

/-!
# The pieces of a text

There is one way to split a text into references and the text between them, and `pieces` finds it.
So the replacement of references can be made part by part, wherever a text is cut in front of
anything but a digit.

* `Splits` says what the pieces of a text are, without a search. `splits_cons_iff` takes the first
  piece off, so that the two directions of `pieces_eq_iff` follow the pieces.
* `splits_pieces` goes along the search, and `Splits.pieces_eq` along the pieces.
* `filled_append` puts the replacement of two texts together. What is put in place of a reference
  is not searched (`filled_append_text_append`).
-/

namespace Worksheet.Formula

open Address (Spelling)
open Text (NotInFront)

/-! ## The one way to split a text -/

/-- Whether a piece is a reference. -/
def Piece.IsReference (piece : Piece) : Prop :=
  ∃ spelling, piece = .address spelling

/-- The pieces of a text: references, each as long as it can be, and the text between them. -/
structure Splits (text : List Char) (parts : List Piece) : Prop where
  /-- The pieces make up the text. -/
  flatten : parts.flatMap Piece.text = text
  text_ne_nil : ∀ piece ∈ parts, piece.text ≠ []
  /-- A reference is a capital letter and digits. -/
  proper : ∀ spelling, Piece.address spelling ∈ parts → spelling.Proper
  /-- No digit follows a reference. -/
  whole : ∀ before spelling after, parts = before ++ .address spelling :: after →
    NotInFront Char.isDigit (after.flatMap Piece.text)
  /-- Between references no capital letter stands in front of a digit. -/
  unreferenced : ∀ other, Piece.other other ∈ parts → other.IsChain Unreferenced
  /-- Of two neighbours one is a reference. -/
  apart : parts.IsChain fun piece next => piece.IsReference ∨ next.IsReference

/-- What is asked of a piece in front of others, which make up the rest of a text. -/
structure Piece.Fits (piece : Piece) (parts : List Piece) (rest : List Char) : Prop where
  text_ne_nil : piece.text ≠ []
  proper : ∀ spelling, piece = .address spelling → spelling.Proper
  whole : ∀ spelling, piece = .address spelling → NotInFront Char.isDigit rest
  unreferenced : ∀ other, piece = .other other → other.IsChain Unreferenced
  apart : ∀ next ∈ parts.head?, piece.IsReference ∨ next.IsReference

section

variable {text rest : List Char} {parts : List Piece} {piece : Piece}

theorem splits_nil_iff : Splits text [] ↔ text = [] := by
  constructor
  · exact fun h => h.flatten.symm
  · rintro rfl
    exact ⟨rfl, by simp, by simp, by simp, by simp, .nil⟩

theorem Splits.tail (h : Splits text (piece :: parts)) :
    Splits (parts.flatMap Piece.text) parts where
  flatten := rfl
  text_ne_nil other hother := h.text_ne_nil other (List.mem_cons_of_mem _ hother)
  proper spelling hspelling := h.proper spelling (List.mem_cons_of_mem _ hspelling)
  whole before spelling after heq := h.whole (piece :: before) spelling after (by rw [heq]; rfl)
  unreferenced other hother := h.unreferenced other (List.mem_cons_of_mem _ hother)
  apart := h.apart.tail

theorem Splits.fits (h : Splits text (piece :: parts)) :
    piece.Fits parts (parts.flatMap Piece.text) where
  text_ne_nil := h.text_ne_nil piece List.mem_cons_self
  proper spelling heq := h.proper spelling (heq ▸ List.mem_cons_self)
  whole spelling heq := h.whole [] spelling parts (by rw [heq]; rfl)
  unreferenced other heq := h.unreferenced other (heq ▸ List.mem_cons_self)
  apart := (List.isChain_cons.mp h.apart).1

theorem Splits.cons (h : Splits rest parts) (hfits : piece.Fits parts rest) :
    Splits (piece.text ++ rest) (piece :: parts) where
  flatten := by rw [List.flatMap_cons, h.flatten]
  text_ne_nil := List.forall_mem_cons.mpr ⟨hfits.text_ne_nil, h.text_ne_nil⟩
  proper spelling hmem := by
    obtain heq | htail := List.mem_cons.mp hmem
    · exact hfits.proper spelling heq.symm
    · exact h.proper spelling htail
  whole before spelling after heq := by
    cases before with
    | nil =>
      obtain ⟨hpiece, rfl⟩ := List.cons.inj heq
      rw [h.flatten]
      exact hfits.whole spelling hpiece
    | cons first others => exact h.whole others spelling after (List.cons.inj heq).2
  unreferenced other hmem := by
    obtain heq | htail := List.mem_cons.mp hmem
    · exact hfits.unreferenced other heq.symm
    · exact h.unreferenced other htail
  apart := List.isChain_cons.mpr ⟨hfits.apart, h.apart⟩

/-- The first piece is cut off the front of the text, and the others split the rest. -/
theorem splits_cons_iff :
    Splits text (piece :: parts) ↔
      ∃ rest, text = piece.text ++ rest ∧ Splits rest parts ∧ piece.Fits parts rest := by
  constructor
  · intro h
    exact ⟨_, by rw [← h.flatten, List.flatMap_cons], h.tail, h.fits⟩
  · rintro ⟨rest, rfl, hrest, hfits⟩
    exact hrest.cons hfits

theorem fits_address {spelling : Spelling} (hproper : spelling.Proper)
    (hrest : NotInFront Char.isDigit rest) : (Piece.address spelling).Fits parts rest where
  text_ne_nil := List.cons_ne_nil _ _
  proper found heq := Piece.address.inj heq ▸ hproper
  whole _ _ := hrest
  unreferenced other heq := by cases heq
  apart _ _ := Or.inl ⟨spelling, rfl⟩

theorem fits_other (hne : text ≠ []) (htext : text.IsChain Unreferenced)
    (hnext : ∀ next ∈ parts.head?, next.IsReference) : (Piece.other text).Fits parts rest where
  text_ne_nil := hne
  proper spelling heq := by cases heq
  whole spelling heq := by cases heq
  unreferenced other heq := Piece.other.inj heq ▸ htext
  apart next hmem := Or.inr (hnext next hmem)

theorem Piece.Fits.head?_isReference (h : (Piece.other text).Fits parts rest) :
    ∀ next ∈ parts.head?, next.IsReference := by
  intro next hnext
  obtain ⟨_, heq⟩ | hreference := h.apart next hnext
  · cases heq
  · exact hreference

/-- Pieces with a reference in front, or none at all, make up a text without a digit in front. -/
theorem Splits.notInFront_isDigit (h : Splits text parts)
    (hreference : ∀ next ∈ parts.head?, next.IsReference) : NotInFront Char.isDigit text := by
  cases parts with
  | nil =>
    rw [splits_nil_iff.mp h]
    exact Text.notInFront_nil
  | cons piece parts =>
    obtain ⟨spelling, rfl⟩ := hreference piece rfl
    obtain ⟨rest, rfl, -, hfits⟩ := splits_cons_iff.mp h
    exact Text.notInFront_cons.mpr
      (Text.isDigit_eq_false_of_isUpper (hfits.proper spelling rfl).isUpper_letter)

/-! ## What the search finds -/

/-- A character in front of which nothing is cut off joins the text behind it, or stands alone. -/
theorem Splits.attach {c : Char} (h : Splits rest parts)
    (hc : ∀ d ∈ rest.head?, Unreferenced c d) :
    Splits (c :: rest) (Piece.attach c parts) := by
  cases parts with
  | nil =>
    exact h.cons (fits_other (List.cons_ne_nil c []) (.singleton c) (by simp))
  | cons piece parts =>
    cases piece with
    | address spelling =>
      refine h.cons (fits_other (List.cons_ne_nil c []) (.singleton c) ?_)
      rintro next ⟨⟩
      exact ⟨spelling, rfl⟩
    | other text =>
      obtain ⟨behind, rfl, hbehind, hfits⟩ := splits_cons_iff.mp h
      have hchain : (c :: text).IsChain Unreferenced := by
        refine List.isChain_cons.mpr ⟨fun d hd => hc d ?_, hfits.unreferenced text rfl⟩
        rwa [List.head?_append_of_ne_nil _ hfits.text_ne_nil]
      exact hbehind.cons (fits_other (List.cons_ne_nil c text) hchain hfits.head?_isReference)

theorem splits_pieces (text : List Char) : Splits text (pieces text) := by
  induction text using pieces.induct with
  | case1 =>
    rw [pieces]
    exact splits_nil_iff.mpr rfl
  | case2 c rest spelling after hcut ih =>
    obtain ⟨hproper, hafter, htext⟩ := Spelling.cut?_eq_some_iff.mp hcut
    rw [pieces_of_cut? hcut, htext]
    exact ih.cons (fits_address hproper hafter)
  | case3 c rest hcut ih =>
    rw [pieces_of_cut?_eq_none hcut]
    exact ih.attach (cut?_eq_none_iff.mp hcut)

/-- Text without references in front of a reference is found as one piece. -/
theorem pieces_append_of_unreferenced (hne : text ≠ []) (htext : text.IsChain Unreferenced)
    (hrest : Splits rest parts) (hnext : ∀ next ∈ parts.head?, next.IsReference)
    (hpieces : pieces rest = parts) : pieces (text ++ rest) = .other text :: parts := by
  induction text with
  | nil => exact absurd rfl hne
  | cons c text ih =>
    obtain ⟨hfirst, hothers⟩ := List.isChain_cons.mp htext
    cases text with
    | nil =>
      have hcut : Spelling.cut? (c :: rest) = none := by
        refine cut?_eq_none_iff.mpr fun d hd _ => ?_
        exact hrest.notInFront_isDigit hnext d hd
      rw [List.singleton_append, pieces_of_cut?_eq_none hcut, hpieces]
      cases parts with
      | nil => rfl
      | cons next parts =>
        obtain ⟨spelling, rfl⟩ := hnext next rfl
        rfl
    | cons d text =>
      have hcut : Spelling.cut? (c :: (d :: text ++ rest)) = none :=
        cut?_eq_none_iff.mpr hfirst
      rw [List.cons_append, pieces_of_cut?_eq_none hcut, ih (List.cons_ne_nil d text) hothers]
      rfl

theorem Splits.pieces_eq (h : Splits text parts) : pieces text = parts := by
  induction parts generalizing text with
  | nil =>
    rw [splits_nil_iff.mp h, pieces]
  | cons piece parts ih =>
    obtain ⟨rest, rfl, hrest, hfits⟩ := splits_cons_iff.mp h
    cases piece with
    | address spelling =>
      have hcut := Spelling.cut?_text_append (hfits.proper spelling rfl) (hfits.whole spelling rfl)
      rw [Piece.text, pieces_of_cut? hcut, ih hrest]
    | other text =>
      exact pieces_append_of_unreferenced hfits.text_ne_nil (hfits.unreferenced text rfl) hrest
        hfits.head?_isReference (ih hrest)

theorem pieces_eq_iff : pieces text = parts ↔ Splits text parts := by
  constructor
  · rintro rfl
    exact splits_pieces text
  · exact Splits.pieces_eq

end

/-! ## Replacement part by part -/

variable {cells : Snapshot} {front behind : List Char}

/-- Texts are replaced one by one unless the second continues the digits of the first. -/
theorem filled_append (hbehind : NotInFront Char.isDigit behind) :
    filled cells (front ++ behind) = filled cells front ++ filled cells behind := by
  induction front using pieces.induct with
  | case1 => rw [filled_nil, List.nil_append, List.nil_append]
  | case2 c rest spelling after hcut ih =>
    obtain ⟨hproper, hafter, htext⟩ := Spelling.cut?_eq_some_iff.mp hcut
    rw [htext, filled_text_append hproper hafter, List.append_assoc,
      filled_text_append hproper (hafter.append hbehind), ih, List.append_assoc]
  | case3 c rest hcut ih =>
    have hcutBoth : Spelling.cut? (c :: (rest ++ behind)) = none := by
      refine cut?_eq_none_iff.mpr fun d hd => ?_
      cases rest with
      | nil => exact fun _ => hbehind d hd
      | cons e rest => exact cut?_eq_none_iff.mp hcut d hd
    rw [List.cons_append, filled_cons_of_cut?_eq_none hcutBoth, filled_cons_of_cut?_eq_none hcut,
      ih, List.cons_append]

/-- A reference is replaced where it stands, and what is put in its place is not searched. -/
theorem filled_append_text_append {spelling : Spelling} (h : spelling.Proper)
    (hbehind : NotInFront Char.isDigit behind) :
    filled cells (front ++ (spelling.text ++ behind)) =
      filled cells front ++
        ((replacement cells (String.ofList spelling.text)).toList ++ filled cells behind) := by
  have hletter : NotInFront Char.isDigit (spelling.text ++ behind) :=
    Text.notInFront_cons.mpr (Text.isDigit_eq_false_of_isUpper h.isUpper_letter)
  rw [filled_append hletter, filled_text_append h hbehind]

end Worksheet.Formula
