import Worksheet.Address.Spelling
import Worksheet.Snapshot

/-!
# References in arithmetic

Arithmetic names cells: a capital letter directly followed by digits is a reference, wherever it
stands and as far as the digits go. Before the arithmetic is read, each reference is replaced by
what the cell shows.

* `pieces` splits a text into references and what is between them; `pieces_flatten` says that the
  pieces make up the text.
* `replaceReferences` replaces the references. The texts put in place are not searched again.
-/

namespace Worksheet.Formula

open Address (Spelling)

/-- A part of a text: a reference, or text without references. -/
inductive Piece where
  | address (spelling : Spelling)
  | other (text : List Char)
deriving DecidableEq

/-- The characters of a piece. -/
def Piece.text : Piece → List Char
  | address spelling => spelling.text
  | other text => text

/-- Puts a character in front of the pieces, into the first one if that is no reference. -/
def Piece.attach (c : Char) : List Piece → List Piece
  | .other text :: rest => .other (c :: text) :: rest
  | rest => .other [c] :: rest

/-- Splits a text into references and the text between them. -/
def pieces : List Char → List Piece
  | [] => []
  | c :: rest =>
    match _hcut : Spelling.cut? (c :: rest) with
    | some (spelling, after) => .address spelling :: pieces after
    | none => Piece.attach c (pieces rest)
termination_by text => text.length
decreasing_by
  · exact Spelling.length_lt_of_cut? _hcut
  · simp

theorem Piece.attach_flatten (c : Char) (rest : List Piece) :
    (attach c rest).flatMap text = c :: rest.flatMap text := by
  fun_cases attach c rest <;> simp [text]

theorem pieces_flatten (input : List Char) : (pieces input).flatMap Piece.text = input := by
  fun_induction pieces input with
  | case1 => rfl
  | case2 c rest spelling after hcut ih =>
    simp only [List.flatMap_cons, Piece.text, ih]
    exact Spelling.cut?_append hcut
  | case3 c rest _ ih => rw [Piece.attach_flatten, ih]

/-- What stands for a reference to a cell that shows nothing. -/
def blankReplacement : String := "0"

/-- What a reference is replaced by: what the cell of that very name shows. -/
def replacement (cells : Snapshot) (name : String) : String :=
  match cells.get? name with
  | some cell => if cell.display = "" then blankReplacement else cell.display
  | none => blankReplacement

/-- A piece after the replacement of references. -/
def Piece.replace (cells : Snapshot) : Piece → List Char
  | address spelling => (replacement cells (String.ofList spelling.text)).toList
  | other text => text

/-- Replaces the references of a text by what the cells show. -/
def replaceReferences (input : String) (cells : Snapshot) : String :=
  String.ofList ((pieces input.toList).flatMap (Piece.replace cells))

end Worksheet.Formula
