import Worksheet.Error

/-!
# Cell addresses

A cell is named by its column letter and its row number, as in `B12`. The number is one-based in
the text and zero-based in the address. Columns past `Z` exist as positions, but have no letter.

* `Address.read` and `Address.parse` read a name, and `Address.text` writes it.
* `Address.rowMajorLE` is the order in which a sheet is listed: by row, then by column.
-/

namespace Worksheet

/-- A position in the grid, both coordinates counted from zero. -/
structure Address where
  row : UInt32
  col : UInt16
deriving DecidableEq

namespace Address

/-- The number of columns that have a letter. -/
def letteredColumns : UInt16 := 26

/-- The letter of a column, for the columns `A` to `Z`. -/
def letter? (col : UInt16) : Option Char :=
  if col < letteredColumns then some (Char.ofNat ('A'.toNat + col.toNat)) else none

/-- The column of a letter from `A` to `Z`. -/
def columnOf (letter : Char) : UInt16 :=
  UInt16.ofNat (letter.toNat - 'A'.toNat)

/-- Reads a letter and a row number that take up the whole text. -/
def read (text : List Char) : Except AddressFault Address :=
  match text with
  | [] => .error .missingLetter
  | letter :: digits =>
    if !letter.isUpper then .error .missingLetter
    else if digits.isEmpty || !digits.all Char.isDigit then .error .malformedRow
    else
      let number := Nat.ofDigitChars 10 digits 0
      if UInt32.size ≤ number then .error .rowTooLarge
      else if number = 0 then .error .rowZero
      else .ok { row := UInt32.ofNat (number - 1), col := columnOf letter }

/-- Reads the name of a cell. -/
def parse (text : String) : Except Error Address :=
  (read text.toList).mapError (.invalidAddress · text)

/-- The cell that a text names, if it names one. -/
def parse? (text : String) : Option Address :=
  (read text.toList).toOption

/-- The characters of the row number of an address. -/
def rowDigits (row : UInt32) : List Char :=
  Nat.toDigits 10 (row.toNat + 1)

/-- The name of a position; a column without a letter is shown as `?`. -/
def text (address : Address) : String :=
  String.ofList ((letter? address.col).getD '?' :: rowDigits address.row)

/-- The name of a position, refused for a column without a letter. -/
def letteredText (row : UInt32) (col : UInt16) : Except Error String :=
  match letter? col with
  | some letter => .ok (String.ofList (letter :: rowDigits row))
  | none => .error (.columnOutOfBounds col (letteredColumns - 1))

/-- Row-major order: by row, and by column within a row. -/
def rowMajorLE (a b : Address) : Bool :=
  a.row < b.row || (a.row == b.row && a.col ≤ b.col)

end Address

end Worksheet
