import Worksheet.Formula.Evaluate
import Worksheet.Options

/-!
# Sheets

A sheet takes one input at a time. A formula is evaluated once, when it is entered, against the
cells of that moment; a later change of the cells it names does not reach it. The format of a cell
outlives its inputs.

* `Sheet.enter` and `Sheet.enterAt` enter an input, `Sheet.changeFormat` changes a format.
* Each gives the changed cell or format beside the changed sheet, and refuses what lies outside
  the sheet.
-/

namespace Worksheet

/-- The cells of a sheet and its options. -/
structure Sheet where
  cells : Snapshot := Snapshot.empty
  options : Options := {}

namespace Sheet

/-- A sheet without cells. -/
def ofOptions (options : Options) : Sheet where
  options := options

/-- The number of cells. -/
def size (sheet : Sheet) : Nat :=
  sheet.cells.size

/-- Whether there is no cell. -/
def isEmpty (sheet : Sheet) : Bool :=
  sheet.cells.isEmpty

/-- The cell under a name, which is looked up as it stands. -/
def cell? (sheet : Sheet) (name : String) : Option Cell :=
  sheet.cells.get? name

/-- What the cell under a name shows. -/
def display? (sheet : Sheet) (name : String) : Option String :=
  (sheet.cell? name).map Cell.display

/-- The position that a text names, if it lies in the sheet. -/
def addressOf (sheet : Sheet) (name : String) : Except Error Address := do
  let address ← Address.parse name
  sheet.options.check address
  return address

/-- The format of the cell under a name; a new cell takes the default format. -/
def formatAt (sheet : Sheet) (name : String) : Format :=
  ((sheet.cells.get? name).map Cell.format).getD sheet.options.defaultFormat

/-- The cell that an input makes at a position. -/
def enteredCell (sheet : Sheet) (address : Address) (input : String) : Cell where
  display := Formula.displayOfInput input sheet.cells
  formula := input
  format := sheet.formatAt address.text

/-- Enters an input at a position. -/
def enterAt (sheet : Sheet) (address : Address) (input : String) :
    Except Error (Cell × Sheet) := do
  sheet.options.check address
  let cell := sheet.enteredCell address input
  return (cell, { sheet with cells := sheet.cells.insert address.text cell })

/-- Enters an input at the position that a text names. -/
def enter (sheet : Sheet) (name input : String) : Except Error (Cell × Sheet) := do
  let address ← sheet.addressOf name
  sheet.enterAt address input

/-- Changes the format of the cell that a text names; a cell that is not there becomes an empty
one. -/
def changeFormat (sheet : Sheet) (name : String) (change : FormatChange) :
    Except Error (Format × Sheet) := do
  let address ← sheet.addressOf name
  let cell := sheet.cells.getD address.text { format := sheet.options.defaultFormat }
  let format := cell.format.apply change
  let cells := sheet.cells.insert address.text { cell with format := format }
  return (format, { sheet with cells := cells })

end Sheet

end Worksheet
