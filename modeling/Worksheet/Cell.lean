import Worksheet.Format

/-!
# Cells

A cell keeps what was entered, what it shows, and how it is drawn. A formula that fails shows an
error value.
-/

namespace Worksheet

/-- What a cell shows in place of a value when its formula fails. -/
inductive ErrorValue where
  | error
  | divisionByZero
deriving DecidableEq

namespace ErrorValue

/-- The text of an error value. -/
def text : ErrorValue → String
  | error => "#ERROR!"
  | divisionByZero => "#DIV/0!"

/-- The error value that a text is, if it is one. -/
def ofText? (shown : String) : Option ErrorValue :=
  [error, divisionByZero].find? (·.text == shown)

@[simp] theorem ofText?_text (value : ErrorValue) : ofText? value.text = some value := by
  cases value <;> decide

end ErrorValue

/-- Whether an input is a formula: it begins with an equals sign. -/
def isFormula (input : String) : Bool :=
  input.toList.head? == some '='

/-- One cell of a sheet. -/
structure Cell where
  /-- What the cell shows. -/
  display : String := ""
  /-- What was entered. -/
  formula : String := ""
  format : Format := {}
deriving DecidableEq

namespace Cell

/-- A cell that shows what was entered. -/
def ofText (text : String) : Cell where
  display := text
  formula := text

/-- A cell whose formula shows a value. -/
def ofFormula (formula display : String) : Cell where
  display := display
  formula := formula

/-- Whether a formula was entered. -/
def isFormula (cell : Cell) : Bool :=
  Worksheet.isFormula cell.formula

/-- The error value that the cell shows, if it shows one. -/
def errorValue? (cell : Cell) : Option ErrorValue :=
  ErrorValue.ofText? cell.display

end Cell

end Worksheet
