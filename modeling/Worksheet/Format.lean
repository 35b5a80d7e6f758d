import Worksheet.Color

/-!
# Cell formats

A format is how a cell is drawn; evaluation never reads it. A change of format sets some
of its five attributes and leaves the others alone.
-/

namespace Worksheet

/-- How a cell is drawn. -/
structure Format where
  bold : Bool := false
  italic : Bool := false
  fontSize : UInt16 := 14
  color : Color := Color.black
  backgroundColor : Color := Color.white
deriving DecidableEq

/-- A change of some attributes of a format. -/
structure FormatChange where
  bold : Option Bool := none
  italic : Option Bool := none
  fontSize : Option UInt16 := none
  color : Option Color := none
  backgroundColor : Option Color := none
deriving DecidableEq

/-- The format with the attributes of the change put in place. -/
def Format.apply (format : Format) (change : FormatChange) : Format where
  bold := change.bold.getD format.bold
  italic := change.italic.getD format.italic
  fontSize := change.fontSize.getD format.fontSize
  color := change.color.getD format.color
  backgroundColor := change.backgroundColor.getD format.backgroundColor

@[simp] theorem Format.apply_empty (format : Format) : format.apply {} = format := rfl

end Worksheet
