import Worksheet.Address
import Worksheet.Format

/-!
# Sheet options

The size of a sheet and the format of its new cells. A position outside the size is refused, the
row before the column.
-/

namespace Worksheet

/-- The size of a sheet and the format of its new cells. -/
structure Options where
  rows : UInt32 := 50
  cols : UInt16 := Address.letteredColumns
  defaultFormat : Format := {}
deriving DecidableEq

namespace Options

/-- Sets the number of rows. -/
def setRows (options : Options) (rows : UInt32) : Options :=
  { options with rows := rows }

/-- Sets the number of columns, up to those that have a letter. -/
def setCols (options : Options) (cols : UInt16) : Options :=
  { options with cols := if cols < Address.letteredColumns then cols else Address.letteredColumns }

/-- Sets the format of new cells. -/
def setDefaultFormat (options : Options) (format : Format) : Options :=
  { options with defaultFormat := format }

/-- Refuses a position outside the sheet. -/
def check (options : Options) (address : Address) : Except Error Unit :=
  if options.rows ≤ address.row then
    .error (.rowOutOfBounds address.row (if options.rows = 0 then 0 else options.rows - 1))
  else if options.cols ≤ address.col then
    .error (.columnOutOfBounds address.col (if options.cols = 0 then 0 else options.cols - 1))
  else .ok ()

end Options

end Worksheet
