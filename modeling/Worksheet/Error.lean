/-!
# Rejected input

The causes for which a sheet rejects an address, a range, a color or a position, and the message
of each cause. The wording is written in `Error.message` only.
-/

namespace Worksheet

/-- Why a text names no cell. -/
inductive AddressFault where
  /-- The text does not begin with a letter from `A` to `Z`. -/
  | missingLetter
  /-- The letter is not followed by decimal digits alone. -/
  | malformedRow
  /-- The row number does not fit in thirty-two bits. -/
  | rowTooLarge
  /-- The row number is zero. -/
  | rowZero
deriving DecidableEq

/-- Why a text names no rectangle of cells. -/
inductive RangeFault where
  /-- No colon divides the text. -/
  | missingColon
  /-- One of the two corners, written `corner`, names no cell. -/
  | malformedCorner (fault : AddressFault) (corner : String)
deriving DecidableEq

/-- The cause for which a sheet rejects its input. -/
inductive Error where
  | invalidAddress (fault : AddressFault) (text : String)
  | invalidRange (fault : RangeFault) (text : String)
  | rowOutOfBounds (row greatest : UInt32)
  | columnOutOfBounds (col greatest : UInt16)
  | invalidColor (text : String)
deriving DecidableEq

/-- The message for a text that names no cell. -/
def AddressFault.message (fault : AddressFault) (text : String) : String :=
  "Invalid cell address: " ++
    match fault with
    | .missingLetter => "expected a column letter A-Z in '" ++ text ++ "'"
    | .malformedRow => "invalid row number in '" ++ text ++ "'"
    | .rowTooLarge => "row number too large in '" ++ text ++ "'"
    | .rowZero => "row number must be >= 1 in '" ++ text ++ "'"

/-- The message for a text that names no rectangle. -/
def RangeFault.message (fault : RangeFault) (text : String) : String :=
  "Invalid cell range: " ++
    match fault with
    | .missingColon => "missing ':' in '" ++ text ++ "'"
    | .malformedCorner fault corner => fault.message corner

/-- The message of an error. -/
def Error.message : Error → String
  | .invalidAddress fault text => fault.message text
  | .invalidRange fault text => fault.message text
  | .rowOutOfBounds row greatest =>
    "Row index " ++ toString row.toNat ++ " out of bounds (max: " ++ toString greatest.toNat ++ ")"
  | .columnOutOfBounds col greatest =>
    "Column index " ++ toString col.toNat ++ " out of bounds (max: " ++ toString greatest.toNat ++
      ")"
  | .invalidColor text => "Invalid color: " ++ text

end Worksheet
