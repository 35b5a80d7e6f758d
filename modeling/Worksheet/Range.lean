import Worksheet.Address

/-!
# Rectangular ranges

A range is given by two corners and holds the positions between them on both axes. A range whose
corners are reversed on either axis holds nothing.

* `Range.contains` is the membership test and `Range.area` the number of positions.
* `Range.Cursor` walks a range row by row; `Cursor.next?` is one step and `Cursor.remaining` the
  exact number of steps to come.

Areas and remaining counts are sixty-four bits wide: a full range has `2 ^ 48` positions.
-/

namespace Worksheet

/-- The rectangle between two corners. -/
structure Range where
  start : Address
  stop : Address
deriving DecidableEq

namespace Range

/-- Reads two cell names joined by a colon. -/
def parse (text : String) : Except Error Range :=
  let first := text.toList.takeWhile (· != ':')
  match text.toList.dropWhile (· != ':') with
  | [] => .error (.invalidRange .missingColon text)
  | _ :: second => do
    let corner := fun (name : List Char) =>
      (Address.read name).mapError fun fault =>
        Error.invalidRange (.malformedCorner fault (String.ofList name)) text
    let start ← corner first
    let stop ← corner second
    return { start, stop }

/-- The names of the two corners, joined by a colon. -/
def text (range : Range) : String :=
  range.start.text ++ ":" ++ range.stop.text

/-- Whether the corners are reversed on some axis, so that the range holds nothing. -/
def isEmpty (range : Range) : Bool :=
  range.start.row > range.stop.row || range.start.col > range.stop.col

/-- The number of positions in the range. -/
def area (range : Range) : UInt64 :=
  if range.isEmpty then 0
  else
    let rows := range.stop.row.toUInt64 - range.start.row.toUInt64 + 1
    let cols := range.stop.col.toUInt64 - range.start.col.toUInt64 + 1
    rows * cols

/-- Whether a position lies in the range. -/
def contains (range : Range) (address : Address) : Bool :=
  address.row ≥ range.start.row && address.row ≤ range.stop.row &&
    address.col ≥ range.start.col && address.col ≤ range.stop.col

/-- The position after `address` in row-major order, unless `address` is the last corner. -/
def successor? (range : Range) (address : Address) : Option Address :=
  if address.col < range.stop.col then some { address with col := address.col + 1 }
  else if address.row < range.stop.row then
    some { row := address.row + 1, col := range.start.col }
  else none

/-- A place in the row-by-row walk of a range. -/
structure Cursor where
  range : Range
  /-- The position to be visited next, unless the walk is over. -/
  position : Option Address
deriving DecidableEq

/-- The start of the walk. -/
def cursor (range : Range) : Cursor where
  range := range
  position := if range.isEmpty then none else some range.start

namespace Cursor

/-- One step: the position visited, and the rest of the walk. -/
def next? (cursor : Cursor) : Option (Address × Cursor) :=
  cursor.position.map fun address =>
    (address, { cursor with position := cursor.range.successor? address })

/-- The number of positions still to be visited. -/
def remaining (cursor : Cursor) : UInt64 :=
  match cursor.position with
  | none => 0
  | some address =>
    let width := (cursor.range.stop.col - cursor.range.start.col).toUInt64 + 1
    let rowsAfter := (cursor.range.stop.row - address.row).toUInt64
    let inRow := (cursor.range.stop.col - address.col).toUInt64 + 1
    rowsAfter * width + inRow

/-- The next `count` positions, or fewer when the walk ends first. -/
def take : (count : Nat) → Cursor → List Address
  | 0, _ => []
  | count + 1, cursor =>
    match cursor.next? with
    | none => []
    | some (address, rest) => address :: take count rest

/-- All positions still to be visited. -/
def toList (cursor : Cursor) : List Address :=
  cursor.take cursor.remaining.toNat

/-- Walks on to the first of the next `count` positions that `f` accepts. -/
def findSome? {α : Type} (f : Address → Option α) :
    (count : Nat) → Cursor → Option (α × Cursor)
  | 0, _ => none
  | count + 1, cursor =>
    match cursor.next? with
    | none => none
    | some (address, rest) =>
      match f address with
      | some found => some (found, rest)
      | none => findSome? f count rest

end Cursor

end Range

end Worksheet
