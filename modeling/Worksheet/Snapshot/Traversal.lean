import Worksheet.Snapshot

/-!
# The cells of a range

The occupied cells of a range, in row-major order. A small range is searched position by position;
for a large one it is cheaper to pick the stored names that lie in it. Both ways find a cell only
under the name that its position is written with.

* `Snapshot.traversal` chooses the way, `Traversal.next?` is one step, and `Traversal.bounds` says
  how many cells can still come.
* `Snapshot.cellsWithin` is the list of the cells that a traversal visits.
-/

namespace Worksheet

/-- The least and the greatest number of steps that a traversal can still take. -/
structure StepBounds where
  least : Nat
  greatest : Nat
deriving DecidableEq

/-- The state of a pass over the occupied cells of a range. -/
inductive Traversal where
  /-- Looks up one position after the other. -/
  | stepwise (cells : Snapshot) (cursor : Range.Cursor)
  /-- Goes through cells that were picked and ordered beforehand. -/
  | picked (cells : List Cell)

namespace Traversal

/-- One step: the cell visited, and the rest of the traversal. -/
def next? : Traversal → Option (Cell × Traversal)
  | stepwise cells cursor =>
    (cursor.findSome? cells.getAt? cursor.remaining.toNat).map fun (cell, rest) =>
      (cell, stepwise cells rest)
  | picked [] => none
  | picked (cell :: rest) => some (cell, picked rest)

/-- How many cells can still come. -/
def bounds : Traversal → StepBounds
  | stepwise _ cursor => ⟨0, cursor.remaining.toNat⟩
  | picked cells => ⟨cells.length, cells.length⟩

/-- All cells still to come. -/
def toList : Traversal → List Cell
  | stepwise cells cursor => cursor.toList.filterMap cells.getAt?
  | picked cells => cells

end Traversal

namespace Snapshot

/-- The stored cells whose name is the written form of a position in the range, in row-major
order. -/
def pick (cells : Snapshot) (range : Range) : List Cell :=
  let found := cells.entries.filterMap fun (name, cell) =>
    match Address.parse? name with
    | some address =>
      if range.contains address && address.text == name then some (address, cell) else none
    | none => none
  (found.mergeSort fun a b => a.1.rowMajorLE b.1).map Prod.snd

/-- The traversal of a range. Positions are looked up one by one when there are no more of them
than stored cells. -/
def traversal (cells : Snapshot) (range : Range) : Traversal :=
  if range.area.toNat ≤ cells.size then .stepwise cells range.cursor
  else .picked (cells.pick range)

/-- The occupied cells of a range, in row-major order. -/
def cellsWithin (cells : Snapshot) (range : Range) : List Cell :=
  (cells.traversal range).toList

end Snapshot

end Worksheet
