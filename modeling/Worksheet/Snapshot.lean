import Worksheet.Cell
import Worksheet.Range

/-!
# Snapshots

A snapshot holds the occupied cells of a sheet under their names. A name is a plain text: it is
looked up as it stands, so `A1` and `A01` are two names although they spell one address.

* `get?_insert` and `get?_erase` say what each change does to the look-up.
* `sorted` lists the cells whose name is an address, in row-major order.
-/

namespace Worksheet

/-- The occupied cells, each under a name of its own. -/
structure Snapshot where
  entries : List (String × Cell)
  nodup : (entries.map Prod.fst).Nodup

namespace Snapshot

/-- The snapshot without cells. -/
def empty : Snapshot where
  entries := []
  nodup := List.nodup_nil

/-- The cell under a name. -/
def get? (cells : Snapshot) (name : String) : Option Cell :=
  (cells.entries.find? (·.1 == name)).map Prod.snd

/-- The cell at a position, under the name that the position is written with. -/
def getAt? (cells : Snapshot) (address : Address) : Option Cell :=
  cells.get? address.text

/-- Whether a name is occupied. -/
def contains (cells : Snapshot) (name : String) : Bool :=
  (cells.get? name).isSome

/-- The number of cells. -/
def size (cells : Snapshot) : Nat :=
  cells.entries.length

/-- Whether there is no cell. -/
def isEmpty (cells : Snapshot) : Bool :=
  cells.entries.isEmpty

/-- Removes the cell under a name. -/
def erase (cells : Snapshot) (name : String) : Snapshot where
  entries := cells.entries.filter (·.1 != name)
  nodup := cells.nodup.sublist (List.filter_sublist.map Prod.fst)

theorem not_mem_erase (cells : Snapshot) (name : String) :
    name ∉ (cells.erase name).entries.map Prod.fst := by
  simp [erase]

/-- Puts a cell under a name, in place of the one that was there. The new entry comes last. -/
def insert (cells : Snapshot) (name : String) (cell : Cell) : Snapshot where
  entries := (cells.erase name).entries ++ [(name, cell)]
  nodup := by
    rw [List.map_append, List.nodup_append]
    refine ⟨(cells.erase name).nodup, by simp, ?_⟩
    intro other hother last hlast hequal
    have hname : last = name := List.mem_singleton.mp hlast
    subst hname
    exact cells.not_mem_erase last (hequal ▸ hother)

/-- Changes the cell under a name, if there is one. -/
def modify (cells : Snapshot) (name : String) (f : Cell → Cell) : Snapshot :=
  match cells.get? name with
  | some cell => cells.insert name (f cell)
  | none => cells

/-- The cell under a name, or `fallback` where there is none. -/
def getD (cells : Snapshot) (name : String) (fallback : Cell) : Cell :=
  (cells.get? name).getD fallback

/-- Puts `fallback` under a name that is not occupied. -/
def insertIfNew (cells : Snapshot) (name : String) (fallback : Cell) : Snapshot :=
  if cells.contains name then cells else cells.insert name fallback

/-- Enters the cells one after the other; of equal names the last one counts. -/
def ofList (entries : List (String × Cell)) : Snapshot :=
  entries.foldl (fun cells (name, cell) => cells.insert name cell) empty

/-- The cells whose name is an address, in row-major order. Names that spell one address follow
each other as they are stored. -/
def sorted (cells : Snapshot) : List (Address × Cell) :=
  (cells.entries.filterMap fun (name, cell) =>
      (Address.parse? name).map fun address => (address, cell)).mergeSort
    fun a b => a.1.rowMajorLE b.1

/-! ## Look-ups after a change -/

@[simp] theorem get?_empty (name : String) : empty.get? name = none := rfl

theorem get?_erase (cells : Snapshot) (name other : String) :
    (cells.erase name).get? other = if other = name then none else cells.get? other := by
  simp only [get?, erase, List.find?_filter]
  split
  · next h =>
    subst h
    simp only [Option.map_eq_none_iff, List.find?_eq_none]
    intro entry _
    simp
  · next h =>
    congr 2
    funext entry
    by_cases he : entry.1 = other
    · simp [he, h]
    · simp [he]

theorem get?_insert (cells : Snapshot) (name other : String) (cell : Cell) :
    (cells.insert name cell).get? other =
      if other = name then some cell else cells.get? other := by
  have herase := cells.get?_erase name other
  simp only [get?, insert, List.find?_append, Option.map_or] at herase ⊢
  rw [herase]
  by_cases h : other = name
  · subst h
    simp
  · simp [h, Ne.symm h]

@[simp] theorem get?_insert_self (cells : Snapshot) (name : String) (cell : Cell) :
    (cells.insert name cell).get? name = some cell := by
  simp [get?_insert]

end Snapshot

end Worksheet
