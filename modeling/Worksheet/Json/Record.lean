import Worksheet.Json.Read
import Worksheet.Json.Write
import Worksheet.Snapshot

/-!
# Records in JSON

Formats, changes of format, cells and snapshots as JSON values. A record is read from an object by
the names of its fields, or from an array by their order. Unknown names are passed over, a missing
field takes its default value, and a name that occurs twice is refused.

* `Json.fields?` finds the fields of a record.
* `Format.ofJson?`, `FormatChange.ofJson?`, `Cell.ofJson?` and `Snapshot.ofJson?` read; the
  `toJson` functions write.
-/

namespace Worksheet

namespace Json

/-! ## Fields -/

/-- The values given for a field: an object has it by name. -/
def valuesOf (members : List (Option String × Json)) (name : String) : List Json :=
  (members.filter (·.1 == some name)).map Prod.snd

/-- The value of a field, if the object has it; refused if the object has it twice. -/
def field? (members : List (Option String × Json)) (name : String) : Option (Option Json) :=
  match valuesOf members name with
  | [] => some none
  | [value] => some (some value)
  | _ => none

/-- The values of the fields of a record, in their order, where they are given. -/
def fields? (names : List String) : Json → Option (List (Option Json))
  | object members =>
    if members.all (·.1.isSome) then names.mapM (field? members) else none
  | array items =>
    if items.length ≤ names.length then
      some (items.map some ++ List.replicate (names.length - items.length) none)
    else none
  | _ => none

/-- Reads a field that takes a default value where it is missing. -/
def orDefault {α : Type} (read : Json → Option α) (default : α) : Option Json → Option α
  | none => some default
  | some value => read value

/-- Reads a field that may be missing, or be `null` instead. -/
def orNull {α : Type} (read : Json → Option α) : Option Json → Option (Option α)
  | none => some none
  | some null => some none
  | some value => (read value).map some

/-! ## Single values -/

/-- Reads a truth value. -/
def bool? : Json → Option Bool
  | boolean value => some value
  | _ => none

/-- Reads a Unicode text. -/
def string? : Json → Option String
  | text content => content
  | _ => none

/-- Reads a natural number of sixteen bits that is written with digits alone. -/
def uint16? : Json → Option UInt16
  | number literal =>
    let n := Nat.ofDigitChars 10 literal 0
    if literal.all Char.isDigit && n < UInt16.size then some (UInt16.ofNat n) else none
  | _ => none

/-- Reads a color in hexadecimal notation. -/
def color? (value : Json) : Option Color := do
  Color.ofHex? (← string? value).toList

/-- Writes a color in hexadecimal notation. -/
def ofColor (color : Color) : Json :=
  ofString color.hex

/-- Writes a value that may be missing; a missing one is `null`. -/
def ofOption {α : Type} (write : α → Json) : Option α → Json
  | none => null
  | some value => write value

end Json

/-! ## Formats and their changes -/

/-- Reads a format. -/
def Format.ofJson? (value : Json) : Option Format := do
  let fields ← value.fields? ["bold", "italic", "fontSize", "color", "backgroundColor"]
  match fields with
  | [bold, italic, fontSize, color, backgroundColor] =>
    let default : Format := {}
    return {
      bold := ← Json.orDefault Json.bool? default.bold bold
      italic := ← Json.orDefault Json.bool? default.italic italic
      fontSize := ← Json.orDefault Json.uint16? default.fontSize fontSize
      color := ← Json.orDefault Json.color? default.color color
      backgroundColor := ← Json.orDefault Json.color? default.backgroundColor backgroundColor
    }
  | _ => none

/-- Writes a format. -/
def Format.toJson (format : Format) : Json :=
  .ofMembers [
    ("bold", .boolean format.bold),
    ("italic", .boolean format.italic),
    ("fontSize", .ofNat format.fontSize.toNat),
    ("color", .ofColor format.color),
    ("backgroundColor", .ofColor format.backgroundColor)]

/-- Reads a change of format. -/
def FormatChange.ofJson? (value : Json) : Option FormatChange := do
  let fields ← value.fields? ["bold", "italic", "fontSize", "color", "backgroundColor"]
  match fields with
  | [bold, italic, fontSize, color, backgroundColor] =>
    return {
      bold := ← Json.orNull Json.bool? bold
      italic := ← Json.orNull Json.bool? italic
      fontSize := ← Json.orNull Json.uint16? fontSize
      color := ← Json.orNull Json.color? color
      backgroundColor := ← Json.orNull Json.color? backgroundColor
    }
  | _ => none

/-- Writes a change of format; an attribute that it leaves alone is `null`. -/
def FormatChange.toJson (change : FormatChange) : Json :=
  .ofMembers [
    ("bold", .ofOption .boolean change.bold),
    ("italic", .ofOption .boolean change.italic),
    ("fontSize", .ofOption (fun size => .ofNat size.toNat) change.fontSize),
    ("color", .ofOption .ofColor change.color),
    ("backgroundColor", .ofOption .ofColor change.backgroundColor)]

/-! ## Cells and snapshots -/

/-- Reads a cell. -/
def Cell.ofJson? (value : Json) : Option Cell := do
  let fields ← value.fields? ["displayValue", "formula", "format"]
  match fields with
  | [display, formula, format] =>
    return {
      display := ← Json.orDefault Json.string? "" display
      formula := ← Json.orDefault Json.string? "" formula
      format := ← Json.orDefault Format.ofJson? {} format
    }
  | _ => none

/-- Writes a cell. -/
def Cell.toJson (cell : Cell) : Json :=
  .ofMembers [
    ("displayValue", .ofString cell.display),
    ("formula", .ofString cell.formula),
    ("format", cell.format.toJson)]

/-- Reads one member of a snapshot: a name and its cell. -/
def Snapshot.entryOfJson? (member : Option String × Json) : Option (String × Cell) := do
  return (← member.1, ← Cell.ofJson? member.2)

/-- Reads a snapshot from an object; of equal names the last one counts. -/
def Snapshot.ofJson? : Json → Option Snapshot
  | .object members => (members.mapM entryOfJson?).map ofList
  | _ => none

/-- Writes a snapshot as an object. -/
def Snapshot.toJson (cells : Snapshot) : Json :=
  .ofMembers (cells.entries.map fun (name, cell) => (name, cell.toJson))

end Worksheet
