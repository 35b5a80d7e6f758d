import Mathlib
import Worksheet.Command
import Worksheet.Proofs.Color
import Worksheet.Proofs.Json.Value

/-!
# Records that are written and read

A record is read back from the object that it is written as, in whatever order its members stand:
each name occurs once, and gives its field the value that was written for it.

* `color?_ofColor` and `uint16?_ofNat` are the values that are read through a text.
* `fields?_of_perm` finds the fields of an object whose members were put in another order.
* `Format.ofJson?_of_perm`, `FormatChange.ofJson?_of_perm` and `Cell.ofJson?_of_perm` are the
  records; `Snapshot.ofJson?_of_perm` gives the same cells, in the order of the members.
* `exists_perm_sortMembers` says that sorted members are members in another order.
-/

namespace Worksheet

namespace Json

theorem color?_ofColor (color : Color) : color? (ofColor color) = some color := by
  simp [color?, ofColor, ofString, string?, Color.ofHex?_hex]

theorem uint16?_ofNat (n : UInt16) : uint16? (ofNat n.toNat) = some n := by
  have hdigits : (Nat.toDigits 10 n.toNat).all Char.isDigit = true :=
    List.all_eq_true.mpr fun _ hc => Nat.isDigit_of_mem_toDigits (by decide) (by decide) hc
  have hsmall : n.toNat < UInt16.size := n.toNat_lt
  simp [uint16?, ofNat, hdigits, Nat.ofDigitChars_ten_toDigits, hsmall]

/-! ## Fields -/

variable {members : List (String × Json)} {arranged : List (Option String × Json)}

/-- Reading one by one succeeds if it succeeds on each, and leaves nothing out. -/
theorem mapM_eq_filterMap {α β : Type} {f : α → Option β} {xs : List α}
    (h : ∀ x ∈ xs, (f x).isSome) : xs.mapM f = some (xs.filterMap f) := by
  induction xs with
  | nil => rfl
  | cons x xs ih =>
    obtain ⟨y, hy⟩ := Option.isSome_iff_exists.mp (h x List.mem_cons_self)
    simp [List.mapM_cons, hy, ih fun x hx => h x (List.mem_cons_of_mem _ hx)]

/-- The members of an object with Unicode names. -/
def named (members : List (String × Json)) : List (Option String × Json) :=
  members.map fun (name, value) => (some name, value)

theorem valuesOf_eq_nil {name : String} (h : name ∉ members.map Prod.fst) :
    valuesOf (named members) name = [] := by
  simp only [valuesOf, named, List.map_eq_nil_iff, List.filter_eq_nil_iff, List.mem_map]
  rintro _ ⟨member, hmember, rfl⟩ hname
  simp only [beq_iff_eq, Option.some.injEq] at hname
  exact h (hname ▸ List.mem_map_of_mem hmember)

theorem valuesOf_eq_singleton (hnodup : (members.map Prod.fst).Nodup) {name : String}
    {value : Json} (h : (name, value) ∈ members) : valuesOf (named members) name = [value] := by
  induction members with
  | nil => cases h
  | cons member members ih =>
    rw [List.map_cons, List.nodup_cons] at hnodup
    obtain rfl | htail := List.mem_cons.mp h
    · have hothers := valuesOf_eq_nil hnodup.1
      simp only [valuesOf, named, List.map_cons, List.filter_cons, beq_self_eq_true, if_true]
        at hothers ⊢
      rw [hothers]
    · have hne : member.1 ≠ name := fun heq =>
        hnodup.1 (heq ▸ List.mem_map_of_mem (f := Prod.fst) htail)
      have hread := ih hnodup.2 htail
      simp only [valuesOf, named, List.map_cons, List.filter_cons] at hread ⊢
      simpa [hne] using hread

/-- A field has the value of its name, whatever the order of the members is. -/
theorem field?_of_perm (hnodup : (members.map Prod.fst).Nodup)
    (hperm : arranged.Perm (named members)) {name : String} {value : Json}
    (h : (name, value) ∈ members) : field? arranged name = some (some value) := by
  have hvalues : (valuesOf arranged name).Perm (valuesOf (named members) name) :=
    (hperm.filter _).map _
  rw [valuesOf_eq_singleton hnodup h, List.perm_singleton] at hvalues
  rw [field?, hvalues]

/-- All fields of a record are found, whatever the order of the members is. -/
theorem fields?_of_perm (hnodup : (members.map Prod.fst).Nodup)
    (hperm : arranged.Perm (named members)) :
    (object arranged).fields? (members.map Prod.fst) =
      some (members.map fun member => some member.2) := by
  have hnamed : arranged.all (·.1.isSome) = true := by
    simp only [List.all_eq_true, hperm.mem_iff, named, List.mem_map]
    rintro _ ⟨member, _, rfl⟩
    rfl
  have hfield : ∀ member ∈ members, field? arranged member.1 = some (some member.2) :=
    fun member hmember => field?_of_perm hnodup hperm hmember
  rw [fields?, if_pos hnamed, mapM_eq_filterMap]
  · rw [List.filterMap_map, Option.some.injEq]
    calc members.filterMap (field? arranged ∘ Prod.fst)
        = members.filterMap (some ∘ fun member => some member.2) := List.filterMap_congr hfield
      _ = members.map fun member => some member.2 := by rw [List.filterMap_eq_map]
  · simp only [List.mem_map]
    rintro _ ⟨member, hmember, rfl⟩
    rw [hfield member hmember]
    rfl

/-! ## Sorted members -/

theorem sortValues_eq_map (members : List (Option String × Json)) :
    sortValues members = members.map fun member => (member.1, sortMembers member.2) := by
  induction members with
  | nil => rfl
  | cons member members ih => rw [sortValues, ih, List.map_cons]

/-- Sorted members are the members in another order, each with its members sorted. -/
theorem exists_perm_sortMembers (members : List (String × Json)) :
    ∃ arranged, sortMembers (ofMembers members) = object arranged ∧
      arranged.Perm (named (members.map fun (name, value) => (name, sortMembers value))) := by
  refine ⟨_, rfl, (List.mergeSort_perm _ _).trans ?_⟩
  rw [sortValues_eq_map, named, List.map_map, List.map_map]
  exact List.Perm.refl _

theorem orNull_ofOption {α : Type} {read : Json → Option α} {write : α → Json}
    (hread : ∀ a, read (write a) = some a) (hnull : ∀ a, write a ≠ null) (content : Option α) :
    orNull read (some (ofOption write content)) = some content := by
  cases content with
  | none => rfl
  | some a =>
    rw [ofOption, orNull, hread, Option.map_some]
    exact hnull a

end Json

/-! ## Formats and their changes -/

open Json (named)

variable {arranged : List (Option String × Json)}

/-- The members that a format is written with. -/
def Format.members (format : Format) : List (String × Json) := [
  ("bold", .boolean format.bold),
  ("italic", .boolean format.italic),
  ("fontSize", .ofNat format.fontSize.toNat),
  ("color", .ofColor format.color),
  ("backgroundColor", .ofColor format.backgroundColor)]

theorem Format.toJson_eq (format : Format) : format.toJson = .ofMembers format.members := rfl

/-- The values of a format have no members to sort. -/
theorem Format.map_sortMembers (format : Format) :
    (format.members.map fun (name, value) => (name, value.sortMembers)) = format.members := rfl

theorem Format.ofJson?_of_perm {format : Format} (hperm : arranged.Perm (named format.members)) :
    Format.ofJson? (.object arranged) = some format := by
  have hfields := Json.fields?_of_perm (by simp [members]) hperm
  simp only [members, List.map_cons, List.map_nil] at hfields
  simp [Format.ofJson?, hfields, Json.orDefault, Json.bool?, Json.uint16?_ofNat,
    Json.color?_ofColor]

/-- The members that a change of format is written with. -/
def FormatChange.members (change : FormatChange) : List (String × Json) := [
  ("bold", .ofOption .boolean change.bold),
  ("italic", .ofOption .boolean change.italic),
  ("fontSize", .ofOption (fun size => .ofNat size.toNat) change.fontSize),
  ("color", .ofOption .ofColor change.color),
  ("backgroundColor", .ofOption .ofColor change.backgroundColor)]

theorem FormatChange.toJson_eq (change : FormatChange) :
    change.toJson = .ofMembers change.members := rfl

theorem FormatChange.ofJson?_of_perm {change : FormatChange}
    (hperm : arranged.Perm (named change.members)) :
    FormatChange.ofJson? (.object arranged) = some change := by
  have hfields := Json.fields?_of_perm (by simp [members]) hperm
  simp only [members, List.map_cons, List.map_nil] at hfields
  have hbool (content : Option Bool) :
      Json.orNull Json.bool? (some (.ofOption .boolean content)) = some content :=
    Json.orNull_ofOption (α := Bool) (fun _ => rfl) (by simp) content
  have hsize : Json.orNull Json.uint16?
      (some (.ofOption (fun size => .ofNat size.toNat) change.fontSize)) = some change.fontSize :=
    Json.orNull_ofOption Json.uint16?_ofNat nofun _
  have hcolor (content : Option Color) :
      Json.orNull Json.color? (some (.ofOption .ofColor content)) = some content :=
    Json.orNull_ofOption Json.color?_ofColor nofun content
  simp [FormatChange.ofJson?, hfields, hbool, hsize, hcolor]

/-! ## Cells -/

/-- The members that a cell is written with, its format being written already. -/
def Cell.members (cell : Cell) (format : Json) : List (String × Json) := [
  ("displayValue", .ofString cell.display),
  ("formula", .ofString cell.formula),
  ("format", format)]

theorem Cell.ofJson?_of_perm {cell : Cell} {format : Json}
    (hformat : Format.ofJson? format = some cell.format)
    (hperm : arranged.Perm (named (cell.members format))) :
    Cell.ofJson? (.object arranged) = some cell := by
  have hfields := Json.fields?_of_perm (by simp [members]) hperm
  simp only [members, List.map_cons, List.map_nil] at hfields
  simp [Cell.ofJson?, hfields, Json.orDefault, Json.ofString, Json.string?, hformat]

theorem Cell.ofJson?_toJson (cell : Cell) : Cell.ofJson? cell.toJson = some cell :=
  ofJson?_of_perm (Format.ofJson?_of_perm (List.Perm.refl _)) (List.Perm.refl _)

theorem Cell.ofJson?_sortMembers (cell : Cell) :
    Cell.ofJson? cell.toJson.sortMembers = some cell := by
  obtain ⟨formatMembers, hformat, hformatPerm⟩ := Json.exists_perm_sortMembers cell.format.members
  obtain ⟨cellMembers, hcell, hcellPerm⟩ :=
    Json.exists_perm_sortMembers (cell.members cell.format.toJson)
  rw [Format.map_sortMembers] at hformatPerm
  have hsorted : Format.ofJson? cell.format.toJson.sortMembers = some cell.format := by
    rw [Format.toJson_eq, hformat]
    exact Format.ofJson?_of_perm hformatPerm
  calc Cell.ofJson? cell.toJson.sortMembers
      = Cell.ofJson? (.object cellMembers) := congrArg Cell.ofJson? hcell
    _ = some cell := ofJson?_of_perm hsorted hcellPerm

/-! ## Snapshots -/

namespace Snapshot

theorem entries_insert_of_not_mem {cells : Snapshot} {name : String}
    (h : name ∉ cells.entries.map Prod.fst) (cell : Cell) :
    (cells.insert name cell).entries = cells.entries ++ [(name, cell)] := by
  have hkept : cells.entries.filter (·.1 != name) = cells.entries := by
    rw [List.filter_eq_self]
    intro entry hentry
    simp only [bne_iff_ne]
    rintro rfl
    exact h (List.mem_map_of_mem hentry)
  simp only [insert, erase, hkept]

/-- Entries with names of their own are entered as they stand, behind those that are there. -/
theorem entries_foldl_insert {entries : List (String × Cell)} {cells : Snapshot}
    (hnodup : ((cells.entries ++ entries).map Prod.fst).Nodup) :
    (entries.foldl (fun cells (name, cell) => cells.insert name cell) cells).entries =
      cells.entries ++ entries := by
  induction entries generalizing cells with
  | nil => simp
  | cons entry entries ih =>
    have hfresh : entry.1 ∉ cells.entries.map Prod.fst := by
      rw [List.map_append, List.map_cons] at hnodup
      exact fun hmem =>
        (List.nodup_append.mp hnodup).2.2 _ hmem _ List.mem_cons_self rfl
    have hinsert := entries_insert_of_not_mem hfresh entry.2
    rw [List.append_cons] at hnodup
    rw [List.foldl_cons, ih (by rwa [hinsert]), hinsert, ← List.append_cons]

theorem entries_ofList {entries : List (String × Cell)}
    (hnodup : (entries.map Prod.fst).Nodup) : (ofList entries).entries = entries :=
  entries_foldl_insert hnodup

variable {cells : Snapshot} {write : Cell → Json}

theorem entryOfJson?_of_read (hread : ∀ cell, Cell.ofJson? (write cell) = some cell)
    (entry : String × Cell) : entryOfJson? (some entry.1, write entry.2) = some entry := by
  simp [entryOfJson?, hread]

/-- The entries are read from the members that they are written as. -/
theorem filterMap_entryOfJson? (hread : ∀ cell, Cell.ofJson? (write cell) = some cell)
    (entries : List (String × Cell)) :
    (named (entries.map fun (name, cell) => (name, write cell))).filterMap entryOfJson? =
      entries := by
  have hentries : entries.filterMap (fun entry => entryOfJson? (some entry.1, write entry.2)) =
      entries.filterMap some :=
    List.filterMap_congr fun entry _ => entryOfJson?_of_read hread entry
  rw [List.filterMap_some] at hentries
  rw [named, List.filterMap_map, List.filterMap_map]
  exact hentries

/-- The entries of a snapshot are read back from its members, in the order in which they stand. -/
theorem ofJson?_of_perm (hread : ∀ cell, Cell.ofJson? (write cell) = some cell)
    (hperm : arranged.Perm
      (named (cells.entries.map fun (name, cell) => (name, write cell)))) :
    ∃ read, ofJson? (.object arranged) = some read ∧
      read.entries = arranged.filterMap entryOfJson? ∧ read.entries.Perm cells.entries := by
  have hall : ∀ member ∈ arranged, (entryOfJson? member).isSome := by
    simp only [hperm.mem_iff, named, List.mem_map]
    rintro _ ⟨_, ⟨entry, _, rfl⟩, rfl⟩
    rw [entryOfJson?_of_read hread entry]
    rfl
  have hentries : (arranged.filterMap entryOfJson?).Perm cells.entries := by
    have hmembers := hperm.filterMap entryOfJson?
    rwa [filterMap_entryOfJson? hread] at hmembers
  have hnodup : ((arranged.filterMap entryOfJson?).map Prod.fst).Nodup :=
    (hentries.map _).nodup_iff.mpr cells.nodup
  refine ⟨_, ?_, entries_ofList hnodup, ?_⟩
  · rw [ofJson?, Json.mapM_eq_filterMap hall, Option.map_some]
  · rwa [entries_ofList hnodup]

/-- A snapshot is read back from its object, and from its object with all members sorted. -/
theorem ofJson?_toJson (cells : Snapshot) : ofJson? cells.toJson = some cells := by
  obtain ⟨read, hread, hentries, -⟩ := ofJson?_of_perm Cell.ofJson?_toJson
    (List.Perm.refl (named (cells.entries.map fun (name, cell) => (name, cell.toJson))))
  rw [filterMap_entryOfJson? Cell.ofJson?_toJson] at hentries
  cases read
  cases hentries
  exact hread

theorem ofJson?_sortMembers (cells : Snapshot) :
    ∃ read, ofJson? cells.toJson.sortMembers = some read ∧ read.entries.Perm cells.entries := by
  obtain ⟨arranged, hsorted, hperm⟩ := Json.exists_perm_sortMembers
    (cells.entries.map fun (name, cell) => (name, cell.toJson))
  rw [List.map_map] at hperm
  obtain ⟨read, hread, -, hsame⟩ := ofJson?_of_perm Cell.ofJson?_sortMembers hperm
  refine ⟨read, ?_, hsame⟩
  rw [toJson, hsorted, hread]

end Snapshot

/-! ## Whole values -/

theorem Json.whole_ofMembers {members : List (String × Json)} :
    (ofMembers members).Whole ↔ ∀ member ∈ members, member.2.Whole := by
  rw [ofMembers, Whole, wholeMembers_iff]
  exact List.forall_mem_map

theorem Json.whole_ofOption {α : Type} {write : α → Json} (h : ∀ a, (write a).Whole)
    (content : Option α) : (ofOption write content).Whole := by
  cases content with
  | none => trivial
  | some a => exact h a

theorem Format.whole_toJson (format : Format) : format.toJson.Whole := by
  rw [toJson_eq, Json.whole_ofMembers]
  simp [members, Json.Whole, Json.ofNat, Json.ofColor, Json.ofString]

theorem FormatChange.whole_toJson (change : FormatChange) : change.toJson.Whole := by
  have hbool (content : Option Bool) : (Json.ofOption .boolean content).Whole :=
    Json.whole_ofOption (show ∀ b, (Json.boolean b).Whole from fun _ => trivial) content
  have hsize : (Json.ofOption (fun size => .ofNat size.toNat) change.fontSize).Whole :=
    Json.whole_ofOption
      (show ∀ size : UInt16, (Json.ofNat size.toNat).Whole from fun size => ⟨size.toNat, rfl⟩) _
  have hcolor (content : Option Color) : (Json.ofOption .ofColor content).Whole :=
    Json.whole_ofOption (show ∀ c, (Json.ofColor c).Whole from fun _ => trivial) content
  rw [toJson_eq, Json.whole_ofMembers]
  simp [members, hbool, hsize, hcolor]

theorem Cell.whole_toJson (cell : Cell) : cell.toJson.Whole := by
  rw [toJson, Json.whole_ofMembers]
  simp [Json.Whole, Json.ofString, cell.format.whole_toJson]

theorem Snapshot.whole_toJson (cells : Snapshot) : cells.toJson.Whole := by
  rw [toJson, Json.whole_ofMembers]
  simp only [List.mem_map]
  rintro _ ⟨entry, _, rfl⟩
  exact entry.2.whole_toJson

/-! ## Read back -/

theorem Json.null_eq_ofOption_iff {α : Type} {write : α → Json} (hnull : ∀ a, write a ≠ null)
    {content : Option α} : null = ofOption write content ↔ content = none := by
  cases content with
  | none => simp [ofOption]
  | some a => simp [ofOption, (hnull a).symm]

/-- The listing of the cells is read back. -/
theorem Command.exists_readCells_jsonListing (cells : Snapshot) (name : String) :
    ∃ read, readCells (some ⟨name, jsonListing cells⟩) = .ok read ∧
      read.entries.Perm cells.entries := by
  obtain ⟨read, hread, hsame⟩ := cells.ofJson?_sortMembers
  have hparse : Json.parse (jsonListing cells) = some cells.toJson.sortMembers :=
    Json.parse_pretty_append (Json.whole_sortMembers _ cells.whole_toJson)
      (by simp [Json.IsGap, Json.isBlank])
  refine ⟨read, ?_, hsame⟩
  rw [readCells, hparse, Option.bind_some, hread]

/-- Snapshots and changes of format are read back from their JSON. A snapshot of any texts and
formats comes back from one line as it was, and from sorted lines with the same cells; so what a
script leaves, listed as JSON, is loaded as the cells of its sheet. An attribute that a change
leaves alone is written as `null`. -/
theorem Json.readBack_records :
    (∀ cells : Snapshot,
      (parse cells.toJson.compact).bind Snapshot.ofJson? = some cells ∧
      ∃ read, (parse cells.toJson.sortMembers.pretty).bind Snapshot.ofJson? = some read ∧
        read.entries.Perm cells.entries) ∧
    (∀ script name, (Command.apply script true).code = 0 →
      ∃ sheet read, Script.run script = .ok sheet ∧
        Command.readCells (some ⟨name, (Command.apply script true).stdout⟩) = .ok read ∧
        read.entries.Perm sheet.cells.entries) ∧
    ∀ change : FormatChange,
      (parse change.toJson.compact).bind FormatChange.ofJson? = some change ∧
      ∃ members, change.toJson = ofMembers members ∧
        members.map Prod.fst = ["bold", "italic", "fontSize", "color", "backgroundColor"] ∧
        (("bold", null) ∈ members ↔ change.bold = none) ∧
        (("italic", null) ∈ members ↔ change.italic = none) ∧
        (("fontSize", null) ∈ members ↔ change.fontSize = none) ∧
        (("color", null) ∈ members ↔ change.color = none) ∧
        (("backgroundColor", null) ∈ members ↔ change.backgroundColor = none) := by
  refine ⟨fun cells => ⟨?_, ?_⟩, fun script name hcode => ?_, fun change => ⟨?_, ?_⟩⟩
  · rw [parse_compact cells.whole_toJson, Option.bind_some, cells.ofJson?_toJson]
  · rw [parse_pretty (whole_sortMembers _ cells.whole_toJson), Option.bind_some]
    exact cells.ofJson?_sortMembers
  · cases hrun : Script.run script with
    | error rejection =>
      rw [Command.apply, hrun] at hcode
      cases hcode
    | ok sheet =>
      obtain ⟨read, hread, hsame⟩ := Command.exists_readCells_jsonListing sheet.cells name
      refine ⟨sheet, read, rfl, ?_, hsame⟩
      rw [Command.apply, hrun]
      exact hread
  · rw [parse_compact change.whole_toJson, Option.bind_some, change.toJson_eq]
    exact FormatChange.ofJson?_of_perm (List.Perm.refl _)
  · have hbool : ∀ b, boolean b ≠ null := nofun
    have hsize : ∀ size : UInt16, ofNat size.toNat ≠ null := nofun
    have hcolor : ∀ color, ofColor color ≠ null := nofun
    refine ⟨change.members, change.toJson_eq, rfl, ?_⟩
    simp [FormatChange.members, null_eq_ofOption_iff, hbool, hsize, hcolor]

/-- A script whose cells are loaded again: the second shows what the first one makes it show. -/
theorem Json.readBack_records_doubled :
    (Command.apply "A1 5\nB1 =A1*2\n" true).code = 0 ∧
      ∃ sheet read, Script.run "A1 5\nB1 =A1*2\n" = .ok sheet ∧
        Command.readCells (some ⟨"cells.json", (Command.apply "A1 5\nB1 =A1*2\n" true).stdout⟩) =
          .ok read ∧
        read.entries.Perm sheet.cells.entries :=
  have hcode : (Command.apply "A1 5\nB1 =A1*2\n" true).code = 0 := by decide +kernel
  ⟨hcode, readBack_records.2.1 _ _ hcode⟩

end Worksheet
