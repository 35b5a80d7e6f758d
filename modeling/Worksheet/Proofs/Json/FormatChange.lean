import Worksheet.Proofs.Json.Color
import Worksheet.Proofs.Json.Record

/-!
# Formats as changes of the default one

A format and a change of format are read from the same fields. Where a format takes the default
value of a missing field, a change leaves the attribute alone, and the default format has that
value in it. They part at `null`, which only a change takes.

* `fields?_mem_null_iff` finds the fields that are given as `null`: an object gives them by name,
  an array by their places.
* `orDefault_eq_some_iff` is one field, `Format.ofJson?_eq_some_iff_change` the five of them.
* `Format.read_iff_change` is every text.
-/

namespace Worksheet

namespace Json

variable {value : Json} {names : List String} {fields : List (Option Json)}
variable {members : List (Option String × Json)} {name : String}

/-! ## Fields that are given as null -/

/-- Whether a field is given as `null`: by its name in an object, in its place in an array. -/
def GivesNull (names : List String) : Json → Prop
  | object members => ∃ name ∈ names, (some name, null) ∈ members
  | array items => null ∈ items.take names.length
  | _ => False

/-- A field of an object that is read has the value that its name is given with. -/
theorem eq_some_iff_of_field? {field : Option Json} (h : field? members name = some field)
    {given : Json} : field = some given ↔ (some name, given) ∈ members := by
  have hmem : given ∈ valuesOf members name ↔ (some name, given) ∈ members := by
    simp [valuesOf]
  rw [← hmem]
  unfold field? at h
  split at h
  · next hvalues => cases h; simp [hvalues]
  · next hvalues => cases h; simp [hvalues, eq_comm]
  · cases h

theorem mem_null_iff_of_mapM_field? (h : names.mapM (field? members) = some fields) :
    some null ∈ fields ↔ ∃ name ∈ names, (some name, null) ∈ members := by
  induction names generalizing fields with
  | nil =>
    cases h
    simp
  | cons name names ih =>
    rw [List.mapM_cons] at h
    obtain ⟨field, hfield, h⟩ := Option.bind_eq_some_iff.mp h
    obtain ⟨others, hothers, h⟩ := Option.bind_eq_some_iff.mp h
    cases h
    rw [List.mem_cons, List.exists_mem_cons_iff, ih hothers, eq_comm, eq_some_iff_of_field? hfield]

theorem fields?_mem_null_iff (h : value.fields? names = some fields) :
    some null ∈ fields ↔ value.GivesNull names := by
  cases value with
  | object members =>
    rw [fields?] at h
    split at h
    · exact mem_null_iff_of_mapM_field? h
    · cases h
  | array items =>
    rw [fields?] at h
    split at h
    · next hlength =>
      cases h
      simp [GivesNull, List.take_of_length_le hlength]
    · cases h
  | null | boolean | number | text => cases h

/-! ## One field -/

variable {α : Type} {read : Json → Option α} {field : Option Json} {default a : α}

theorem orNull_some_of_ne_null (h : value ≠ null) :
    orNull read (some value) = (read value).map some := by
  cases value with
  | null => exact absurd rfl h
  | boolean | number | text | array | object => rfl

/-- A field with a default value is read as one that may be missing, but not from `null`. -/
theorem orDefault_eq_some_iff (hread : read null = none) :
    orDefault read default field = some a ↔
      field ≠ some null ∧ ∃ change, orNull read field = some change ∧ change.getD default = a := by
  cases field with
  | none => simp [orDefault, orNull]
  | some value =>
    by_cases hvalue : value = null
    · simp [orDefault, hvalue, hread]
    · simp [orDefault, orNull_some_of_ne_null hvalue, hvalue]

end Json

/-! ## All fields -/

variable {value : Json}

/-- A format is read where a change is that gives no field as `null`: it is what the change makes
of the default format. -/
theorem Format.ofJson?_eq_some_iff_change {format : Format} :
    ofJson? value = some format ↔
      ∃ change, FormatChange.ofJson? value = some change ∧ ¬value.GivesNull fieldNames ∧
        ({} : Format).apply change = format := by
  -- no field of a format has a value that is written as `null`
  have boolNull : Json.bool? .null = none := rfl
  have sizeNull : Json.uint16? .null = none := rfl
  have colorNull : Json.color? .null = none := rfl
  constructor
  · intro h
    obtain ⟨bold, italic, fontSize, color, backgroundColor, hfields, h⟩ :=
      ofJson?_eq_some_iff.mp h
    simp only [Json.orDefault_eq_some_iff, boolNull, sizeNull, colorNull] at h
    obtain ⟨⟨hbold, newBold, readsBold, setsBold⟩, ⟨hitalic, newItalic, readsItalic, setsItalic⟩,
      ⟨hsize, newSize, readsSize, setsSize⟩, ⟨hcolor, newColor, readsColor, setsColor⟩,
      hbackground, newBackground, readsBackground, setsBackground⟩ := h
    refine ⟨⟨newBold, newItalic, newSize, newColor, newBackground⟩, ?_, ?_, ?_⟩
    · exact FormatChange.ofJson?_eq_some_iff.mpr ⟨bold, italic, fontSize, color, backgroundColor,
        hfields, readsBold, readsItalic, readsSize, readsColor, readsBackground⟩
    · rw [← Json.fields?_mem_null_iff hfields]
      simp [hbold.symm, hitalic.symm, hsize.symm, hcolor.symm, hbackground.symm]
    · rw [apply, setsBold, setsItalic, setsSize, setsColor, setsBackground]
  · rintro ⟨change, h, hnull, rfl⟩
    obtain ⟨bold, italic, fontSize, color, backgroundColor, hfields, readsBold, readsItalic,
      readsSize, readsColor, readsBackground⟩ := FormatChange.ofJson?_eq_some_iff.mp h
    rw [← Json.fields?_mem_null_iff hfields] at hnull
    simp only [List.mem_cons, List.not_mem_nil, or_false, not_or] at hnull
    obtain ⟨hbold, hitalic, hsize, hcolor, hbackground⟩ := hnull
    exact ofJson?_eq_some_iff.mpr ⟨bold, italic, fontSize, color, backgroundColor, hfields,
      (Json.orDefault_eq_some_iff boolNull).mpr ⟨Ne.symm hbold, _, readsBold, rfl⟩,
      (Json.orDefault_eq_some_iff boolNull).mpr ⟨Ne.symm hitalic, _, readsItalic, rfl⟩,
      (Json.orDefault_eq_some_iff sizeNull).mpr ⟨Ne.symm hsize, _, readsSize, rfl⟩,
      (Json.orDefault_eq_some_iff colorNull).mpr ⟨Ne.symm hcolor, _, readsColor, rfl⟩,
      (Json.orDefault_eq_some_iff colorNull).mpr ⟨Ne.symm hbackground, _, readsBackground, rfl⟩⟩

/-- Formats and changes of format agree on every text. A text is read as a format just when it is
read as a change of format and gives none of the five attributes as `null`; the format is then
what the change makes of the default one. Every format is read from a text, that of its JSON. -/
theorem Format.read_iff_change :
    (∀ text format, (Json.parse text).bind ofJson? = some format ↔
      ∃ value change, Json.parse text = some value ∧ FormatChange.ofJson? value = some change ∧
        ¬value.GivesNull fieldNames ∧ ({} : Format).apply change = format) ∧
    ∀ format : Format, (Json.parse format.toJson.compact).bind ofJson? = some format := by
  constructor
  · intro text format
    simp only [Option.bind_eq_some_iff, ofJson?_eq_some_iff_change, exists_and_left]
  · intro format
    rw [Json.parse_compact format.whole_toJson, Option.bind_some, format.toJson_eq]
    exact ofJson?_of_perm (List.Perm.refl _)

/-- An array without its last fields, and an object that has them in another order and a field of
another name, which is `null`, are read as one format, and as changes that make it. -/
theorem Format.read_iff_change_missingFields :
    let format : Format := { bold := true, fontSize := 9 }
    (∃ value change, Json.parse "[true, false, 9]" = some value ∧
      FormatChange.ofJson? value = some change ∧ ¬value.GivesNull fieldNames ∧
        ({} : Format).apply change = format) ∧
    ∃ value change,
      Json.parse "\x7b\"fontSize\": 9, \"zoom\": null, \"bold\": true\x7d" = some value ∧
        FormatChange.ofJson? value = some change ∧ ¬value.GivesNull fieldNames ∧
        ({} : Format).apply change = format :=
  ⟨(read_iff_change.1 _ _).mp (by decide +kernel), (read_iff_change.1 _ _).mp (by decide +kernel)⟩

end Worksheet
