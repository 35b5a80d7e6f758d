import Worksheet.Json.Record
import Worksheet.Proofs.Color

/-!
# Colors in records

In JSON a color is a text, and is read by the rules for colors. A format takes a color that is
missing from the default one; a change of format leaves it alone where it is missing or `null`.

* `color?_eq_some_iff` is a single value; `Format.ofJson?_eq_some_iff` and
  `FormatChange.ofJson?_eq_some_iff` are the records.
* `HoldsColor` and `HoldsChange` say what stands in a field of a record that is read;
  `Format.holdsColor_of_ofJson?` and `FormatChange.holdsChange_of_ofJson?` find it there.
* `Color.parse_exact` says which texts are colors, and that a record is read with no others.
-/

namespace Worksheet

namespace Json

variable {value : Json} {field : Option Json} {color default : Color} {change : Option Color}

theorem string?_eq_some_iff {content : String} :
    string? value = some content ↔ value = .text (some content) := by
  cases value <;> simp [string?]

theorem color?_eq_some_iff :
    color? value = some color ↔
      ∃ text, value = .text (some text) ∧ Color.parse text = .ok color := by
  simp only [color?, Option.bind_eq_bind, Option.bind_eq_some_iff, string?_eq_some_iff,
    Color.parse_eq_ok_iff_ofHex?]

/-- What stands in the field of a format that is read with a color. -/
inductive HoldsColor (default : Color) : Option Json → Color → Prop where
  | missing : HoldsColor default none default
  | text {content : String} {color : Color} (h : Color.parse content = .ok color) :
    HoldsColor default (some (.text (some content))) color

/-- What stands in the field of a change of format that is read with a color, or without one. -/
inductive HoldsChange : Option Json → Option Color → Prop where
  | missing : HoldsChange none none
  | null : HoldsChange (some .null) none
  | text {content : String} {color : Color} (h : Color.parse content = .ok color) :
    HoldsChange (some (.text (some content))) (some color)

theorem holdsColor_of_orDefault (h : orDefault color? default field = some color) :
    HoldsColor default field color := by
  cases field with
  | none =>
    cases h
    exact .missing
  | some value =>
    obtain ⟨content, rfl, hparse⟩ := color?_eq_some_iff.mp h
    exact .text hparse

theorem holdsChange_of_orNull (h : orNull color? field = some change) :
    HoldsChange field change := by
  unfold orNull at h
  split at h
  · cases h
    exact .missing
  · cases h
    exact .null
  · obtain ⟨color, hcolor, rfl⟩ := Option.map_eq_some_iff.mp h
    obtain ⟨content, rfl, hparse⟩ := color?_eq_some_iff.mp hcolor
    exact .text hparse

/-- A record of five fields is read from their values. -/
theorem bind_fields?_eq_some_iff {α : Type} {names : List String} {result : α}
    {read : Option Json → Option Json → Option Json → Option Json → Option Json → Option α} :
    ((value.fields? names).bind fun fields =>
        match fields with
        | [first, second, third, fourth, fifth] => read first second third fourth fifth
        | _ => none) = some result ↔
      ∃ first second third fourth fifth,
        value.fields? names = some [first, second, third, fourth, fifth] ∧
        read first second third fourth fifth = some result := by
  rw [Option.bind_eq_some_iff]
  constructor
  · rintro ⟨fields, hfields, hread⟩
    split at hread
    · next first second third fourth fifth =>
      exact ⟨first, second, third, fourth, fifth, hfields, hread⟩
    · cases hread
  · rintro ⟨first, second, third, fourth, fifth, hfields, hread⟩
    exact ⟨_, hfields, hread⟩

end Json

/-! ## Formats and their changes -/

/-- The names of the fields of a format, in their order. -/
def Format.fieldNames : List String :=
  ["bold", "italic", "fontSize", "color", "backgroundColor"]

variable {value : Json}

/-- A format is read from its five fields. -/
theorem Format.ofJson?_eq_some_iff {format : Format} :
    ofJson? value = some format ↔ ∃ bold italic fontSize color backgroundColor,
      value.fields? fieldNames = some [bold, italic, fontSize, color, backgroundColor] ∧
      Json.orDefault Json.bool? ({} : Format).bold bold = some format.bold ∧
      Json.orDefault Json.bool? ({} : Format).italic italic = some format.italic ∧
      Json.orDefault Json.uint16? ({} : Format).fontSize fontSize = some format.fontSize ∧
      Json.orDefault Json.color? ({} : Format).color color = some format.color ∧
      Json.orDefault Json.color? ({} : Format).backgroundColor backgroundColor =
        some format.backgroundColor := by
  refine Json.bind_fields?_eq_some_iff.trans ?_
  cases format
  simp [Option.bind_eq_some_iff, fieldNames, -Bool.exists_bool]

/-- A change of format is read from the same five fields. -/
theorem FormatChange.ofJson?_eq_some_iff {change : FormatChange} :
    ofJson? value = some change ↔ ∃ bold italic fontSize color backgroundColor,
      value.fields? Format.fieldNames = some [bold, italic, fontSize, color, backgroundColor] ∧
      Json.orNull Json.bool? bold = some change.bold ∧
      Json.orNull Json.bool? italic = some change.italic ∧
      Json.orNull Json.uint16? fontSize = some change.fontSize ∧
      Json.orNull Json.color? color = some change.color ∧
      Json.orNull Json.color? backgroundColor = some change.backgroundColor := by
  refine Json.bind_fields?_eq_some_iff.trans ?_
  cases change
  simp [Option.bind_eq_some_iff, Format.fieldNames, -Bool.exists_bool]

theorem Format.holdsColor_of_ofJson? {format : Format} (h : Format.ofJson? value = some format) :
    ∃ bold italic fontSize color backgroundColor,
      value.fields? fieldNames = some [bold, italic, fontSize, color, backgroundColor] ∧
      Json.HoldsColor Color.black color format.color ∧
      Json.HoldsColor Color.white backgroundColor format.backgroundColor := by
  obtain ⟨bold, italic, fontSize, color, backgroundColor, hfields, -, -, -, hcolor, hbackground⟩ :=
    ofJson?_eq_some_iff.mp h
  exact ⟨bold, italic, fontSize, color, backgroundColor, hfields,
    Json.holdsColor_of_orDefault hcolor, Json.holdsColor_of_orDefault hbackground⟩

theorem FormatChange.holdsChange_of_ofJson? {change : FormatChange}
    (h : FormatChange.ofJson? value = some change) :
    ∃ bold italic fontSize color backgroundColor,
      value.fields? Format.fieldNames = some [bold, italic, fontSize, color, backgroundColor] ∧
      Json.HoldsChange color change.color ∧
      Json.HoldsChange backgroundColor change.backgroundColor := by
  obtain ⟨bold, italic, fontSize, color, backgroundColor, hfields, -, -, -, hcolor, hbackground⟩ :=
    ofJson?_eq_some_iff.mp h
  exact ⟨bold, italic, fontSize, color, backgroundColor, hfields,
    Json.holdsChange_of_orNull hcolor, Json.holdsChange_of_orNull hbackground⟩

/-! ## Texts that are colors -/

/-- Which texts are colors: three pairs of characters, with an optional `#` in front, where each
pair is two hexadecimal digits, or one behind a plus sign. The color is written as its digits with
small letters, and the plus sign as a zero; any other text is refused by name. Texts in
hexadecimal notation are just those without a plus sign. Each color is read back from what it is
written as, and a format or a change of format is read with no other colors than these. -/
theorem Color.parse_exact (text : String) :
    (∀ color, parse text = .ok color ↔
      ∃ body, IsBody body ∧ (text.toList = body ∨ text.toList = '#' :: body) ∧
        color.hex.toList = '#' :: body.map plainDigit) ∧
    (∀ cause, parse text = .error cause ↔
      (¬∃ body, IsBody body ∧ (text.toList = body ∨ text.toList = '#' :: body)) ∧
        cause = .invalidColor text) ∧
    ((∃ digits, IsNotation text.toList digits) ↔
      (∃ color, parse text = .ok color) ∧ '+' ∉ text.toList) ∧
    (∀ digits color, IsNotation text.toList digits → parse text = .ok color →
      color.hex.toList = '#' :: digits.map Char.toLower) ∧
    (∀ color, parse color.hex = .ok color) ∧
    (∀ value format, Format.ofJson? value = some format →
      ∃ bold italic fontSize color backgroundColor,
        value.fields? Format.fieldNames = some [bold, italic, fontSize, color, backgroundColor] ∧
        Json.HoldsColor black color format.color ∧
        Json.HoldsColor white backgroundColor format.backgroundColor) ∧
    ∀ value change, FormatChange.ofJson? value = some change →
      ∃ bold italic fontSize color backgroundColor,
        value.fields? Format.fieldNames = some [bold, italic, fontSize, color, backgroundColor] ∧
        Json.HoldsChange color change.color ∧
        Json.HoldsChange backgroundColor change.backgroundColor := by
  refine ⟨fun color => ?_, fun cause => ?_, ?_, fun digits color hwritten hparse => ?_,
    fun color => ?_, fun value format => Format.holdsColor_of_ofJson?,
    fun value change => FormatChange.holdsChange_of_ofJson?⟩
  · rw [parse_eq_ok_iff_ofHex?, ofHex?_eq_some_iff]
  · simp only [parse_eq_error_iff, parse_eq_ok_iff_ofHex?, exists_ofHex?_eq_some_iff]
  · simp only [parse_eq_ok_iff_ofHex?, exists_isNotation_iff]
  · exact hwritten.toList_hex (parse_eq_ok_iff_ofHex?.mp hparse)
  · exact parse_eq_ok_iff_ofHex?.mpr (ofHex?_hex color)

/-- A text with a plus sign in each pair is the color of its digits alone, also in the records of
a format and of a change of format; one in capitals is written with small letters. -/
theorem Color.parse_exact_plusSigns :
    (parse "+1+1+1" = .ok ⟨1, 1, 1⟩ ∧ ¬∃ digits, IsNotation "+1+1+1".toList digits) ∧
    (IsNotation "#fF0010".toList ['f', 'F', '0', '0', '1', '0'] ∧
      parse "#fF0010" = .ok ⟨255, 0, 16⟩ ∧
      (⟨255, 0, 16⟩ : Color).hex.toList = '#' :: ['f', 'F', '0', '0', '1', '0'].map Char.toLower) ∧
    (Format.ofJson? (.object [(some "color", .text (some "+1+1+1"))]) =
        some { color := ⟨1, 1, 1⟩ } ∧
      ∃ bold italic fontSize color backgroundColor,
        Json.fields? Format.fieldNames (.object [(some "color", .text (some "+1+1+1"))]) =
          some [bold, italic, fontSize, color, backgroundColor] ∧
        Json.HoldsColor black color ⟨1, 1, 1⟩ ∧ Json.HoldsColor white backgroundColor white) ∧
    FormatChange.ofJson? (.array [.null, .null, .null, .null, .text (some "+1+1+1")]) =
        some { backgroundColor := some ⟨1, 1, 1⟩ } ∧
      ∃ bold italic fontSize color backgroundColor,
        Json.fields? Format.fieldNames
            (.array [.null, .null, .null, .null, .text (some "+1+1+1")]) =
          some [bold, italic, fontSize, color, backgroundColor] ∧
        Json.HoldsChange color none ∧ Json.HoldsChange backgroundColor (some ⟨1, 1, 1⟩) :=
  have hplus : '+' ∈ "+1+1+1".toList := by decide
  have hwritten : IsNotation "#fF0010".toList ['f', 'F', '0', '0', '1', '0'] :=
    ⟨Or.inr (by decide), rfl, by simp [Text.IsHexDigit]⟩
  have hparse : parse "#fF0010" = .ok ⟨255, 0, 16⟩ := by decide
  have hformat : Format.ofJson? (.object [(some "color", .text (some "+1+1+1"))]) =
      some { color := ⟨1, 1, 1⟩ } := by decide
  have hchange :
      FormatChange.ofJson? (.array [.null, .null, .null, .null, .text (some "+1+1+1")]) =
        some { backgroundColor := some ⟨1, 1, 1⟩ } := by decide
  ⟨⟨by decide, fun hdigits => ((parse_exact _).2.2.1.mp hdigits).2 hplus⟩,
    ⟨hwritten, hparse, (parse_exact _).2.2.2.1 _ _ hwritten hparse⟩,
    ⟨hformat, (parse_exact "+1+1+1").2.2.2.2.2.1 _ _ hformat⟩,
    ⟨hchange, (parse_exact "+1+1+1").2.2.2.2.2.2 _ _ hchange⟩⟩

end Worksheet
