import Worksheet.Proofs.Address.Name
import Worksheet.Proofs.Range

/-!
# Names written and read

Writing and reading a name do not match everywhere. Every lettered column can be written, in every
row; reading refuses the number of the last row, and takes any zeros in front of a number, which
writing never puts there.

* `parse_eq_ok_iff_names` and `names_iff` say which texts are read, and as which coordinates.
* `letteredText_eq_ok_iff` says what is written, `parse_text` what is read from it, and
  `text_inj_of_lettered` that it is written for one position only.
* `Range.parse_eq_ok_iff_corners` reduces the names of ranges to those of their corners.
-/

namespace Worksheet

namespace Address

variable {name text : String} {a b : Address} {row : UInt32} {col : UInt16}

/-! ## Reading -/

theorem names_iff_read : Names name a ↔ read name.toList = .ok a :=
  read_eq_ok_iff.symm

theorem parse_eq_ok_iff_names : parse name = .ok a ↔ Names name a := by
  rw [← parse?_eq_some_iff, parse?_eq_some_iff_names]

/-- A name is a capital letter and digits: the row is the number of the digits less one, and the
column counts the letters from `A` on. -/
theorem names_iff :
    Names name a ↔ ∃ spelling : Spelling, spelling.Proper ∧ name.toList = spelling.text ∧
      (1 ≤ spelling.number ∧ spelling.number ≤ 4294967295) ∧
        a.row.toNat = spelling.number - 1 ∧ a.col.toNat = spelling.letter.toNat - 'A'.toNat := by
  have hsize : UInt32.size = 4294967296 := rfl
  have hcoordinates : ∀ spelling : Spelling, spelling.Proper → spelling.number ≤ 4294967295 →
      (a = ofName spelling.letter spelling.number ↔ a.row.toNat = spelling.number - 1 ∧
        a.col.toNat = spelling.letter.toNat - 'A'.toNat) := by
    intro spelling hproper hnumber
    rw [eq_iff_toNat, toNat_row_ofName (by omega), ofName, toNat_columnOf hproper.isUpper_letter]
    rfl
  constructor
  · rintro ⟨spelling, hproper, hname, hnumber, ha⟩
    exact ⟨spelling, hproper, hname, hnumber, (hcoordinates spelling hproper hnumber.2).mp ha⟩
  · rintro ⟨spelling, hproper, hname, hnumber, ha⟩
    exact ⟨spelling, hproper, hname, hnumber, (hcoordinates spelling hproper hnumber.2).mpr ha⟩

/-- A position that has a name is read back from the name that it is written with. -/
theorem Names.isReadable (h : Names name a) : a.IsReadable := by
  obtain ⟨spelling, hproper, -, hnumber, rfl⟩ := h
  exact isReadable_ofName hproper.isUpper_letter hnumber.1 hnumber.2

theorem IsReadable.names_text (h : a.IsReadable) : Names a.text a := by
  rw [← parse?_eq_some_iff_names, parse?_text, if_pos h]

/-- A name holds a capital letter and digits. -/
theorem Names.not_mem (h : Names name a) {c : Char} (hupper : c.isUpper = false)
    (hdigit : c.isDigit = false) : c ∉ name.toList := by
  obtain ⟨spelling, hproper, hname, -⟩ := h
  rw [hname, Spelling.text, List.mem_cons, not_or]
  constructor
  · rintro rfl
    rw [hproper.isUpper_letter] at hupper
    cases hupper
  · intro hmem
    rw [hproper.isDigit_digits c hmem] at hdigit
    cases hdigit

/-! ## Writing -/

theorem letteredText_eq_ok_iff :
    letteredText row col = .ok text ↔
      col < letteredColumns ∧ text = (⟨row, col⟩ : Address).text := by
  unfold letteredText
  cases hletter : letter? col with
  | none =>
    rw [letter?_eq_none_iff] at hletter
    simp [hletter]
  | some letter =>
    have hcol := (letter?_eq_some_iff.mp hletter).1
    simp [Address.text, hletter, hcol, eq_comm]

/-- The written name of a lettered column is read back, but for the last row of the grid. -/
theorem parse_text (h : a.col < letteredColumns) :
    parse a.text =
      if a.row.toNat < 4294967295 then .ok a
      else .error (.invalidAddress .rowTooLarge a.text) := by
  have hsize : UInt32.size = 4294967296 := rfl
  rw [parse, toList_text]
  cases hletter : letter? a.col with
  | none => exact absurd h (letter?_eq_none_iff.mp hletter)
  | some letter =>
    rw [Option.getD_some, read_cons_rowDigits (isUpper_of_letter? hletter),
      columnOf_of_letter? hletter]
    by_cases hrow : a.row.toNat < 4294967295
    · rw [if_pos hrow, if_pos (by omega)]
      rfl
    · rw [if_neg hrow, if_neg (by omega)]
      rfl

/-- Lettered positions are written alike only if they are the same, the last row included. -/
theorem text_inj_of_lettered (ha : a.col < letteredColumns) (hb : b.col < letteredColumns)
    (h : a.text = b.text) : a = b := by
  cases hletter : letter? a.col with
  | none => exact absurd ha (letter?_eq_none_iff.mp hletter)
  | some letter =>
    cases hletter' : letter? b.col with
    | none => exact absurd hb (letter?_eq_none_iff.mp hletter')
    | some letter' =>
      rw [text_eq_nameOf hletter, text_eq_nameOf hletter', nameOf_inj] at h
      obtain ⟨rfl, hnumber⟩ := h
      have hrow : a.row = b.row := UInt32.toNat_inj.mp (by omega)
      have hcol : a.col = b.col := by
        rw [← columnOf_of_letter? hletter, columnOf_of_letter? hletter']
      cases a
      cases b
      cases hrow
      cases hcol
      rfl

/-- A text that was read is written again exactly if no zero stands in front of its number. -/
theorem letteredText_eq_ok_self_iff (h : Names name a) :
    letteredText a.row a.col = .ok name ↔ ¬IsPadded name := by
  rw [letteredText_eq_ok_iff, ← eq_text_iff h]
  exact and_iff_right h.isReadable.1

end Address

/-! ## Names of ranges -/

namespace Range

open Address (Names)
open Text (NotInFront)

/-- Two names joined by a colon are read as the range between their positions. -/
theorem parse_append_colon {first second : String} {start stop : Address}
    (hfirst : Names first start) (hsecond : Names second stop) :
    parse (first ++ ":" ++ second) = .ok ⟨start, stop⟩ := by
  have hlist : (first ++ ":" ++ second).toList = first.toList ++ ':' :: second.toList := by simp
  have hplain : ∀ c ∈ first.toList, (c != ':') = true := by
    intro c hc
    rw [bne_iff_ne]
    rintro rfl
    exact hfirst.not_mem (by decide) (by decide) hc
  have hcolon : NotInFront (· != ':') (':' :: second.toList) := by
    rw [Text.notInFront_cons, bne_self_eq_false]
  rw [parse, hlist, Text.takeWhile_append_of_front hplain hcolon,
    Text.dropWhile_append_of_front hplain hcolon]
  simp only [Address.names_iff_read.mp hfirst, Address.names_iff_read.mp hsecond]
  rfl

/-- A text is read as a range if it is two names joined by a colon, and not otherwise. -/
theorem parse_eq_ok_iff_corners {text : String} {range : Range} :
    parse text = .ok range ↔ ∃ first second, text = first ++ ":" ++ second ∧
      Names first range.start ∧ Names second range.stop := by
  constructor
  · intro h
    unfold parse at h
    split at h
    · cases h
    · next c second hdrop =>
      have happend := List.takeWhile_append_dropWhile (p := (· != ':')) (l := text.toList)
      have hcolon : c = ':' := by
        have hfront := Text.notInFront_dropWhile (p := (· != ':')) text.toList
        rw [hdrop, Text.notInFront_cons] at hfront
        simpa using hfront
      rw [hdrop, hcolon] at happend
      cases hstart : Address.read (text.toList.takeWhile (· != ':')) with
      | error fault =>
        simp only [hstart] at h
        cases h
      | ok start =>
        cases hstop : Address.read second with
        | error fault =>
          simp only [hstart, hstop] at h
          cases h
        | ok stop =>
          simp only [hstart, hstop] at h
          cases h
          refine ⟨String.ofList (text.toList.takeWhile (· != ':')), String.ofList second,
            ?_, ?_, ?_⟩
          · rw [← String.toList_inj]
            simpa using happend.symm
          · rwa [Address.names_iff_read, String.toList_ofList]
          · rwa [Address.names_iff_read, String.toList_ofList]
  · rintro ⟨first, second, rfl, hfirst, hsecond⟩
    exact parse_append_colon hfirst hsecond

end Range

/-! ## The two directions -/

/-- What is read is a capital letter and digits for a row number from one to 4294967295, and no
other text. The positions of the columns up to `Z` are written, each with a text of its own; the
text is read back but for the last row, which is refused. A text that was read is written again
unless a zero stands in front of its number. A range is read from two such texts joined by a colon,
and so from what it is written as. -/
theorem Address.codec_exact :
    (∀ name a, parse name = .ok a ↔ ∃ spelling : Spelling, spelling.Proper ∧
      name.toList = spelling.text ∧ (1 ≤ spelling.number ∧ spelling.number ≤ 4294967295) ∧
        a.row.toNat = spelling.number - 1 ∧ a.col.toNat = spelling.letter.toNat - 'A'.toNat) ∧
    (∀ row col, (∃ text, letteredText row col = .ok text) ↔ col.toNat < 26) ∧
    (∀ row col text, letteredText row col = .ok text →
      parse text = if row.toNat < 4294967295 then .ok ⟨row, col⟩
        else .error (.invalidAddress .rowTooLarge text)) ∧
    (∀ row col row' col' text, letteredText row col = .ok text →
      letteredText row' col' = .ok text → row = row' ∧ col = col') ∧
    (∀ name a, parse name = .ok a →
      (letteredText a.row a.col = .ok name ↔ ¬IsPadded name)) ∧
    (∀ text range, Range.parse text = .ok range ↔ ∃ first second, text = first ++ ":" ++ second ∧
      parse first = .ok range.start ∧ parse second = .ok range.stop) ∧
    ∀ first second start stop, parse first = .ok start → parse second = .ok stop →
      Range.parse (Range.text ⟨start, stop⟩) = .ok ⟨start, stop⟩ := by
  refine ⟨fun name a => parse_eq_ok_iff_names.trans names_iff, ?_, ?_, ?_, ?_, ?_, ?_⟩
  · intro row col
    simp only [letteredText_eq_ok_iff]
    exact ⟨fun ⟨_, hcol, _⟩ => hcol, fun hcol => ⟨_, hcol, rfl⟩⟩
  · intro row col text h
    obtain ⟨hcol, rfl⟩ := letteredText_eq_ok_iff.mp h
    exact parse_text hcol
  · intro row col row' col' text h h'
    obtain ⟨hcol, rfl⟩ := letteredText_eq_ok_iff.mp h
    obtain ⟨hcol', htext⟩ := letteredText_eq_ok_iff.mp h'
    exact Address.mk.inj (text_inj_of_lettered hcol hcol' htext)
  · intro name a h
    exact letteredText_eq_ok_self_iff (parse_eq_ok_iff_names.mp h)
  · intro text range
    simp only [parse_eq_ok_iff_names]
    exact Range.parse_eq_ok_iff_corners
  · intro first second start stop hfirst hsecond
    rw [parse_eq_ok_iff_names] at hfirst hsecond
    exact Range.parse_append_colon hfirst.isReadable.names_text hsecond.isReadable.names_text

/-- The last row of column `Z` is written and not read back, and no other position is written like
it; `B007` is read and written otherwise, and the range from it to `Z4294967295` is read back. -/
theorem Address.codec_exact_lastRow :
    letteredText 4294967295 25 = .ok "Z4294967296" ∧
      parse "Z4294967296" = .error (.invalidAddress .rowTooLarge "Z4294967296") ∧
      (∀ row col, letteredText row col = .ok "Z4294967296" → row = 4294967295 ∧ col = 25) ∧
      letteredText 6 1 ≠ .ok "B007" ∧
      Range.parse (Range.text ⟨⟨6, 1⟩, ⟨4294967294, 25⟩⟩) = .ok ⟨⟨6, 1⟩, ⟨4294967294, 25⟩⟩ := by
  obtain ⟨-, -, hread, hinj, hpadded, -, hrange⟩ := codec_exact
  have hwritten : letteredText 4294967295 25 = .ok "Z4294967296" := by decide
  have hname : parse "B007" = .ok ⟨6, 1⟩ := by decide
  have hlast : parse "Z4294967295" = .ok ⟨4294967294, 25⟩ := by decide
  refine ⟨hwritten, (hread _ _ _ hwritten).trans (if_neg (by decide)), ?_, ?_,
    hrange _ _ _ _ hname hlast⟩
  · exact fun row col h => hinj _ _ _ _ _ h hwritten
  · exact fun h => (hpadded _ _ hname).mp h ⟨'B', ['0', '7'], by decide⟩

end Worksheet
