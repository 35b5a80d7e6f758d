import Mathlib
import Worksheet.Address
import Worksheet.Text.Digits

/-!
# Written addresses

The name that a position is written with, and what becomes of it when it is read again. A position
in a lettered column and above the last row of the grid is read back from its name. The last row is
written with a number that no reader accepts, and a column past `Z` is written with a mark that is
no letter.

* `letter?_columnOf` and `columnOf_of_letter?` say that letters and columns match.
* `IsReadable` is the property of the positions that are read back; `read_text` reads them, and
  `parse?_text` says what is read from any written name.
* `eq_of_text_eq` says that a readable position shares its name with no other position.
-/

namespace Worksheet.Address

/-! ## Letters and columns -/

theorem isUpper_iff_toNat {c : Char} : c.isUpper = true ↔ 65 ≤ c.toNat ∧ c.toNat ≤ 90 := by
  simp [Char.isUpper, UInt32.le_iff_toNat_le]

theorem toNat_letter {n : Nat} (h : n < 26) : (Char.ofNat (65 + n)).toNat = 65 + n := by
  have hvalid : (65 + n).isValidChar := Or.inl (by omega)
  simp only [Char.ofNat, hvalid, dite_true]
  rfl

theorem letter?_eq_some_iff {col : UInt16} {letter : Char} :
    letter? col = some letter ↔ col < letteredColumns ∧ letter.toNat = 65 + col.toNat := by
  unfold letter?
  by_cases h : col < letteredColumns
  · have hcol : col.toNat < 26 := h
    rw [if_pos h, Option.some.injEq]
    constructor
    · rintro rfl
      exact ⟨h, toNat_letter hcol⟩
    · rintro ⟨-, hletter⟩
      rw [← Char.toNat_inj, hletter]
      exact toNat_letter hcol
  · rw [if_neg h]
    simp [h]

theorem letter?_eq_none_iff {col : UInt16} : letter? col = none ↔ ¬col < letteredColumns := by
  simp [letter?]

theorem isUpper_of_letter? {col : UInt16} {letter : Char} (h : letter? col = some letter) :
    letter.isUpper = true := by
  obtain ⟨hcol, hletter⟩ := letter?_eq_some_iff.mp h
  have hlt : col.toNat < 26 := hcol
  rw [isUpper_iff_toNat]
  omega

theorem toNat_columnOf {letter : Char} (h : letter.isUpper = true) :
    (columnOf letter).toNat = letter.toNat - 65 := by
  rw [isUpper_iff_toNat] at h
  have hsmall : letter.toNat - 65 < UInt16.size := by
    have hsize : UInt16.size = 65536 := rfl
    omega
  exact UInt16.toNat_ofNat_of_lt' hsmall

theorem letter?_columnOf {letter : Char} (h : letter.isUpper = true) :
    letter? (columnOf letter) = some letter := by
  have hcol := toNat_columnOf h
  rw [isUpper_iff_toNat] at h
  rw [letter?_eq_some_iff]
  refine ⟨?_, by omega⟩
  rw [UInt16.lt_iff_toNat_lt, hcol]
  have hlettered : letteredColumns.toNat = 26 := rfl
  omega

theorem columnOf_of_letter? {col : UInt16} {letter : Char} (h : letter? col = some letter) :
    columnOf letter = col := by
  have hcol := toNat_columnOf (isUpper_of_letter? h)
  have hletter := (letter?_eq_some_iff.mp h).2
  rw [← UInt16.toNat_inj]
  omega

/-! ## Row numbers -/

theorem rowDigits_ne_nil (row : UInt32) : rowDigits row ≠ [] :=
  Nat.toDigits_ne_nil

theorem all_isDigit_rowDigits (row : UInt32) : (rowDigits row).all Char.isDigit = true := by
  rw [List.all_eq_true]
  intro c hc
  exact Nat.isDigit_of_mem_toDigits (by decide) (by decide) hc

theorem ofDigitChars_rowDigits (row : UInt32) :
    Nat.ofDigitChars 10 (rowDigits row) 0 = row.toNat + 1 :=
  Nat.ofDigitChars_ten_toDigits

/-! ## Names that are read back -/

/-- Whether the name of a position is read back: the column has a letter, and the row is not the
last one of the grid. -/
def IsReadable (address : Address) : Prop :=
  address.col < letteredColumns ∧ address.row.toNat + 1 < UInt32.size

instance (address : Address) : Decidable address.IsReadable :=
  inferInstanceAs (Decidable (_ ∧ _))

theorem toList_text (address : Address) :
    address.text.toList = (letter? address.col).getD '?' :: rowDigits address.row := by
  simp [text]

/-- A letter and a written row number are read as long as the number fits in thirty-two bits. -/
theorem read_cons_rowDigits {letter : Char} (h : letter.isUpper = true) (row : UInt32) :
    read (letter :: rowDigits row) =
      if row.toNat + 1 < UInt32.size then .ok ⟨row, columnOf letter⟩ else .error .rowTooLarge := by
  have hempty : (rowDigits row).isEmpty = false := by
    simp [rowDigits_ne_nil]
  simp only [read, h, all_isDigit_rowDigits, ofDigitChars_rowDigits, hempty]
  by_cases hrow : row.toNat + 1 < UInt32.size
  · have hnumber : ¬UInt32.size ≤ row.toNat + 1 := by omega
    simp [hrow, hnumber]
  · have hnumber : UInt32.size ≤ row.toNat + 1 := by omega
    simp [hrow, hnumber]

theorem read_text {address : Address} (h : address.IsReadable) :
    read address.text.toList = .ok address := by
  obtain ⟨hcol, hrow⟩ := h
  rw [toList_text]
  cases hletter : letter? address.col with
  | none => exact absurd hcol (letter?_eq_none_iff.mp hletter)
  | some letter =>
    rw [Option.getD_some, read_cons_rowDigits (isUpper_of_letter? hletter), if_pos hrow,
      columnOf_of_letter? hletter]

theorem parse?_eq_some_iff {name : String} {a : Address} :
    parse? name = some a ↔ parse name = .ok a := by
  unfold parse? parse
  cases Address.read name.toList with
  | error fault => simp [Except.toOption, Except.mapError]
  | ok found => simp [Except.toOption, Except.mapError]

/-- A written name is read back as the position if the position is readable, and is refused
otherwise. -/
theorem parse?_text (address : Address) :
    parse? address.text = if address.IsReadable then some address else none := by
  by_cases h : address.IsReadable
  · rw [if_pos h, parse?, read_text h]
    rfl
  · rw [if_neg h, parse?, toList_text]
    cases hletter : letter? address.col with
    | none => rfl
    | some letter =>
      have hcol := (letter?_eq_some_iff.mp hletter).1
      have hrow : ¬address.row.toNat + 1 < UInt32.size := fun hlt => h ⟨hcol, hlt⟩
      rw [Option.getD_some, read_cons_rowDigits (isUpper_of_letter? hletter), if_neg hrow]
      rfl

/-- What is read from a written name is the position itself. -/
theorem eq_of_parse?_text {a b : Address} (h : parse? a.text = some b) : a = b := by
  rw [parse?_text] at h
  split at h
  · exact Option.some.inj h
  · cases h

/-- A written name holds a capital letter or a question mark, and digits. -/
theorem not_mem_text {address : Address} {c : Char} (hupper : c.isUpper = false)
    (hdigit : c.isDigit = false) (hmark : c ≠ '?') : c ∉ address.text.toList := by
  rw [toList_text, List.mem_cons, not_or]
  constructor
  · cases hletter : letter? address.col with
    | none => exact hmark
    | some letter =>
      rintro rfl
      rw [isUpper_of_letter? hletter] at hupper
      cases hupper
  · intro hmem
    rw [List.all_eq_true.mp (all_isDigit_rowDigits address.row) c hmem] at hdigit
    cases hdigit

/-- A readable position shares its name with no other position. -/
theorem eq_of_text_eq {a b : Address} (ha : a.IsReadable) (h : a.text = b.text) : a = b := by
  have hread : parse? b.text = some a := by rw [← h, parse?_text, if_pos ha]
  exact (eq_of_parse?_text hread).symm

/-! ## Names by letter and number -/

/-- The name in a lettered column and a numbered row. -/
def nameOf (letter : Char) (number : Nat) : String :=
  String.ofList (letter :: Nat.toDigits 10 number)

theorem text_eq_nameOf {address : Address} {letter : Char}
    (h : letter? address.col = some letter) :
    address.text = nameOf letter (address.row.toNat + 1) := by
  rw [text, h]
  rfl

theorem toList_nameOf (letter : Char) (number : Nat) :
    (nameOf letter number).toList = letter :: Nat.toDigits 10 number := by
  simp [nameOf]

theorem nameOf_inj {letter letter' : Char} {number number' : Nat} :
    nameOf letter number = nameOf letter' number' ↔ letter = letter' ∧ number = number' := by
  constructor
  · intro h
    have hlist := congrArg String.toList h
    rw [toList_nameOf, toList_nameOf, List.cons.injEq] at hlist
    have hnumber := congrArg (Nat.ofDigitChars 10 · 0) hlist.2
    simp only [Nat.ofDigitChars_ten_toDigits] at hnumber
    exact ⟨hlist.1, hnumber⟩
  · rintro ⟨rfl, rfl⟩
    rfl

/-- The position of a lettered column and a numbered row. -/
def ofName (letter : Char) (number : Nat) : Address :=
  ⟨UInt32.ofNat (number - 1), columnOf letter⟩

theorem toNat_row_ofName {letter : Char} {number : Nat} (hnumber : number ≤ UInt32.size) :
    (ofName letter number).row.toNat = number - 1 := by
  have hsize : 0 < UInt32.size := by decide
  exact UInt32.toNat_ofNat_of_lt' (by omega)

theorem text_ofName {letter : Char} {number : Nat} (hletter : letter.isUpper = true)
    (hpos : 1 ≤ number) (hnumber : number ≤ UInt32.size) :
    (ofName letter number).text = nameOf letter number := by
  rw [text_eq_nameOf (letter?_columnOf hletter), toNat_row_ofName hnumber]
  congr 1
  omega

theorem isReadable_ofName {letter : Char} {number : Nat} (hletter : letter.isUpper = true)
    (hpos : 1 ≤ number) (hnumber : number ≤ 4294967295) : (ofName letter number).IsReadable := by
  have hsize : UInt32.size = 4294967296 := rfl
  refine ⟨(letter?_eq_some_iff.mp (letter?_columnOf hletter)).1, ?_⟩
  rw [toNat_row_ofName (by omega)]
  omega

end Worksheet.Address
