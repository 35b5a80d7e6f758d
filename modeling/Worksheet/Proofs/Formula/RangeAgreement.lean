import Worksheet.Proofs.Address.Codec
import Worksheet.Proofs.Formula.RangeSearch
import Worksheet.Proofs.Range.Walk

/-!
# The searched range and the exact one

A range is read in two ways: as a whole text that is two names of cells joined by a colon, and as
the leftmost such form anywhere in a text. The search takes everything that the exact reader takes,
whatever stands around it, and besides it the row numbers that no cell has.

* `NoRangeStartsIn` says that a part in front of a text is passed over, and `rangeIn_of_parse` that
  an exact range behind such a part is found.
* `countedRow` is the row that a written number counts as, and `rangeBetween_of_ne_zero` and
  `rangeBetween_of_rowZero` give the whole range between two corners.
* `parse_corners_iff` says which written corners the exact reader takes.
* `ReadsCorners` is what the search makes of the corners it finds, compared with the exact reader,
  and `rangeIn_exact` is the whole statement.
-/

namespace Worksheet.Formula

open Address (Spelling columnOf ofName)
open Text (NotInFront)

/-! ## Passing over the front -/

instance (text : List Char) : Decidable (RangeInFront text) :=
  decidable_of_iff ((rangeAt? text).isSome = true)
    ⟨fun h => rangeInFront_of_rangeAt? (Option.some_get h).symm, fun h => by
      obtain ⟨range, hrange⟩ := exists_rangeAt?_of_rangeInFront h
      rw [hrange]
      rfl⟩

/-- Whether no range starts inside the first of two texts when the second stands behind it. -/
def NoRangeStartsIn (before rest : List Char) : Prop :=
  ∀ earlier later, before = earlier ++ later → later ≠ [] → ¬RangeInFront (later ++ rest)

instance (before rest : List Char) : Decidable (NoRangeStartsIn before rest) :=
  decidable_of_iff (∀ later ∈ before.tails, later ≠ [] → ¬RangeInFront (later ++ rest))
    ⟨fun h earlier later hsplit => h later ((List.mem_tails _ _).mpr ⟨earlier, hsplit.symm⟩),
      fun h later hlater => by
        obtain ⟨earlier, hsplit⟩ := (List.mem_tails _ _).mp hlater
        exact h earlier later hsplit.symm⟩

theorem leftmostRange_of_noRangeStartsIn {first second : Spelling} (hfirst : first.Proper)
    (hsecond : second.Proper) {before rest : List Char} (hrest : NotInFront Char.isDigit rest)
    (hbefore : NoRangeStartsIn before (first.text ++ ':' :: (second.text ++ rest))) :
    LeftmostRange (before ++ (first.text ++ ':' :: (second.text ++ rest))) first second :=
  ⟨hfirst, hsecond, before, rest, rfl, hrest, hbefore⟩

/-! ## The rows of written corners -/

/-- Whether the number of a spelling is that of a row that cells have names in. -/
def NamesRow (spelling : Spelling) : Prop :=
  1 ≤ spelling.number ∧ spelling.number ≤ 4294967295

/-- The row that a written number counts as. Rows are counted from zero; row zero counts as row
one, and a row past the last one as the last. -/
def countedRow (number : Nat) : UInt32 :=
  UInt32.ofNat (min (number - 1) 4294967295)

theorem rowOf?_of_ne_zero {number : Nat} (h : number ≠ 0) :
    rowOf? number = some (countedRow number) := by
  have hsize : UInt32.size = 4294967296 := rfl
  rw [rowOf?, if_neg h, countedRow]
  split
  · next hlarge =>
    rw [Nat.min_eq_right (by omega)]
    rfl
  · next hsmall => rw [Nat.min_eq_left (by omega)]

theorem getD_rowOf? (number : Nat) : (rowOf? number).getD 0 = countedRow number := by
  by_cases h : number = 0
  · subst h
    rfl
  · rw [rowOf?_of_ne_zero h, Option.getD_some]

variable {first second : Spelling}

/-- A second corner in row zero leaves nothing to enumerate, whatever the first corner is. -/
theorem rangeBetween_of_rowZero (h : second.number = 0) :
    rangeBetween first second = ⟨⟨1, columnOf first.letter⟩, ⟨0, columnOf second.letter⟩⟩ := by
  rw [rangeBetween, rowOf?_eq_none_iff.mpr h, Spelling.col, Spelling.col]

/-- Any other corners are the positions that they count as. -/
theorem rangeBetween_of_ne_zero (h : second.number ≠ 0) :
    rangeBetween first second =
      ⟨⟨countedRow first.number, columnOf first.letter⟩,
        ⟨countedRow second.number, columnOf second.letter⟩⟩ := by
  rw [rangeBetween, rowOf?_of_ne_zero h, getD_rowOf?, Spelling.col, Spelling.col]

/-- A first corner in row zero makes the same range as one in row one. -/
theorem rangeBetween_rowZero_eq {plain : Spelling} (hfirst : first.number = 0)
    (hletter : plain.letter = first.letter) (hplain : plain.number = 1) :
    rangeBetween plain second = rangeBetween first second := by
  by_cases hsecond : second.number = 0
  · rw [rangeBetween_of_rowZero hsecond, rangeBetween_of_rowZero hsecond, hletter]
  · rw [rangeBetween_of_ne_zero hsecond, rangeBetween_of_ne_zero hsecond, hletter, hplain, hfirst]
    rfl

theorem ofName_of_namesRow {spelling : Spelling} (h : NamesRow spelling) :
    ofName spelling.letter spelling.number =
      ⟨countedRow spelling.number, columnOf spelling.letter⟩ := by
  rw [ofName, countedRow, Nat.min_eq_left ((Nat.sub_le _ _).trans h.2)]

/-- Corners in rows that have names are the positions that they name. -/
theorem rangeBetween_of_namesRow (hfirst : NamesRow first) (hsecond : NamesRow second) :
    rangeBetween first second =
      ⟨ofName first.letter first.number, ofName second.letter second.number⟩ := by
  have hne : second.number ≠ 0 := Nat.one_le_iff_ne_zero.mp hsecond.1
  rw [rangeBetween_of_ne_zero hne, ofName_of_namesRow hfirst, ofName_of_namesRow hsecond]

/-! ## The exact reader -/

/-- What the exact reader takes is found with the same corners, wherever it stands first. -/
theorem exists_corners_of_parse {name : String} {range : Range}
    (h : Range.parse name = .ok range) :
    ∃ first second : Spelling, first.Proper ∧ second.Proper ∧ NamesRow first ∧ NamesRow second ∧
      name.toList = first.text ++ ':' :: second.text ∧ range = rangeBetween first second := by
  obtain ⟨left, right, rfl, ⟨first, hfirst, hleft, hfirstRow, hstart⟩,
    ⟨second, hsecond, hright, hsecondRow, hstop⟩⟩ := Range.parse_eq_ok_iff_corners.mp h
  refine ⟨first, second, hfirst, hsecond, hfirstRow, hsecondRow, ?_, ?_⟩
  · rw [String.toList_append, String.toList_append, hleft, hright, List.append_assoc]
    rfl
  · rw [rangeBetween_of_namesRow hfirstRow hsecondRow, ← hstart, ← hstop]

/-- Corners written without anything around them are taken by the exact reader if both rows have
names. -/
theorem parse_corners_iff (hfirst : first.Proper) (hsecond : second.Proper) {range : Range} :
    Range.parse (String.ofList (first.text ++ ':' :: second.text)) = .ok range ↔
      (NamesRow first ∧ NamesRow second) ∧ range = rangeBetween first second := by
  constructor
  · intro h
    obtain ⟨left, right, hleft, hright, hleftRow, hrightRow, hname, hrange⟩ :=
      exists_corners_of_parse h
    -- The first corner ends at the colon, so both texts are cut at the same place.
    have hcolon : ∀ rest, NotInFront Char.isDigit (':' :: rest) :=
      fun _ => Text.notInFront_cons.mpr (by decide)
    have hcut := Spelling.cut?_text_append hfirst (hcolon second.text)
    rw [String.toList_ofList] at hname
    rw [hname, Spelling.cut?_text_append hleft (hcolon right.text), Option.some.injEq,
      Prod.mk.injEq, List.cons.injEq, Spelling.text_inj] at hcut
    obtain ⟨rfl, -, rfl⟩ := hcut
    exact ⟨⟨hleftRow, hrightRow⟩, hrange⟩
  · rintro ⟨⟨hfirstRow, hsecondRow⟩, rfl⟩
    have hleft : Address.Names (String.ofList first.text) (ofName first.letter first.number) :=
      ⟨first, hfirst, String.toList_ofList, hfirstRow, rfl⟩
    have hright : Address.Names (String.ofList second.text) (ofName second.letter second.number) :=
      ⟨second, hsecond, String.toList_ofList, hsecondRow, rfl⟩
    have hparse := Range.parse_append_colon hleft hright
    rw [rangeBetween_of_namesRow hfirstRow hsecondRow, ← hparse]
    congr 1
    rw [← String.toList_inj]
    simp

/-- An exact range is found in a text if no range starts in front of it and no digit follows it. -/
theorem rangeIn_of_parse {before name behind : String} {range : Range}
    (h : Range.parse name = .ok range)
    (hbefore : NoRangeStartsIn before.toList (name ++ behind).toList)
    (hbehind : NotInFront Char.isDigit behind.toList) :
    rangeIn (before ++ name ++ behind) = .ok range := by
  obtain ⟨first, second, hfirst, hsecond, -, -, hname, rfl⟩ := exists_corners_of_parse h
  have hrest : (name ++ behind).toList = first.text ++ ':' :: (second.text ++ behind.toList) := by
    rw [String.toList_append, hname, List.append_assoc, List.cons_append]
  rw [hrest] at hbefore
  refine rangeIn_of_leftmostRange ?_
  rw [String.append_assoc, String.toList_append, hrest]
  exact leftmostRange_of_noRangeStartsIn hfirst hsecond hbehind hbefore

/-! ## What the search makes of corners -/

/-- What the search makes of two written corners. It takes those that the exact reader takes, to
the same effect. The columns are those of the letters. The rows are those that the numbers count
as, so that a first corner in row zero has the effect of one in row one; only in front of a second
corner in row zero the first row is not looked at, and nothing is left to enumerate. -/
structure ReadsCorners (first second : Spelling) (range : Range) : Prop where
  parse_iff : ∀ exact, Range.parse (String.ofList (first.text ++ ':' :: second.text)) = .ok exact ↔
    (NamesRow first ∧ NamesRow second) ∧ exact = range
  counted : second.number ≠ 0 →
    range = ⟨⟨countedRow first.number, columnOf first.letter⟩,
      ⟨countedRow second.number, columnOf second.letter⟩⟩
  start_rowZero : first.number = 0 → ∀ args plain, plain.letter = first.letter →
    plain.number = 1 → LeftmostRange args.toList plain second → rangeIn args = .ok range
  stop_rowZero : second.number = 0 →
    range = ⟨⟨1, columnOf first.letter⟩, ⟨0, columnOf second.letter⟩⟩ ∧
      range.isEmpty = true ∧ range.cursor.toList = []

theorem readsCorners_rangeBetween (hfirst : first.Proper) (hsecond : second.Proper) :
    ReadsCorners first second (rangeBetween first second) where
  parse_iff := fun _ => parse_corners_iff hfirst hsecond
  counted := rangeBetween_of_ne_zero
  start_rowZero := by
    intro hzero args plain hletter hplain hleftmost
    rw [rangeIn_of_leftmostRange hleftmost, rangeBetween_rowZero_eq hzero hletter hplain]
  stop_rowZero := by
    intro hzero
    rw [rangeBetween_of_rowZero hzero, Range.toList_cursor_eq_nil_iff]
    exact ⟨rfl, rfl, Or.inl UInt32.zero_lt_one⟩

/-! ## The whole statement -/

/-- The search succeeds where a range is written at all. It takes the leftmost one, the second
corner with all its digits, and makes of the corners what `ReadsCorners` says. An exact range is
found, to the same effect, in every text in which no range starts in front of it and no digit
follows it. -/
theorem rangeIn_exact (args : String) :
    ((∃ range, rangeIn args = .ok range) ↔ HoldsRange args.toList) ∧
    (HoldsRange args.toList → ∃ first second, LeftmostRange args.toList first second) ∧
    (∀ first second, LeftmostRange args.toList first second →
      ∃ range, rangeIn args = .ok range ∧ ReadsCorners first second range) ∧
    ∀ before name behind range, args = before ++ name ++ behind → Range.parse name = .ok range →
      NoRangeStartsIn before.toList (name ++ behind).toList →
      NotInFront Char.isDigit behind.toList → rangeIn args = .ok range := by
  refine ⟨?_, holdsRange_iff.mp, ?_, ?_⟩
  · rw [holdsRange_iff]
    constructor
    · rintro ⟨range, hrange⟩
      obtain ⟨first, second, hleftmost, -⟩ := rangeIn_eq_ok_iff.mp hrange
      exact ⟨first, second, hleftmost⟩
    · rintro ⟨first, second, hleftmost⟩
      exact ⟨_, rangeIn_of_leftmostRange hleftmost⟩
  · intro first second hleftmost
    exact ⟨_, rangeIn_of_leftmostRange hleftmost,
      readsCorners_rangeBetween hleftmost.1 hleftmost.2.1⟩
  · rintro before name behind range rfl hparse hbefore hbehind
    exact rangeIn_of_parse hparse hbefore hbehind

/-- Near misses in front of a range are passed over; row zero counts as row one, and a row past the
last one as the last. A second corner in row zero leaves nothing to enumerate. -/
theorem rangeIn_exact_nearMisses :
    rangeIn "A1:B:C1:D02)" = .ok ⟨⟨0, 2⟩, ⟨1, 3⟩⟩ ∧
      (∃ first second, LeftmostRange "A1:B:C1:D02)".toList first second) ∧
      (∃ range, rangeIn "AA0:B4294967296" = .ok range ∧ rangeIn "(A01:B4294967296" = .ok range ∧
        range = ⟨⟨0, 0⟩, ⟨4294967295, 1⟩⟩) ∧
      ∃ range, rangeIn "(A5:B0)" = .ok range ∧ range = ⟨⟨1, 0⟩, ⟨0, 1⟩⟩ ∧
        range.cursor.toList = [] := by
  have hexact : rangeIn "A1:B:C1:D02)" = .ok ⟨⟨0, 2⟩, ⟨1, 3⟩⟩ :=
    (rangeIn_exact "A1:B:C1:D02)").2.2.2 "A1:B:" "C1:D02" ")" _ (by decide) (by decide) (by decide)
      (Text.notInFront_cons.mpr (by decide))
  have hleftmost : LeftmostRange "AA0:B4294967296".toList ⟨'A', ['0']⟩
      ⟨'B', "4294967296".toList⟩ :=
    @leftmostRange_of_noRangeStartsIn _ _ ⟨by decide, by decide, by simp⟩
      ⟨by decide, by decide, by simp⟩ ['A'] [] Text.notInFront_nil (by decide +kernel)
  have hplain : LeftmostRange "(A01:B4294967296".toList ⟨'A', ['0', '1']⟩
      ⟨'B', "4294967296".toList⟩ :=
    @leftmostRange_of_noRangeStartsIn _ _ ⟨by decide, by decide, by simp⟩
      ⟨by decide, by decide, by simp⟩ ['('] [] Text.notInFront_nil (by decide +kernel)
  have hempty : LeftmostRange "(A5:B0)".toList ⟨'A', ['5']⟩ ⟨'B', ['0']⟩ :=
    @leftmostRange_of_noRangeStartsIn _ _ ⟨by decide, by decide, by simp⟩
      ⟨by decide, by decide, by simp⟩ ['('] [')'] (Text.notInFront_cons.mpr (by decide))
      (by decide +kernel)
  obtain ⟨range, hrange, hreads⟩ := (rangeIn_exact "AA0:B4294967296").2.2.1 _ _ hleftmost
  obtain ⟨nothing, hnothing, hstop⟩ := (rangeIn_exact "(A5:B0)").2.2.1 _ _ hempty
  obtain ⟨hcorners, -, hlist⟩ := hstop.stop_rowZero (by decide)
  refine ⟨hexact, (rangeIn_exact _).2.1 ((rangeIn_exact _).1.mp ⟨_, hexact⟩),
    ⟨range, hrange, ?_, ?_⟩, nothing, hnothing, hcorners, hlist⟩
  · exact hreads.start_rowZero (by decide) _ ⟨'A', ['0', '1']⟩ rfl (by decide) hplain
  · exact hreads.counted (by decide)

/-- In front of a second corner in row zero, a row past the last one does not become the last. -/
theorem rangeIn_pastLast_rowZero :
    ¬∀ args first second range, LeftmostRange args.toList first second →
      rangeIn args = .ok range → 4294967295 < first.number → range.start.row = 4294967295 := by
  intro h
  have hleftmost : LeftmostRange "A4294967296:B0".toList ⟨'A', "4294967296".toList⟩ ⟨'B', ['0']⟩ :=
    @leftmostRange_of_noRangeStartsIn _ _ ⟨by decide, by decide, by simp⟩
      ⟨by decide, by decide, by simp⟩ [] [] Text.notInFront_nil (by decide +kernel)
  exact absurd (h _ _ _ _ hleftmost (rangeIn_of_leftmostRange hleftmost) (by decide)) (by decide)

end Worksheet.Formula
