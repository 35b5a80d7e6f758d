import Worksheet.Formula.Aggregate
import Worksheet.Proofs.Address.Spelling
import Worksheet.Proofs.Snapshot

/-!
# From written corners to cells

The arguments of an aggregate name a rectangle by its two corners, and the rectangle decides which
cells are read. This module follows the way from the written row numbers, which may be any numbers
at all, to the stored names of the cells.

There are three groups.

* The search. `LeftmostRange` says which corners a text names, `rangeIn_of_leftmostRange` that the
  search finds them, and `rangeIn_eq_error_iff` that it fails only where no range is written.
* The rectangle. `contains_rangeBetween_iff` compares the written numbers with the readable
  positions: the turn from one-based to zero-based rows, row zero and the rows past the last one
  leave no trace.
* The cells. `cellsWithin_rangeIn` says which stored cells are read, and in which order.
-/

namespace Worksheet.Formula

open Address (Spelling nameOf ofName letter? columnOf letteredColumns)
open Text (NotInFront)

/-! ## The search -/

/-- Whether two corners joined by a colon stand at the front of a text. -/
def RangeInFront (text : List Char) : Prop :=
  ∃ first second : Spelling, first.Proper ∧ second.Proper ∧
    ∃ rest, text = first.text ++ ':' :: (second.text ++ rest)

/-- Whether two corners joined by a colon stand anywhere in a text. -/
def HoldsRange (text : List Char) : Prop :=
  ∃ before after, text = before ++ after ∧ RangeInFront after

/-- Whether the leftmost range that is written in a text has these two corners, the second one
with all its digits. -/
def LeftmostRange (text : List Char) (first second : Spelling) : Prop :=
  first.Proper ∧ second.Proper ∧
    ∃ before rest, text = before ++ (first.text ++ ':' :: (second.text ++ rest)) ∧
      NotInFront Char.isDigit rest ∧
      ∀ earlier later, before = earlier ++ later → later ≠ [] →
        ¬RangeInFront (later ++ (first.text ++ ':' :: (second.text ++ rest)))

theorem rangeAt?_of_corners {first second : Spelling} {rest : List Char} (hfirst : first.Proper)
    (hsecond : second.Proper) (hrest : NotInFront Char.isDigit rest) :
    rangeAt? (first.text ++ ':' :: (second.text ++ rest)) = some (rangeBetween first second) := by
  have hcolon : NotInFront Char.isDigit (':' :: (second.text ++ rest)) :=
    Text.notInFront_cons.mpr (by decide)
  rw [rangeAt?, Spelling.cut?_text_append hfirst hcolon]
  simp only [Spelling.cut?_text_append hsecond hrest, Option.map_some]

theorem rangeInFront_of_rangeAt? {text : List Char} {range : Range}
    (h : rangeAt? text = some range) : RangeInFront text := by
  unfold rangeAt? at h
  split at h
  · next first rest hcut =>
    obtain ⟨⟨second, after⟩, hcut', -⟩ := Option.map_eq_some_iff.mp h
    obtain ⟨hfirst, -, rfl⟩ := Spelling.cut?_eq_some_iff.mp hcut
    obtain ⟨hsecond, -, rfl⟩ := Spelling.cut?_eq_some_iff.mp hcut'
    exact ⟨first, second, hfirst, hsecond, after, rfl⟩
  · cases h

/-- The second corner of a range takes all digits behind it. -/
theorem exists_corners_of_rangeInFront {text : List Char} (h : RangeInFront text) :
    ∃ first second : Spelling, first.Proper ∧ second.Proper ∧ ∃ rest,
      text = first.text ++ ':' :: (second.text ++ rest) ∧ NotInFront Char.isDigit rest := by
  obtain ⟨first, ⟨letter, digits⟩, hfirst, hsecond, rest, rfl⟩ := h
  refine ⟨first, ⟨letter, digits ++ rest.takeWhile Char.isDigit⟩, hfirst,
    ⟨hsecond.isUpper_letter, ?_, ?_⟩, rest.dropWhile Char.isDigit, ?_,
    Text.notInFront_dropWhile rest⟩
  · exact List.append_ne_nil_of_left_ne_nil hsecond.digits_ne_nil _
  · exact List.forall_mem_append.mpr
      ⟨hsecond.isDigit_digits, fun c hc => List.mem_takeWhile_imp hc⟩
  · simp only [Spelling.text, List.cons_append, List.append_assoc, List.takeWhile_append_dropWhile]

theorem exists_rangeAt?_of_rangeInFront {text : List Char} (h : RangeInFront text) :
    ∃ range, rangeAt? text = some range := by
  obtain ⟨first, second, hfirst, hsecond, rest, rfl, hrest⟩ := exists_corners_of_rangeInFront h
  exact ⟨_, rangeAt?_of_corners hfirst hsecond hrest⟩

theorem firstRange?_append {before text : List Char} {range : Range}
    (hrange : rangeAt? text = some range) (hne : text ≠ [])
    (hearlier : ∀ earlier later, before = earlier ++ later → later ≠ [] →
      ¬RangeInFront (later ++ text)) :
    firstRange? (before ++ text) = some range := by
  induction before with
  | nil =>
    cases text with
    | nil => exact absurd rfl hne
    | cons c rest => rw [List.nil_append, firstRange?, hrange]
  | cons c before ih =>
    have hnone : rangeAt? (c :: before ++ text) = none := by
      cases hfound : rangeAt? (c :: before ++ text) with
      | none => rfl
      | some found =>
        exact absurd (rangeInFront_of_rangeAt? hfound) (hearlier [] _ rfl (List.cons_ne_nil _ _))
    rw [List.cons_append, firstRange?]
    rw [List.cons_append] at hnone
    rw [hnone]
    exact ih fun earlier later hsplit => hearlier (c :: earlier) later (by rw [hsplit]; rfl)

theorem rangeIn_of_leftmostRange {args : String} {first second : Spelling}
    (h : LeftmostRange args.toList first second) :
    rangeIn args = .ok (rangeBetween first second) := by
  obtain ⟨hfirst, hsecond, before, rest, htext, hrest, hearlier⟩ := h
  have hrange := rangeAt?_of_corners hfirst hsecond hrest
  rw [rangeIn, htext, firstRange?_append hrange (by simp [Spelling.text]) hearlier]

theorem exists_leftmostRange_of_firstRange? {text : List Char} {range : Range}
    (h : firstRange? text = some range) :
    ∃ first second, LeftmostRange text first second ∧ range = rangeBetween first second := by
  induction text with
  | nil => cases h
  | cons c text ih =>
    rw [firstRange?] at h
    split at h
    · next found hfound =>
      cases h
      obtain ⟨first, second, hfirst, hsecond, rest, htext, hrest⟩ :=
        exists_corners_of_rangeInFront (rangeInFront_of_rangeAt? hfound)
      rw [htext, rangeAt?_of_corners hfirst hsecond hrest] at hfound
      cases hfound
      refine ⟨first, second, ⟨hfirst, hsecond, [], rest, htext, hrest, ?_⟩, rfl⟩
      intro earlier later hsplit hlater
      exact absurd (List.append_eq_nil_iff.mp hsplit.symm).2 hlater
    · next hnone =>
      obtain ⟨first, second, ⟨hfirst, hsecond, before, rest, rfl, hrest, hearlier⟩, hrange⟩ := ih h
      refine ⟨first, second, ⟨hfirst, hsecond, c :: before, rest, rfl, hrest, ?_⟩, hrange⟩
      intro earlier later hsplit hlater hfront
      cases earlier with
      | nil =>
        -- A range in front of the whole text would have been found at once.
        obtain ⟨found, hfound⟩ := exists_rangeAt?_of_rangeInFront hfront
        rw [List.nil_append] at hsplit
        rw [← hsplit, List.cons_append, hnone] at hfound
        cases hfound
      | cons d earlier => exact hearlier earlier later (List.cons.inj hsplit).2 hlater hfront

theorem firstRange?_ne_none {before after : List Char} (h : RangeInFront after) :
    firstRange? (before ++ after) ≠ none := by
  induction before with
  | nil =>
    obtain ⟨range, hrange⟩ := exists_rangeAt?_of_rangeInFront h
    cases after with
    | nil => cases hrange
    | cons c rest =>
      rw [List.nil_append, firstRange?, hrange]
      exact Option.some_ne_none _
  | cons c before ih =>
    rw [List.cons_append, firstRange?]
    split
    · exact Option.some_ne_none _
    · exact ih

/-- Where a range is written, one of them is the leftmost. -/
theorem holdsRange_iff {text : List Char} :
    HoldsRange text ↔ ∃ first second, LeftmostRange text first second := by
  constructor
  · rintro ⟨before, after, rfl, hfront⟩
    obtain ⟨range, hrange⟩ := Option.ne_none_iff_exists'.mp (firstRange?_ne_none hfront)
    obtain ⟨first, second, hleftmost, -⟩ := exists_leftmostRange_of_firstRange? hrange
    exact ⟨first, second, hleftmost⟩
  · rintro ⟨first, second, hfirst, hsecond, before, rest, rfl, -⟩
    exact ⟨before, _, rfl, first, second, hfirst, hsecond, rest, rfl⟩

theorem rangeIn_eq_ok_iff {args : String} {range : Range} :
    rangeIn args = .ok range ↔
      ∃ first second, LeftmostRange args.toList first second ∧
        range = rangeBetween first second := by
  constructor
  · intro h
    unfold rangeIn at h
    split at h
    · next found hfound =>
      cases h
      exact exists_leftmostRange_of_firstRange? hfound
    · cases h
  · rintro ⟨first, second, hleftmost, rfl⟩
    exact rangeIn_of_leftmostRange hleftmost

theorem rangeIn_eq_error_iff {args : String} {cause : EvalError} :
    rangeIn args = .error cause ↔ ¬HoldsRange args.toList ∧ cause = .noRange args := by
  rw [holdsRange_iff]
  constructor
  · intro h
    refine ⟨?_, ?_⟩
    · rintro ⟨first, second, hleftmost⟩
      rw [rangeIn_of_leftmostRange hleftmost] at h
      cases h
    · unfold rangeIn at h
      split at h
      · cases h
      · cases h
        rfl
  · rintro ⟨hnone, rfl⟩
    unfold rangeIn
    split
    · next found hfound =>
      obtain ⟨first, second, hleftmost, -⟩ := exists_leftmostRange_of_firstRange? hfound
      exact absurd ⟨first, second, hleftmost⟩ hnone
    · rfl

/-! ## The rectangle -/

theorem rowOf?_eq_none_iff {number : Nat} : rowOf? number = none ↔ number = 0 := by
  unfold rowOf?
  split
  · simp [*]
  · split <;> simp [*]

/-- A written number counts as the last row if it is past it. -/
theorem toNat_of_rowOf? {number : Nat} {row : UInt32} (h : rowOf? number = some row) :
    row.toNat + 1 = min number UInt32.size := by
  have hsize : UInt32.size = 4294967296 := rfl
  unfold rowOf? at h
  split at h
  · cases h
  · split at h
    · cases h
      rw [UInt32.toNat_ofNat_of_lt' (by omega)]
      omega
    · cases h
      rw [UInt32.toNat_ofNat_of_lt' (by omega)]
      omega

/-- A readable position lies between two corners if its row number and its column do. -/
theorem contains_rangeBetween_iff {first second : Spelling} {a : Address} (ha : a.IsReadable) :
    (rangeBetween first second).contains a = true ↔
      (first.number ≤ a.row.toNat + 1 ∧ a.row.toNat + 1 ≤ second.number) ∧
        first.col.toNat ≤ a.col.toNat ∧ a.col.toNat ≤ second.col.toNat := by
  have hrow := ha.2
  unfold rangeBetween
  rw [Range.contains_iff]
  cases hsecond : rowOf? second.number with
  | none =>
    rw [rowOf?_eq_none_iff] at hsecond
    simp only [UInt32.toNat_one, UInt32.toNat_zero]
    omega
  | some last =>
    have hlast := toNat_of_rowOf? hsecond
    cases hfirst : rowOf? first.number with
    | none =>
      rw [rowOf?_eq_none_iff] at hfirst
      simp only [Option.getD_none, UInt32.toNat_zero]
      omega
    | some start =>
      have hstart := toNat_of_rowOf? hfirst
      simp only [Option.getD_some]
      omega

/-- No position without a letter lies between two corners. -/
theorem col_lt_of_contains_rangeBetween {first second : Spelling} (hsecond : second.Proper)
    {a : Address} (ha : (rangeBetween first second).contains a = true) :
    a.col < letteredColumns := by
  have hcol := Address.toNat_columnOf hsecond.isUpper_letter
  have hletter := Address.isUpper_iff_toNat.mp hsecond.isUpper_letter
  have hbound : a.col.toNat ≤ second.col.toNat := by
    unfold rangeBetween at ha
    split at ha <;> exact (Range.contains_iff.mp ha).2.2
  rw [UInt16.lt_iff_toNat_lt]
  have hlettered : letteredColumns.toNat = 26 := rfl
  unfold Spelling.col at hbound
  omega

/-! ## The cells -/

/-- Whether a letter and a row number lie between two written corners, above the last row. -/
def NamedBetween (first second : Spelling) (letter : Char) (number : Nat) : Prop :=
  (letter.isUpper = true ∧ first.letter ≤ letter ∧ letter ≤ second.letter) ∧
    (first.number ≤ number ∧ number ≤ second.number) ∧ 1 ≤ number ∧ number ≤ 4294967295

/-- Whether no name of the last row, which cannot be read back, is occupied. -/
def LastRowFree (cells : Snapshot) : Prop :=
  ∀ letter : Char, letter.isUpper = true → cells.get? (nameOf letter 4294967296) = none

/-- A stored cell with the letter and the row number of its name. -/
structure Located where
  letter : Char
  number : Nat
  cell : Cell

/-- The order by row number, and by letter within a row. -/
def Located.Before (a b : Located) : Prop :=
  a.number < b.number ∨ a.number = b.number ∧ a.letter < b.letter

theorem char_le_iff_toNat {a b : Char} : a ≤ b ↔ a.toNat ≤ b.toNat :=
  UInt32.le_iff_toNat_le

theorem char_lt_iff_toNat {a b : Char} : a < b ↔ a.toNat < b.toNat :=
  UInt32.lt_iff_toNat_lt

theorem namedBetween_iff {first second : Spelling} (hfirst : first.Proper)
    (hsecond : second.Proper) {a : Address} {letter : Char} (ha : a.IsReadable)
    (hletter : letter? a.col = some letter) :
    NamedBetween first second letter (a.row.toNat + 1) ↔
      (rangeBetween first second).contains a = true := by
  have hrow : a.row.toNat + 1 < 4294967296 := ha.2
  have hcol := (Address.letter?_eq_some_iff.mp hletter).2
  have hupper := Address.isUpper_of_letter? hletter
  have hfirstCol := Address.toNat_columnOf hfirst.isUpper_letter
  have hsecondCol := Address.toNat_columnOf hsecond.isUpper_letter
  have hfirstUpper := Address.isUpper_iff_toNat.mp hfirst.isUpper_letter
  have hsecondUpper := Address.isUpper_iff_toNat.mp hsecond.isUpper_letter
  rw [contains_rangeBetween_iff ha]
  simp only [NamedBetween, hupper, true_and, char_le_iff_toNat, Spelling.col]
  omega

theorem readableWithin_rangeBetween {first second : Spelling} (hsecond : second.Proper)
    {cells : Snapshot} (hlast : LastRowFree cells) :
    cells.ReadableWithin (rangeBetween first second) := by
  intro a ha hoccupied
  have hcol := col_lt_of_contains_rangeBetween hsecond ha
  refine ⟨hcol, ?_⟩
  cases hletter : letter? a.col with
  | none => exact absurd hcol (Address.letter?_eq_none_iff.mp hletter)
  | some letter =>
    have hbound := a.row.toNat_lt
    have hname := Address.text_eq_nameOf hletter
    have hne : a.row.toNat + 1 ≠ 4294967296 := fun heq => by
      rw [heq] at hname
      rw [Snapshot.getAt?, hname, hlast letter (Address.isUpper_of_letter? hletter)] at hoccupied
      cases hoccupied
    have hsize : UInt32.size = 4294967296 := rfl
    omega

/-- The cell at a position with the letter and the number of the position. -/
def Located.ofHit (hit : Address × Cell) : Located :=
  ⟨(letter? hit.1.col).getD '?', hit.1.row.toNat + 1, hit.2⟩

/-- The cells that are read between two corners, with their letters and numbers. -/
def locatedBetween (first second : Spelling) (cells : Snapshot) : List Located :=
  (cells.hits (rangeBetween first second).cursor.toList).map Located.ofHit

section

variable {first second : Spelling} {cells : Snapshot}

theorem map_cell_locatedBetween (hsecond : second.Proper) (hlast : LastRowFree cells) :
    (locatedBetween first second cells).map Located.cell =
      cells.cellsWithin (rangeBetween first second) := by
  rw [Snapshot.cellsWithin_eq_walk (readableWithin_rangeBetween hsecond hlast), Snapshot.walk,
    ← Snapshot.map_hits, locatedBetween, List.map_map]
  rfl

theorem pairwise_locatedBetween (hsecond : second.Proper) :
    (locatedBetween first second cells).Pairwise Located.Before := by
  rw [locatedBetween, List.pairwise_map]
  refine List.Pairwise.imp_of_mem ?_
    (cells.pairwise_hits (Range.pairwise_toList_cursor (rangeBetween first second)))
  rintro ⟨a, x⟩ ⟨b, y⟩ ha hb hbefore
  rw [Snapshot.mem_hits_iff, Range.mem_toList_cursor] at ha hb
  have hacol := col_lt_of_contains_rangeBetween hsecond ha.1
  have hbcol := col_lt_of_contains_rangeBetween hsecond hb.1
  cases hletterA : letter? a.col with
  | none => exact absurd hacol (Address.letter?_eq_none_iff.mp hletterA)
  | some letterA =>
    cases hletterB : letter? b.col with
    | none => exact absurd hbcol (Address.letter?_eq_none_iff.mp hletterB)
    | some letterB =>
      have htoA := (Address.letter?_eq_some_iff.mp hletterA).2
      have htoB := (Address.letter?_eq_some_iff.mp hletterB).2
      have horder : a.row.toNat < b.row.toNat ∨
          a.row.toNat = b.row.toNat ∧ a.col.toNat < b.col.toNat :=
        Address.before_iff_toNat.mp hbefore
      simp only [Located.Before, Located.ofHit, hletterA, hletterB, Option.getD_some,
        char_lt_iff_toNat]
      omega

theorem mem_locatedBetween_iff (hfirst : first.Proper) (hsecond : second.Proper)
    (hlast : LastRowFree cells) {entry : Located} :
    entry ∈ locatedBetween first second cells ↔
      NamedBetween first second entry.letter entry.number ∧
        cells.get? (nameOf entry.letter entry.number) = some entry.cell := by
  rw [locatedBetween, List.mem_map]
  constructor
  · rintro ⟨⟨a, cell⟩, hhit, rfl⟩
    obtain ⟨ha, hcell⟩ := Snapshot.mem_hits_iff.mp hhit
    rw [Range.mem_toList_cursor] at ha
    have hreadable := readableWithin_rangeBetween hsecond hlast a ha (by rw [hcell]; rfl)
    cases hletter : letter? a.col with
    | none => exact absurd hreadable.1 (Address.letter?_eq_none_iff.mp hletter)
    | some letter =>
      rw [Snapshot.getAt?, Address.text_eq_nameOf hletter] at hcell
      simp only [Located.ofHit, hletter, Option.getD_some]
      exact ⟨(namedBetween_iff hfirst hsecond hreadable hletter).mpr ha, hcell⟩
  · rintro ⟨hnamed, hcell⟩
    obtain ⟨letter, number, cell⟩ := entry
    have hupper := hnamed.1.1
    have hnumber : 1 ≤ number ∧ number ≤ 4294967295 := hnamed.2.2
    have hsize : UInt32.size = 4294967296 := rfl
    have hletter := Address.letter?_columnOf hupper
    have hrow : (ofName letter number).row.toNat = number - 1 :=
      Address.toNat_row_ofName (by omega)
    have hreadable : (ofName letter number).IsReadable :=
      Address.isReadable_ofName hupper hnumber.1 hnumber.2
    have hback : (ofName letter number).row.toNat + 1 = number := by omega
    refine ⟨(ofName letter number, cell), Snapshot.mem_hits_iff.mpr ⟨?_, ?_⟩, ?_⟩
    · rw [Range.mem_toList_cursor, ← namedBetween_iff hfirst hsecond hreadable hletter, hback]
      exact hnamed
    · rw [Snapshot.getAt?, Address.text_ofName hupper hnumber.1 (by omega)]
      exact hcell
    · rw [Located.ofHit, hback]
      simp only [ofName, hletter, Option.getD_some]

/-- The cells between two corners depend on the names between them only. -/
theorem cellsWithin_congr_of_names {other : Snapshot} (hfirst : first.Proper)
    (hsecond : second.Proper) (hlast : LastRowFree cells) (hotherLast : LastRowFree other)
    (hnames : ∀ letter number, NamedBetween first second letter number →
      other.get? (nameOf letter number) = cells.get? (nameOf letter number)) :
    other.cellsWithin (rangeBetween first second) =
      cells.cellsWithin (rangeBetween first second) := by
  rw [Snapshot.cellsWithin_eq_walk (readableWithin_rangeBetween hsecond hlast),
    Snapshot.cellsWithin_eq_walk (readableWithin_rangeBetween hsecond hotherLast)]
  refine Snapshot.walk_congr fun a ha => ?_
  have hcol := col_lt_of_contains_rangeBetween hsecond ha
  cases hletter : letter? a.col with
  | none => exact absurd hcol (Address.letter?_eq_none_iff.mp hletter)
  | some letter =>
    have hname := Address.text_eq_nameOf hletter
    rw [Snapshot.getAt?, Snapshot.getAt?, hname]
    by_cases hrow : a.row.toNat + 1 < UInt32.size
    · exact hnames letter _ ((namedBetween_iff hfirst hsecond ⟨hcol, hrow⟩ hletter).mpr ha)
    · have hbound := a.row.toNat_lt
      have hsize : UInt32.size = 4294967296 := rfl
      have hrowLast : a.row.toNat + 1 = 4294967296 := by omega
      have hupper := Address.isUpper_of_letter? hletter
      rw [hrowLast, hlast letter hupper, hotherLast letter hupper]

end

theorem numbersIn_of_rangeIn {args : String} {range : Range} (h : rangeIn args = .ok range)
    (cells : Snapshot) :
    numbersIn args cells =
      .ok ((cells.cellsWithin range).filterMap fun cell => Number.leading? cell.display) := by
  rw [numbersIn, h]
  rfl

/-- The cells that are read for written corners are the stored cells whose plain names lie between
the corners, each once, by row number and letter. The numbers of an aggregate are what these cells
show in front, and no other name matters. -/
theorem cellsWithin_rangeIn {args : String} {first second : Spelling}
    (h : LeftmostRange args.toList first second) {cells : Snapshot} (hlast : LastRowFree cells) :
    ∃ range, rangeIn args = .ok range ∧ ∃ located : List Located,
      cells.cellsWithin range = located.map Located.cell ∧
      located.Pairwise Located.Before ∧
      (∀ entry, entry ∈ located ↔ NamedBetween first second entry.letter entry.number ∧
        cells.get? (nameOf entry.letter entry.number) = some entry.cell) ∧
      numbersIn args cells =
        .ok (located.filterMap fun entry => Number.leading? entry.cell.display) ∧
      ∀ other : Snapshot, LastRowFree other →
        (∀ letter number, NamedBetween first second letter number →
          other.get? (nameOf letter number) = cells.get? (nameOf letter number)) →
        other.cellsWithin range = cells.cellsWithin range ∧
          numbersIn args other = numbersIn args cells := by
  have hrange := rangeIn_of_leftmostRange h
  obtain ⟨hfirst, hsecond, -⟩ := h
  have hcells := @map_cell_locatedBetween first second cells hsecond hlast
  refine ⟨rangeBetween first second, hrange, locatedBetween first second cells, hcells.symm,
    pairwise_locatedBetween hsecond, fun entry => mem_locatedBetween_iff hfirst hsecond hlast,
    ?_, fun other hotherLast hnames => ?_⟩
  · rw [numbersIn_of_rangeIn hrange, ← hcells, List.filterMap_map]
    rfl
  · have hsame := cellsWithin_congr_of_names hfirst hsecond hlast hotherLast hnames
    rw [numbersIn_of_rangeIn hrange, numbersIn_of_rangeIn hrange, hsame]
    exact ⟨rfl, rfl⟩

/-- From row zero to row seven, the cell `B7` is read and `A07` is not. -/
theorem cellsWithin_rangeIn_rowZero :
    let cells := Snapshot.ofList [("A07", .ofText "1"), ("B7", .ofText "2")]
    ∃ range, rangeIn "(A0:B07)" = .ok range ∧ ∃ located : List Located,
      cells.cellsWithin range = located.map Located.cell ∧
      (⟨'B', 7, .ofText "2"⟩ : Located) ∈ located ∧
      ∀ entry ∈ located, entry.cell = .ofText "2" := by
  intro cells
  have hleftmost : LeftmostRange "(A0:B07)".toList ⟨'A', ['0']⟩ ⟨'B', ['0', '7']⟩ := by
    refine ⟨⟨by decide, by decide, by simp⟩, ⟨by decide, by decide, by simp⟩,
      ['('], [')'], by decide, by simp, ?_⟩
    intro earlier later hsplit hlater
    cases earlier with
    | nil =>
      rintro ⟨first, second, hfirst, -, rest, htext⟩
      have hletter := hfirst.isUpper_letter
      rw [List.nil_append] at hsplit
      rw [← hsplit] at htext
      simp only [List.cons_append, Spelling.text, List.cons.injEq] at htext
      rw [← htext.1] at hletter
      exact absurd hletter (by decide)
    | cons c earlier =>
      simp only [List.cons_append, List.cons.injEq, List.nil_eq, List.append_eq_nil_iff] at hsplit
      exact absurd hsplit.2.2 hlater
  have hnames : ∀ {letter : Char} {number : Nat} {cell : Cell},
      cells.get? (nameOf letter number) = some cell →
        letter = 'B' ∧ number = 7 ∧ cell = .ofText "2" := by
    intro letter number cell hcell
    have hentries : cells.entries = [("A07", .ofText "1"), ("B7", .ofText "2")] := by decide
    rw [Snapshot.get?_eq_some_iff, hentries, List.mem_cons, List.mem_singleton, Prod.mk.injEq,
      Prod.mk.injEq] at hcell
    rcases hcell with ⟨hname, -⟩ | ⟨hname, hcell⟩
    · have hlist := congrArg String.toList hname
      rw [Address.toList_nameOf, show "A07".toList = ['A', '0', '7'] from rfl,
        List.cons.injEq] at hlist
      have hnumber := Nat.ofDigitChars_ten_toDigits (n := number)
      rw [hlist.2] at hnumber
      rw [← hnumber] at hlist
      exact absurd hlist.2 (by decide)
    · have hseven : nameOf letter number = nameOf 'B' 7 := hname
      rw [Address.nameOf_inj] at hseven
      exact ⟨hseven.1, hseven.2, hcell⟩
  have hlast : LastRowFree cells := by
    intro letter _
    rw [Option.eq_none_iff_forall_ne_some]
    intro cell hcell
    exact absurd (hnames hcell).2.1 (by decide)
  obtain ⟨range, hrange, located, hcells, -, hmem, -⟩ := cellsWithin_rangeIn hleftmost hlast
  refine ⟨range, hrange, located, hcells, (hmem _).mpr ⟨?_, by decide⟩, ?_⟩
  · exact ⟨by decide, by decide, by decide⟩
  · intro entry hentry
    exact (hnames ((hmem entry).mp hentry).2).2.2

end Worksheet.Formula
