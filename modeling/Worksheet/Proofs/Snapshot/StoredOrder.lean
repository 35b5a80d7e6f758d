import Worksheet.Proofs.Formula.Dependence
import Worksheet.Proofs.Sheet.Run
import Worksheet.Proofs.Snapshot.Sorted

/-!
# The order in which cells are stored

A snapshot stores its entries in some order, and whatever is read from it must not show which. Two
names can spell one address, and such names are where an order could show.

* `SameEntries` compares two snapshots that store the same entries, each in its own order;
  `SameEntries.get?_eq` says that their look-ups agree.
* The cells of a range do not show the order, since at most one name is found at each position;
  hence no function and no formula shows it.
* The listing keeps names of one address as they are stored. `SameEntries.sorted_eq` needs that
  there are no such names, and `spellsApart_run` gives this for the cells that calls have made.
-/

namespace Worksheet

namespace Snapshot

/-- Whether two snapshots store the same entries, in whatever order. -/
def SameEntries (cells other : Snapshot) : Prop :=
  cells.entries.Perm other.entries

/-- The entries whose name is an address, as they are stored. -/
def addressed (cells : Snapshot) : List (Address × Cell) :=
  cells.entries.filterMap fun (name, cell) =>
    (Address.parse? name).map fun address => (address, cell)

namespace SameEntries

variable {cells other : Snapshot}

theorem get?_eq (h : cells.SameEntries other) (name : String) :
    other.get? name = cells.get? name := by
  refine Option.ext fun cell => ?_
  rw [get?_eq_some_iff, get?_eq_some_iff, h.mem_iff]

theorem size_eq (h : cells.SameEntries other) : other.size = cells.size :=
  h.length_eq.symm

/-! ## The cells of a range -/

/-- The way through a range is chosen by the number of cells, and either way finds the cells by
their positions. -/
theorem cellsWithin_eq (h : cells.SameEntries other) (range : Range) :
    other.cellsWithin range = cells.cellsWithin range := by
  have hcells : ∀ a, range.contains a = true → other.getAt? a = cells.getAt? a :=
    fun a _ => h.get?_eq a.text
  by_cases harea : range.area.toNat ≤ cells.size
  · have hother : range.area.toNat ≤ other.size := by rwa [h.size_eq]
    rw [cellsWithin_of_area_le harea, cellsWithin_of_area_le hother, walk_congr hcells]
  · have hother : ¬range.area.toNat ≤ other.size := by rwa [h.size_eq]
    rw [cellsWithin_of_lt_area harea, cellsWithin_of_lt_area hother, pick_congr hcells]

/-! ## Functions and formulas -/

theorem call_eq (h : cells.SameEntries other) (function : Formula.Function) (args : String) :
    function.call args other = function.call args cells := by
  refine Formula.Function.call_congr fun _ => ?_
  rw [Formula.numbersIn, Formula.numbersIn]
  simp only [h.cellsWithin_eq]

theorem result_eq (h : cells.SameEntries other) (formula : String) :
    Formula.result formula other = Formula.result formula cells := by
  unfold Formula.result Formula.resultWith
  cases Formula.Function.ofCall? (Formula.body formula) with
  | some found => exact h.call_eq found.1 _
  | none =>
    have hfilled : ∀ text, Formula.filled other text = Formula.filled cells text := fun text =>
      Formula.filled_congr fun spelling _ => by rw [displayAt, displayAt, h.get?_eq]
    simp only [Formula.replaceReferences_eq, hfilled]

/-! ## The listing -/

theorem perm_addressed (h : cells.SameEntries other) : cells.addressed.Perm other.addressed :=
  h.filterMap _

theorem spellsApart (h : cells.SameEntries other) (hcells : cells.SpellsApart) :
    other.SpellsApart := by
  intro name name' a hname hname'
  rw [h.get?_eq] at hname hname'
  exact hcells name name' a hname hname'

/-- A listing in strict order is the only one of its entries. -/
theorem sorted_eq (h : cells.SameEntries other) (hcells : cells.SpellsApart) :
    other.sorted = cells.sorted := by
  refine eq_of_pairwise_before (pairwise_before_sorted (h.spellsApart hcells))
    (pairwise_before_sorted hcells) fun entry => ?_
  obtain ⟨a, cell⟩ := entry
  simp only [mem_sorted_iff, h.get?_eq]

end SameEntries

/-- The listing is a reordering of the entries whose name is an address. -/
theorem perm_sorted (cells : Snapshot) : cells.sorted.Perm cells.addressed :=
  List.mergeSort_perm _ _

end Snapshot

/-! ## The names that calls make -/

/-- Whatever calls put into a sheet stands under the written name of a position. -/
theorem exists_text_of_get?_run {options : Options} (calls : List Call) {name : String}
    {cell : Cell} (h : ((Sheet.ofOptions options).run calls).cells.get? name = some cell) :
    ∃ a : Address, name = a.text := by
  induction calls using List.reverseRecOn generalizing cell with
  | nil => cases h
  | append_singleton calls call ih =>
    rw [Sheet.run_append_singleton] at h
    cases htarget : call.target? ((Sheet.ofOptions options).run calls).options with
    | none =>
      rw [Sheet.after_of_target?_eq_none htarget] at h
      exact ih h
    | some a =>
      rw [Sheet.after_of_target? htarget, Sheet.get?_put] at h
      split at h
      · next hname => exact ⟨a, hname⟩
      · exact ih h

theorem spellsApart_run (options : Options) (calls : List Call) :
    ((Sheet.ofOptions options).run calls).cells.SpellsApart :=
  Snapshot.spellsApart_of_text fun _ _ hcell => exists_text_of_get?_run calls hcell

namespace Snapshot

/-- The order in which the entries are stored does not show in the cells of a range, and so in no
function and no formula, also where several names spell one address. The listing is always a
row-major reordering of the entries whose name is an address; it does not show the order where no
two names spell one address, as in every sheet that calls have made. -/
theorem readings_eq_of_sameEntries {cells other : Snapshot} (h : cells.SameEntries other) :
    (∀ range, other.cellsWithin range = cells.cellsWithin range ∧
      (other.traversal range).Visits (cells.cellsWithin range)) ∧
    (∀ (function : Formula.Function) (args : String),
      function.call args other = function.call args cells) ∧
    (∀ formula, Formula.result formula other = Formula.result formula cells) ∧
    (other.sorted.Perm cells.addressed ∧
      other.sorted.Pairwise fun p q => p.1.rowMajorLE q.1 = true) ∧
    (cells.SpellsApart → other.sorted = cells.sorted) ∧
    ∀ options calls, ((Sheet.ofOptions options).run calls).cells.SpellsApart := by
  refine ⟨fun range => ⟨h.cellsWithin_eq range, ?_⟩, h.call_eq, h.result_eq, ⟨?_, ?_⟩,
    h.sorted_eq, spellsApart_run⟩
  · rw [← h.cellsWithin_eq]
    exact visits_cellsWithin other range
  · exact other.perm_sorted.trans h.perm_addressed.symm
  · exact pairwise_sorted other

/-- With the names `A1`, `A01` and `B2` stored in either order, the sum over `A1:B2` is the same.
Without `A01` the listing is the same as well. -/
theorem readings_eq_of_sameEntries_twoNames :
    let cells := Snapshot.ofList [("A1", .ofText "0.1"), ("A01", .ofText "7"), ("B2", .ofText "3")]
    let other := Snapshot.ofList [("B2", .ofText "3"), ("A01", .ofText "7"), ("A1", .ofText "0.1")]
    Formula.Function.sum.call "(A1:B2)" other = Formula.Function.sum.call "(A1:B2)" cells ∧
      (other.erase "A01").sorted = (cells.erase "A01").sorted := by
  intro cells other
  have hsame : cells.SameEntries other := by unfold SameEntries; decide
  have herased : (cells.erase "A01").SameEntries (other.erase "A01") := by
    unfold SameEntries; decide
  have hapart : (cells.erase "A01").SpellsApart := by
    refine spellsApart_of_text fun name cell hcell => ?_
    rw [get?_eq_some_iff] at hcell
    have hentries : (cells.erase "A01").entries =
        [("A1", .ofText "0.1"), ("B2", .ofText "3")] := by
      decide
    rw [hentries] at hcell
    simp only [List.mem_cons, Prod.mk.injEq, List.not_mem_nil, or_false] at hcell
    obtain ⟨rfl, -⟩ | ⟨rfl, -⟩ := hcell
    · exact ⟨⟨0, 0⟩, by decide⟩
    · exact ⟨⟨1, 1⟩, by decide⟩
  exact ⟨(readings_eq_of_sameEntries hsame).2.1 .sum "(A1:B2)",
    (readings_eq_of_sameEntries herased).2.2.2.2.1 hapart⟩

end Snapshot

end Worksheet
