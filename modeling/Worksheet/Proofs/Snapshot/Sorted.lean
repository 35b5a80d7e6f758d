import Worksheet.Proofs.Snapshot

/-!
# Sorted cells

The listing of a snapshot holds the cells whose name is an address, and no others, in row-major
order. If no two names spell one address, the order is strict.

* `mem_sorted_iff` and `pairwise_sorted` hold of every snapshot, `pairwise_before_sorted` of those
  with one name for each address.
* In a `Canonical` snapshot every name is the written name of a readable position;
  `Canonical.mem_sorted_iff` says that its listing is then what its positions hold.
-/

namespace Worksheet.Snapshot

variable {cells : Snapshot} {a : Address} {cell : Cell}

theorem mem_sorted_iff :
    (a, cell) ∈ cells.sorted ↔
      ∃ name, Address.parse? name = some a ∧ cells.get? name = some cell := by
  simp only [sorted, List.mem_mergeSort, List.mem_filterMap, Option.map_eq_some_iff,
    Prod.mk.injEq, get?_eq_some_iff]
  constructor
  · rintro ⟨⟨name, stored⟩, hentry, _, hparse, rfl, rfl⟩
    exact ⟨name, hparse, hentry⟩
  · rintro ⟨name, hparse, hentry⟩
    exact ⟨⟨name, cell⟩, hentry, a, hparse, rfl, rfl⟩

theorem pairwise_sorted (cells : Snapshot) :
    cells.sorted.Pairwise fun p q => p.1.rowMajorLE q.1 = true :=
  List.pairwise_mergeSort (fun p q r => @Address.rowMajorLE_trans p.1 q.1 r.1)
    (fun p q => @Address.rowMajorLE_total p.1 q.1) _

/-- Whether no two names of a snapshot spell one address. -/
def SpellsApart (cells : Snapshot) : Prop :=
  ∀ name name' a, (cells.get? name).isSome = true → (cells.get? name').isSome = true →
    Address.parse? name = some a → Address.parse? name' = some a → name = name'

/-- A listing is in strict order if no two names spell one address. -/
theorem pairwise_before_sorted (h : cells.SpellsApart) :
    cells.sorted.Pairwise fun p q => p.1.Before q.1 := by
  have hdistinct : cells.sorted.Pairwise fun p q => p.1 ≠ q.1 := by
    refine (List.mergeSort_perm _ _).symm.pairwise ?_ Ne.symm
    refine List.Pairwise.filterMap _ ?_
      (List.Pairwise.and_mem.mp (List.pairwise_map.mp cells.nodup))
    rintro ⟨name, cell⟩ ⟨name', cell'⟩ ⟨hentry, hentry', hne⟩ hit hhit hit' hhit' heq
    obtain ⟨_, hparse, rfl⟩ := Option.map_eq_some_iff.mp hhit
    obtain ⟨_, hparse', rfl⟩ := Option.map_eq_some_iff.mp hhit'
    cases heq
    exact hne (h name name' _ (by rw [get?_eq_some_iff.mpr hentry]; rfl)
      (by rw [get?_eq_some_iff.mpr hentry']; rfl) hparse hparse')
  exact ((pairwise_sorted cells).and hdistinct).imp fun h => Address.before_of_rowMajorLE h.1 h.2

/-! ## Written names -/

/-- Whether every name is the written name of a position that is read back from it. -/
def Canonical (cells : Snapshot) : Prop :=
  ∀ name cell, cells.get? name = some cell → ∃ a : Address, a.IsReadable ∧ name = a.text

theorem Canonical.eq_text (h : cells.Canonical) {name : String}
    (hcell : cells.get? name = some cell)
    (hparse : Address.parse? name = some a) : name = a.text := by
  obtain ⟨b, -, rfl⟩ := h name cell hcell
  rw [Address.eq_of_parse?_text hparse]

/-- Written names spell their addresses apart, whether or not they can be read back. -/
theorem spellsApart_of_text
    (h : ∀ name cell, cells.get? name = some cell → ∃ a : Address, name = a.text) :
    cells.SpellsApart := by
  have htext : ∀ name a, (cells.get? name).isSome = true → Address.parse? name = some a →
      name = a.text := by
    intro name a hname hparse
    obtain ⟨cell, hcell⟩ := Option.isSome_iff_exists.mp hname
    obtain ⟨b, rfl⟩ := h name cell hcell
    rw [Address.eq_of_parse?_text hparse]
  intro name name' a hname hname' hparse hparse'
  rw [htext name a hname hparse, htext name' a hname' hparse']

theorem Canonical.spellsApart (h : cells.Canonical) : cells.SpellsApart :=
  spellsApart_of_text fun name cell hcell =>
    let ⟨a, _, hname⟩ := h name cell hcell
    ⟨a, hname⟩

/-- The listing of written names is what their positions hold. -/
theorem Canonical.mem_sorted_iff (h : cells.Canonical) :
    (a, cell) ∈ cells.sorted ↔ cells.getAt? a = some cell := by
  rw [Snapshot.mem_sorted_iff]
  constructor
  · rintro ⟨name, hparse, hcell⟩
    rw [getAt?, ← h.eq_text hcell hparse, hcell]
  · intro hcell
    obtain ⟨b, hb, htext⟩ := h _ _ hcell
    have hreadable : a.IsReadable := Address.eq_of_text_eq hb htext.symm ▸ hb
    exact ⟨a.text, by rw [Address.parse?_text, if_pos hreadable], hcell⟩

end Worksheet.Snapshot
