import Worksheet.Proofs.Formula.Failure
import Worksheet.Proofs.Number.Longest
import Worksheet.Proofs.Number.Order

/-!
# The greatest, the smallest and the number of numbers

The aggregates of a range read one list of numbers. The greatest number of the list is one of its
numbers, and no other one is above it; the smallest is found in the same way, with the comparison
turned round. Numbers that no comparison tells apart are shown alike, so that neither the order of
the list nor the choice among them shows.

* `Compares` is what the two comparisons have in common, and `Picks` what picking by them is.
* `isBest_foldl` carries a pick to a whole list, and `IsBest.text_eq` says that it shows one text.
* `aggregates_of_numbersIn` puts together what the aggregates make of their numbers.
-/

namespace Worksheet.Formula

/-! ## Comparisons of numbers -/

/-- Whether a comparison orders the numbers, apart from numbers that are shown alike. -/
structure Compares (better : Float → Float → Prop) : Prop where
  asymm : ∀ {a b}, a.isNaN = false → b.isNaN = false → better a b → ¬better b a
  trans : ∀ {a b c}, a.isNaN = false → b.isNaN = false → c.isNaN = false →
    ¬better a b → ¬better b c → ¬better a c
  text_eq : ∀ {a b}, a.isNaN = false → b.isNaN = false →
    ¬better a b → ¬better b a → Number.text a = Number.text b

/-- Whether one of two numbers is picked, such that neither of them is better. -/
def Picks (better : Float → Float → Prop) (pick : Float → Float → Float) : Prop :=
  ∀ a b, a.isNaN = false → b.isNaN = false →
    (pick a b = a ∨ pick a b = b) ∧ ¬better a (pick a b) ∧ ¬better b (pick a b)

section

variable {better : Float → Float → Prop} {pick : Float → Float → Float} {a : Float}

theorem Compares.irrefl (h : Compares better) (ha : a.isNaN = false) : ¬better a a :=
  fun hself => h.asymm ha ha hself hself

theorem Compares.swap (h : Compares better) : Compares fun a b => better b a where
  asymm ha hb hab := h.asymm hb ha hab
  trans ha hb hc hab hbc := h.trans hc hb ha hbc hab
  text_eq ha hb hab hba := h.text_eq ha hb hba hab

/-- The second of two numbers is picked where it is better, and the first one otherwise. -/
theorem Compares.picks (h : Compares better) (hsecond : ∀ a b, better b a → pick a b = b)
    (hfirst : ∀ a b, ¬better b a → pick a b = a) : Picks better pick := by
  intro a b ha hb
  by_cases hbetter : better b a
  · rw [hsecond a b hbetter]
    exact ⟨Or.inr rfl, h.asymm hb ha hbetter, h.irrefl hb⟩
  · rw [hfirst a b hbetter]
    exact ⟨Or.inl rfl, h.irrefl ha, hbetter⟩

end

theorem compares_smaller : Compares (· < ·) where
  asymm ha hb := by
    rw [Number.lt_iff_place_lt ha hb, Number.lt_iff_place_lt hb ha]
    exact lt_asymm
  trans ha hb hc := by
    rw [Number.lt_iff_place_lt ha hb, Number.lt_iff_place_lt hb hc, Number.lt_iff_place_lt ha hc]
    omega
  text_eq ha hb := by
    rw [Number.lt_iff_place_lt ha hb, Number.lt_iff_place_lt hb ha]
    exact fun hab hba => Number.text_eq_of_place_eq ha hb (by omega)

theorem compares_greater : Compares (· > ·) :=
  compares_smaller.swap

theorem picks_smallerOf : Picks (· < ·) smallerOf :=
  compares_smaller.picks (fun _ _ hless => if_pos hless) fun _ _ hle => if_neg hle

theorem picks_greaterOf : Picks (· > ·) greaterOf :=
  compares_greater.picks (fun _ _ hmore => if_pos hmore) fun _ _ hge => if_neg hge

/-! ## The best number of a list -/

/-- Whether a number of a list is one than which no other is better. -/
structure IsBest (better : Float → Float → Prop) (values : List Float) (x : Float) : Prop where
  mem : x ∈ values
  not_better : ∀ y ∈ values, ¬better y x

section

variable {better : Float → Float → Prop} {pick : Float → Float → Float}
  {values others : List Float}
  {first x y : Float}

/-- Picking along a list keeps the best of the numbers that were passed. -/
theorem isBest_foldl (hcompares : Compares better) (hpicks : Picks better pick)
    (hnumbers : ∀ x ∈ first :: others, x.isNaN = false) :
    IsBest better (first :: others) (others.foldl pick first) := by
  induction others generalizing first with
  | nil =>
    refine ⟨List.mem_singleton_self _, fun y hy => ?_⟩
    rw [List.mem_singleton.mp hy]
    exact hcompares.irrefl (hnumbers first List.mem_cons_self)
  | cons second others ih =>
    obtain ⟨hfirst, hothers⟩ := List.forall_mem_cons.mp hnumbers
    obtain ⟨hsecond, hothers⟩ := List.forall_mem_cons.mp hothers
    obtain ⟨hpicked, hfirstLess, hsecondLess⟩ := hpicks first second hfirst hsecond
    have hpickedNumber : (pick first second).isNaN = false := by
      rcases hpicked with h | h <;> rw [h] <;> assumption
    have hall : ∀ x ∈ pick first second :: others, x.isNaN = false :=
      List.forall_mem_cons.mpr ⟨hpickedNumber, hothers⟩
    have hbest := ih hall
    have hbestNumber := hall _ hbest.mem
    have hpickedLess := hbest.not_better _ List.mem_cons_self
    rw [List.foldl_cons]
    refine ⟨?_, List.forall_mem_cons.mpr ⟨?_, List.forall_mem_cons.mpr ⟨?_, ?_⟩⟩⟩
    · rcases List.mem_cons.mp hbest.mem with h | h
      · rw [h]
        rcases hpicked with h | h <;> rw [h] <;> simp
      · exact List.mem_cons_of_mem _ (List.mem_cons_of_mem _ h)
    · exact hcompares.trans hfirst hpickedNumber hbestNumber hfirstLess hpickedLess
    · exact hcompares.trans hsecond hpickedNumber hbestNumber hsecondLess hpickedLess
    · exact fun y hy => hbest.not_better y (List.mem_cons_of_mem _ hy)

theorem exists_extreme? (hcompares : Compares better) (hpicks : Picks better pick)
    (hnumbers : ∀ x ∈ values, x.isNaN = false) (hne : values ≠ []) :
    ∃ x, extreme? pick values = some x ∧ IsBest better values x := by
  cases values with
  | nil => exact absurd rfl hne
  | cons first others => exact ⟨_, rfl, isBest_foldl hcompares hpicks hnumbers⟩

/-- The best numbers of a list in two orders are shown alike. -/
theorem IsBest.text_eq (hx : IsBest better values x) (hy : IsBest better others y)
    (hcompares : Compares better) (hnumbers : ∀ x ∈ values, x.isNaN = false)
    (hsame : values.Perm others) : Number.text x = Number.text y := by
  have hyvalues := hsame.mem_iff.mpr hy.mem
  exact hcompares.text_eq (hnumbers x hx.mem) (hnumbers y hyvalues)
    (hy.not_better x (hsame.mem_iff.mp hx.mem)) (hx.not_better y hyvalues)

/-- An extreme shows the same text whatever the order of the numbers is, and whichever of two
numbers is picked that are not told apart. -/
theorem shownExtreme_eq_of_perm {other : Float → Float → Float} (function : Function)
    (hcompares : Compares better) (hpicks : Picks better pick) (hother : Picks better other)
    (hnumbers : ∀ x ∈ values, x.isNaN = false) (hsame : values.Perm others) :
    shownExtreme function (extreme? other others) =
      shownExtreme function (extreme? pick values) := by
  by_cases hne : values = []
  · subst hne
    rw [List.nil_perm.mp hsame]
    rfl
  · have hothers : ∀ x ∈ others, x.isNaN = false := fun x hx => hnumbers x (hsame.mem_iff.mpr hx)
    have hothersNe : others ≠ [] := fun hnil => hne (by rw [hnil] at hsame; exact hsame.eq_nil)
    obtain ⟨x, hx, hxbest⟩ := exists_extreme? hcompares hpicks hnumbers hne
    obtain ⟨y, hy, hybest⟩ := exists_extreme? hcompares hother hothers hothersNe
    rw [hx, hy, shownExtreme, shownExtreme, hxbest.text_eq hybest hcompares hnumbers hsame]

end

/-! ## The aggregates -/

section

variable {args : String} {cells : Snapshot} {values : List Float}

/-- The numbers of a range are read off texts, and no text is read as a value that is no number. -/
theorem isNaN_of_mem_numbersIn (h : numbersIn args cells = .ok values) :
    ∀ x ∈ values, x.isNaN = false := by
  cases hrange : rangeIn args with
  | error cause =>
    rw [numbersIn, hrange] at h
    cases h
  | ok range =>
    rw [numbersIn_of_rangeIn hrange, Except.ok.injEq] at h
    subst h
    intro x hx
    obtain ⟨cell, -, hread⟩ := List.mem_filterMap.mp hx
    obtain ⟨s, -, rfl⟩ := Number.leading?_eq_some_iff.mp hread
    exact s.isNaN_value

theorem toDigits_eq_zero_iff {n : Nat} : Nat.toDigits 10 n = ['0'] ↔ n = 0 := by
  constructor
  · intro h
    rw [← @Nat.ofDigitChars_ten_toDigits n, h]
    rfl
  · rintro rfl
    rfl

theorem call_count_of_numbersIn (h : numbersIn args cells = .ok values) :
    Function.count.call args cells = .ok (String.ofList (Nat.toDigits 10 values.length)) := by
  rw [Function.call, h]
  rfl

theorem call_average_of_numbersIn (h : numbersIn args cells = .ok values) :
    Function.average.call args cells = shownMean values := by
  rw [Function.call, h]
  rfl

theorem call_max_of_numbersIn (h : numbersIn args cells = .ok values) :
    Function.max.call args cells = shownExtreme .max (extreme? greaterOf values) := by
  rw [Function.call, h]
  rfl

theorem call_min_of_numbersIn (h : numbersIn args cells = .ok values) :
    Function.min.call args cells = shownExtreme .min (extreme? smallerOf values) := by
  rw [Function.call, h]
  rfl

theorem call_count_eq_zero_iff (h : numbersIn args cells = .ok values) :
    Function.count.call args cells = .ok "0" ↔ values = [] := by
  have hzero : "0" = String.ofList ['0'] := rfl
  rw [call_count_of_numbersIn h, Except.ok.injEq, hzero, String.ofList_inj, toDigits_eq_zero_iff,
    List.length_eq_zero_iff]

/-- The aggregates of one list of numbers, none of which is a value that is no number. The count is
the decimal of their number. The greatest and the smallest show one of the numbers, above or below
which there is no other one; neither the order of the numbers nor the choice between equal ones
makes a difference. The count is zero exactly if there is no average, and exactly if there is no
greatest and no smallest number. -/
theorem aggregates_of_numbersIn (h : numbersIn args cells = .ok values) :
    (∀ x ∈ values, x.isNaN = false) ∧
    Function.count.call args cells = .ok (String.ofList (Nat.toDigits 10 values.length)) ∧
    (values ≠ [] →
      (∃ x ∈ values, Function.max.call args cells = .ok (Number.text x) ∧ ∀ y ∈ values, ¬x < y) ∧
      ∃ x ∈ values, Function.min.call args cells = .ok (Number.text x) ∧ ∀ y ∈ values, ¬y < x) ∧
    (∀ others pick, values.Perm others →
      (Picks (· > ·) pick →
        shownExtreme .max (extreme? pick others) = Function.max.call args cells) ∧
      (Picks (· < ·) pick →
        shownExtreme .min (extreme? pick others) = Function.min.call args cells)) ∧
    (Function.count.call args cells = .ok "0" ↔
      Function.average.call args cells = .error .divisionByZero) ∧
    (Function.count.call args cells = .ok "0" ↔
      Function.max.call args cells = .error (.noNumbers .max)) ∧
    (Function.count.call args cells = .ok "0" ↔
      Function.min.call args cells = .error (.noNumbers .min)) := by
  have hnumbers := isNaN_of_mem_numbersIn h
  rw [call_count_eq_zero_iff h, call_count_of_numbersIn h, call_average_of_numbersIn h,
    call_max_of_numbersIn h, call_min_of_numbersIn h, shownMean_eq_error_iff,
    shownExtreme_eq_error_iff, shownExtreme_eq_error_iff, and_iff_left rfl, and_iff_left rfl,
    and_iff_left rfl]
  refine ⟨hnumbers, rfl, fun hne => ⟨?_, ?_⟩, fun others pick hsame => ⟨?_, ?_⟩,
    Iff.rfl, Iff.rfl, Iff.rfl⟩
  · obtain ⟨x, hx, hbest⟩ := exists_extreme? compares_greater picks_greaterOf hnumbers hne
    exact ⟨x, hbest.mem, by rw [hx, shownExtreme], hbest.not_better⟩
  · obtain ⟨x, hx, hbest⟩ := exists_extreme? compares_smaller picks_smallerOf hnumbers hne
    exact ⟨x, hbest.mem, by rw [hx, shownExtreme], hbest.not_better⟩
  · intro hpicks
    exact shownExtreme_eq_of_perm .max compares_greater picks_greaterOf hpicks hnumbers hsame
  · intro hpicks
    exact shownExtreme_eq_of_perm .min compares_smaller picks_smallerOf hpicks hnumbers hsame

end

/-- A text without a number is passed over, and the numbers of the other cells have extremes. A
range of such texts alone has a count, but no average and no extremes. -/
theorem aggregates_of_numbersIn_mixedTexts :
    let cells := Snapshot.ofList [("A1", .ofText "7 kg"), ("B1", .ofText "-Infinity"),
      ("C1", .ofText "NaN")]
    ((∃ x ∈ [7, -Number.infinity], Function.max.call "(A1:C1)" cells = .ok (Number.text x) ∧
        ∀ y ∈ [7, -Number.infinity], ¬x < y) ∧
      Function.count.call "(A1:C1)" cells = .ok "2") ∧
    Function.count.call "(C1:C9)" cells = .ok "0" ∧
      Function.average.call "(C1:C9)" cells = .error .divisionByZero := by
  intro cells
  have hmixed : numbersIn "(A1:C1)" cells = .ok [7, -Number.infinity] := by decide +kernel
  have hnone : numbersIn "(C1:C9)" cells = .ok [] := by decide +kernel
  obtain ⟨-, hcount, hextremes, -⟩ := aggregates_of_numbersIn hmixed
  obtain ⟨-, hzero, -, -, haverage, -⟩ := aggregates_of_numbersIn hnone
  exact ⟨⟨(hextremes (List.cons_ne_nil _ _)).1, hcount⟩, hzero, haverage.mp hzero⟩

end Worksheet.Formula
