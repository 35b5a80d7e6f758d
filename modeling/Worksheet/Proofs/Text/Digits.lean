import Mathlib
import Worksheet.Text.Digits

/-!
# Runs at the front of a text

A run of characters of one class ends where the next character is not of the class. This module
says when a run is cut off a text as it was put in front of it.

* `takeWhile_append_of_front` and `dropWhile_append_of_front` cut a run of any class.
* `spanDigits_append_of_front` is the case of digits, and `spanDigits_eq_iff` its converse.
* `toDigits_ofDigitChars` says which digits are those that a number is written with.
* `exists_hexValue?_iff` and `digitChar_of_hexValue?` are the hexadecimal digits.
-/

namespace Worksheet.Text

/-- A text does not begin with a character of a class. -/
def NotInFront (p : Char → Bool) (text : List Char) : Prop :=
  ∀ c ∈ text.head?, p c = false

variable {p : Char → Bool} {run rest : List Char}

@[simp] theorem notInFront_nil : NotInFront p [] := by
  simp [NotInFront]

@[simp] theorem notInFront_cons {c : Char} : NotInFront p (c :: rest) ↔ p c = false := by
  simp [NotInFront]

theorem NotInFront.mono {q : Char → Bool} (h : NotInFront q rest)
    (himp : ∀ c, p c = true → q c = true) : NotInFront p rest := by
  intro c hc
  have hq := h c hc
  cases hp : p c with
  | false => rfl
  | true =>
    rw [himp c hp] at hq
    cases hq

theorem notInFront_append_of_ne_nil {text : List Char} (hne : text ≠ []) :
    NotInFront p (text ++ rest) ↔ NotInFront p text := by
  cases text with
  | nil => exact absurd rfl hne
  | cons c text => rw [List.cons_append, notInFront_cons, notInFront_cons]

theorem NotInFront.append_of_forall {gap : List Char} (hgap : ∀ c ∈ gap, p c = false)
    (h : NotInFront p rest) : NotInFront p (gap ++ rest) := by
  cases gap with
  | nil => exact h
  | cons c gap => exact notInFront_cons.mpr (hgap c List.mem_cons_self)

theorem NotInFront.append (h : NotInFront p run) (hrest : NotInFront p rest) :
    NotInFront p (run ++ rest) := by
  cases run with
  | nil => exact hrest
  | cons c run => exact notInFront_cons.mpr (notInFront_cons.mp h)

theorem takeWhile_append_of_front (hrun : ∀ c ∈ run, p c = true) (hrest : NotInFront p rest) :
    (run ++ rest).takeWhile p = run := by
  rw [List.takeWhile_append_of_pos hrun]
  cases rest with
  | nil => simp
  | cons c rest => simp [notInFront_cons.mp hrest]

theorem dropWhile_append_of_front (hrun : ∀ c ∈ run, p c = true) (hrest : NotInFront p rest) :
    (run ++ rest).dropWhile p = rest := by
  rw [List.dropWhile_append_of_pos hrun]
  cases rest with
  | nil => simp
  | cons c rest => simp [notInFront_cons.mp hrest]

theorem dropWhile_of_front (hrest : NotInFront p rest) : rest.dropWhile p = rest := by
  have hdrop := dropWhile_append_of_front (fun _ hc => absurd hc List.not_mem_nil) hrest
  rwa [List.nil_append] at hdrop

theorem notInFront_of_forall {text : List Char} (h : ∀ c ∈ text, p c = false) :
    NotInFront p text :=
  fun c hc => h c (List.mem_of_head? hc)

theorem notInFront_dropWhile (text : List Char) : NotInFront p (text.dropWhile p) := by
  intro c hc
  have hfront := List.head?_dropWhile_not p text
  rw [Option.mem_def.mp hc] at hfront
  exact hfront

/-! ## Digits -/

theorem isUpper_eq_false_of_isDigit {c : Char} (h : c.isDigit = true) : c.isUpper = false := by
  simp only [Char.isDigit, Bool.and_eq_true, decide_eq_true_eq, ge_iff_le,
    UInt32.le_iff_toNat_le] at h
  rw [Bool.eq_false_iff]
  simp only [Char.isUpper, decide_eq_true_eq, ge_iff_le, UInt32.le_iff_toNat_le,
    ne_eq]
  simp only [Char.reduceVal, UInt32.reduceToNat] at h ⊢
  omega

theorem isDigit_eq_false_of_isUpper {c : Char} (h : c.isUpper = true) : c.isDigit = false := by
  rw [Bool.eq_false_iff]
  intro hdigit
  rw [isUpper_eq_false_of_isDigit hdigit] at h
  cases h

theorem ne_of_isDigit {c d : Char} (hc : c.isDigit = true) (hd : d.isDigit = false) : c ≠ d := by
  rintro rfl
  rw [hc] at hd
  cases hd

theorem cons_ne_cons_of_isDigit {c d : Char} {text : List Char} (hc : c.isDigit = true)
    (hd : d.isDigit = false) : c :: text ≠ d :: rest := by
  intro heq
  rw [List.cons.injEq] at heq
  exact ne_of_isDigit hc hd heq.1

theorem spanSign_cons_of_isDigit {c : Char} (h : c.isDigit = true) :
    spanSign (c :: rest) = ([], c :: rest) := by
  unfold spanSign
  split
  · next heq => exact absurd heq (cons_ne_cons_of_isDigit h (by decide))
  · next heq => exact absurd heq (cons_ne_cons_of_isDigit h (by decide))
  · rfl

theorem spanDigits_append_of_front (hrun : ∀ c ∈ run, c.isDigit = true)
    (hrest : NotInFront Char.isDigit rest) : spanDigits (run ++ rest) = (run, rest) := by
  rw [spanDigits, takeWhile_append_of_front hrun hrest, dropWhile_append_of_front hrun hrest]

/-- Digits in front of a text prolong the run that is cut off. -/
theorem spanDigits_append_of_forall (hrun : ∀ c ∈ run, c.isDigit = true) (rest : List Char) :
    spanDigits (run ++ rest) = (run ++ (spanDigits rest).1, (spanDigits rest).2) := by
  rw [spanDigits, List.takeWhile_append_of_pos hrun, List.dropWhile_append_of_pos hrun]
  rfl

theorem spanDigits_eq_iff {text : List Char} :
    spanDigits text = (run, rest) ↔
      text = run ++ rest ∧ (∀ c ∈ run, c.isDigit = true) ∧ NotInFront Char.isDigit rest := by
  constructor
  · intro h
    have happend := spanDigits_append text
    rw [h] at happend
    simp only [spanDigits, Prod.mk.injEq] at h
    obtain ⟨rfl, rfl⟩ := h
    exact ⟨happend.symm, fun c hc => List.mem_takeWhile_imp hc, notInFront_dropWhile text⟩
  · rintro ⟨rfl, hrun, hrest⟩
    exact spanDigits_append_of_front hrun hrest

/-! ## Digits of a number -/

theorem exists_cons_toDigits (n : Nat) :
    ∃ d digits, Nat.toDigits 10 n = d :: digits ∧ d.isDigit = true := by
  cases hdigits : Nat.toDigits 10 n with
  | nil => exact absurd hdigits Nat.toDigits_ne_nil
  | cons d digits =>
    refine ⟨d, digits, rfl, ?_⟩
    exact Nat.isDigit_of_mem_toDigits (by decide) (by decide) (hdigits ▸ List.mem_cons_self)

/-- The digits of a number other than zero do not begin with zero. -/
theorem head?_toDigits_ne_zero {n : Nat} (h : 0 < n) : (Nat.toDigits 10 n).head? ≠ some '0' := by
  induction n using Nat.strongRecOn with
  | ind n ih =>
    rw [Nat.toDigits_eq_if (by decide)]
    split
    · next hsmall =>
      have hdigit : ∀ d < 10, 0 < d → Nat.digitChar d ≠ '0' := by decide
      simpa using hdigit n hsmall h
    · next hlarge =>
      have hhead := ih (n / 10) (by omega) (by omega)
      rwa [List.head?_append_of_ne_nil _ Nat.toDigits_ne_nil]

theorem digitChar_of_isDigit {c : Char} (h : c.isDigit = true) :
    Nat.digitChar (c.toNat - '0'.toNat) = c := by
  have hdigit : ∀ n < 10, Nat.digitChar n = Char.ofNat (48 + n) := by decide
  have hzero : '0'.toNat = 48 := rfl
  have hnine : '9'.toNat = 57 := rfl
  rw [Char.isDigit_iff_toNat] at h
  rw [hdigit _ (by omega), hzero, Nat.add_sub_cancel' (by omega), Char.ofNat_toNat]

/-- Digits without a zero in front are those of the number that they denote. -/
theorem toDigits_ofDigitChars {digits : List Char} (hne : digits ≠ [])
    (hdigits : ∀ c ∈ digits, c.isDigit = true) (hzero : digits.head? ≠ some '0') :
    Nat.toDigits 10 (Nat.ofDigitChars 10 digits 0) = digits := by
  induction digits using List.reverseRecOn with
  | nil => exact absurd rfl hne
  | append_singleton digits c ih =>
    have hc : c.isDigit = true := hdigits c (List.mem_append_right _ List.mem_cons_self)
    have hsmall : c.toNat - '0'.toNat < 10 := by
      have hbounds := Char.isDigit_iff_toNat.mp hc
      have hnine : '9'.toNat = 57 := rfl
      have hfirst : '0'.toNat = 48 := rfl
      omega
    have hlast : Nat.toDigits 10 (c.toNat - '0'.toNat) = [c] := by
      rw [Nat.toDigits_of_lt_base hsmall, digitChar_of_isDigit hc]
    rw [Nat.ofDigitChars_append, Nat.ofDigitChars_cons, Nat.ofDigitChars_nil]
    cases digits with
    | nil => simpa using hlast
    | cons d others =>
      have hfront : Nat.toDigits 10 (Nat.ofDigitChars 10 (d :: others) 0) = d :: others :=
        ih (List.cons_ne_nil _ _) (fun e he => hdigits e (List.mem_append_left _ he)) hzero
      -- The digits in front denote no zero, since a zero would be written with one.
      have hpos : 0 < Nat.ofDigitChars 10 (d :: others) 0 := by
        refine Nat.pos_of_ne_zero fun heq => ?_
        rw [heq, Nat.toDigits_zero, List.cons.injEq] at hfront
        rw [← hfront.1] at hzero
        exact hzero rfl
      rw [← Nat.toDigits_append_toDigits (by decide) hpos hsmall, hfront, hlast]

/-! ## Hexadecimal digits -/

theorem hexValue?_digitChar : ∀ d < 16, hexValue? (Nat.digitChar d) = some d := by
  decide

/-- Whether a character is a hexadecimal digit, of either case. -/
def IsHexDigit (c : Char) : Prop :=
  c.isDigit = true ∨ ('a' ≤ c ∧ c ≤ 'f') ∨ 'A' ≤ c ∧ c ≤ 'F'

instance (c : Char) : Decidable (IsHexDigit c) :=
  inferInstanceAs (Decidable (_ ∨ _))

theorem exists_hexValue?_iff {c : Char} : (∃ n, hexValue? c = some n) ↔ IsHexDigit c := by
  unfold hexValue? IsHexDigit
  split
  · next h => simp [h]
  · next hdigit =>
    split
    · next h => simp [h]
    · next hsmall =>
      split
      · next h => simp [h]
      · next hcapital => simp [hdigit, hsmall, hcapital]

theorem toNat_toLower (c : Char) :
    c.toLower.toNat = if 'A' ≤ c ∧ c ≤ 'Z' then c.toNat + 32 else c.toNat := by
  unfold Char.toLower
  by_cases h : 'A' ≤ c ∧ c ≤ 'Z'
  · have hval : c.val ≥ 'A'.val ∧ c.val ≤ 'Z'.val := h
    have hbound : c.toNat ≤ 90 := UInt32.le_iff_toNat_le.mp h.2
    rw [if_pos h, dif_pos hval]
    show (c.val + 32).toNat = c.toNat + 32
    rw [UInt32.toNat_add]
    exact Nat.mod_eq_of_lt (by show c.toNat + 32 < 2 ^ 32; omega)
  · have hval : ¬(c.val ≥ 'A'.val ∧ c.val ≤ 'Z'.val) := h
    rw [if_neg h, dif_neg hval]

/-- A hexadecimal digit is written again in lower case. -/
theorem digitChar_of_hexValue? {c : Char} {n : Nat} (h : hexValue? c = some n) :
    n < 16 ∧ Nat.digitChar n = c.toLower := by
  have hdigit : ∀ d < 10, (Nat.digitChar d).toNat = '0'.toNat + d := by decide
  have hletter : ∀ d < 6, (Nat.digitChar (d + 10)).toNat = 'a'.toNat + d := by decide
  have hvalues : '0'.toNat = 48 ∧ '9'.toNat = 57 ∧ 'A'.toNat = 65 ∧ 'F'.toNat = 70 ∧
    'Z'.toNat = 90 ∧ 'a'.toNat = 97 ∧ 'f'.toNat = 102 := ⟨rfl, rfl, rfl, rfl, rfl, rfl, rfl⟩
  have hle : ∀ {a b : Char}, a ≤ b ↔ a.toNat ≤ b.toNat := UInt32.le_iff_toNat_le
  unfold hexValue? at h
  rw [← Char.toNat_inj, toNat_toLower]
  simp only [Char.isDigit_iff_toNat, hle] at h ⊢
  split at h
  · cases h
    have hread := hdigit (c.toNat - '0'.toNat) (by omega)
    rw [hread, if_neg (by omega)]
    omega
  · split at h
    · cases h
      have hread := hletter (c.toNat - 'a'.toNat) (by omega)
      rw [hread, if_neg (by omega)]
      omega
    · split at h
      · cases h
        have hread := hletter (c.toNat - 'A'.toNat) (by omega)
        rw [hread, if_pos (by omega)]
        omega
      · cases h

end Worksheet.Text
