import Worksheet.Number.Literal
import Worksheet.Proofs.Text.Digits

/-!
# Numerals

A numeral is a number literal taken apart: the digits in front of the point, those behind it, and
the exponent. What is cut off a text and what it is read as are stated in terms of the parts.

* `Numeral.text` puts the parts together, and `Numeral.value` is the number that they denote.
* `cut?_text_append` says that a numeral is cut off whole from any text that does not prolong it,
  and `exists_of_cut?` that nothing but numerals is cut off.
* `decimalOfText?_text` says that a numeral is read as its value.
-/

namespace Worksheet.Number

open Text (NotInFront spanDigits spanSign notInFront_cons spanDigits_append_of_front
  spanDigits_eq_iff takeWhile_append_of_front dropWhile_append_of_front ne_of_isDigit
  cons_ne_cons_of_isDigit spanSign_cons_of_isDigit)

/-- An exponent: a mark, a sign that may be missing, and digits. -/
structure Exponent where
  mark : Char
  sign : List Char
  digits : List Char
  isMark : mark = 'e' ∨ mark = 'E'
  isSign : sign = [] ∨ sign = ['+'] ∨ sign = ['-']
  digits_ne_nil : digits ≠ []
  isDigit_digits : ∀ c ∈ digits, c.isDigit = true

/-- A number literal in its parts. There is a digit in front of the point or behind it. -/
structure Numeral where
  whole : List Char
  fractionPart? : Option (List Char)
  exponentPart? : Option Exponent
  digits_ne_nil : whole ++ fractionPart?.getD [] ≠ []
  isDigit_whole : ∀ c ∈ whole, c.isDigit = true
  isDigit_fraction : ∀ digits ∈ fractionPart?, ∀ c ∈ digits, c.isDigit = true

/-- The characters of an exponent. -/
def Exponent.text (e : Exponent) : List Char :=
  e.mark :: (e.sign ++ e.digits)

/-- The number that an exponent denotes. -/
def Exponent.value (e : Exponent) : Int :=
  if e.sign = ['-'] then -(Nat.ofDigitChars 10 e.digits 0 : Int)
  else Nat.ofDigitChars 10 e.digits 0

/-! ## Reading the parts -/

theorem natural?_eq_some {text : List Char} (hne : text ≠ [])
    (hdigits : ∀ c ∈ text, c.isDigit = true) :
    natural? text = some (Nat.ofDigitChars 10 text 0) := by
  have hempty : text.isEmpty = false := List.isEmpty_eq_false_iff.mpr hne
  have hall : text.all Char.isDigit = true := List.all_eq_true.mpr hdigits
  simp [natural?, hempty, hall]

theorem exponent?_cons_of_isDigit {c : Char} {rest : List Char} (h : c.isDigit = true) :
    exponent? (c :: rest) = (natural? (c :: rest)).map fun n => (n : Int) := by
  unfold exponent?
  split
  · next heq => exact absurd heq (cons_ne_cons_of_isDigit h (by decide))
  · next heq => exact absurd heq (cons_ne_cons_of_isDigit h (by decide))
  · rfl

theorem Exponent.exponent?_text (e : Exponent) :
    exponent? (e.sign ++ e.digits) = some e.value := by
  have hnatural := natural?_eq_some e.digits_ne_nil e.isDigit_digits
  rcases e.isSign with hs | hs | hs
  · rw [Exponent.value, hs, List.nil_append, if_neg (by decide)]
    cases hrun : e.digits with
    | nil => exact absurd hrun e.digits_ne_nil
    | cons d run =>
      have hd := e.isDigit_digits d (by rw [hrun]; exact List.mem_cons_self)
      rw [hrun] at hnatural
      rw [exponent?_cons_of_isDigit hd, hnatural]
      rfl
  · simp [Exponent.value, hs, exponent?, hnatural]
  · simp [Exponent.value, hs, exponent?, hnatural]

/-- An exponent holds digits and signs behind its mark. -/
theorem Exponent.mem_text {e : Exponent} {c : Char} (h : c ∈ e.text) :
    c = e.mark ∨ c = '+' ∨ c = '-' ∨ c.isDigit = true := by
  rcases List.mem_cons.mp h with hmark | hbehind
  · exact Or.inl hmark
  · rcases List.mem_append.mp hbehind with hsign | hdigits
    · rcases e.isSign with hs | hs | hs <;> rw [hs] at hsign
      · cases hsign
      · exact Or.inr (Or.inl (List.mem_singleton.mp hsign))
      · exact Or.inr (Or.inr (Or.inl (List.mem_singleton.mp hsign)))
    · exact Or.inr (Or.inr (Or.inr (e.isDigit_digits c hdigits)))

/-! ## The parts of a literal that is cut off -/

theorem spanSign_fst (text : List Char) :
    (spanSign text).1 = [] ∨ (spanSign text).1 = ['+'] ∨ (spanSign text).1 = ['-'] := by
  fun_cases spanSign text <;> simp

/-- What is split off as an exponent is an exponent or nothing. -/
theorem exists_exponent_of_spanExponent (text : List Char) :
    ∃ e? : Option Exponent, (Literal.spanExponent text).1 = e?.elim [] Exponent.text := by
  cases text with
  | nil => exact ⟨none, rfl⟩
  | cons mark rest =>
    simp only [Literal.spanExponent]
    split
    · next h =>
      rw [Bool.and_eq_true, Bool.or_eq_true, beq_iff_eq, beq_iff_eq, Bool.not_eq_true',
        List.isEmpty_eq_false_iff] at h
      exact ⟨some ⟨mark, _, _, h.1, spanSign_fst rest, h.2, fun _ => List.mem_takeWhile_imp⟩, rfl⟩
    · exact ⟨none, rfl⟩

/-- What is split off in front of an exponent is a mantissa, if a literal begins there. -/
theorem exists_mantissa_of_spanMantissa {text : List Char} (h : Literal.begins text = true) :
    ∃ (whole : List Char) (fraction? : Option (List Char)),
      (Literal.spanMantissa text).1 = whole ++ fraction?.elim [] ('.' :: ·) ∧
        whole ++ fraction?.getD [] ≠ [] ∧ (∀ c ∈ whole, c.isDigit = true) ∧
        ∀ digits ∈ fraction?, ∀ c ∈ digits, c.isDigit = true := by
  have hne := Literal.spanMantissa_ne_nil h
  unfold Literal.spanMantissa at hne ⊢
  split
  · next whole rest hspan =>
    obtain ⟨htext, hwhole, -⟩ := spanDigits_eq_iff.mp hspan
    refine ⟨whole, some (spanDigits rest).1, rfl, ?_, hwhole, ?_⟩
    · -- A point without digits in front of it begins a literal only in front of a digit.
      intro hnil
      obtain ⟨rfl, hfraction⟩ := List.append_eq_nil_iff.mp hnil
      rw [htext, List.nil_append] at h
      cases rest with
      | nil => cases h
      | cons d rest =>
        have hd : d.isDigit = true := h
        rw [Option.getD_some, spanDigits, List.takeWhile_cons_of_pos hd] at hfraction
        cases hfraction
    · intro digits hdigits c hc
      rw [← Option.mem_some_iff.mp hdigits] at hc
      exact List.mem_takeWhile_imp hc
  · next hpoint =>
    refine ⟨(spanDigits text).1, none, (List.append_nil _).symm, ?_,
      fun _ => List.mem_takeWhile_imp, fun _ hdigits => absurd hdigits (Option.not_mem_none _)⟩
    rw [Option.getD_none, List.append_nil]
    split at hne
    · next whole rest hspan => exact absurd hspan (hpoint whole rest)
    · exact hne

theorem Exponent.spanSign_append (e : Exponent) (rest : List Char) :
    spanSign (e.sign ++ (e.digits ++ rest)) = (e.sign, e.digits ++ rest) := by
  cases hrun : e.digits with
  | nil => exact absurd hrun e.digits_ne_nil
  | cons d run =>
    have hd := e.isDigit_digits d (by rw [hrun]; exact List.mem_cons_self)
    rcases e.isSign with hs | hs | hs <;> rw [hs]
    · rw [List.nil_append, List.cons_append, spanSign_cons_of_isDigit hd]
    · rfl
    · rfl

/-- An exponent is split off whole where no digit prolongs it. -/
theorem Exponent.spanExponent_text_append (e : Exponent) {rest : List Char}
    (h : NotInFront Char.isDigit rest) :
    Literal.spanExponent (e.text ++ rest) = (e.text, rest) := by
  have hmark : (e.mark == 'e' || e.mark == 'E') = true := by
    rcases e.isMark with hm | hm <;> simp [hm]
  have hnonempty : e.digits.isEmpty = false := List.isEmpty_eq_false_iff.mpr e.digits_ne_nil
  simp only [Exponent.text, List.cons_append, List.append_assoc, Literal.spanExponent,
    e.spanSign_append, spanDigits_append_of_front e.isDigit_digits h, hmark, hnonempty,
    Bool.not_false, Bool.and_self, if_true]

namespace Numeral

/-- The point and the digits behind it. -/
def pointed (n : Numeral) : List Char :=
  n.fractionPart?.elim [] ('.' :: ·)

/-- The characters in front of the exponent. -/
def mantissa (n : Numeral) : List Char :=
  n.whole ++ n.pointed

/-- The characters of the exponent. -/
def exponentText (n : Numeral) : List Char :=
  n.exponentPart?.elim [] Exponent.text

/-- The characters of a numeral. -/
def text (n : Numeral) : List Char :=
  n.mantissa ++ n.exponentText

/-- All digits of the mantissa. -/
def digits (n : Numeral) : List Char :=
  n.whole ++ n.fractionPart?.getD []

/-- The number that a numeral denotes. -/
def value (n : Numeral) : Decimal where
  digits := Nat.ofDigitChars 10 n.digits 0
  exponent := n.exponentPart?.elim 0 Exponent.value - (n.fractionPart?.getD []).length

theorem isDigit_of_mem_digits (n : Numeral) : ∀ c ∈ n.digits, c.isDigit = true := by
  intro c hc
  rcases List.mem_append.mp hc with hwhole | hfraction
  · exact n.isDigit_whole c hwhole
  · cases hpart : n.fractionPart? with
    | none =>
      rw [hpart] at hfraction
      cases hfraction
    | some digits =>
      rw [hpart] at hfraction
      exact n.isDigit_fraction digits hpart c hfraction

/-- A numeral begins with a digit or a point. -/
theorem exists_text_eq_cons (n : Numeral) :
    ∃ c rest, n.text = c :: rest ∧ (c.isDigit = true ∨ c = '.') := by
  cases hwhole : n.whole with
  | cons c rest =>
    refine ⟨c, rest ++ n.pointed ++ n.exponentText, ?_, Or.inl (n.isDigit_whole c ?_)⟩
    · rw [text, mantissa, hwhole, List.cons_append, List.cons_append]
    · rw [hwhole]
      exact List.mem_cons_self
  | nil =>
    cases hpart : n.fractionPart? with
    | none => exact absurd (by rw [hwhole, hpart]; rfl) n.digits_ne_nil
    | some digits =>
      refine ⟨'.', digits ++ n.exponentText, ?_, Or.inr rfl⟩
      rw [text, mantissa, pointed, hwhole, hpart]
      rfl

/-! ## Cutting a numeral off a text -/

/-- Whether a character may go on a numeral. -/
def prolongs (c : Char) : Bool :=
  c.isDigit || c == '.' || c == 'e' || c == 'E'

/-- Whether a character may stand in a mantissa. -/
def inMantissa (c : Char) : Bool :=
  c.isDigit || c == '.'

theorem notInFront_inMantissa_exponent (e : Exponent) (rest : List Char) :
    NotInFront inMantissa (e.text ++ rest) := by
  rcases e.isMark with hmark | hmark <;> simp [Exponent.text, hmark, inMantissa]

theorem notInFront_inMantissa_exponentText (n : Numeral) {rest : List Char}
    (h : NotInFront prolongs rest) : NotInFront inMantissa (n.exponentText ++ rest) := by
  cases hexponent : n.exponentPart? with
  | none =>
    rw [exponentText, hexponent]
    refine h.mono fun c hc => ?_
    simp only [inMantissa, prolongs, Bool.or_eq_true] at hc ⊢
    exact Or.inl (Or.inl hc)
  | some e =>
    rw [exponentText, hexponent]
    exact notInFront_inMantissa_exponent e rest

theorem begins_cons {c : Char} {rest : List Char} (h : c ≠ '.') :
    Literal.begins (c :: rest) = c.isDigit := by
  unfold Literal.begins
  split
  · next heq =>
    rw [List.cons.injEq] at heq
    exact absurd heq.1 h
  · next heq =>
    rw [List.cons.injEq] at heq
    rw [heq.1]
  · next heq => cases heq

theorem begins_text_append (n : Numeral) (rest : List Char) :
    Literal.begins (n.text ++ rest) = true := by
  cases hwhole : n.whole with
  | cons c whole =>
    have hc : c.isDigit = true := n.isDigit_whole c (by rw [hwhole]; exact List.mem_cons_self)
    simp only [text, mantissa, hwhole, List.cons_append]
    rw [begins_cons (ne_of_isDigit hc (by decide)), hc]
  | nil =>
    cases hpart : n.fractionPart? with
    | none => exact absurd (by rw [hwhole, hpart]; rfl) n.digits_ne_nil
    | some digits =>
      cases digits with
      | nil => exact absurd (by rw [hwhole, hpart]; rfl) n.digits_ne_nil
      | cons c digits =>
        have hc := n.isDigit_fraction _ hpart c List.mem_cons_self
        rw [text, mantissa, pointed, hwhole, hpart]
        exact hc

theorem spanMantissa_append (n : Numeral) {tail : List Char} (h : NotInFront inMantissa tail) :
    Literal.spanMantissa (n.mantissa ++ tail) = (n.mantissa, tail) := by
  have hdigits : NotInFront Char.isDigit tail := h.mono fun c hc => by simp [inMantissa, hc]
  cases hpart : n.fractionPart? with
  | none =>
    have hmantissa : n.mantissa = n.whole := by simp [mantissa, pointed, hpart]
    rw [hmantissa, Literal.spanMantissa, spanDigits_append_of_front n.isDigit_whole hdigits]
    split
    · next heq =>
      cases heq
      exact absurd (notInFront_cons.mp h) (by decide)
    · rfl
  | some digits =>
    have hmantissa : n.mantissa = n.whole ++ '.' :: digits := by simp [mantissa, pointed, hpart]
    have hpoint : NotInFront Char.isDigit ('.' :: (digits ++ tail)) :=
      notInFront_cons.mpr (by decide)
    rw [hmantissa, List.append_assoc, List.cons_append, Literal.spanMantissa,
      spanDigits_append_of_front n.isDigit_whole hpoint]
    simp only [spanDigits_append_of_front (n.isDigit_fraction digits hpart) hdigits]

theorem spanExponent_append (n : Numeral) {rest : List Char} (h : NotInFront prolongs rest) :
    Literal.spanExponent (n.exponentText ++ rest) = (n.exponentText, rest) := by
  cases hexponent : n.exponentPart? with
  | none =>
    rw [exponentText, hexponent]
    cases rest with
    | nil => rfl
    | cons c rest =>
      have hc := notInFront_cons.mp h
      simp only [prolongs, Bool.or_eq_false_iff] at hc
      simp [Literal.spanExponent, hc]
  | some e =>
    rw [exponentText, hexponent, Option.elim_some]
    exact e.spanExponent_text_append (h.mono fun c hc => by simp [prolongs, hc])

/-- No literal begins with a character that is neither a digit nor a point. -/
theorem cut?_eq_none {c : Char} {rest : List Char} (hdigit : c.isDigit = false)
    (hpoint : c ≠ '.') : Literal.cut? (c :: rest) = none := by
  have hbegins : Literal.begins (c :: rest) = false := by
    rw [begins_cons hpoint, hdigit]
  rw [Literal.cut?, hbegins]
  rfl

theorem cut?_of_begins {text : List Char} (h : Literal.begins text = true) :
    Literal.cut? text = some ((Literal.spanMantissa text).1 ++
      (Literal.spanExponent (Literal.spanMantissa text).2).1,
        (Literal.spanExponent (Literal.spanMantissa text).2).2) := by
  rw [Literal.cut?, if_pos h]

/-- A numeral is cut off whole from any text that does not prolong it. -/
theorem cut?_text_append (n : Numeral) {rest : List Char} (h : NotInFront prolongs rest) :
    Literal.cut? (n.text ++ rest) = some (n.text, rest) := by
  rw [cut?_of_begins (n.begins_text_append rest), text, List.append_assoc,
    n.spanMantissa_append (n.notInFront_inMantissa_exponentText h), n.spanExponent_append h]

/-- A literal that is cut off a text is a numeral. -/
theorem exists_of_cut? {text literal rest : List Char}
    (h : Literal.cut? text = some (literal, rest)) : ∃ n : Numeral, literal = n.text := by
  rw [Literal.cut?] at h
  split at h
  · next hbegins =>
    obtain ⟨e?, hexponent⟩ := exists_exponent_of_spanExponent (Literal.spanMantissa text).2
    obtain ⟨whole, fraction?, hmantissa, hne, hwhole, hfraction⟩ :=
      exists_mantissa_of_spanMantissa hbegins
    have hliteral : (Literal.spanMantissa text).1 ++
        (Literal.spanExponent (Literal.spanMantissa text).2).1 = literal :=
      congrArg Prod.fst (Option.some.inj h)
    refine ⟨⟨whole, fraction?, e?, hne, hwhole, hfraction⟩, ?_⟩
    rw [← hliteral, hmantissa, hexponent]
    rfl
  · cases h

/-! ## Reading a numeral -/

theorem isDigit_or_point_of_mem_mantissa (n : Numeral) :
    ∀ c ∈ n.mantissa, c.isDigit = true ∨ c = '.' := by
  intro c hc
  rcases List.mem_append.mp hc with hwhole | hpointed
  · exact Or.inl (n.isDigit_whole c hwhole)
  · cases hpart : n.fractionPart? with
    | none =>
      rw [pointed, hpart] at hpointed
      cases hpointed
    | some digits =>
      rw [pointed, hpart] at hpointed
      rcases List.mem_cons.mp hpointed with rfl | hdigits
      · exact Or.inr rfl
      · exact Or.inl (n.isDigit_fraction digits hpart c hdigits)

theorem mantissa_ne_mark (n : Numeral) : ∀ c ∈ n.mantissa, (c != 'e' && c != 'E') = true := by
  intro c hc
  rcases n.isDigit_or_point_of_mem_mantissa c hc with hdigit | rfl
  · have hsmall : c ≠ 'e' := ne_of_isDigit hdigit (by decide)
    have hcapital : c ≠ 'E' := ne_of_isDigit hdigit (by decide)
    simp [hsmall, hcapital]
  · rfl

theorem whole_ne_point (n : Numeral) : ∀ c ∈ n.whole, (c != '.') = true := by
  intro c hc
  exact bne_iff_ne.mpr (ne_of_isDigit (n.isDigit_whole c hc) (by decide))

/-- A numeral is read as its value. -/
theorem decimalOfText?_text (n : Numeral) : Decimal.ofText? n.text = some n.value := by
  have hmark : NotInFront (fun c => c != 'e' && c != 'E') n.exponentText := by
    cases hexponent : n.exponentPart? with
    | none => simp [exponentText, hexponent]
    | some e =>
      rcases e.isMark with hm | hm <;> simp [exponentText, hexponent, Exponent.text, hm]
  have hpoint : NotInFront (· != '.') n.pointed := by
    cases hpart : n.fractionPart? <;> simp [pointed, hpart]
  have hfraction : n.pointed.drop 1 = n.fractionPart?.getD [] := by
    cases hpart : n.fractionPart? <;> simp [pointed, hpart]
  simp only [Decimal.ofText?, text, takeWhile_append_of_front n.mantissa_ne_mark hmark,
    dropWhile_append_of_front n.mantissa_ne_mark hmark]
  rw [mantissa, takeWhile_append_of_front n.whole_ne_point hpoint,
    dropWhile_append_of_front n.whole_ne_point hpoint, hfraction,
    natural?_eq_some n.digits_ne_nil n.isDigit_of_mem_digits]
  cases hpart : n.exponentPart? with
  | none =>
    rw [exponentText, value, hpart]
    rfl
  | some e =>
    have hread : exponent? (e.text.drop 1) = some e.value := Exponent.exponent?_text e
    rw [exponentText, value, hpart, Option.elim_some, hread]
    rfl

theorem ofText?_text (n : Numeral) : ofText? n.text = some n.value.toFloat := by
  rw [ofText?, decimalOfText?_text]
  rfl

end Numeral

end Worksheet.Number
