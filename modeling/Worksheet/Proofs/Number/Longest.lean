import Worksheet.Proofs.Number.Leading
import Worksheet.Proofs.Number.Rational

/-!
# The longest number at the front of a text

What a cell counts as is the longest number that its text begins with behind blanks. The reader
takes one part after the other, each as long as it can be: digits, a point with the digits behind
it, and an exponent if it has digits. No choice of the parts gives a longer number than that.

* `IsLongest` says that a text of a language is the longest one at the front of a text.
* `Numeral.prefix_cut?` says that no numeral at the front reaches further than what is cut off.
* `cutLeading?_eq_some` and `Signed.exists_cutLeading?` find the longest signed number, if there is
  one.
* `leading?_longest` is the whole statement.
-/

namespace Worksheet.Number

open Text (NotInFront spanDigits spanSign spanDigits_append spanDigits_append_of_forall
  spanDigits_append_of_front notInFront_cons)

/-! ## Literals -/

/-- The mantissa in front of a text is not cut short. -/
theorem Numeral.prefix_spanMantissa (n : Numeral) (rest : List Char) :
    n.mantissa <+: (Literal.spanMantissa (n.mantissa ++ rest)).1 := by
  cases hpart : n.fractionPart? with
  | none =>
    have hmantissa : n.mantissa = n.whole := by simp [mantissa, pointed, hpart]
    rw [hmantissa, Literal.spanMantissa, spanDigits_append_of_forall n.isDigit_whole]
    split
    · next whole behind heq =>
      have hwhole : n.whole ++ (spanDigits rest).1 = whole := congrArg Prod.fst heq
      show n.whole <+: whole ++ '.' :: (spanDigits behind).1
      rw [← hwhole, List.append_assoc]
      exact List.prefix_append _ _
    · exact List.prefix_append _ _
  | some digits =>
    have hmantissa : n.mantissa = n.whole ++ '.' :: digits := by simp [mantissa, pointed, hpart]
    have hpoint : NotInFront Char.isDigit ('.' :: (digits ++ rest)) :=
      notInFront_cons.mpr (by decide)
    rw [hmantissa, List.append_assoc, List.cons_append, Literal.spanMantissa,
      spanDigits_append_of_front n.isDigit_whole hpoint]
    simp only [spanDigits_append_of_forall (n.isDigit_fraction digits hpart)]
    rw [← List.cons_append, ← List.append_assoc]
    exact List.prefix_append _ _

/-- The digits behind an exponent belong to it, and make a longer exponent. -/
theorem Exponent.prefix_spanExponent (e : Exponent) (rest : List Char) :
    e.text <+: (Literal.spanExponent (e.text ++ rest)).1 := by
  have hdigits : ∀ c ∈ e.digits ++ (spanDigits rest).1, c.isDigit = true := by
    intro c hc
    rcases List.mem_append.mp hc with hc | hc
    · exact e.isDigit_digits c hc
    · exact List.mem_takeWhile_imp hc
  let longer : Exponent :=
    { e with
      digits := e.digits ++ (spanDigits rest).1
      digits_ne_nil := List.append_ne_nil_of_left_ne_nil e.digits_ne_nil _
      isDigit_digits := hdigits }
  have hlonger : longer.text = e.text ++ (spanDigits rest).1 := by simp [longer, Exponent.text]
  have hcut := longer.spanExponent_text_append (Text.notInFront_dropWhile rest)
  have hrest : longer.text ++ rest.dropWhile Char.isDigit = e.text ++ rest := by
    rw [hlonger, List.append_assoc]
    exact congrArg (e.text ++ ·) (spanDigits_append rest)
  rw [← hrest, hcut, hlonger]
  exact List.prefix_append _ _

/-- No numeral at the front of a text reaches further than the literal that is cut off. -/
theorem Numeral.prefix_cut? (n : Numeral) (rest : List Char) :
    ∃ literal behind, Literal.cut? (n.text ++ rest) = some (literal, behind) ∧
      n.text <+: literal := by
  refine ⟨_, _, cut?_of_begins (n.begins_text_append rest), ?_⟩
  rw [text, List.append_assoc]
  cases hexponent : n.exponentPart? with
  | none =>
    rw [exponentText, hexponent, Option.elim_none, List.nil_append, List.append_nil]
    exact (n.prefix_spanMantissa rest).trans (List.prefix_append _ _)
  | some e =>
    rw [exponentText, hexponent, Option.elim_some,
      n.spanMantissa_append (notInFront_inMantissa_exponent e rest)]
    exact (List.prefix_append_right_inj _).mpr (e.prefix_spanExponent rest)

/-! ## The longest of a language -/

/-- Whether one of the texts of a language is the longest one at the front of a text. -/
structure IsLongest {α : Type} (written : α → List Char) (a : α) (text : List Char) : Prop where
  isPrefix : written a <+: text
  longest : ∀ other, written other <+: text → (written other).length ≤ (written a).length

/-- There is only one longest text. -/
theorem IsLongest.written_eq {α : Type} {written : α → List Char} {a b : α} {text : List Char}
    (ha : IsLongest written a text) (hb : IsLongest written b text) : written a = written b := by
  have hlength : (written a).length = (written b).length :=
    Nat.le_antisymm (hb.longest a ha.isPrefix) (ha.longest b hb.isPrefix)
  exact (List.prefix_of_prefix_length_le ha.isPrefix hb.isPrefix hlength.le).eq_of_length hlength

/-! ## Unsigned numbers -/

variable {text rest : List Char} {x : Float}

/-- Where the word for infinity stands, no numeral begins. -/
theorem Numeral.not_prefix_infinityWord_append (n : Numeral) :
    ¬n.text <+: infinityWord ++ rest := by
  rintro ⟨behind, hbehind⟩
  obtain ⟨c, others, htext, hc⟩ := n.exists_text_eq_cons
  rw [htext] at hbehind
  have hfirst : c = 'I' := (List.cons.inj hbehind).1
  subst hfirst
  rcases hc with hdigit | hpoint
  · exact absurd hdigit (by decide)
  · exact absurd hpoint (by decide)

/-- An unsigned number at the front is found. -/
theorem Unsigned.exists_cutMagnitude? {m : Unsigned} (h : m.text <+: text) :
    ∃ cut, cutMagnitude? text = some cut := by
  unfold cutMagnitude?
  split
  · exact ⟨_, rfl⟩
  · next hword =>
    cases m with
    | numeral n =>
      obtain ⟨behind, rfl⟩ := h
      obtain ⟨literal, behind, hcut, -⟩ := n.prefix_cut? behind
      obtain ⟨cutOff, rfl⟩ := Numeral.exists_of_cut? hcut
      rw [Unsigned.text, hcut]
      dsimp only
      rw [cutOff.ofText?_text]
      exact ⟨_, rfl⟩
    | infinity => exact absurd (List.isPrefixOf_iff_prefix.mpr h) hword

/-- What is found as an unsigned number is the longest one. -/
theorem cutMagnitude?_eq_some (h : cutMagnitude? text = some (x, rest)) :
    ∃ m : Unsigned, m.text ++ rest = text ∧ m.value = x ∧ IsLongest Unsigned.text m text := by
  unfold cutMagnitude? at h
  split at h
  · next hword =>
    obtain ⟨behind, rfl⟩ := List.isPrefixOf_iff_prefix.mp hword
    rw [List.drop_left] at h
    cases h
    refine ⟨.infinity, rfl, rfl, List.prefix_append _ _, fun other hother => ?_⟩
    cases other with
    | numeral n => exact absurd hother n.not_prefix_infinityWord_append
    | infinity => exact Nat.le_refl _
  · next hword =>
    split at h
    · next literal behind hcut =>
      obtain ⟨n, rfl⟩ := Numeral.exists_of_cut? hcut
      have htext := Literal.cut?_append hcut
      rw [n.ofText?_text] at h
      cases h
      refine ⟨.numeral n, htext, rfl, ⟨_, htext⟩, fun other hother => ?_⟩
      cases other with
      | numeral other =>
        obtain ⟨behind, rfl⟩ := hother
        obtain ⟨literal, behind, hcut', hprefix⟩ := other.prefix_cut? behind
        rw [Unsigned.text, hcut'] at hcut
        cases hcut
        exact hprefix.length_le
      | infinity => exact absurd (List.isPrefixOf_iff_prefix.mpr hother) hword
    · cases h

/-! ## Signed numbers -/

/-- A signed number stands at the front of a text if its parts stand where the sign is split
off. -/
theorem Signed.text_prefix_iff {s : Signed} :
    s.text <+: text ↔ s.sign = (spanSign text).1 ∧ s.magnitude.text <+: (spanSign text).2 := by
  constructor
  · rintro ⟨behind, rfl⟩
    rw [s.spanSign_text_append]
    exact ⟨rfl, List.prefix_append _ _⟩
  · rintro ⟨hsign, hmagnitude⟩
    rw [← Text.spanSign_append text, Signed.text, hsign]
    exact (List.prefix_append_right_inj _).mpr hmagnitude

/-- A signed number at the front is found. -/
theorem Signed.exists_cutLeading? {s : Signed} (h : s.text <+: Text.trimStart text) :
    ∃ cut, cutLeading? text = some cut := by
  obtain ⟨-, hmagnitude⟩ := Signed.text_prefix_iff.mp h
  obtain ⟨cut, hcut⟩ := Unsigned.exists_cutMagnitude? hmagnitude
  rw [cutLeading?_eq, hcut]
  exact ⟨_, rfl⟩

/-- What is found as a number is the longest one with its sign. -/
theorem cutLeading?_eq_some (h : cutLeading? text = some (x, rest)) :
    ∃ s : Signed, s.text ++ rest = Text.trimStart text ∧ s.value = x ∧
      IsLongest Signed.text s (Text.trimStart text) := by
  rw [cutLeading?_eq] at h
  obtain ⟨⟨y, behind⟩, hcut, heq⟩ := Option.map_eq_some_iff.mp h
  obtain ⟨m, htext, rfl, hlongest⟩ := cutMagnitude?_eq_some hcut
  cases heq
  have hsigned := Text.spanSign_append (Text.trimStart text)
  refine ⟨⟨_, m, spanSign_fst (Text.trimStart text)⟩, ?_, rfl, ?_, fun other hother => ?_⟩
  · rw [Signed.text, List.append_assoc, htext, hsigned]
  · exact Signed.text_prefix_iff.mpr ⟨rfl, hlongest.isPrefix⟩
  · obtain ⟨hsign, hmagnitude⟩ := Signed.text_prefix_iff.mp hother
    have hlength := hlongest.longest _ hmagnitude
    rw [Signed.text, Signed.text, List.length_append, List.length_append, hsign]
    exact Nat.add_le_add_left hlength _

/-- Two signed numbers of the same text are the same double. -/
theorem Signed.value_eq_of_text_eq {s t : Signed} (h : s.text = t.text) : s.value = t.value := by
  have hnone : ∀ c ∈ ([] : List Char), Text.isBlank c = true := fun _ hc =>
    absurd hc List.not_mem_nil
  have hs := s.cutLeading?_append hnone Text.notInFront_nil
  rw [h, t.cutLeading?_append hnone Text.notInFront_nil] at hs
  exact (congrArg Prod.fst (Option.some.inj hs)).symm

theorem leading?_eq_some_iff {text : String} :
    leading? text = some x ↔
      ∃ s : Signed, IsLongest Signed.text s (Text.trimStart text.toList) ∧ s.value = x := by
  rw [leading?_eq]
  constructor
  · intro h
    obtain ⟨⟨y, behind⟩, hcut, rfl⟩ := Option.map_eq_some_iff.mp h
    obtain ⟨s, -, hvalue, hlongest⟩ := cutLeading?_eq_some hcut
    exact ⟨s, hlongest, hvalue⟩
  · rintro ⟨s, hlongest, rfl⟩
    obtain ⟨⟨y, behind⟩, hcut⟩ := Signed.exists_cutLeading? hlongest.isPrefix
    obtain ⟨found, -, rfl, hfound⟩ := cutLeading?_eq_some hcut
    rw [hcut, Signed.value_eq_of_text_eq (hlongest.written_eq hfound)]
    rfl

theorem leading?_eq_none_iff {text : String} :
    leading? text = none ↔ ∀ s : Signed, ¬s.text <+: Text.trimStart text.toList := by
  rw [leading?_eq, Option.map_eq_none_iff]
  constructor
  · intro h s hprefix
    obtain ⟨cut, hcut⟩ := Signed.exists_cutLeading? hprefix
    rw [h] at hcut
    cases hcut
  · intro h
    cases hcut : cutLeading? text.toList with
    | none => rfl
    | some cut =>
      obtain ⟨s, -, -, hlongest⟩ := cutLeading?_eq_some hcut
      exact absurd hlongest.isPrefix (h s)

/-! ## What is put behind a number -/

/-- Nothing but blanks is skipped, so what stands behind a number stays behind it. -/
theorem trimStart_append_of_prefix {s : Signed} (h : s.text <+: Text.trimStart text)
    (more : List Char) : Text.trimStart (text ++ more) = Text.trimStart text ++ more := by
  obtain ⟨behind, hbehind⟩ := h
  have hblanks : ∀ c ∈ text.takeWhile Text.isBlank, Text.isBlank c = true :=
    fun _ => List.mem_takeWhile_imp
  have htext : text = text.takeWhile Text.isBlank ++ (s.text ++ behind) := by
    rw [hbehind]
    exact List.takeWhile_append_dropWhile.symm
  have hlonger : text ++ more = text.takeWhile Text.isBlank ++ (s.text ++ (behind ++ more)) := by
    rw [← List.append_assoc s.text, ← List.append_assoc, ← htext]
  rw [hlonger, s.trimStart_append hblanks, ← hbehind, List.append_assoc]

/-- Characters that make no longer number are not looked at. -/
theorem leading?_append {text more : String}
    (h : ∀ other : Signed, other.text <+: Text.trimStart (text ++ more).toList →
      ∃ s : Signed, s.text <+: Text.trimStart text.toList ∧ other.text.length ≤ s.text.length) :
    leading? (text ++ more) = leading? text := by
  cases hread : leading? text with
  | none =>
    rw [leading?_eq_none_iff] at hread ⊢
    intro other hother
    obtain ⟨s, hs, -⟩ := h other hother
    exact hread s hs
  | some x =>
    obtain ⟨s, hlongest, hvalue⟩ := leading?_eq_some_iff.mp hread
    refine leading?_eq_some_iff.mpr ⟨s, ⟨?_, fun other hother => ?_⟩, hvalue⟩
    · rw [String.toList_append, trimStart_append_of_prefix hlongest.isPrefix]
      exact hlongest.isPrefix.trans (List.prefix_append _ _)
    · obtain ⟨t, ht, hlength⟩ := h other hother
      exact hlength.trans (hlongest.longest t ht)

/-! ## Doubles -/

theorem Unsigned.isNaN_value (m : Unsigned) : m.value.isNaN = false := by
  cases m with
  | numeral n => exact n.value.isNearest_toFloat.isNaN_eq
  | infinity => exact isNaN_ofPattern (Nat.le_refl _)

theorem Signed.isNaN_value (s : Signed) : s.value.isNaN = false := by
  unfold Signed.value withSign
  split
  · exact isNaN_neg s.magnitude.isNaN_value
  · exact s.magnitude.isNaN_value

/-! ## The whole statement -/

/-- A text is read as the longest number at its front, behind blanks. A numeral denotes the double
nearest to it, and no text is read as a value that is no number. A text with no number at its front
is read as nothing. Characters put behind a text that make no longer number change nothing, and a
literal that is cut off is never left unread. -/
theorem leading?_longest (text more : String) (x : Float) :
    (leading? text = some x ↔
      ∃ s : Signed, IsLongest Signed.text s (Text.trimStart text.toList) ∧ s.value = x) ∧
    (leading? text = none ↔ ∀ s : Signed, ¬s.text <+: Text.trimStart text.toList) ∧
    (leading? text = some x → x.isNaN = false) ∧
    (∀ n : Numeral, (Unsigned.numeral n).value = x ↔ IsNearest n.value.toRat x) ∧
    ((∀ other : Signed, other.text <+: Text.trimStart (text ++ more).toList →
        ∃ s : Signed, s.text <+: Text.trimStart text.toList ∧
          other.text.length ≤ s.text.length) →
      leading? (text ++ more) = leading? text) ∧
    ∀ front literal rest, Literal.cut? front = some (literal, rest) →
      ∃ y, ofText? literal = some y := by
  refine ⟨leading?_eq_some_iff, leading?_eq_none_iff, ?_, fun n => Decimal.toFloat_eq_iff,
    leading?_append, ?_⟩
  · intro hread
    obtain ⟨s, -, rfl⟩ := leading?_eq_some_iff.mp hread
    exact s.isNaN_value
  · intro front literal rest hcut
    obtain ⟨n, rfl⟩ := Numeral.exists_of_cut? hcut
    exact ⟨_, n.ofText?_text⟩

/-- The letter of an exponent without digits is given back, also where a sign is put behind it. -/
theorem leading?_longest_withoutExponent :
    leading? (" -1e" ++ "+x") = leading? " -1e" ∧ (∃ y, ofText? ['1'] = some y) ∧
      ∃ x, leading? " -1e" = some x ∧ x.isNaN = false := by
  have hcut : ∃ y, cutLeading? (" -1e" ++ "+x").toList = some (y, ['e', '+', 'x']) := ⟨_, rfl⟩
  have hread : ∃ x, leading? " -1e" = some x := ⟨_, rfl⟩
  obtain ⟨y, hcut⟩ := hcut
  obtain ⟨x, hread⟩ := hread
  refine ⟨(leading?_longest " -1e" "+x" x).2.2.2.2.1 fun other hother => ?_,
    (leading?_longest " -1e" "+x" x).2.2.2.2.2 ['1', 'e'] ['1'] ['e'] rfl,
    x, hread, (leading?_longest " -1e" "+x" x).2.2.1 hread⟩
  obtain ⟨s, htext, -, hlongest⟩ := cutLeading?_eq_some hcut
  have hfront : s.text ++ ['e', '+', 'x'] = ['-', '1'] ++ ['e', '+', 'x'] := htext
  refine ⟨s, ?_, hlongest.longest other hother⟩
  rw [List.append_cancel_right hfront]
  exact ⟨['e'], rfl⟩

end Worksheet.Number
