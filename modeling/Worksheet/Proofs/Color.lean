import Worksheet.Color
import Worksheet.Proofs.Text.Digits

/-!
# The notation of colors

A color is read from six characters with an optional `#` in front. The six characters are three
pairs, and each pair is the number of a channel: two hexadecimal digits, or one digit behind a plus
sign. A color is always written with two digits, so the plus sign comes back as a zero.

* `channel?_eq_some` and `exists_channel?` are the pairs that are read, and what they are written
  as.
* `ofHex?_eq_some_iff` says which texts are read, and as which colors.
* `exists_isNotation_iff` says which of them are in hexadecimal notation, and `ofHex?_hex` that a
  color is read back from what it is written as.
-/

namespace Worksheet.Color

open Text (IsHexDigit hexValue?)

/-- Whether two characters are the number of a channel. -/
def IsPair (high low : Char) : Prop :=
  (high = '+' ∨ IsHexDigit high) ∧ IsHexDigit low

/-- The digit that a character of a pair is written as. -/
def plainDigit (c : Char) : Char :=
  if c = '+' then '0' else c.toLower

/-- The texts of six characters that are read as three channels. -/
inductive IsBody : List Char → Prop where
  | pairs {r₁ r₂ g₁ g₂ b₁ b₂ : Char} (hred : IsPair r₁ r₂) (hgreen : IsPair g₁ g₂)
      (hblue : IsPair b₁ b₂) : IsBody [r₁, r₂, g₁, g₂, b₁, b₂]

/-- The texts in hexadecimal notation: six digits, with an optional `#` in front. -/
def IsNotation (text digits : List Char) : Prop :=
  (text = digits ∨ text = '#' :: digits) ∧ digits.length = 6 ∧ ∀ c ∈ digits, IsHexDigit c

/-! ## Channels -/

variable {high low : Char} {channel : UInt8}

theorem plainDigit_of_isHexDigit {c : Char} (h : IsHexDigit c) : plainDigit c = c.toLower := by
  refine if_neg ?_
  rintro rfl
  revert h
  decide

theorem channelHex_ofNat {high low : Nat} (hhigh : high < 16) (hlow : low < 16) :
    channelHex (UInt8.ofNat (16 * high + low)) = [Nat.digitChar high, Nat.digitChar low] := by
  have hsize : UInt8.size = 256 := rfl
  rw [channelHex, Text.hexPair, UInt8.toNat_ofNat_of_lt' (by omega)]
  congr 2
  · omega
  · congr 1
    omega

/-- A pair that is read is written with the digits that its characters stand for. -/
theorem channel?_eq_some (h : channel? high low = some channel) :
    IsPair high low ∧ channelHex channel = [plainDigit high, plainDigit low] := by
  unfold channel? at h
  split at h
  · next hplus =>
    obtain ⟨n, hlow, rfl⟩ := Option.map_eq_some_iff.mp h
    obtain ⟨hsmall, hdigit⟩ := Text.digitChar_of_hexValue? hlow
    have hhex := Text.exists_hexValue?_iff.mp ⟨n, hlow⟩
    have hwritten := channelHex_ofNat (Nat.zero_lt_succ 15) hsmall
    refine ⟨⟨Or.inl hplus, hhex⟩, ?_⟩
    rw [Nat.mul_zero, Nat.zero_add] at hwritten
    rw [hwritten, hplus, plainDigit_of_isHexDigit hhex, hdigit]
    rfl
  · simp only [Option.bind_eq_bind, Option.bind_eq_some_iff] at h
    obtain ⟨a, hhigh, b, hlow, heq⟩ := h
    cases heq
    obtain ⟨hsmall, hdigit⟩ := Text.digitChar_of_hexValue? hhigh
    obtain ⟨hsmall', hdigit'⟩ := Text.digitChar_of_hexValue? hlow
    have hhex := Text.exists_hexValue?_iff.mp ⟨a, hhigh⟩
    have hhex' := Text.exists_hexValue?_iff.mp ⟨b, hlow⟩
    refine ⟨⟨Or.inr hhex, hhex'⟩, ?_⟩
    rw [channelHex_ofNat hsmall hsmall', plainDigit_of_isHexDigit hhex,
      plainDigit_of_isHexDigit hhex', hdigit, hdigit']

theorem exists_channel? (h : IsPair high low) : ∃ channel, channel? high low = some channel := by
  obtain ⟨hhigh, hlow⟩ := h
  obtain ⟨b, hlow⟩ := Text.exists_hexValue?_iff.mpr hlow
  unfold channel?
  by_cases hplus : high = '+'
  · rw [if_pos hplus, hlow]
    exact ⟨_, rfl⟩
  · obtain ⟨a, hhigh⟩ := Text.exists_hexValue?_iff.mpr (hhigh.resolve_left hplus)
    rw [if_neg hplus, hhigh, hlow]
    exact ⟨_, rfl⟩

theorem channel?_channelHex (channel : UInt8) :
    channel? (Nat.digitChar (channel.toNat / 16)) (Nat.digitChar (channel.toNat % 16)) =
      some channel := by
  have hsmall : channel.toNat < 256 := channel.toNat_lt
  have hplus : ∀ d < 16, Nat.digitChar d ≠ '+' := by decide
  have hvalue : 16 * (channel.toNat / 16) + channel.toNat % 16 = channel.toNat := by omega
  rw [channel?, if_neg (hplus _ (by omega)), Text.hexValue?_digitChar _ (by omega),
    Text.hexValue?_digitChar _ (by omega)]
  simp only [Option.bind_eq_bind, Option.bind_some, hvalue, UInt8.ofNat_toNat]
  rfl

/-! ## Colors -/

variable {text body : List Char} {color : Color}

/-- A color is read back from its hexadecimal notation. -/
theorem ofHex?_hex (color : Color) : ofHex? color.hex.toList = some color := by
  simp [ofHex?, hex, channelHex, Text.hexPair, channel?_channelHex]

theorem toList_hex (color : Color) :
    color.hex.toList =
      '#' :: (channelHex color.red ++ channelHex color.green ++ channelHex color.blue) := by
  simp [hex]

/-- The three channels of six characters. -/
def channels? : List Char → Option Color
  | [r₁, r₂, g₁, g₂, b₁, b₂] => do
    return ⟨← channel? r₁ r₂, ← channel? g₁ g₂, ← channel? b₁ b₂⟩
  | _ => none

theorem channels?_eq_some (h : channels? body = some color) :
    IsBody body ∧ color.hex.toList = '#' :: body.map plainDigit := by
  unfold channels? at h
  split at h
  · next r₁ r₂ g₁ g₂ b₁ b₂ =>
    simp only [Option.bind_eq_bind, Option.bind_eq_some_iff] at h
    obtain ⟨red, hred, green, hgreen, blue, hblue, heq⟩ := h
    cases heq
    obtain ⟨hredPair, hredHex⟩ := channel?_eq_some hred
    obtain ⟨hgreenPair, hgreenHex⟩ := channel?_eq_some hgreen
    obtain ⟨hbluePair, hblueHex⟩ := channel?_eq_some hblue
    refine ⟨.pairs hredPair hgreenPair hbluePair, ?_⟩
    rw [toList_hex, hredHex, hgreenHex, hblueHex]
    rfl
  · cases h

theorem exists_channels? (h : IsBody body) : ∃ color, channels? body = some color := by
  cases h with
  | pairs hred hgreen hblue =>
    obtain ⟨red, hred⟩ := exists_channel? hred
    obtain ⟨green, hgreen⟩ := exists_channel? hgreen
    obtain ⟨blue, hblue⟩ := exists_channel? hblue
    rw [channels?, hred, hgreen, hblue]
    exact ⟨_, rfl⟩

theorem ofHex?_cons_mark (body : List Char) : ofHex? ('#' :: body) = channels? body := rfl

theorem ofHex?_of_ne_mark (h : ∀ rest, text ≠ '#' :: rest) : ofHex? text = channels? text := by
  unfold ofHex?
  split
  · next rest => exact absurd rfl (h rest)
  · rfl

/-- A mark is no part of a pair, so the six characters are found behind it. -/
theorem IsBody.ne_mark (h : IsBody body) (rest : List Char) : body ≠ '#' :: rest := by
  cases h with
  | pairs hred hgreen hblue =>
    intro heq
    have hfirst := hred.1
    rw [(List.cons.inj heq).1] at hfirst
    revert hfirst
    decide

/-- The texts that are read, and the color that each is read as. -/
theorem ofHex?_eq_some_iff :
    ofHex? text = some color ↔ ∃ body, IsBody body ∧ (text = body ∨ text = '#' :: body) ∧
      color.hex.toList = '#' :: body.map plainDigit := by
  constructor
  · intro h
    by_cases hmark : ∃ rest, text = '#' :: rest
    · obtain ⟨body, rfl⟩ := hmark
      obtain ⟨hbody, hhex⟩ := channels?_eq_some h
      exact ⟨body, hbody, Or.inr rfl, hhex⟩
    · rw [ofHex?_of_ne_mark fun rest heq => hmark ⟨rest, heq⟩] at h
      obtain ⟨hbody, hhex⟩ := channels?_eq_some h
      exact ⟨text, hbody, Or.inl rfl, hhex⟩
  · rintro ⟨body, hbody, htext, hhex⟩
    obtain ⟨found, hfound⟩ := exists_channels? hbody
    have hread : ofHex? text = channels? body := by
      rcases htext with rfl | rfl
      · exact ofHex?_of_ne_mark hbody.ne_mark
      · exact ofHex?_cons_mark body
    -- Both colors are written alike, and what is written is read back.
    have hsame : ofHex? color.hex.toList = ofHex? found.hex.toList := by
      rw [hhex, (channels?_eq_some hfound).2]
    rw [ofHex?_hex, ofHex?_hex, Option.some.injEq] at hsame
    rw [hread, hfound, hsame]

theorem exists_ofHex?_eq_some_iff :
    (∃ color, ofHex? text = some color) ↔
      ∃ body, IsBody body ∧ (text = body ∨ text = '#' :: body) := by
  constructor
  · rintro ⟨color, hread⟩
    obtain ⟨body, hbody, htext, -⟩ := ofHex?_eq_some_iff.mp hread
    exact ⟨body, hbody, htext⟩
  · rintro ⟨body, hbody, htext⟩
    obtain ⟨color, hcolor⟩ := exists_channels? hbody
    exact ⟨color, ofHex?_eq_some_iff.mpr ⟨body, hbody, htext, (channels?_eq_some hcolor).2⟩⟩

theorem parse_eq_ok_iff_ofHex? {text : String} :
    parse text = .ok color ↔ ofHex? text.toList = some color := by
  unfold parse
  cases ofHex? text.toList with
  | none => simp
  | some found => simp

theorem parse_eq_error_iff {text : String} {cause : Error} :
    parse text = .error cause ↔
      (¬∃ color, parse text = .ok color) ∧ cause = .invalidColor text := by
  unfold parse
  cases ofHex? text.toList with
  | none => simp [eq_comm]
  | some found => simp

/-! ## Hexadecimal notation -/

theorem exists_of_length_eq_six (h : body.length = 6) :
    ∃ r₁ r₂ g₁ g₂ b₁ b₂, body = [r₁, r₂, g₁, g₂, b₁, b₂] := by
  match body, h with
  | [r₁, r₂, g₁, g₂, b₁, b₂], _ => exact ⟨r₁, r₂, g₁, g₂, b₁, b₂, rfl⟩

/-- Without plus signs a text of three pairs is six hexadecimal digits. -/
theorem isBody_and_not_mem_iff :
    IsBody body ∧ '+' ∉ body ↔ body.length = 6 ∧ ∀ c ∈ body, IsHexDigit c := by
  constructor
  · rintro ⟨hbody, hplus⟩
    cases hbody with
    | pairs hred hgreen hblue =>
      simp only [List.mem_cons, List.not_mem_nil, or_false, not_or] at hplus
      obtain ⟨hr, -, hg, -, hb, -⟩ := hplus
      refine ⟨rfl, ?_⟩
      simp only [List.mem_cons, List.not_mem_nil, or_false, forall_eq_or_imp, forall_eq]
      exact ⟨hred.1.resolve_left (Ne.symm hr), hred.2, hgreen.1.resolve_left (Ne.symm hg),
        hgreen.2, hblue.1.resolve_left (Ne.symm hb), hblue.2⟩
  · rintro ⟨hlength, hdigits⟩
    refine ⟨?_, fun hmem => absurd (hdigits _ hmem) (by decide)⟩
    obtain ⟨r₁, r₂, g₁, g₂, b₁, b₂, rfl⟩ := exists_of_length_eq_six hlength
    simp only [List.mem_cons, List.not_mem_nil, or_false, forall_eq_or_imp, forall_eq] at hdigits
    obtain ⟨hr₁, hr₂, hg₁, hg₂, hb₁, hb₂⟩ := hdigits
    exact .pairs ⟨Or.inr hr₁, hr₂⟩ ⟨Or.inr hg₁, hg₂⟩ ⟨Or.inr hb₁, hb₂⟩

/-- The texts in hexadecimal notation are those that are read and hold no plus sign. -/
theorem exists_isNotation_iff :
    (∃ digits, IsNotation text digits) ↔ (∃ color, ofHex? text = some color) ∧ '+' ∉ text := by
  have hmark (body : List Char) (htext : text = body ∨ text = '#' :: body) :
      '+' ∈ text ↔ '+' ∈ body := by
    rcases htext with rfl | rfl <;> simp
  rw [exists_ofHex?_eq_some_iff]
  constructor
  · rintro ⟨digits, htext, hdigits⟩
    obtain ⟨hbody, hplus⟩ := isBody_and_not_mem_iff.mpr hdigits
    exact ⟨⟨digits, hbody, htext⟩, mt (hmark digits htext).mp hplus⟩
  · rintro ⟨⟨body, hbody, htext⟩, hplus⟩
    exact ⟨body, htext, isBody_and_not_mem_iff.mp ⟨hbody, mt (hmark body htext).mpr hplus⟩⟩

/-- A text in hexadecimal notation is the color that is written with its digits. -/
theorem IsNotation.toList_hex {digits : List Char} (h : IsNotation text digits)
    (hread : ofHex? text = some color) : color.hex.toList = '#' :: digits.map Char.toLower := by
  obtain ⟨htext, hdigits⟩ := h
  obtain ⟨hbody, -⟩ := isBody_and_not_mem_iff.mpr hdigits
  obtain ⟨found, hfound⟩ := exists_channels? hbody
  have hhex := (channels?_eq_some hfound).2
  rw [ofHex?_eq_some_iff.mpr ⟨digits, hbody, htext, hhex⟩, Option.some.injEq] at hread
  rw [← hread, hhex]
  exact congrArg _ (List.map_congr_left fun c hc => plainDigit_of_isHexDigit (hdigits.2 c hc))

end Worksheet.Color
