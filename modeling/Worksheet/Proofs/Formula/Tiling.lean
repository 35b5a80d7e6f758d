import Worksheet.Proofs.Formula.ByteScan
import Worksheet.Proofs.Formula.Operand
import Worksheet.Proofs.Number.Longest
import Worksheet.Proofs.Steps

/-!
# Lexemes at their places

The lexemes of a text and the blanks between them make up the whole text. Each lexeme is the
longest symbol, numeral or name that begins at its place, or a single character where none begins.
A scanner that stands at a byte of the text finds them one after the other, and never comes to
stand inside a character.

* `Lexeme.Leads` says which lexeme stands at the front of a text, and `leads_of_cut?` that it is
  the one that is cut off.
* `Tiles` says that lexemes at their places make up a text with the blanks between them.
* `nextLexeme?` is the step of the scanner. `next_of_nextLexeme?` says what one step does, and
  `exists_tiles` what all steps find.
* `scan_tiles` is the whole statement.
-/

namespace Worksheet.Formula

open Number (Numeral IsLongest)
open Text (NotInFront isBlank notInFront_dropWhile trimStart)

/-! ## The longest lexeme at the front -/

/-- A name: a letter or an underscore, and the letters, digits and underscores behind it. -/
structure Name where
  first : Char
  others : List Char
  beginsName_first : Lexeme.beginsName first = true
  continuesName_others : ∀ c ∈ others, Lexeme.continuesName c = true

def Name.text (name : Name) : List Char :=
  name.first :: name.others

/-- The lexeme at the front of a text: the longest symbol, numeral or name, and a stray character
if there is none of them. -/
inductive Lexeme.Leads : Lexeme → List Char → Prop where
  | symbol {s : Symbol} {text : List Char} (hlongest : IsLongest Symbol.spelling s text) :
    Leads (.symbol s) text
  | number {n : Numeral} {text : List Char} (hlongest : IsLongest Numeral.text n text) :
    Leads (.number n.text) text
  | name {name : Name} {text : List Char} (hlongest : IsLongest Name.text name text) :
    Leads (.name name.text) text
  | stray {c : Char} {rest : List Char} (hsymbol : ∀ s : Symbol, ¬s.spelling <+: c :: rest)
    (hnumber : ∀ n : Numeral, ¬n.text <+: c :: rest)
    (hname : ∀ name : Name, ¬name.text <+: c :: rest) : Leads (.stray c) (c :: rest)

section

variable {text rest : List Char}

theorem Symbol.cut?_eq_none_iff :
    Symbol.cut? text = none ↔ ∀ s : Symbol, ¬s.spelling <+: text := by
  rw [cut?, Option.map_eq_none_iff, List.find?_eq_none]
  constructor
  · intro h s hspelling
    exact h s (mem_all s) (List.isPrefixOf_iff_prefix.mpr hspelling)
  · intro h s _ hspelling
    exact h s (List.isPrefixOf_iff_prefix.mp hspelling)

theorem Symbol.isLongest_of_cut? {s : Symbol} (h : Symbol.cut? text = some (s, rest)) :
    IsLongest spelling s text := by
  obtain ⟨found, hfound, heq⟩ := Option.map_eq_some_iff.mp h
  cases heq
  obtain ⟨hspelling, before, after, hall, hbefore⟩ := List.find?_eq_some_iff_append.mp hfound
  have hsorted : all.Pairwise fun s t => t.spelling.length ≤ s.spelling.length := by decide
  refine ⟨List.isPrefixOf_iff_prefix.mp hspelling, fun other hother => ?_⟩
  have hmem := mem_all other
  rw [hall] at hmem hsorted
  rcases List.mem_append.mp hmem with hearlier | hlater
  · have hpassed := hbefore other hearlier
    rw [List.isPrefixOf_iff_prefix.mpr hother] at hpassed
    cases hpassed
  · rcases List.mem_cons.mp hlater with rfl | hlater
    · exact Nat.le_refl _
    · exact List.rel_of_pairwise_cons (List.pairwise_append.mp hsorted).2.1 hlater

theorem Numeral.isLongest_of_cut? {literal : List Char}
    (h : Number.Literal.cut? text = some (literal, rest)) :
    ∃ n : Numeral, literal = n.text ∧ IsLongest Numeral.text n text := by
  obtain ⟨n, rfl⟩ := Numeral.exists_of_cut? h
  refine ⟨n, rfl, ⟨rest, Number.Literal.cut?_append h⟩, fun other hother => ?_⟩
  obtain ⟨behind, rfl⟩ := hother
  obtain ⟨longest, behind, hcut, htext⟩ := other.prefix_cut? behind
  rw [hcut] at h
  cases h
  exact htext.length_le

theorem Numeral.not_prefix_of_cut?_eq_none (h : Number.Literal.cut? text = none) (n : Numeral) :
    ¬n.text <+: text := by
  rintro ⟨behind, rfl⟩
  obtain ⟨literal, behind, hcut, -⟩ := n.prefix_cut? behind
  rw [hcut] at h
  cases h

/-- A name at the front goes no further than the characters of names. -/
theorem Name.length_text_le {c : Char} (name : Name) (h : name.text <+: c :: rest) :
    Lexeme.beginsName c = true ∧
      name.text.length ≤ (rest.takeWhile Lexeme.continuesName).length + 1 := by
  obtain ⟨behind, hbehind⟩ := h
  obtain ⟨hfirst, hothers⟩ := List.cons.inj hbehind
  change name.others ++ behind = rest at hothers
  subst hfirst hothers
  refine ⟨name.beginsName_first, ?_⟩
  rw [List.takeWhile_append_of_pos name.continuesName_others, List.length_append, text,
    List.length_cons]
  omega

theorem leads_of_cut? {lexeme : Lexeme} (h : Lexeme.cut? text = some (lexeme, rest)) :
    lexeme.Leads text := by
  cases text with
  | nil => cases h
  | cons c behind =>
    rw [Lexeme.cut?] at h
    split at h
    · next hsymbol =>
      cases h
      exact .symbol (Symbol.isLongest_of_cut? hsymbol)
    · next hsymbol =>
      split at h
      · next hnumber =>
        cases h
        obtain ⟨n, rfl, hlongest⟩ := Numeral.isLongest_of_cut? hnumber
        exact .number hlongest
      · next hnumber =>
        split at h
        · next hc =>
          cases h
          let name : Name := ⟨c, behind.takeWhile Lexeme.continuesName, hc,
            fun _ => List.mem_takeWhile_imp⟩
          refine @Lexeme.Leads.name name _ ⟨?_, fun other hother =>
            (other.length_text_le hother).2⟩
          exact (List.prefix_cons_inj c).mpr (List.takeWhile_prefix _)
        · next hc =>
          cases h
          exact .stray (Symbol.cut?_eq_none_iff.mp hsymbol)
            (Numeral.not_prefix_of_cut?_eq_none hnumber)
            fun name hname => hc (name.length_text_le hname).1

theorem Lexeme.Leads.text_ne_nil {lexeme : Lexeme} (h : lexeme.Leads text) : lexeme.text ≠ [] := by
  cases h with
  | symbol => exact Symbol.spelling_ne_nil _
  | @number n =>
    obtain ⟨c, others, htext, -⟩ := n.exists_text_eq_cons
    rw [Lexeme.text, htext]
    exact List.cons_ne_nil _ _
  | name => exact List.cons_ne_nil _ _
  | stray => exact List.cons_ne_nil _ _

end

/-! ## Places -/

/-- A lexeme at its place: behind a number of bytes. -/
structure Occurrence where
  lexeme : Lexeme
  start : Nat
deriving DecidableEq

/-- The byte behind the lexeme. -/
def Occurrence.stop (found : Occurrence) : Nat :=
  found.start + (utf8 found.lexeme.text).length

/-- Lexemes at their places make up a text that stands behind a number of bytes: all the blanks in
front and the lexeme behind them, one after the other, and blanks at the end. -/
inductive Tiles : (offset : Nat) → List Char → List Occurrence → Prop where
  | blanks {offset : Nat} {gap : List Char} (hgap : Blanks gap) : Tiles offset gap []
  | lexeme {offset : Nat} {gap rest : List Char} {lexeme : Lexeme} {others : List Occurrence}
      (hgap : Blanks gap) (hfront : NotInFront isBlank (lexeme.text ++ rest))
      (hleads : lexeme.Leads (lexeme.text ++ rest))
      (hrest : Tiles (offset + (utf8 gap).length + (utf8 lexeme.text).length) rest others) :
      Tiles offset (gap ++ (lexeme.text ++ rest))
        (⟨lexeme, offset + (utf8 gap).length⟩ :: others)

/-! ## The scanner -/

/-- The characters of a text from a byte on. There are none to be read from inside a character. -/
def charsFrom? : List Char → (offset : Nat) → Option (List Char)
  | [], offset => if offset = 0 then some [] else none
  | c :: text, offset =>
    if offset = 0 then some (c :: text)
    else if c.utf8Size ≤ offset then charsFrom? text (offset - c.utf8Size)
    else none

/-- The next lexeme from a byte of a text on, and the byte behind it. -/
def nextLexeme? (input : List Char) (offset : Nat) : Option (Occurrence × Nat) :=
  match charsFrom? input offset with
  | none => none
  | some text =>
    match Lexeme.cut? (trimStart text) with
    | none => none
    | some (lexeme, _) =>
      let found : Occurrence := ⟨lexeme, offset + (utf8 (text.takeWhile isBlank)).length⟩
      some (found, found.stop)

theorem length_utf8_append (front behind : List Char) :
    (utf8 (front ++ behind)).length = (utf8 front).length + (utf8 behind).length := by
  rw [utf8_append, List.length_append]

theorem length_utf8_cons (c : Char) (text : List Char) :
    (utf8 (c :: text)).length = c.utf8Size + (utf8 text).length := by
  rw [utf8_cons, List.length_append, String.length_utf8EncodeChar]

section

variable {input rest : List Char} {offset next : Nat} {found : Occurrence}

theorem charsFrom?_eq_some_iff :
    charsFrom? input offset = some rest ↔
      ∃ front, input = front ++ rest ∧ (utf8 front).length = offset := by
  constructor
  · intro h
    induction input generalizing offset with
    | nil =>
      rw [charsFrom?] at h
      split at h
      · next hzero =>
        cases h
        exact ⟨[], rfl, hzero.symm⟩
      · cases h
    | cons c input ih =>
      rw [charsFrom?] at h
      split at h
      · next hzero =>
        cases h
        exact ⟨[], rfl, hzero.symm⟩
      · split at h
        · obtain ⟨front, rfl, hoffset⟩ := ih h
          refine ⟨c :: front, rfl, ?_⟩
          rw [length_utf8_cons]
          omega
        · cases h
  · rintro ⟨front, rfl, rfl⟩
    induction front with
    | nil => cases rest <;> rfl
    | cons c front ih =>
      have hpos := c.utf8Size_pos
      rw [length_utf8_cons, List.cons_append, charsFrom?, if_neg (by omega), if_pos (by omega),
        Nat.add_sub_cancel_left, ih]

theorem charsFrom?_append (front rest : List Char) :
    charsFrom? (front ++ rest) (utf8 front).length = some rest :=
  charsFrom?_eq_some_iff.mpr ⟨front, rfl, rfl⟩

/-- From a byte of a text there are characters to be read if it is not inside one of them. -/
theorem exists_charsFrom?_iff {input : String} :
    (∃ rest, charsFrom? input.toList offset = some rest) ↔
      String.Pos.Raw.IsValid input ⟨offset⟩ := by
  rw [String.Pos.Raw.isValid_iff_exists_append]
  constructor
  · rintro ⟨rest, hchars⟩
    obtain ⟨front, hinput, rfl⟩ := charsFrom?_eq_some_iff.mp hchars
    refine ⟨String.ofList front, String.ofList rest, ?_, ?_⟩
    · rw [← String.ofList_append, ← hinput, String.ofList_toList]
    · rw [length_utf8]
      rfl
  · rintro ⟨front, rest, rfl, hoffset⟩
    refine ⟨rest.toList, charsFrom?_eq_some_iff.mpr ⟨front.toList, String.toList_append, ?_⟩⟩
    rw [length_utf8, String.ofList_toList]
    exact (congrArg String.Pos.Raw.byteIdx hoffset).symm

theorem nextLexeme?_of_cut? {text behind : List Char} {lexeme : Lexeme}
    (hchars : charsFrom? input offset = some text)
    (hcut : Lexeme.cut? (trimStart text) = some (lexeme, behind)) :
    nextLexeme? input offset =
      some (⟨lexeme, offset + (utf8 (text.takeWhile isBlank)).length⟩,
        offset + (utf8 (text.takeWhile isBlank)).length + (utf8 lexeme.text).length) := by
  simp only [nextLexeme?, hchars, hcut, Occurrence.stop]

theorem nextLexeme?_of_cut?_eq_none {text : List Char}
    (hchars : charsFrom? input offset = some text)
    (hcut : Lexeme.cut? (trimStart text) = none) : nextLexeme? input offset = none := by
  simp only [nextLexeme?, hchars, hcut]

theorem length_utf8_pos {text : List Char} (h : text ≠ []) : 0 < (utf8 text).length := by
  cases text with
  | nil => exact absurd rfl h
  | cons c text =>
    have hsize := c.utf8Size_pos
    rw [length_utf8_cons]
    omega

/-- A step of the scanner goes on to the end of the lexeme that it finds, and finds characters to
read where the lexeme begins and where it ends. -/
theorem next_of_nextLexeme? (h : nextLexeme? input offset = some (found, next)) :
    next = found.stop ∧ offset ≤ found.start ∧ found.start < found.stop ∧
      ∃ rest, charsFrom? input found.start = some (found.lexeme.text ++ rest) ∧
        charsFrom? input found.stop = some rest := by
  unfold nextLexeme? at h
  split at h
  · cases h
  · next text hchars =>
    split at h
    · cases h
    · next lexeme rest hcut =>
      cases h
      have htext := takeWhile_isBlank_append hcut
      have hpos := length_utf8_pos (Lexeme.text_ne_nil_of_cut? hcut)
      obtain ⟨front, rfl, rfl⟩ := charsFrom?_eq_some_iff.mp hchars
      refine ⟨rfl, Nat.le_add_right _ _, Nat.lt_add_of_pos_right hpos, rest,
        charsFrom?_eq_some_iff.mpr ⟨front ++ text.takeWhile isBlank, ?_, ?_⟩,
        charsFrom?_eq_some_iff.mpr ⟨front ++ (text.takeWhile isBlank ++ lexeme.text), ?_, ?_⟩⟩
      · rw [List.append_assoc, htext]
      · rw [length_utf8_append]
      · rw [List.append_assoc, List.append_assoc, htext]
      · rw [length_utf8_append, length_utf8_append, Occurrence.stop, Nat.add_assoc]

theorem isValid_of_nextLexeme? {input : String}
    (h : nextLexeme? input.toList offset = some (found, next)) :
    String.Pos.Raw.IsValid input ⟨found.start⟩ ∧ String.Pos.Raw.IsValid input ⟨found.stop⟩ := by
  obtain ⟨-, -, -, rest, hstart, hstop⟩ := next_of_nextLexeme? h
  exact ⟨exists_charsFrom?_iff.mp ⟨_, hstart⟩, exists_charsFrom?_iff.mp ⟨_, hstop⟩⟩

/-- The scanner finds the lexemes of the rest of a text at places that make up the rest. -/
theorem exists_tiles (front rest : List Char) :
    ∃ found, Tiles (utf8 front).length rest found ∧
      Yields (nextLexeme? (front ++ rest)) (utf8 front).length found ∧
      found.map Occurrence.lexeme = lexemes rest := by
  induction rest using lexemes.induct generalizing front with
  | case1 rest hcut =>
    have hblanks : Blanks rest := List.dropWhile_eq_nil_iff.mp (eq_nil_of_cut?_eq_none hcut)
    have hnone := nextLexeme?_of_cut?_eq_none (charsFrom?_append front rest) hcut
    exact ⟨[], .blanks hblanks, yields_nil hnone, (lexemes_of_cut?_eq_none hcut).symm⟩
  | case2 rest lexeme behind hcut ih =>
    have hrest := takeWhile_isBlank_append hcut
    have hnext := nextLexeme?_of_cut? (charsFrom?_append front rest) hcut
    have hfront : NotInFront isBlank (trimStart rest) := notInFront_dropWhile rest
    have hleads := leads_of_cut? hcut
    rw [← Lexeme.cut?_append hcut] at hfront hleads
    obtain ⟨others, htiles, hyields, hlexemes⟩ :=
      ih (front ++ (rest.takeWhile isBlank ++ lexeme.text))
    rw [List.append_assoc, List.append_assoc, hrest] at hyields
    rw [length_utf8_append, length_utf8_append, ← Nat.add_assoc] at htiles hyields
    refine ⟨_ :: others, ?_, .cons hnext hyields, ?_⟩
    · have hwhole := Tiles.lexeme (fun _ => List.mem_takeWhile_imp) hfront hleads htiles
      rwa [hrest] at hwhole
    · rw [List.map_cons, hlexemes, lexemes_of_cut? hcut]

end

/-! ## Tokens -/

theorem Lexeme.Leads.exists_token {lexeme : Lexeme} {text : List Char} (h : lexeme.Leads text) :
    ∃ token, Token.ofLexeme lexeme = .ok token := by
  cases h with
  | symbol | name | stray => exact ⟨_, rfl⟩
  | @number n =>
    refine ⟨.number n.value.toFloat, ?_⟩
    rw [Token.ofLexeme, n.ofText?_text]

/-- Every lexeme of a text is read as a token. -/
theorem Tiles.exists_tokens {offset : Nat} {text : List Char} {found : List Occurrence}
    (h : Tiles offset text found) :
    ∃ tokens, (found.map Occurrence.lexeme).mapM Token.ofLexeme = .ok tokens ∧
      List.Forall₂ (fun o token => Token.ofLexeme o.lexeme = .ok token) found tokens := by
  induction h with
  | blanks => exact ⟨[], rfl, .nil⟩
  | lexeme _ _ hleads _ ih =>
    obtain ⟨token, htoken⟩ := hleads.exists_token
    obtain ⟨tokens, htokens, hall⟩ := ih
    refine ⟨token :: tokens, ?_, .cons htoken hall⟩
    rw [List.map_cons, List.mapM_cons, htoken, htokens]
    rfl

/-- Each lexeme takes up a byte at least. -/
theorem Tiles.length_le {offset : Nat} {text : List Char} {found : List Occurrence}
    (h : Tiles offset text found) : found.length ≤ (utf8 text).length := by
  induction h with
  | blanks => exact Nat.zero_le _
  | lexeme _ _ hleads _ ih =>
    have hpos := length_utf8_pos hleads.text_ne_nil
    rw [List.length_cons, length_utf8_append, length_utf8_append]
    omega

/-- A text has tokens, and no more of them than bytes. -/
theorem Token.exists_scan (input : String) :
    ∃ tokens, scan input.toList = .ok tokens ∧ tokens.length ≤ input.utf8ByteSize := by
  obtain ⟨found, htiles, -, hlexemes⟩ := exists_tiles [] input.toList
  obtain ⟨tokens, htokens, hall⟩ := htiles.exists_tokens
  rw [hlexemes] at htokens
  have hlength := htiles.length_le
  rw [hall.length_eq, length_utf8, String.ofList_toList] at hlength
  exact ⟨tokens, htokens, hlength⟩

/-- The scanner finds the lexemes of a text one after the other, and then nothing any more. Each
step goes on by at least one byte, and begins and ends between characters, as the lexemes do. The
lexemes and the blanks between them make up the text, and each of them is the longest symbol,
numeral or name at its place, or a stray character. Each of them is read as a token, so scanning
never fails. -/
theorem scan_tiles (input : String) :
    ∃ found : List Occurrence,
      found.map Occurrence.lexeme = lexemes input.toList ∧
      Yields (nextLexeme? input.toList) 0 found ∧
      (∀ offset first next, nextLexeme? input.toList offset = some (first, next) →
        offset < next) ∧
      (∀ calls, String.Pos.Raw.IsValid input ⟨stateAfter (nextLexeme? input.toList) calls 0⟩) ∧
      (∀ o ∈ found, String.Pos.Raw.IsValid input ⟨o.start⟩ ∧
        String.Pos.Raw.IsValid input ⟨o.stop⟩) ∧
      Tiles 0 input.toList found ∧
      ∃ tokens, Token.scan input.toList = .ok tokens ∧
        List.Forall₂ (fun o token => Token.ofLexeme o.lexeme = .ok token) found tokens := by
  obtain ⟨found, htiles, hyields, hlexemes⟩ := exists_tiles [] input.toList
  obtain ⟨tokens, htokens, hall⟩ := htiles.exists_tokens
  rw [hlexemes] at htokens
  refine ⟨found, hlexemes, hyields, ?_, ?_, ?_, htiles, tokens, htokens, hall⟩
  · intro offset first next hnext
    obtain ⟨rfl, hstart, hstop, -⟩ := next_of_nextLexeme? hnext
    exact Nat.lt_of_le_of_lt hstart hstop
  · have hstep : ∀ offset first next, String.Pos.Raw.IsValid input ⟨offset⟩ →
        nextLexeme? input.toList offset = some (first, next) →
          String.Pos.Raw.IsValid input ⟨next⟩ := by
      intro offset first next _ hnext
      rw [(next_of_nextLexeme? hnext).1]
      exact (isValid_of_nextLexeme? hnext).2
    exact stateAfter_induction (P := fun offset => String.Pos.Raw.IsValid input ⟨offset⟩) hstep
      (exists_charsFrom?_iff.mp ⟨input.toList, charsFrom?_append [] input.toList⟩)
  · intro o ho
    obtain ⟨calls, next, hnext⟩ := hyields.exists_of_mem ho
    exact isValid_of_nextLexeme? hnext

/-- The mark of an exponent without digits is cut off the number in front of it. -/
example : nextLexeme? "é 1.e+<=".toList 2 = some (⟨.number ['1', '.'], 3⟩, 5) := by decide

end Worksheet.Formula
