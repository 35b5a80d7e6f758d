import Mathlib
import Worksheet.Proofs.Json.Text
import Worksheet.Proofs.Text.Digits

/-!
# Values that are written and read

`Spells` says which characters are written for a value: blanks may stand in front of a value and
around the items and members, numbers are natural ones. Such characters are read back, whatever the
layout is, and both writers write them.

* `read_of_spells` is the reader on one value, with the characters behind it left over.
* `Whole` values have natural numbers only. `spells_compactChars` and `spells_prettyChars` are the
  two layouts, `parse_compact` and `parse_pretty` read them back.
* `whole_sortMembers`: sorted values stay whole.
-/

namespace Worksheet.Json

/-! ## Characters that are written for a value -/

/-- Nothing but blanks. -/
def IsGap (gap : List Char) : Prop :=
  ∀ c ∈ gap, isBlank c = true

mutual

/-- The characters are written for the value. -/
inductive Spells : Json → List Char → Prop where
  | null : Spells null "null".toList
  | boolean (value : Bool) : Spells (boolean value) (boolText value)
  | number (n : Nat) : Spells (ofNat n) (Nat.toDigits 10 n)
  | text (content : Option String) : Spells (text content) (quoteText content)
  | emptyArray : Spells (array []) ['[', ']']
  | array {items : List Json} {chars : List Char} (h : SpellsItems items chars) :
      Spells (array items) ('[' :: chars ++ [']'])
  | emptyObject : Spells (object []) ['\x7b', '\x7d']
  | object {members : List (Option String × Json)} {chars : List Char}
      (h : SpellsMembers members chars) : Spells (object members) ('\x7b' :: chars ++ ['\x7d'])
  | padded {value : Json} {gap chars : List Char} (hgap : IsGap gap) (h : Spells value chars) :
      Spells value (gap ++ chars)

/-- The characters are written for the items between the brackets, of which there is one. -/
inductive SpellsItems : List Json → List Char → Prop where
  | last {item : Json} {chars gap : List Char} (h : Spells item chars) (hgap : IsGap gap) :
      SpellsItems [item] (chars ++ gap)
  | cons {item : Json} {items : List Json} {chars others : List Char} (h : Spells item chars)
      (hothers : SpellsItems items others) :
      SpellsItems (item :: items) (chars ++ ',' :: others)

/-- The characters are written for the members between the braces, of which there is one. -/
inductive SpellsMembers : List (Option String × Json) → List Char → Prop where
  | last {gap chars gap' : List Char} {value : Json} (hgap : IsGap gap) (name : Option String)
      (h : Spells value chars) (hgap' : IsGap gap') :
      SpellsMembers [(name, value)] (gap ++ (quoteText name ++ ':' :: chars) ++ gap')
  | cons {gap chars others : List Char} {value : Json} {members : List (Option String × Json)}
      (hgap : IsGap gap) (name : Option String) (h : Spells value chars)
      (hothers : SpellsMembers members others) :
      SpellsMembers ((name, value) :: members)
        (gap ++ (quoteText name ++ ':' :: chars) ++ ',' :: others)

end

/-! ## Blanks -/

variable {gap chars rest : List Char} {value : Json} {bound : Nat}

theorem skip_append (hgap : IsGap gap) : skip (gap ++ rest) = skip rest :=
  List.dropWhile_append_of_pos hgap

theorem skip_cons {c : Char} (h : isBlank c = false) : skip (c :: rest) = c :: rest := by
  simp [skip, h]

theorem skip_append_cons {c : Char} (hgap : IsGap gap) (h : isBlank c = false) :
    skip (gap ++ c :: rest) = c :: rest := by
  rw [skip_append hgap, skip_cons h]

/-- Only what stands behind the blanks counts. -/
theorem value?_congr {input input' : List Char} (h : skip input = skip input') :
    value? bound input = value? bound input' := by
  cases bound with
  | zero => rfl
  | succ bound => simp only [value?, h]

/-! ## Numbers -/

/-- Whether a character behind a number would be read as part of it. -/
def prolongs (c : Char) : Bool :=
  c.isDigit || c == '.' || c == 'e' || c == 'E'

theorem natural?_toDigits (n : Nat) (hrest : Text.NotInFront Char.isDigit rest) :
    natural? (Nat.toDigits 10 n ++ rest) = some (Nat.toDigits 10 n, rest) := by
  obtain rfl | hpos := Nat.eq_zero_or_pos n
  · cases rest with
    | nil => rfl
    | cons c rest => simp [natural?, Nat.toDigits_zero, Text.notInFront_cons.mp hrest]
  · have hdigits : ∀ c ∈ Nat.toDigits 10 n, c.isDigit = true := fun _ hc =>
      Nat.isDigit_of_mem_toDigits (by decide) (by decide) hc
    have hzero := Text.head?_toDigits_ne_zero hpos
    have hne : Nat.toDigits 10 n ≠ [] := Nat.toDigits_ne_nil
    rw [natural?]
    · simp [digits?, Text.spanDigits_append_of_front hdigits hrest, hne]
    · rintro tail heq
      apply hzero
      rw [← List.head?_append_of_ne_nil _ hne, heq, List.head?_cons]

theorem number?_toDigits (n : Nat) (hrest : Text.NotInFront prolongs rest) :
    number? (Nat.toDigits 10 n ++ rest) = some (Nat.toDigits 10 n, rest) := by
  have hnatural := natural?_toDigits n (hrest.mono fun c hc => by simp [prolongs, hc])
  have hfraction : fraction? rest = some ([], rest) := by
    rw [fraction?]
    rintro tail rfl
    exact absurd (Text.notInFront_cons.mp hrest) (by decide)
  have hexponent : exponent? rest = some ([], rest) := by
    cases rest with
    | nil => rfl
    | cons c rest =>
      have hc := Text.notInFront_cons.mp hrest
      simp only [prolongs, Bool.or_eq_false_iff] at hc
      simp [exponent?, hc]
  rw [number?]
  · simp [magnitude?, hnatural, hfraction, hexponent]
  · intro tail heq
    obtain ⟨d, digits, hcons, hdigit⟩ := Text.exists_cons_toDigits n
    rw [hcons, List.cons_append] at heq
    exact Text.cons_ne_cons_of_isDigit hdigit (by decide) heq

/-! ## Reading -/

/-- The characters are read as the value. -/
def Reads (value : Json) (chars : List Char) : Prop :=
  ∀ bound rest, chars.length < bound → Text.NotInFront prolongs rest →
    value? bound (chars ++ rest) = some (value, rest)

/-- The characters are read as the items. -/
def ReadsItems (items : List Json) (chars : List Char) : Prop :=
  ∀ bound rest, chars.length + 1 < bound →
    items? bound (chars ++ ']' :: rest) = some (items, rest)

/-- The characters are read as the members. -/
def ReadsMembers (members : List (Option String × Json)) (chars : List Char) : Prop :=
  ∀ bound rest, chars.length + 1 < bound →
    members? bound (chars ++ '\x7d' :: rest) = some (members, rest)

/-- To read characters of a value, one step into it is there. -/
theorem reads_of_succ
    (h : ∀ bound rest, chars.length ≤ bound → Text.NotInFront prolongs rest →
      value? (bound + 1) (chars ++ rest) = some (value, rest)) : Reads value chars := by
  intro bound rest hbound hrest
  cases bound with
  | zero => exact absurd hbound (Nat.not_lt_zero _)
  | succ bound => exact h bound rest (Nat.le_of_lt_succ hbound) hrest

theorem reads_null : Reads null "null".toList :=
  reads_of_succ fun _ _ _ _ => rfl

theorem reads_boolean (value : Bool) : Reads (boolean value) (boolText value) := by
  cases value with
  | false => exact reads_of_succ fun _ _ _ _ => rfl
  | true => exact reads_of_succ fun _ _ _ _ => rfl

theorem value?_cons_of_isDigit {c : Char} (h : c.isDigit = true) :
    value? (bound + 1) (c :: rest) =
      (number? (c :: rest)).map fun (literal, rest) => (number literal, rest) := by
  have hne {d : Char} (hd : d.isDigit = false) : c ≠ d := Text.ne_of_isDigit h hd
  have hskip : skip (c :: rest) = c :: rest := by
    apply skip_cons
    simp [isBlank, hne (d := ' ') (by decide), hne (d := '\t') (by decide),
      hne (d := '\n') (by decide), hne (d := '\r') (by decide)]
  rw [value?, hskip]
  split
  · next heq => exact absurd heq (Text.cons_ne_cons_of_isDigit h (by decide))
  · next heq => exact absurd heq (Text.cons_ne_cons_of_isDigit h (by decide))
  · next heq => exact absurd heq (Text.cons_ne_cons_of_isDigit h (by decide))
  · have hword (d : Char) (word : List Char) (hd : d.isDigit = false) :
        (d :: word).isPrefixOf (c :: rest) = false := by
      have hfirst : d ≠ c := (hne hd).symm
      simp [List.isPrefixOf, hfirst]
    have hnull : "null".toList.isPrefixOf (c :: rest) = false := hword 'n' _ (by decide)
    have htrue : "true".toList.isPrefixOf (c :: rest) = false := hword 't' _ (by decide)
    have hfalse : "false".toList.isPrefixOf (c :: rest) = false := hword 'f' _ (by decide)
    simp only [scalar?, hnull, htrue, hfalse, Bool.false_eq_true, if_false]

theorem reads_number (n : Nat) : Reads (ofNat n) (Nat.toDigits 10 n) := by
  refine reads_of_succ fun bound rest _ hrest => ?_
  have hread := number?_toDigits n hrest
  obtain ⟨d, digits, hcons, hdigit⟩ := Text.exists_cons_toDigits n
  rw [hcons, List.cons_append] at hread
  rw [hcons, List.cons_append, value?_cons_of_isDigit hdigit, hread, Option.map_some, ofNat, hcons]

theorem reads_text (content : Option String) : Reads (text content) (quoteText content) := by
  refine reads_of_succ fun bound rest _ _ => ?_
  obtain ⟨body, hquote, hread⟩ := text?_quoteText content rest
  rw [hquote, List.cons_append, value?, skip_cons (by decide)]
  simp [hread]

theorem Reads.padded (hgap : IsGap gap) (h : Reads value chars) : Reads value (gap ++ chars) := by
  intro bound rest hbound hrest
  have hshorter : chars.length < bound := by
    rw [List.length_append] at hbound
    omega
  rw [List.append_assoc, value?_congr (skip_append hgap), h bound rest hshorter hrest]

theorem reads_emptyArray : Reads (array []) ['[', ']'] :=
  reads_of_succ fun _ _ _ _ => rfl

theorem reads_emptyObject : Reads (object []) ['\x7b', '\x7d'] :=
  reads_of_succ fun _ _ _ _ => rfl

theorem items?_eq_none {input tail : List Char} (h : skip input = ']' :: tail) :
    items? bound input = none := by
  have hvalue : ∀ bound, value? bound input = none := by
    intro bound
    cases bound with
    | zero => rfl
    | succ bound =>
      rw [value?, h]
      rfl
  cases bound with
  | zero => rfl
  | succ bound => simp [items?, hvalue]

theorem members?_eq_none {input tail : List Char} (h : skip input = '\x7d' :: tail) :
    members? bound input = none := by
  cases bound with
  | zero => rfl
  | succ bound => simp [members?, h]

theorem value?_items {input : List Char} {items : List Json}
    (h : items? bound input = some (items, rest)) :
    value? (bound + 1) ('[' :: input) = some (array items, rest) := by
  simp only [value?, skip_cons (show isBlank '[' = false by decide)]
  split
  · -- Where the bracket closes at once, no item could have been read.
    next heq =>
    rw [items?_eq_none heq] at h
    cases h
  · rw [h, Option.map_some]

theorem value?_members {input : List Char} {members : List (Option String × Json)}
    (h : members? bound input = some (members, rest)) :
    value? (bound + 1) ('\x7b' :: input) = some (object members, rest) := by
  simp only [value?, skip_cons (show isBlank '\x7b' = false by decide)]
  split
  · next heq =>
    rw [members?_eq_none heq] at h
    cases h
  · rw [h, Option.map_some]

theorem ReadsItems.array {items : List Json} (h : ReadsItems items chars) :
    Reads (array items) ('[' :: chars ++ [']']) := by
  refine reads_of_succ fun bound rest hbound _ => ?_
  simp only [List.cons_append, List.length_cons, List.length_append, List.length_nil] at hbound
  simpa using value?_items (h bound rest (by omega))

theorem ReadsMembers.object {members : List (Option String × Json)}
    (h : ReadsMembers members chars) :
    Reads (object members) ('\x7b' :: chars ++ ['\x7d']) := by
  refine reads_of_succ fun bound rest hbound _ => ?_
  simp only [List.cons_append, List.length_cons, List.length_append, List.length_nil] at hbound
  simpa using value?_members (h bound rest (by omega))

/-- No blank is taken for part of a number. -/
theorem notInFront_prolongs_gap (hgap : IsGap gap) (hrest : Text.NotInFront prolongs rest) :
    Text.NotInFront prolongs (gap ++ rest) := by
  refine Text.NotInFront.append_of_forall (fun d hd => ?_) hrest
  have hblank := hgap d hd
  simp only [isBlank, Bool.or_eq_true, beq_iff_eq] at hblank
  obtain ((rfl | rfl) | rfl) | rfl := hblank <;> decide

theorem Reads.lastItem (h : Reads value chars) (hgap : IsGap gap) :
    ReadsItems [value] (chars ++ gap) := by
  intro bound rest hbound
  obtain ⟨bound, rfl⟩ : ∃ less, bound = less + 1 := ⟨bound - 1, by omega⟩
  have hread := h bound (gap ++ ']' :: rest)
    (by rw [List.length_append] at hbound; omega)
    (notInFront_prolongs_gap hgap (Text.notInFront_cons.mpr (by decide)))
  rw [List.append_assoc, items?, hread]
  simp [skip_append_cons hgap (show isBlank ']' = false by decide)]

theorem Reads.item {items : List Json} {others : List Char} (h : Reads value chars)
    (hothers : ReadsItems items others) :
    ReadsItems (value :: items) (chars ++ ',' :: others) := by
  intro bound rest hbound
  obtain ⟨bound, rfl⟩ : ∃ less, bound = less + 1 := ⟨bound - 1, by omega⟩
  simp only [List.length_append, List.length_cons] at hbound
  have hread := h bound (',' :: (others ++ ']' :: rest)) (by omega)
    (Text.notInFront_cons.mpr (by decide))
  have hreadOthers := hothers bound rest (by omega)
  rw [List.append_assoc, List.cons_append, items?, hread]
  simp [skip_cons (show isBlank ',' = false by decide), hreadOthers]

/-- A name and its value are read up to what stands behind them. -/
theorem Reads.members?_eq {tail : List Char} (h : Reads value chars) (hgap : IsGap gap)
    (name : Option String) (hbound : chars.length < bound)
    (htail : Text.NotInFront prolongs tail) :
    (skip tail = '\x7d' :: rest →
      members? (bound + 1) (gap ++ (quoteText name ++ ':' :: chars) ++ tail) =
        some ([(name, value)], rest)) ∧
    (skip tail = ',' :: rest →
      members? (bound + 1) (gap ++ (quoteText name ++ ':' :: chars) ++ tail) =
        (members? bound rest).map fun (members, rest) => ((name, value) :: members, rest)) := by
  obtain ⟨body, hquote, hname⟩ := text?_quoteText name (':' :: (chars ++ tail))
  have hfront : skip (gap ++ '"' :: (body ++ ':' :: (chars ++ tail))) =
      '"' :: (body ++ ':' :: (chars ++ tail)) := skip_append_cons hgap (by decide)
  have hcolon : skip (':' :: (chars ++ tail)) = ':' :: (chars ++ tail) := skip_cons (by decide)
  have hread := h bound tail hbound htail
  rw [hquote]
  simp only [List.append_assoc, List.cons_append]
  constructor
  · intro hskip
    simp [members?, hfront, hname, hcolon, hread, hskip]
  · intro hskip
    cases hothers : members? bound rest <;>
      simp [members?, hfront, hname, hcolon, hread, hskip, hothers]

theorem Reads.lastMember {gap' : List Char} (h : Reads value chars) (hgap : IsGap gap)
    (name : Option String) (hgap' : IsGap gap') :
    ReadsMembers [(name, value)] (gap ++ (quoteText name ++ ':' :: chars) ++ gap') := by
  intro bound rest hbound
  obtain ⟨bound, rfl⟩ : ∃ less, bound = less + 1 := ⟨bound - 1, by omega⟩
  simp only [List.length_append, List.length_cons] at hbound
  have htail : Text.NotInFront prolongs (gap' ++ '\x7d' :: rest) :=
    notInFront_prolongs_gap hgap' (Text.notInFront_cons.mpr (by decide))
  rw [List.append_assoc _ gap']
  exact (h.members?_eq hgap name (by omega) htail).1 (skip_append_cons hgap' (by decide))

theorem Reads.member {members : List (Option String × Json)} {others : List Char}
    (h : Reads value chars) (hgap : IsGap gap) (name : Option String)
    (hothers : ReadsMembers members others) :
    ReadsMembers ((name, value) :: members)
      (gap ++ (quoteText name ++ ':' :: chars) ++ ',' :: others) := by
  intro bound rest hbound
  obtain ⟨bound, rfl⟩ : ∃ less, bound = less + 1 := ⟨bound - 1, by omega⟩
  simp only [List.length_append, List.length_cons] at hbound
  have htail : Text.NotInFront prolongs (',' :: (others ++ '\x7d' :: rest)) :=
    Text.notInFront_cons.mpr (by decide)
  rw [List.append_assoc _ (',' :: others), List.cons_append,
    (h.members?_eq hgap name (by omega) htail).2 (skip_cons (by decide)),
    hothers bound rest (by omega), Option.map_some]

mutual

/-- What is written for a value is read as it. -/
theorem read_of_spells {value : Json} {chars : List Char} :
    Spells value chars → Reads value chars
  | .null => reads_null
  | .boolean value => reads_boolean value
  | .number n => reads_number n
  | .text content => reads_text content
  | .emptyArray => reads_emptyArray
  | .array h => (readItems_of_spellsItems h).array
  | .emptyObject => reads_emptyObject
  | .object h => (readMembers_of_spellsMembers h).object
  | .padded hgap h => (read_of_spells h).padded hgap

theorem readItems_of_spellsItems {items : List Json} {chars : List Char} :
    SpellsItems items chars → ReadsItems items chars
  | .last h hgap => (read_of_spells h).lastItem hgap
  | .cons h hothers => (read_of_spells h).item (readItems_of_spellsItems hothers)

theorem readMembers_of_spellsMembers {members : List (Option String × Json)} {chars : List Char} :
    SpellsMembers members chars → ReadsMembers members chars
  | .last hgap name h hgap' => (read_of_spells h).lastMember hgap name hgap'
  | .cons hgap name h hothers =>
    (read_of_spells h).member hgap name (readMembers_of_spellsMembers hothers)

end

/-- A text is read as the value that it is written for, if nothing but blanks stands behind. -/
theorem parse_of_spells (h : Spells value chars) (hgap : IsGap gap) :
    parse (String.ofList (chars ++ gap)) = some value := by
  have hfront : Text.NotInFront prolongs (gap ++ []) :=
    notInFront_prolongs_gap hgap Text.notInFront_nil
  rw [List.append_nil] at hfront
  have hread := read_of_spells h (2 * (chars ++ gap).length + 2) gap
    (by rw [List.length_append]; omega) hfront
  have hskip : skip gap = [] := List.dropWhile_eq_nil_iff.mpr hgap
  simp only [parse, String.toList_ofList, hread, Option.bind_eq_bind, Option.bind_some, hskip]
  rfl

/-! ## Writing -/

mutual

/-- Every number of the value is a natural one. -/
def Whole : Json → Prop
  | number literal => ∃ n, literal = Nat.toDigits 10 n
  | array items => WholeItems items
  | object members => WholeMembers members
  | null | boolean _ | text _ => True

/-- Every number of the items is a natural one. -/
def WholeItems : List Json → Prop
  | [] => True
  | item :: items => item.Whole ∧ WholeItems items

/-- Every number of the members is a natural one. -/
def WholeMembers : List (Option String × Json) → Prop
  | [] => True
  | (_, value) :: members => value.Whole ∧ WholeMembers members

end

/-- The characters are written for a member: its name, a colon and its value. -/
def SpellsMember (member : Option String × Json) (chars : List Char) : Prop :=
  ∃ text, chars = quoteText member.1 ++ ':' :: text ∧ Spells member.2 text

/-- Items that are written one by one are written together: between brackets, with the same gap in
front of each, and a gap behind the last. -/
theorem spellsItems_joinWith {gap' : List Char} {item : Json} {items : List Json}
    {part : List Char} {parts : List (List Char)} (hgap : IsGap gap) (hgap' : IsGap gap')
    (hpart : Spells item part) (hparts : List.Forall₂ Spells items parts) :
    SpellsItems (item :: items) (gap ++ joinWith (',' :: gap) (part :: parts) ++ gap') := by
  induction hparts generalizing item part with
  | nil => exact .last (.padded hgap hpart) hgap'
  | cons hnext _ ih =>
    have hothers := SpellsItems.cons (.padded hgap hpart) (ih hnext)
    simpa [joinWith] using hothers

theorem spellsMembers_joinWith {gap' : List Char} {member : Option String × Json}
    {members : List (Option String × Json)} {part : List Char} {parts : List (List Char)}
    (hgap : IsGap gap) (hgap' : IsGap gap') (hpart : SpellsMember member part)
    (hparts : List.Forall₂ SpellsMember members parts) :
    SpellsMembers (member :: members) (gap ++ joinWith (',' :: gap) (part :: parts) ++ gap') := by
  induction hparts generalizing member part with
  | nil =>
    obtain ⟨text, rfl, h⟩ := hpart
    exact .last hgap member.1 h hgap'
  | cons hnext _ ih =>
    obtain ⟨text, rfl, h⟩ := hpart
    have hothers := SpellsMembers.cons hgap member.1 h (ih hnext)
    simpa [joinWith] using hothers

/-- An array may be written with a gap in front of its items and behind them, on one line or on
several; without items, nothing stands between its brackets. -/
theorem spells_array {gap' : List Char} {items : List Json} {parts : List (List Char)}
    (hgap : IsGap gap) (hgap' : IsGap gap') (h : List.Forall₂ Spells items parts) :
    Spells (array items)
      (if parts.isEmpty then ['[', ']']
      else '[' :: (gap ++ joinWith (',' :: gap) parts ++ gap') ++ [']']) := by
  cases h with
  | nil => exact .emptyArray
  | cons hpart hparts => exact .array (spellsItems_joinWith hgap hgap' hpart hparts)

theorem spells_object {gap' : List Char} {members : List (Option String × Json)}
    {parts : List (List Char)} (hgap : IsGap gap) (hgap' : IsGap gap')
    (h : List.Forall₂ SpellsMember members parts) :
    Spells (object members)
      (if parts.isEmpty then ['\x7b', '\x7d']
      else '\x7b' :: (gap ++ joinWith (',' :: gap) parts ++ gap') ++ ['\x7d']) := by
  cases h with
  | nil => exact .emptyObject
  | cons hpart hparts => exact .object (spellsMembers_joinWith hgap hgap' hpart hparts)

theorem isGap_nil : IsGap [] := by
  simp [IsGap]

/-- On one line, nothing stands between the parts. -/
theorem oneLine_eq (opening closing : Char) (parts : List (List Char)) :
    opening :: joinWith [','] parts ++ [closing] =
      if parts.isEmpty then [opening, closing]
      else opening :: ([] ++ joinWith (',' :: []) parts ++ []) ++ [closing] := by
  cases parts <;> simp [joinWith]

mutual

theorem spells_compactChars : (value : Json) → value.Whole → Spells value (compactChars value)
  | null, _ => .null
  | boolean value, _ => .boolean value
  | number _, ⟨n, hliteral⟩ => hliteral ▸ .number n
  | text content, _ => .text content
  | array items, h => by
    rw [compactChars, oneLine_eq]
    exact spells_array isGap_nil isGap_nil (spells_compactItems items h)
  | object members, h => by
    rw [compactChars, oneLine_eq]
    exact spells_object isGap_nil isGap_nil (spells_compactMembers members h)

theorem spells_compactItems :
    (items : List Json) → WholeItems items → List.Forall₂ Spells items (compactItems items)
  | [], _ => .nil
  | item :: items, ⟨h, hitems⟩ =>
    .cons (spells_compactChars item h) (spells_compactItems items hitems)

theorem spells_compactMembers : (members : List (Option String × Json)) → WholeMembers members →
    List.Forall₂ SpellsMember members (compactMembers members)
  | [], _ => .nil
  | (_, value) :: members, ⟨h, hmembers⟩ =>
    .cons ⟨_, rfl, spells_compactChars value h⟩ (spells_compactMembers members hmembers)

end

theorem isGap_space : IsGap [' '] := by
  simp [IsGap, isBlank]

theorem isGap_newLine (level : Nat) : IsGap (newLine level) := by
  intro c hc
  obtain rfl | hc := List.mem_cons.mp hc
  · decide
  · rw [List.eq_of_mem_replicate hc]
    decide

/-- Over several lines, a line is begun in front of each part and behind the last. -/
theorem bracketed_eq (opening closing : Char) (level : Nat) (parts : List (List Char)) :
    bracketed opening closing level parts =
      if parts.isEmpty then [opening, closing]
      else opening :: (newLine (level + 1) ++ joinWith (',' :: newLine (level + 1)) parts ++
        newLine level) ++ [closing] := by
  cases parts <;> simp [bracketed]

mutual

theorem spells_prettyChars :
    (level : Nat) → (value : Json) → value.Whole → Spells value (prettyChars level value)
  | _, null, _ => .null
  | _, boolean value, _ => .boolean value
  | _, number _, ⟨n, hliteral⟩ => hliteral ▸ .number n
  | _, text content, _ => .text content
  | level, array items, h => by
    rw [prettyChars, bracketed_eq]
    exact spells_array (isGap_newLine _) (isGap_newLine _)
      (spells_prettyItems (level + 1) items h)
  | level, object members, h => by
    rw [prettyChars, bracketed_eq]
    exact spells_object (isGap_newLine _) (isGap_newLine _)
      (spells_prettyMembers (level + 1) members h)

theorem spells_prettyItems : (level : Nat) → (items : List Json) → WholeItems items →
    List.Forall₂ Spells items (prettyItems level items)
  | _, [], _ => .nil
  | level, item :: items, ⟨h, hitems⟩ =>
    .cons (spells_prettyChars level item h) (spells_prettyItems level items hitems)

theorem spells_prettyMembers : (level : Nat) → (members : List (Option String × Json)) →
    WholeMembers members → List.Forall₂ SpellsMember members (prettyMembers level members)
  | _, [], _ => .nil
  | level, (_, value) :: members, ⟨h, hmembers⟩ =>
    .cons ⟨_, rfl, .padded isGap_space (spells_prettyChars level value h)⟩
      (spells_prettyMembers level members hmembers)

end

/-! ## Writing and reading back -/

/-- A value is read back from the line that it is written on. -/
theorem parse_compact (h : value.Whole) : parse value.compact = some value := by
  have hread := parse_of_spells (spells_compactChars value h) isGap_nil
  rwa [List.append_nil] at hread

/-- A value is read back from the lines that it is written over, with blanks behind them. -/
theorem parse_pretty_append (h : value.Whole) {behind : String} (hbehind : IsGap behind.toList) :
    parse (value.pretty ++ behind) = some value := by
  have hread := parse_of_spells (spells_prettyChars 0 value h) hbehind
  rwa [String.ofList_append, String.ofList_toList] at hread

theorem parse_pretty (h : value.Whole) : parse value.pretty = some value := by
  have hgap : IsGap "".toList := isGap_nil
  have hread := parse_pretty_append h hgap
  rwa [String.append_empty] at hread

/-! ## Sorted members -/

theorem wholeMembers_iff {members : List (Option String × Json)} :
    WholeMembers members ↔ ∀ member ∈ members, member.2.Whole := by
  induction members with
  | nil => simp [WholeMembers]
  | cons member members ih => simp [WholeMembers, ih]

mutual

theorem whole_sortMembers : (value : Json) → value.Whole → (sortMembers value).Whole
  | null, _ => trivial
  | boolean _, _ => trivial
  | number _, h => h
  | text _, _ => trivial
  | array items, h => whole_sortItems items h
  | object members, h => by
    have hsorted := whole_sortValues members h
    rw [sortMembers, Whole, wholeMembers_iff]
    intro member hmember
    exact wholeMembers_iff.mp hsorted member ((List.mergeSort_perm _ _).mem_iff.mp hmember)

theorem whole_sortItems : (items : List Json) → WholeItems items → WholeItems (sortItems items)
  | [], _ => trivial
  | item :: items, ⟨h, hitems⟩ => ⟨whole_sortMembers item h, whole_sortItems items hitems⟩

theorem whole_sortValues : (members : List (Option String × Json)) → WholeMembers members →
    WholeMembers (sortValues members)
  | [], _ => trivial
  | (_, value) :: members, ⟨h, hmembers⟩ =>
    ⟨whole_sortMembers value h, whole_sortValues members hmembers⟩

end

end Worksheet.Json
