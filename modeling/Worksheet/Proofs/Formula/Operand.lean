import Worksheet.Proofs.Formula.Lexeme
import Worksheet.Proofs.Formula.Reader

/-!
# Texts that read as operands

A text is legible if its tokens derive a tree, whatever stands behind it that does not prolong a
word. Legible texts are closed under the ways in which expressions are written, so that the tree of
a text follows from how the text is put together.

* `legible_numeral`, `legible_constant` and `Legible.negated` are the operands without parentheses.
* `Legible.unary`, `Legible.binary` and `Legible.power` are the operators, and `Legible.parens` is
  an expression in parentheses.
* `Legible.parse_padded` says what a legible text is read as between blanks, and when it exceeds a
  limit. `Legible.parse` is the case without blanks.
-/

namespace Worksheet.Formula

open Number (Numeral)
open Text (NotInFront isBlank notInFront_cons notInFront_nil notInFront_append_of_ne_nil)

/-- A text is scanned as some tokens, whatever stands behind it that does not prolong a word. It
can stand behind a symbol. -/
structure ScannedAs (text : List Char) (tokens : List Token) : Prop where
  ne_nil : text ≠ []
  front : NotInFront (· == '=') text
  scan : ∀ rest after, NotInFront continuesWord rest → Token.scan rest = .ok after →
    Token.scan (text ++ rest) = .ok (tokens ++ after)

/-- A text reads as a phrase of a level with a tree and a nesting. -/
def Legible (level : Level) (text : List Char) (tree : Expr) (nesting : Nat) : Prop :=
  ∃ tokens, ScannedAs text tokens ∧ Derives level tokens tree nesting

variable {level loose : Level} {text : List Char} {tree : Expr} {nesting : Nat}

theorem Legible.loosen (hrank : loose.rank ≤ level.rank) (h : Legible level text tree nesting) :
    Legible loose text tree nesting := by
  obtain ⟨tokens, hscanned, hderives⟩ := h
  exact ⟨tokens, hscanned, hderives.loosen hrank⟩

/-! ## Operands without parentheses -/

theorem notInFront_equal_of_continuesWord {c : Char} {rest : List Char}
    (h : continuesWord c = true) : NotInFront (· == '=') (c :: rest) := by
  rw [notInFront_cons, beq_eq_false_iff_ne]
  rintro rfl
  cases h

theorem legible_numeral (n : Numeral) :
    Legible .primary n.text (.number n.value.toFloat) 0 := by
  obtain ⟨c, others, htext, hword⟩ := exists_numeral_eq_cons n
  refine ⟨[.number n.value.toFloat], ⟨?_, ?_, ?_⟩, .number _⟩
  · rw [htext]
    exact List.cons_ne_nil c others
  · rw [htext]
    exact notInFront_equal_of_continuesWord hword
  · intro rest after hrest hafter
    exact scan_numeral_append n hrest hafter

theorem legible_constant {name : String} (h : Names name tree) :
    Legible .primary name.toList tree 0 := by
  have hname : ∃ c others, name.toList = c :: others ∧ Lexeme.beginsName c = true ∧
      ∀ d ∈ others, Lexeme.continuesName d = true := by
    cases h with
    | true => exact ⟨'t', ['r', 'u', 'e'], rfl, by decide, by simp [Lexeme.continuesName]⟩
    | false => exact ⟨'f', ['a', 'l', 's', 'e'], rfl, by decide, by simp [Lexeme.continuesName]⟩
    | infinity =>
      exact ⟨'I', ['n', 'f', 'i', 'n', 'i', 't', 'y'], rfl, by decide,
        by simp [Lexeme.continuesName]⟩
    | notANumber => exact ⟨'N', ['a', 'N'], rfl, by decide, by simp [Lexeme.continuesName]⟩
  obtain ⟨c, others, htext, hc, hothers⟩ := hname
  refine ⟨[.name name], ⟨?_, ?_, ?_⟩, .constant h⟩
  · rw [htext]
    exact List.cons_ne_nil c others
  · rw [htext]
    exact notInFront_equal_of_continuesWord (continuesWord_of_beginsName hc)
  · intro rest after hrest hafter
    have hscan := scan_name_append hc hothers hrest hafter
    rw [← htext, String.ofList_toList] at hscan
    exact hscan

/-- A minus sign may stand directly in front of an operand. -/
theorem Legible.negated (h : Legible .primary text tree nesting) :
    Legible .signed ('-' :: text) (.unary .negate tree) (nesting + 1) := by
  obtain ⟨tokens, hscanned, hderives⟩ := h
  refine ⟨.symbol .minus :: tokens, ⟨?_, ?_, ?_⟩, ?_⟩
  · exact List.cons_ne_nil _ _
  · exact notInFront_cons.mpr (by decide)
  · intro rest after hrest hafter
    exact scan_spelling_append .minus (fun h => absurd h (by decide))
      (hscanned.scan rest after hrest hafter)
  · exact .sign .negate (hderives.loosen (by decide))

/-! ## Parentheses -/

/-- A text of blanks. -/
def Blanks (gap : List Char) : Prop :=
  ∀ c ∈ gap, isBlank c = true

instance (gap : List Char) : Decidable (Blanks gap) :=
  decidable_of_iff (gap.all isBlank = true) List.all_eq_true

theorem Blanks.notInFront_append {gap rest : List Char} {p : Char → Bool} (hgap : Blanks gap)
    (hp : ∀ c, isBlank c = true → p c = false) (h : NotInFront p rest) :
    NotInFront p (gap ++ rest) :=
  h.append_of_forall fun c hc => hp c (hgap c hc)

theorem Blanks.notInFront_continuesWord {gap : List Char} (h : Blanks gap) :
    NotInFront continuesWord gap :=
  Text.notInFront_of_forall fun c hc => continuesWord_eq_false_of_isBlank (h c hc)

/-- No word goes on behind blanks and a symbol. -/
theorem Blanks.notInFront_spelling {gap rest : List Char} (hgap : Blanks gap) (s : Symbol) :
    NotInFront continuesWord (gap ++ (s.spelling ++ rest)) := by
  obtain ⟨c, others, hspelling, hc⟩ := s.continuesWord_head
  refine hgap.notInFront_append (fun _ => continuesWord_eq_false_of_isBlank) ?_
  rw [hspelling]
  exact notInFront_cons.mpr hc

theorem equal_of_isBlank {c : Char} (h : isBlank c = true) : (c == '=') = false := by
  rw [beq_eq_false_iff_ne]
  rintro rfl
  cases h

/-- A symbol and blanks in front of a text are scanned before it. -/
theorem ScannedAs.scan_behind {s : Symbol} {gap rest : List Char} {tokens after : List Token}
    (hgap : Blanks gap) (h : ScannedAs text tokens) (hrest : NotInFront continuesWord rest)
    (hafter : Token.scan rest = .ok after) :
    Token.scan (s.spelling ++ (gap ++ (text ++ rest))) = .ok (.symbol s :: (tokens ++ after)) := by
  have hfront : NotInFront (· == '=') (gap ++ (text ++ rest)) :=
    hgap.notInFront_append (fun _ => equal_of_isBlank)
      ((notInFront_append_of_ne_nil h.ne_nil).mpr h.front)
  exact scan_spelling_append s (fun _ => hfront)
    (scan_blanks_append hgap (h.scan rest after hrest hafter))

/-- An expression in parentheses, with blanks next to the parentheses. -/
theorem Legible.parens {gap gap' : List Char} (hgap : Blanks gap) (hgap' : Blanks gap')
    (h : Legible .comparison text tree nesting) :
    Legible .primary ('(' :: (gap ++ (text ++ (gap' ++ [')'])))) tree (nesting + 1) := by
  obtain ⟨tokens, hscanned, hderives⟩ := h
  refine ⟨_, ⟨List.cons_ne_nil _ _, notInFront_cons.mpr (by decide), ?_⟩, .parens hderives⟩
  intro rest after hrest hafter
  have hclose : Token.scan (gap' ++ (')' :: rest)) = .ok (.symbol .rightParen :: after) :=
    scan_blanks_append hgap'
      (scan_spelling_append .rightParen (fun h => absurd h (by decide)) hafter)
  have hend : NotInFront continuesWord (gap' ++ (')' :: rest)) :=
    hgap'.notInFront_spelling .rightParen
  have hwhole := hscanned.scan_behind (s := .leftParen) hgap hend hclose
  simpa [Symbol.spelling] using hwhole

/-! ## Operators -/

/-- The symbol of a sign. -/
def UnaryOp.symbol : UnaryOp → Symbol
  | negate => .minus
  | plus => .plus

/-- The symbol of an operator. -/
def BinaryOp.symbol : BinaryOp → Symbol
  | add => .plus
  | subtract => .minus
  | multiply => .star
  | divide => .slash
  | modulo => .percent
  | power => .caret
  | equal => .equal
  | notEqual => .notEqual
  | less => .less
  | lessEqual => .lessEqual
  | greater => .greater
  | greaterEqual => .greaterEqual

theorem signs_symbol (op : UnaryOp) : Signs op.symbol op := by
  cases op <;> constructor

theorem exists_joins_symbol {op : BinaryOp} (h : op ≠ .power) :
    ∃ level, Joins level op.symbol op := by
  cases op with
  | power => exact absurd rfl h
  | _ => exact ⟨_, by constructor⟩

/-- A sign stands in front of an operand, with blanks between them. -/
theorem Legible.unary (op : UnaryOp) {gap : List Char} (hgap : Blanks gap)
    (h : Legible .signed text tree nesting) :
    Legible .signed (op.symbol.spelling ++ (gap ++ text)) (.unary op tree) (nesting + 1) := by
  obtain ⟨tokens, hscanned, hderives⟩ := h
  refine ⟨.symbol op.symbol :: tokens, ⟨?_, ?_, ?_⟩, .sign (signs_symbol op) hderives⟩
  · cases op <;> exact List.cons_ne_nil _ _
  · cases op <;> exact notInFront_cons.mpr (by decide)
  · intro rest after hrest hafter
    rw [List.append_assoc, List.append_assoc]
    exact hscanned.scan_behind hgap hrest hafter

/-- An operator stands between two texts, with blanks around it. -/
theorem ScannedAs.join {left right gap gap' : List Char} {leftTokens rightTokens : List Token}
    (s : Symbol) (hgap : Blanks gap) (hgap' : Blanks gap') (hleft : ScannedAs left leftTokens)
    (hright : ScannedAs right rightTokens) :
    ScannedAs (left ++ (gap ++ (s.spelling ++ (gap' ++ right))))
      (leftTokens ++ .symbol s :: rightTokens) := by
  refine ⟨?_, ?_, ?_⟩
  · exact List.append_ne_nil_of_left_ne_nil hleft.ne_nil _
  · exact (notInFront_append_of_ne_nil hleft.ne_nil).mpr hleft.front
  · intro rest after hrest hafter
    have hbehind := hright.scan_behind (s := s) hgap' hrest hafter
    have hend : NotInFront continuesWord (gap ++ (s.spelling ++ (gap' ++ (right ++ rest)))) :=
      hgap.notInFront_spelling s
    have hwhole := hleft.scan _ _ hend (scan_blanks_append hgap hbehind)
    simpa using hwhole

variable {left right gap gap' : List Char} {leftTree rightTree : Expr} {m n : Nat}

theorem Legible.binary {op : BinaryOp} (hop : op ≠ .power) (hgap : Blanks gap)
    (hgap' : Blanks gap') (hleft : Legible .signed left leftTree m)
    (hright : Legible .signed right rightTree n) :
    Legible .comparison (left ++ (gap ++ (op.symbol.spelling ++ (gap' ++ right))))
      (.binary op leftTree rightTree) (max m n) := by
  obtain ⟨leftTokens, hleftScanned, hleftDerives⟩ := hleft
  obtain ⟨rightTokens, hrightScanned, hrightDerives⟩ := hright
  obtain ⟨level, hjoins⟩ := exists_joins_symbol hop
  exact ⟨_, hleftScanned.join op.symbol hgap hgap' hrightScanned,
    hleftDerives.comparison_of_joins hjoins hrightDerives⟩

/-- The base of a power must not be signed, since the sign would be taken for that of the power. -/
theorem Legible.power (hgap : Blanks gap) (hgap' : Blanks gap')
    (hleft : Legible .primary left leftTree m) (hright : Legible .signed right rightTree n) :
    Legible .comparison (left ++ (gap ++ (BinaryOp.power.symbol.spelling ++ (gap' ++ right))))
      (.binary .power leftTree rightTree) (max m (n + 1)) := by
  obtain ⟨leftTokens, hleftScanned, hleftDerives⟩ := hleft
  obtain ⟨rightTokens, hrightScanned, hrightDerives⟩ := hright
  exact ⟨_, hleftScanned.join BinaryOp.power.symbol hgap hgap' hrightScanned,
    Derives.loosen (by decide) (.power hleftDerives hrightDerives)⟩

/-! ## Reading a legible text -/

theorem scan_nil : Token.scan [] = .ok [] := by
  rw [Token.scan, lexemes_of_cut?_eq_none rfl]
  rfl

theorem Blanks.scan_eq {gap : List Char} (h : Blanks gap) : Token.scan gap = .ok [] := by
  have hscan := scan_blanks_append h scan_nil
  rwa [List.append_nil] at hscan

/-- Blanks around a legible text are not scanned. -/
theorem Legible.scan {lead trail : List Char} (hlead : Blanks lead) (htrail : Blanks trail)
    (h : Legible level text tree nesting) :
    ∃ tokens, Token.scan (lead ++ (text ++ trail)) = .ok tokens ∧
      Derives level tokens tree nesting := by
  obtain ⟨tokens, hscanned, hderives⟩ := h
  have hscan := scan_blanks_append hlead
    (hscanned.scan trail [] htrail.notInFront_continuesWord htrail.scan_eq)
  rw [List.append_nil] at hscan
  exact ⟨tokens, hscan, hderives⟩

/-- A legible text is read as its tree, with any blanks around it, unless it is too long or nested
too deep. -/
theorem Legible.parse_padded {lead trail : List Char} (hlead : Blanks lead) (htrail : Blanks trail)
    (h : Legible level text tree nesting) :
    Expr.parse (String.ofList (lead ++ (text ++ trail))) =
      if longestExpression < (String.ofList (lead ++ (text ++ trail))).utf8ByteSize then
        .error .tooLong
      else if deepestNesting < nesting then .error .tooDeep
      else .ok tree := by
  obtain ⟨tokens, hscan, hderives⟩ :=
    (h.loosen (Nat.zero_le _) : Legible .comparison _ _ _).scan hlead htrail
  rw [Expr.parse, String.toList_ofList, hscan]
  split
  · rfl
  · have hread := Expr.ofTokens_of_derives hderives
    by_cases hdeep : deepestNesting < nesting
    · rw [Reader.within_of_lt hdeep] at hread
      rw [if_pos hdeep]
      exact hread
    · rw [Reader.within_of_le (Nat.not_lt.mp hdeep)] at hread
      rw [if_neg hdeep]
      exact hread

theorem blanks_nil : Blanks [] :=
  fun _ hc => absurd hc List.not_mem_nil

theorem Legible.parse (h : Legible level text tree nesting) :
    Expr.parse (String.ofList text) =
      if longestExpression < (String.ofList text).utf8ByteSize then .error .tooLong
      else if deepestNesting < nesting then .error .tooDeep
      else .ok tree := by
  have hparse := h.parse_padded blanks_nil blanks_nil
  rwa [List.append_nil, List.nil_append] at hparse

end Worksheet.Formula
