import Worksheet.Proofs.Formula.Arithmetic

/-!
# Arithmetic without references

A text that is read as an expression names no cells, but the replacement of references comes first
and knows nothing of numbers: in `1E5` it sees the cell `E5`. This module says that exponents that
are written like this are all it can see, and that every other expression is left alone.

There are three groups.

* The replacement. `filled_eq_self_iff` says that a text stays as it stands, whatever the cells
  are, exactly if no capital stands in front of a digit.
* The expressions. `isChain_of_scan` says that in an expression such a capital is the mark of an
  exponent, and `ofCall?_of_scan` that an expression calls no function.
* The formulas. `display_unreferenced` puts these together, and `display_capitalMark` is a
  formula that shows something else than its arithmetic comes to.
-/

namespace Worksheet.Formula

open Address (Spelling)
open Number (Numeral)
open Text (NotInFront isBlank trimStart notInFront_cons notInFront_dropWhile)

/-! ## Texts that stay as they stand -/

/-- Without cells, the replacement leaves a text as it stands only if it finds nothing to replace,
since what stands for a reference is shorter. -/
theorem length_filled_empty (text : List Char) :
    (filled Snapshot.empty text).length ≤ text.length ∧
      (filled Snapshot.empty text = text → text.IsChain Unreferenced) := by
  induction text using pieces.induct with
  | case1 => exact ⟨by simp [filled_nil], fun _ => .nil⟩
  | case2 c rest spelling after hcut ih =>
    obtain ⟨hproper, hafter, htext⟩ := Spelling.cut?_eq_some_iff.mp hcut
    have hdigits := List.length_pos_iff.mpr hproper.digits_ne_nil
    have hshown : (replacement Snapshot.empty (String.ofList spelling.text)).toList = ['0'] := by
      rw [replacement, Snapshot.get?_empty]
      rfl
    have hlength : (filled Snapshot.empty (c :: rest)).length < (c :: rest).length := by
      rw [htext, filled_text_append hproper hafter, hshown, List.length_append, List.length_append,
        Spelling.text, List.length_cons]
      have hle := ih.1
      simp only [List.length_cons, List.length_nil]
      omega
    exact ⟨Nat.le_of_lt hlength, fun heq =>
      absurd (congrArg List.length heq) (Nat.ne_of_lt hlength)⟩
  | case3 c rest hcut ih =>
    rw [filled_cons_of_cut?_eq_none hcut]
    refine ⟨Nat.succ_le_succ ih.1, fun heq => ?_⟩
    rw [List.cons.injEq] at heq
    exact List.isChain_cons.mpr ⟨cut?_eq_none_iff.mp hcut, ih.2 heq.2⟩

theorem filled_eq_self {text : List Char} (h : text.IsChain Unreferenced) (cells : Snapshot) :
    filled cells text = text := by
  induction text with
  | nil => exact filled_nil
  | cons c text ih =>
    obtain ⟨hfirst, hrest⟩ := List.isChain_cons.mp h
    rw [filled_cons_of_cut?_eq_none (cut?_eq_none_iff.mpr hfirst), ih hrest]

/-- A text stays as it stands, whatever the cells are, if no capital stands in front of a digit. -/
theorem filled_eq_self_iff {text : List Char} :
    (∀ cells, filled cells text = text) ↔ text.IsChain Unreferenced :=
  ⟨fun h => (length_filled_empty text).2 (h Snapshot.empty), filled_eq_self⟩

/-! ## Capitals in expressions -/

/-- A capital in front of a digit is the mark of an exponent. -/
def OnlyMarks (c d : Char) : Prop :=
  c.isUpper = true → d.isDigit = true → c = 'E'

instance : DecidableRel OnlyMarks :=
  fun _ _ => inferInstanceAs (Decidable (_ → _ → _))

/-- Text in which all capitals are marks may stand in front of any text. -/
theorem isChain_append_of_marks {text rest : List Char}
    (h : ∀ c ∈ text, c.isUpper = true → c = 'E') (hrest : rest.IsChain OnlyMarks) :
    (text ++ rest).IsChain OnlyMarks :=
  isChain_append_of_forall (fun c hc _ hupper _ => h c hc hupper) hrest

/-- Text without capitals holds no marks. -/
theorem marks_of_not_isUpper {text : List Char} (h : ∀ c ∈ text, c.isUpper = false) :
    ∀ c ∈ text, c.isUpper = true → c = 'E' := by
  intro c hc hupper
  rw [h c hc] at hupper
  cases hupper

theorem marks_numeral (n : Numeral) : ∀ c ∈ n.text, c.isUpper = true → c = 'E' := by
  intro c hc hupper
  rcases List.mem_append.mp hc with hmantissa | hexponent
  · rcases n.isDigit_or_point_of_mem_mantissa c hmantissa with hdigit | rfl
    · rw [Text.isUpper_eq_false_of_isDigit hdigit] at hupper
      cases hupper
    · cases hupper
  · cases hpart : n.exponentPart? with
    | none =>
      rw [Numeral.exponentText, hpart] at hexponent
      cases hexponent
    | some e =>
      rw [Numeral.exponentText, hpart] at hexponent
      rcases Number.Exponent.mem_text hexponent with rfl | rfl | rfl | hdigit
      · rcases e.isMark with hmark | hmark
        · rw [hmark] at hupper
          cases hupper
        · exact hmark
      · cases hupper
      · cases hupper
      · rw [Text.isUpper_eq_false_of_isDigit hdigit] at hupper
        cases hupper

/-- A constant ends with a small letter or in front of no digit. -/
theorem isChain_constant {name : String} {tree : Expr} {rest : List Char} (h : Names name tree)
    (hfront : NotInFront Lexeme.continuesName rest) (hrest : rest.IsChain OnlyMarks) :
    (name.toList ++ rest).IsChain OnlyMarks := by
  have hdigit : ∀ d ∈ rest.head?, d.isDigit = false := by
    intro d hd
    have hname := hfront d hd
    simp only [Lexeme.continuesName, Char.isAlphanum, Bool.or_eq_false_iff] at hname
    exact hname.1.2
  refine List.IsChain.append ?_ hrest ?_
  · cases h <;> decide
  · intro c _ d hd _ hd'
    rw [hdigit d hd] at hd'
    cases hd'

/-! ## Tokens of expressions -/

/-- Whether the grammar has a use for a token. -/
def Token.IsUsed : Token → Prop
  | .symbol _ => True
  | .number _ => True
  | .name text => ∃ tree, Names text tree
  | .stray _ => False

theorem Derives.isUsed {level : Level} {tokens : List Token} {tree : Expr} {nesting : Nat}
    (h : Derives level tokens tree nesting) : ∀ token ∈ tokens, token.IsUsed := by
  induction h with
  | tighter _ _ ih => exact ih
  | join _ _ _ _ ihLeft ihRight =>
    exact List.forall_mem_append.mpr ⟨ihLeft, List.forall_mem_cons.mpr ⟨trivial, ihRight⟩⟩
  | sign _ _ ih => exact List.forall_mem_cons.mpr ⟨trivial, ih⟩
  | power _ _ ihBase ihExponent =>
    exact List.forall_mem_append.mpr ⟨ihBase, List.forall_mem_cons.mpr ⟨trivial, ihExponent⟩⟩
  | number value => exact List.forall_mem_singleton.mpr trivial
  | constant hname => exact List.forall_mem_singleton.mpr ⟨_, hname⟩
  | parens _ ih =>
    exact List.forall_mem_cons.mpr
      ⟨trivial, List.forall_mem_append.mpr ⟨ih, List.forall_mem_singleton.mpr trivial⟩⟩

/-- A lexeme with a use brings no capital in front of a digit but marks. -/
theorem isChain_of_cut? {input rest : List Char} {lexeme : Lexeme} {token : Token}
    (hcut : Lexeme.cut? input = some (lexeme, rest)) (htoken : Token.ofLexeme lexeme = .ok token)
    (hused : token.IsUsed) (hrest : rest.IsChain OnlyMarks) :
    (lexeme.text ++ rest).IsChain OnlyMarks := by
  unfold Lexeme.cut? at hcut
  split at hcut
  · cases hcut
  · next c after =>
    split at hcut
    · next s _ _ =>
      cases hcut
      exact isChain_append_of_marks (marks_of_not_isUpper s.isUpper_spelling) hrest
    · split at hcut
      · next hliteral =>
        cases hcut
        obtain ⟨n, rfl⟩ := Numeral.exists_of_cut? hliteral
        exact isChain_append_of_marks (marks_numeral n) hrest
      · split at hcut
        · cases hcut
          cases htoken
          obtain ⟨tree, hname⟩ := hused
          have hchain := isChain_constant hname (notInFront_dropWhile after) hrest
          rwa [String.toList_ofList] at hchain
        · cases hcut
          cases htoken
          exact absurd hused id

/-- In an expression, a capital in front of a digit is the mark of an exponent. -/
theorem isChain_of_scan {input : List Char} {tokens : List Token}
    (hscan : Token.scan input = .ok tokens) (hused : ∀ token ∈ tokens, token.IsUsed) :
    input.IsChain OnlyMarks := by
  induction input using lexemes.induct generalizing tokens with
  | case1 input hcut =>
    have hblanks : Blanks input := List.dropWhile_eq_nil_iff.mp (eq_nil_of_cut?_eq_none hcut)
    have hchain :=
      @isChain_append_of_marks input [] (marks_of_not_isUpper hblanks.isUpper_eq_false) .nil
    rwa [List.append_nil] at hchain
  | case2 input lexeme rest hcut ih =>
    rw [Token.scan, lexemes_of_cut? hcut, List.mapM_cons] at hscan
    obtain ⟨token, htoken, hscan⟩ := bind_eq_ok_iff.mp hscan
    obtain ⟨others, hothers, hscan⟩ := bind_eq_ok_iff.mp hscan
    cases hscan
    rw [List.forall_mem_cons] at hused
    have hrest := ih hothers hused.2
    rw [← takeWhile_isBlank_append hcut]
    refine isChain_append_of_marks ?_ ?_
    · exact marks_of_not_isUpper (Blanks.isUpper_eq_false fun _ => List.mem_takeWhile_imp)
    · exact isChain_of_cut? hcut htoken hused.1 hrest

/-! ## Function calls -/

theorem exists_name_eq_cons (function : Function) :
    ∃ c others, function.name.toList = c :: others ∧ Lexeme.beginsName c = true ∧
      ∀ d ∈ others, Lexeme.continuesName d = true := by
  have hne : function.name.toList ≠ [] := by
    cases function <;> simp [Function.name]
  have hupper := function.isUpper_name
  obtain ⟨c, others, hname⟩ := List.exists_cons_of_ne_nil hne
  rw [hname, List.forall_mem_cons] at hupper
  refine ⟨c, others, hname, ?_, fun d hd => ?_⟩
  · simp [Lexeme.beginsName, Char.isAlpha, hupper.1]
  · simp [Lexeme.continuesName, Char.isAlphanum, Char.isAlpha, hupper.2 d hd]

theorem constant?_name (function : Function) : constant? function.name = none := by
  cases function <;> rfl

/-- An expression calls no function, since no function has the name of a constant. -/
theorem ofCall?_of_scan {input : List Char} {tokens : List Token}
    (hscan : Token.scan input = .ok tokens) (hused : ∀ token ∈ tokens, token.IsUsed) :
    Function.ofCall? input = none := by
  rw [Option.eq_none_iff_forall_ne_some]
  rintro ⟨function, args⟩ hcall
  obtain ⟨rfl, rest, rfl⟩ := Function.ofCall?_eq_some_iff.mp hcall
  obtain ⟨c, others, hname, hc, hothers⟩ := exists_name_eq_cons function
  have hparen : NotInFront continuesWord ('(' :: rest) := notInFront_cons.mpr (by decide)
  have hfront : NotInFront isBlank (c :: others ++ '(' :: rest) :=
    notInFront_cons.mpr (isBlank_eq_false_of_continuesWord (continuesWord_of_beginsName hc))
  have hcut := cut?_name_append hc hothers hparen
  rw [← trimStart_of_front hfront] at hcut
  rw [hname, Token.scan, lexemes_of_cut? hcut, List.mapM_cons] at hscan
  obtain ⟨token, htoken, hscan⟩ := bind_eq_ok_iff.mp hscan
  obtain ⟨after, -, hscan⟩ := bind_eq_ok_iff.mp hscan
  cases hscan
  cases htoken
  obtain ⟨tree, hconstant⟩ := hused _ List.mem_cons_self
  rw [← hname, String.ofList_toList, ← constant?_eq_some_iff, constant?_name] at hconstant
  cases hconstant

/-! ## Formulas -/

/-- Whether no capital `E` stands in front of a digit. -/
def NoCapitalMark (text : List Char) : Prop :=
  ∀ d : Char, d.isDigit = true → ¬['E', d] <:+: text

theorem noCapitalMark_iff {text : List Char} :
    NoCapitalMark text ↔ text.IsChain fun c d => c = 'E' → d.isDigit = false := by
  rw [List.isChain_iff_forall_rel_of_append_cons_cons]
  constructor
  · rintro h _ d before behind rfl rfl
    rw [Bool.eq_false_iff]
    exact fun hd => h d hd ⟨before, behind, by simp⟩
  · rintro h d hd ⟨before, behind, htext⟩
    rw [@h 'E' d before behind (by simp [← htext]) rfl] at hd
    cases hd

instance (text : List Char) : Decidable (NoCapitalMark text) :=
  decidable_of_iff _ noCapitalMark_iff.symm

/-- In an expression, it takes the mark of an exponent to make a reference. -/
theorem isChain_unreferenced_iff {text : List Char} (h : text.IsChain OnlyMarks) :
    text.IsChain Unreferenced ↔ NoCapitalMark text := by
  rw [noCapitalMark_iff]
  rw [List.isChain_iff_forall_rel_of_append_cons_cons] at h ⊢
  rw [List.isChain_iff_forall_rel_of_append_cons_cons]
  constructor
  · rintro hchain _ d before behind htext rfl
    exact hchain htext rfl
  · intro hmark c d before behind htext hc
    rw [Bool.eq_false_iff]
    intro hd
    rw [hmark htext (h htext hc hd)] at hd
    cases hd

/-- The exponent of a numeral is not taken for a reference if its mark is small or a sign stands
behind it. -/
theorem noCapitalMark_numeral {n : Numeral}
    (h : ∀ x ∈ n.exponentPart?, x.mark = 'e' ∨ x.sign ≠ []) : NoCapitalMark n.text := by
  rw [noCapitalMark_iff]
  refine isChain_append_of_forall ?_ ?_
  · rintro _ hmantissa _ rfl
    rcases n.isDigit_or_point_of_mem_mantissa 'E' hmantissa with hdigit | hpoint
    · cases hdigit
    · cases hpoint
  · cases hpart : n.exponentPart? with
    | none =>
      rw [Numeral.exponentText, hpart]
      exact .nil
    | some e =>
      rw [Numeral.exponentText, hpart]
      refine List.isChain_cons.mpr ⟨?_, ?_⟩
      · -- Behind a capital mark stands the sign.
        rintro d hd hcapital
        rcases e.isSign with hsign | hsign | hsign <;> rw [hsign] at hd
        · rcases h e hpart with hmark | hne
          · rw [hmark] at hcapital
            cases hcapital
          · exact absurd hsign hne
        · cases hd
          rfl
        · cases hd
          rfl
      · refine List.append_nil (e.sign ++ e.digits) ▸ isChain_append_of_forall ?_ .nil
        rintro _ hbehind _ rfl
        rcases List.mem_append.mp hbehind with hsign | hdigits
        · rcases e.isSign with hs | hs | hs <;> rw [hs] at hsign <;> simp at hsign
        · exact absurd (e.isDigit_digits 'E' hdigits) (by decide)

/-- A formula that consists of an expression shows what the expression comes to, whatever the cells
are, unless a number in it has a capital mark in front of the digits of its exponent. Such a mark
is the only thing in an expression that is taken for a reference. -/
theorem display_unreferenced {e : String} {tree : Expr} (hparse : Expr.parse e = .ok tree) :
    ((∀ cells, replaceReferences e cells = e) ↔ NoCapitalMark e.toList) ∧
      arithmetic e = .ok tree.eval ∧
      (NoCapitalMark e.toList → ∀ cells, display ("=" ++ e) cells = tree.eval.text) ∧
      ∀ n : Numeral, e.toList = n.text → (∀ x ∈ n.exponentPart?, x.mark = 'e' ∨ x.sign ≠ []) →
        ∀ cells, display ("=" ++ e) cells = Number.text n.value.toFloat := by
  obtain ⟨tokens, nesting, hscan, hderives⟩ := Expr.exists_derives_of_parse hparse
  have hvalue : arithmetic e = .ok tree.eval := by
    rw [arithmetic, hparse]
    rfl
  have hkept : (∀ cells, replaceReferences e cells = e) ↔ NoCapitalMark e.toList := by
    rw [← isChain_unreferenced_iff (isChain_of_scan hscan hderives.isUsed), ← filled_eq_self_iff]
    refine forall_congr' fun cells => ?_
    rw [replaceReferences_eq, ← String.toList_inj, String.toList_ofList]
  have hdisplay : NoCapitalMark e.toList → ∀ cells, display ("=" ++ e) cells = tree.eval.text :=
    fun hmark cells => display_of_replaceReferences (ofCall?_of_scan hscan hderives.isUsed)
      (hkept.mpr hmark cells) hvalue
  refine ⟨hkept, hvalue, hdisplay, fun n hn hexponent cells => ?_⟩
  rw [hdisplay (hn ▸ noCapitalMark_numeral hexponent) cells]
  have hread := (legible_numeral n).parse
  rw [← hn, String.ofList_toList, hparse, if_neg (by decide : ¬deepestNesting < 0)] at hread
  split at hread
  · cases hread
  · cases hread
    rfl

/-- The exponents of `2e5-3E+5*Infinity` are left alone, also where `E5` shows something. -/
theorem display_unreferenced_signedExponent :
    let cells := Snapshot.ofList [("E5", .ofText "7")]
    display "=2e5-3E+5*Infinity" cells = "-Infinity" ∧ display "=3E+5" cells = "300000" := by
  intro cells
  have hsum : Expr.parse "2e5-3E+5*Infinity" = .ok (.binary .subtract (.number 200000)
      (.binary .multiply (.number 300000) (.number Number.infinity))) := by decide +kernel
  have hnumber : Expr.parse "3E+5" = .ok (.number 300000) := by decide +kernel
  let scale : Number.Exponent :=
    ⟨'E', ['+'], ['5'], Or.inr rfl, Or.inr (Or.inl rfl), by decide, by simp⟩
  let n : Numeral := ⟨['3'], none, some scale, by decide, by simp, by simp⟩
  obtain ⟨-, -, hdisplay, -⟩ := display_unreferenced hsum
  obtain ⟨-, -, -, hnumeral⟩ := display_unreferenced hnumber
  refine ⟨(hdisplay (by decide) cells).trans ?_, (hnumeral n ?_ ?_ cells).trans ?_⟩
  · decide +kernel
  · decide
  · decide
  · decide +kernel

/-- In `=1E5`, the exponent is taken for the cell `E5`, which shows nothing and counts as zero. -/
theorem display_capitalMark :
    Expr.parse "1E5" = .ok (.number 100000) ∧ arithmetic "1E5" = .ok (.number 100000) ∧
      display "=1E5" Snapshot.empty ≠ (Value.number 100000).text := by
  decide +kernel

end Worksheet.Formula
