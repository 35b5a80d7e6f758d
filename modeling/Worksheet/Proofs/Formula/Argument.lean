import Worksheet.Formula.Call

/-!
# Where a literal argument stands

The argument of a text function is found by its parentheses. The opening one is the leftmost that
is closed before its line ends, so a parenthesis is passed over if the next closing one stands on a
later line.

* `closedText?_eq_some_iff` and `closedOnLine_iff` are about one opening parenthesis.
* `LeftmostClosed` says which opening parenthesis counts, and `group?_eq_some_iff` and
  `group?_eq_none_iff` that the search finds it.
* `LeftmostClosed.unique` says that there is only one such parenthesis, and
  `LeftmostClosed.replace` that it does not depend on what follows the closing one.
* `argument_eq_ok_iff` and `argument_eq_error_iff` say which texts have an argument, and
  `argument_exact` puts this together for the text functions.
-/

namespace Worksheet.Formula

variable {text inside : List Char}

/-! ## One parenthesis -/

/-- Whether a closing parenthesis comes before the end of the line. -/
def ClosedOnLine (text : List Char) : Prop :=
  ∃ inside after, text = inside ++ ')' :: after ∧ '\n' ∉ inside

theorem closedText?_cons_eq_some_iff {c : Char} {rest : List Char} (hparen : c ≠ ')')
    (hline : c ≠ '\n') :
    closedText? (c :: rest) = some inside ↔
      ∃ others, closedText? rest = some others ∧ c :: others = inside := by
  rw [closedText?, Option.map_eq_some_iff]
  · exact hparen
  · exact hline

theorem closedText?_eq_some_iff :
    closedText? text = some inside ↔
      (')' ∉ inside ∧ '\n' ∉ inside) ∧ ∃ after, text = inside ++ ')' :: after := by
  constructor
  · intro h
    fun_induction closedText? text generalizing inside with
    | case1 => cases h
    | case2 rest =>
      cases h
      exact ⟨⟨List.not_mem_nil, List.not_mem_nil⟩, rest, rfl⟩
    | case3 => cases h
    | case4 c rest hparen hline ih =>
      obtain ⟨others, hothers, rfl⟩ := Option.map_eq_some_iff.mp h
      obtain ⟨⟨hclose, hend⟩, after, rfl⟩ := ih hothers
      simp only [List.mem_cons, not_or]
      exact ⟨⟨⟨Ne.symm hparen, hclose⟩, Ne.symm hline, hend⟩, after, rfl⟩
  · rintro ⟨⟨hclose, hend⟩, after, rfl⟩
    induction inside with
    | nil => rfl
    | cons c inside ih =>
      simp only [List.mem_cons, not_or] at hclose hend
      exact (closedText?_cons_eq_some_iff (Ne.symm hclose.1) (Ne.symm hend.1)).mpr
        ⟨inside, ih hclose.2 hend.2, rfl⟩

/-- A parenthesis that is closed on its line is closed by the first closing one. -/
theorem closedOnLine_iff : ClosedOnLine text ↔ ∃ inside, closedText? text = some inside := by
  constructor
  · rintro ⟨inside, after, rfl, hend⟩
    induction inside with
    | nil => exact ⟨[], rfl⟩
    | cons c inside ih =>
      simp only [List.mem_cons, not_or] at hend
      by_cases hparen : c = ')'
      · exact ⟨[], by rw [hparen]; rfl⟩
      · obtain ⟨others, hothers⟩ := ih hend.2
        exact ⟨_, (closedText?_cons_eq_some_iff hparen (Ne.symm hend.1)).mpr ⟨_, hothers, rfl⟩⟩
  · rintro ⟨inside, hinside⟩
    obtain ⟨⟨-, hend⟩, after, rfl⟩ := closedText?_eq_some_iff.mp hinside
    exact ⟨inside, after, rfl, hend⟩

/-! ## The leftmost one -/

/-- Whether the leftmost opening parenthesis that is closed on its line has this text behind it. -/
def LeftmostClosed (text behind : List Char) : Prop :=
  ClosedOnLine behind ∧ ∃ before, text = before ++ '(' :: behind ∧
    ∀ earlier later, before = earlier ++ '(' :: later → ¬ClosedOnLine (later ++ '(' :: behind)

theorem exists_leftmostClosed_of_group? (h : group? text = some inside) :
    ∃ behind, LeftmostClosed text behind ∧ closedText? behind = some inside := by
  fun_induction group? text with
  | case1 => cases h
  | case2 rest found hfound =>
    cases h
    refine ⟨rest, ⟨closedOnLine_iff.mpr ⟨_, hfound⟩, [], rfl, ?_⟩, hfound⟩
    intro earlier later hsplit
    cases earlier <;> cases hsplit
  | case3 rest hnone ih =>
    obtain ⟨behind, ⟨hclosed, before, rfl, hearlier⟩, hfound⟩ := ih h
    refine ⟨behind, ⟨hclosed, '(' :: before, rfl, ?_⟩, hfound⟩
    intro earlier later hsplit
    cases earlier with
    | nil =>
      -- The parenthesis that was passed over is not closed on its line.
      cases hsplit
      rw [closedOnLine_iff, hnone]
      rintro ⟨_, hsome⟩
      cases hsome
    | cons c earlier => exact hearlier earlier later (List.cons.inj hsplit).2
  | case4 c rest hparen ih =>
    obtain ⟨behind, ⟨hclosed, before, rfl, hearlier⟩, hfound⟩ := ih h
    refine ⟨behind, ⟨hclosed, c :: before, rfl, ?_⟩, hfound⟩
    intro earlier later hsplit
    cases earlier with
    | nil => exact absurd (List.cons.inj hsplit).1 hparen
    | cons d earlier => exact hearlier earlier later (List.cons.inj hsplit).2

theorem group?_of_leftmostClosed {behind : List Char} (h : LeftmostClosed text behind) :
    group? text = closedText? behind := by
  obtain ⟨hclosed, before, rfl, hearlier⟩ := h
  induction before with
  | nil =>
    obtain ⟨inside, hinside⟩ := closedOnLine_iff.mp hclosed
    rw [List.nil_append, group?, hinside]
  | cons c before ih =>
    have hrest := ih fun earlier later hsplit =>
      hearlier (c :: earlier) later (by rw [hsplit]; rfl)
    by_cases hparen : c = '('
    · subst hparen
      have hnone : closedText? (before ++ '(' :: behind) = none := by
        rw [Option.eq_none_iff_forall_ne_some]
        exact fun inside hinside => hearlier [] before rfl (closedOnLine_iff.mpr ⟨inside, hinside⟩)
      rw [List.cons_append, group?, hnone]
      exact hrest
    · rw [List.cons_append, group?]
      · exact hrest
      · exact hparen

theorem group?_eq_some_iff :
    group? text = some inside ↔
      (')' ∉ inside ∧ '\n' ∉ inside) ∧ ∃ after, LeftmostClosed text (inside ++ ')' :: after) := by
  constructor
  · intro h
    obtain ⟨behind, hleftmost, hinside⟩ := exists_leftmostClosed_of_group? h
    obtain ⟨hplain, after, rfl⟩ := closedText?_eq_some_iff.mp hinside
    exact ⟨hplain, after, hleftmost⟩
  · rintro ⟨hplain, after, hleftmost⟩
    rw [group?_of_leftmostClosed hleftmost]
    exact closedText?_eq_some_iff.mpr ⟨hplain, after, rfl⟩

theorem group?_eq_none_iff : group? text = none ↔ ∀ behind, ¬LeftmostClosed text behind := by
  constructor
  · intro h behind hleftmost
    obtain ⟨inside, hinside⟩ := closedOnLine_iff.mp hleftmost.1
    rw [group?_of_leftmostClosed hleftmost, hinside] at h
    cases h
  · intro h
    rw [Option.eq_none_iff_forall_ne_some]
    intro inside hinside
    obtain ⟨behind, hleftmost, -⟩ := exists_leftmostClosed_of_group? hinside
    exact h behind hleftmost

/-! ## Arguments -/

/-- Whether no opening parenthesis is closed on its line, or the leftmost one that is closes at
once. -/
def NoArgument (args : List Char) : Prop :=
  (∀ behind, ¬LeftmostClosed args behind) ∨ ∃ after, LeftmostClosed args (')' :: after)

theorem noArgument_iff {args : List Char} :
    NoArgument args ↔ group? args = none ∨ group? args = some [] := by
  rw [NoArgument, group?_eq_none_iff, group?_eq_some_iff]
  simp

variable {args : String} {function : Function}

theorem argument_eq_ok_iff :
    argument args function = .ok inside ↔ group? args.toList = some inside ∧ inside ≠ [] := by
  rw [argument]
  cases hgroup : group? args.toList with
  | none => simp
  | some found =>
    cases found with
    | nil => simp +contextual [eq_comm]
    | cons c rest => simp +contextual [eq_comm]

theorem argument_eq_error_iff {cause : EvalError} :
    argument args function = .error cause ↔
      NoArgument args.toList ∧ cause = .noArgument function := by
  rw [noArgument_iff, argument]
  cases hgroup : group? args.toList with
  | none => simp [eq_comm]
  | some inside =>
    cases inside with
    | nil => simp [eq_comm]
    | cons c rest => simp

/-! ## What follows the argument -/

theorem closedText?_append_congr (front after other : List Char) :
    closedText? (front ++ ')' :: after) = closedText? (front ++ ')' :: other) := by
  induction front with
  | nil => rfl
  | cons c front ih =>
    by_cases hparen : c = ')'
    · rw [hparen]
      rfl
    · by_cases hline : c = '\n'
      · rw [hline]
        rfl
      · rw [List.cons_append, List.cons_append, closedText?, closedText?, ih]
        · exact hparen
        · exact hline
        · exact hparen
        · exact hline

theorem closedOnLine_append_congr {front after other : List Char} :
    ClosedOnLine (front ++ ')' :: after) ↔ ClosedOnLine (front ++ ')' :: other) := by
  rw [closedOnLine_iff, closedOnLine_iff, closedText?_append_congr]

/-- The parenthesis that counts stays the same if the text behind a closing one is replaced. -/
theorem LeftmostClosed.replace {front after : List Char}
    (h : LeftmostClosed (front ++ ')' :: after) (inside ++ ')' :: after)) (other : List Char) :
    LeftmostClosed (front ++ ')' :: other) (inside ++ ')' :: other) := by
  obtain ⟨hclosed, before, htext, hearlier⟩ := h
  rw [← List.cons_append, ← List.append_assoc] at htext
  obtain rfl : front = before ++ '(' :: inside := List.append_cancel_right htext
  refine ⟨closedOnLine_append_congr.mp hclosed, before, by simp, fun earlier later hsplit => ?_⟩
  have hopen := hearlier earlier later hsplit
  rw [← List.cons_append, ← List.append_assoc] at hopen ⊢
  exact fun hother => hopen (closedOnLine_append_congr.mp hother)

theorem group?_replace {front after : List Char}
    (h : LeftmostClosed (front ++ ')' :: after) (inside ++ ')' :: after)) (other : List Char) :
    group? (front ++ ')' :: other) = group? (front ++ ')' :: after) := by
  rw [group?_of_leftmostClosed h, group?_of_leftmostClosed (h.replace other),
    closedText?_append_congr]

/-- There is only one leftmost parenthesis: a second one would pass over the first. -/
theorem LeftmostClosed.unique {behind other : List Char} (h : LeftmostClosed text behind)
    (hother : LeftmostClosed text other) : behind = other := by
  have hlater {front skipped behind other : List Char} (hclosed : ClosedOnLine behind)
      (hskipped : '(' :: behind = skipped ++ '(' :: other)
      (hearlier : ∀ earlier later, front ++ skipped = earlier ++ '(' :: later →
        ¬ClosedOnLine (later ++ '(' :: other)) : behind = other := by
    cases skipped with
    | nil => exact (List.cons.inj hskipped).2
    | cons c skipped =>
      obtain ⟨rfl, rfl⟩ := List.cons.inj hskipped
      exact absurd hclosed (hearlier front skipped rfl)
  obtain ⟨hclosed, before, rfl, hearlier⟩ := h
  obtain ⟨hotherClosed, otherBefore, htext, hotherEarlier⟩ := hother
  rcases List.append_eq_append_iff.mp htext with
    ⟨skipped, rfl, hskipped⟩ | ⟨skipped, rfl, hskipped⟩
  · exact hlater hclosed hskipped hotherEarlier
  · exact (hlater hotherClosed hskipped hearlier).symm

/-- A text function gives the same result on arguments with the same group. -/
theorem Function.call_eq_of_group?_eq {args other : String} {function : Function}
    (hfunction : function = .trim ∨ function = .upper ∨ function = .lower)
    (h : group? other.toList = group? args.toList) (cells otherCells : Snapshot) :
    function.call other otherCells = function.call args cells := by
  have hargument (function : Function) : argument other function = argument args function := by
    rw [argument, argument, h]
  rcases hfunction with rfl | rfl | rfl <;> rw [Function.call, Function.call, hargument]

/-- A text function takes the text behind the leftmost opening parenthesis that is closed on its
line, up to the first closing one. It fails if there is no such parenthesis or nothing is between
the two; no other parenthesis is tried. So an argument is never empty and holds neither a closing
parenthesis nor the end of a line, and what follows its closing parenthesis makes no difference. -/
theorem argument_exact (args : String) :
    (∀ function inside, argument args function = .ok inside ↔
      inside ≠ [] ∧ (')' ∉ inside ∧ '\n' ∉ inside) ∧
        ∃ after, LeftmostClosed args.toList (inside ++ ')' :: after)) ∧
    (∀ function cause, argument args function = .error cause ↔
      ((∀ behind, ¬LeftmostClosed args.toList behind) ∨
        ∃ after, LeftmostClosed args.toList (')' :: after)) ∧ cause = .noArgument function) ∧
    (∀ behind other, LeftmostClosed args.toList behind → LeftmostClosed args.toList other →
      behind = other) ∧
    ∀ front inside after other, args.toList = front ++ ')' :: after →
      LeftmostClosed args.toList (inside ++ ')' :: after) →
      ∀ function cells otherCells, function = .trim ∨ function = .upper ∨ function = .lower →
        Function.call function (String.ofList (front ++ ')' :: other)) otherCells =
          function.call args cells := by
  refine ⟨fun function inside => ?_, fun function cause => argument_eq_error_iff,
    fun behind other => LeftmostClosed.unique, ?_⟩
  · rw [argument_eq_ok_iff, group?_eq_some_iff]
    exact and_comm
  · intro front inside after other hargs hleftmost function cells otherCells hfunction
    refine Function.call_eq_of_group?_eq hfunction ?_ cells otherCells
    rw [hargs] at hleftmost
    rw [String.toList_ofList, hargs, group?_replace hleftmost]

/-- A parenthesis that is not closed on its line is passed over, one inside the argument belongs to
it, and an empty pair ends the search. -/
theorem argument_exact_passedOver :
    (argument "(\n((a)b" .trim = .ok ['(', 'a'] ∧
      ∀ cells otherCells, Function.call .upper "(\n((a) (c)" otherCells =
        Function.call .upper "(\n((a)b" cells) ∧
    argument "()(a)" .trim = .error (.noArgument .trim) := by
  have hleftmost : LeftmostClosed "(\n((a)b".toList (['(', 'a'] ++ ')' :: ['b']) := by
    refine ⟨⟨['(', 'a'], ['b'], rfl, by decide⟩, ['(', '\n'], rfl, fun earlier later hsplit => ?_⟩
    cases earlier with
    | nil =>
      cases hsplit
      rw [closedOnLine_iff]
      rintro ⟨_, hclosed⟩
      cases hclosed
    | cons c earlier =>
      cases earlier with
      | nil => cases hsplit
      | cons d earlier => cases earlier <;> cases hsplit
  have hempty : LeftmostClosed "()(a)".toList (')' :: ['(', 'a', ')']) :=
    ⟨⟨[], _, rfl, List.not_mem_nil⟩, [], rfl, fun earlier later hsplit => by
      cases earlier <;> cases hsplit⟩
  obtain ⟨hok, -, -, hreplace⟩ := argument_exact "(\n((a)b"
  obtain ⟨-, herror, -⟩ := argument_exact "()(a)"
  refine ⟨⟨(hok _ _).mpr ⟨by decide, by decide, _, hleftmost⟩, fun cells otherCells => ?_⟩,
    (herror _ _).mpr ⟨Or.inr ⟨_, hempty⟩, rfl⟩⟩
  exact hreplace ['(', '\n', '(', '(', 'a'] ['(', 'a'] ['b'] [' ', '(', 'c', ')'] rfl hleftmost
    _ _ _ (by simp)

end Worksheet.Formula
