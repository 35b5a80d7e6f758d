import Worksheet.Proofs.Formula.Machine

/-!
# Calls that return

A reading with a stack does what the readers do. A call comes back to the stack and to the nesting
depth that it has begun with, and answers what the reader of its level returns.

* `Above` says that a reading goes on above a stack, and `Completes` that it completes a call in
  this way.
* `Follows` says that the calls of a level follow a reader, and `Enters` the same for calls one
  nesting level further in. One lemma for each level carries them to `follows_ofLevel`.
* `exists_reaches_ofTokens` says that a reading ends as the reading of an expression does, and
  `exists_above_of_call` that each of its calls comes back.
-/

namespace Worksheet.Formula

open Reader (chainFrom goOn_join inner ofLevel ofLevel_of_tighter operandLevel signedWithin
  signedWithin_eq sound_ofLevel)

/-! ## Calls and what they return -/

/-- A reading goes on to another one, and has more than these frames on its stack until it comes
there. -/
def Above (stack : List Frame) : Reading → Reading → Prop :=
  Relation.ReflTransGen fun r r' => stack.length < r.stack.length ∧ r.step = r'

/-- A reading answers what a reader returns. -/
inductive Answers (stack : List Frame) (depth : Nat) :
    Except ParseError (Expr × List Token) → Reading → Prop where
  | ok (tree : Expr) (rest : List Token) :
      Answers stack depth (.ok (tree, rest)) ⟨.answer (.ok tree), stack, rest, depth⟩
  | error (cause : ParseError) (rest : List Token) :
      Answers stack depth (.error cause) ⟨.answer (.error cause), stack, rest, depth⟩

/-- A reading goes on above a stack, and comes back to it with the answer. -/
def Completes (stack : List Frame) (depth : Nat) (outcome : Except ParseError (Expr × List Token))
    (r : Reading) : Prop :=
  ∃ answered, Above stack r answered ∧ Answers stack depth outcome answered

/-- The calls of a level follow a reader. -/
def Follows (level : Level) (depth : Nat) (reader : Reader) : Prop :=
  ∀ stack tokens,
    Completes stack depth (reader tokens) (Reading.begin ⟨.call level, stack, tokens, depth⟩ level)

/-- The calls of a level follow a reader one nesting level further in. -/
def Enters (level : Level) (depth : Nat) (reader : Reader) : Prop :=
  ∀ control frame stack tokens,
    Completes (frame :: stack) depth (reader tokens)
      (Reading.enter ⟨control, stack, tokens, depth⟩ frame level)

section

variable {level own : Level} {stack : List Frame} {frame : Frame} {depth room : Nat}
  {tokens : List Token} {reader : Reader} {outcome : Except ParseError (Expr × List Token)}
  {r : Reading}

theorem Above.reaches {r' : Reading} (h : Above stack r r') : r.Reaches r' :=
  Relation.ReflTransGen.mono (fun _ _ hstep => hstep.2) _ _ h

theorem Above.tail {r' : Reading} (h : Above (frame :: stack) r r') : Above stack r r' :=
  Relation.ReflTransGen.mono (fun _ _ hstep => ⟨Nat.lt_of_succ_lt hstep.1, hstep.2⟩) _ _ h

theorem Completes.ok (tree : Expr) (rest : List Token) :
    Completes stack depth (.ok (tree, rest)) ⟨.answer (.ok tree), stack, rest, depth⟩ :=
  ⟨_, .refl, .ok tree rest⟩

theorem Completes.error (cause : ParseError) (rest : List Token) :
    Completes stack depth (.error cause) ⟨.answer (.error cause), stack, rest, depth⟩ :=
  ⟨_, .refl, .error cause rest⟩

theorem Completes.of_step (h : Completes stack depth outcome r.step)
    (hstack : stack.length < r.stack.length) : Completes stack depth outcome r := by
  obtain ⟨answered, habove, hanswers⟩ := h
  exact ⟨answered, .head ⟨hstack, rfl⟩ habove, hanswers⟩

theorem Completes.trans {r' : Reading} (habove : Above stack r r')
    (h : Completes stack depth outcome r') : Completes stack depth outcome r := by
  obtain ⟨answered, hrest, hanswers⟩ := h
  exact ⟨answered, habove.trans hrest, hanswers⟩

/-- The frame on top is taken off the stack with the answer to it. -/
theorem Completes.pop {inside : Nat} {outcome' : Except ParseError (Expr × List Token)}
    (h : Completes (frame :: stack) inside outcome r)
    (hanswer : ∀ answered, Answers (frame :: stack) inside outcome answered →
      Completes stack depth outcome' answered.step) : Completes stack depth outcome' r := by
  obtain ⟨answered, habove, hanswers⟩ := h
  refine .trans habove.tail (.of_step (hanswer answered hanswers) ?_)
  cases hanswers <;> exact Nat.lt_succ_self _

/-- A call goes on with the answer that it has waited for. -/
theorem Completes.bind (h : Completes (frame :: stack) depth outcome r)
    (hframe : frame.level? = some own)
    {goOn : Expr × List Token → Except ParseError (Expr × List Token)}
    (hresume : ∀ tree rest, outcome = .ok (tree, rest) →
      Completes stack depth (goOn (tree, rest))
        (Reading.resume ⟨.answer (.ok tree), stack, rest, depth⟩ frame tree)) :
    Completes stack depth (outcome >>= goOn) r := by
  refine h.pop fun answered hanswers => ?_
  cases hanswers with
  | ok tree rest =>
    rw [Reading.step_ok hframe]
    exact hresume tree rest rfl
  | error cause rest =>
    rw [Reading.step_error hframe]
    exact .error cause rest

/-- A nesting level that is left gives the answer on. -/
theorem Completes.leave (h : Completes (.nested :: stack) (depth + 1) outcome r) :
    Completes stack depth outcome r := by
  refine h.pop fun answered hanswers => ?_
  cases hanswers with
  | ok tree rest => exact .ok tree rest
  | error cause rest => exact .error cause rest

/-- A call waits in a frame for the answer of another one, and goes on with it. -/
theorem Follows.bind (h : Follows level depth reader) (frame : Frame)
    (hframe : frame.level? = some own)
    {goOn : Expr × List Token → Except ParseError (Expr × List Token)}
    (hresume : ∀ tree rest, reader tokens = .ok (tree, rest) →
      Completes stack depth (goOn (tree, rest))
        (Reading.resume ⟨.answer (.ok tree), stack, rest, depth⟩ frame tree)) :
    Completes stack depth (reader tokens >>= goOn) ⟨.call level, frame :: stack, tokens, depth⟩ :=
  .of_step (.bind (h _ _) hframe hresume) (Nat.lt_succ_self _)

/-! ## One level at a time -/

theorem enters_tooDeep (hdepth : deepestNesting ≤ depth) :
    Enters level depth fun _ => .error .tooDeep := by
  intro control frame stack tokens
  rw [Reading.enter, if_pos hdepth]
  exact .error _ _

theorem Follows.enters (h : Follows level (depth + 1) reader) (hdepth : depth < deepestNesting) :
    Enters level depth reader := by
  intro control frame stack tokens
  rw [Reading.enter, if_neg (Nat.not_le.mpr hdepth)]
  exact .of_step (h _ _).leave (Nat.lt_succ_self _)

theorem goOn_of_leading?_eq_none (hleading : leading? level.operator? tokens = none) (room : Nat)
    (left : Expr) : Reader.goOn level room left tokens = .ok (left, tokens) := by
  unfold Reader.goOn
  cases tokens with
  | nil => rfl
  | cons token rest => rw [List.length_cons, chainFrom, hleading]

theorem Follows.goOn (h : Follows (operandLevel level) depth (ofLevel (operandLevel level) room))
    (control : Control) (left : Expr) (tokens : List Token) :
    Completes stack depth (Reader.goOn level room left tokens)
      (Reading.goOn ⟨control, stack, tokens, depth⟩ level left) := by
  induction hlength : tokens.length using Nat.strong_induction_on
    generalizing control left tokens with
  | _ length ih =>
    subst hlength
    cases hleading : leading? level.operator? tokens with
    | none =>
      rw [goOn_of_leading?_eq_none hleading]
      simp only [Reading.goOn, hleading]
      exact .ok left tokens
    | some found =>
      obtain ⟨op, afterOp⟩ := found
      simp only [Reading.goOn, hleading]
      obtain ⟨s, rfl, hs⟩ := Reader.leading?_eq_some_iff.mp hleading
      rw [goOn_join (operator?_eq_some_iff.mp hs)]
      -- The operand takes tokens off the front, so fewer of them are left to go on with.
      refine h.bind (.next level op left) rfl fun right rest hright => ?_
      have hrest := (sound_ofLevel _ _).length_le hright
      exact ih _ (Nat.lt_succ_of_le hrest) _ _ _ rfl

theorem Follows.chain {next : Level} (h : Follows next depth (ofLevel next room))
    (hlevel : level.tighter? = some next) (hnext : next = operandLevel level) :
    Follows level depth (ofLevel level room) := by
  intro stack tokens
  rw [ofLevel_of_tighter hlevel hnext]
  subst hnext
  cases level with
  | comparison | additive | multiplicative =>
    exact h.bind (.first _) rfl fun left rest _ => h.goOn _ left rest
  | signed | power | primary => cases hlevel

/-- Parentheses are closed behind what they enclose. -/
theorem completes_close (inside : Expr) (rest : List Token) :
    Completes stack depth
      (match rest with
      | .symbol .rightParen :: rest => .ok (inside, rest)
      | _ => .error (.unclosed rest.head?))
      (Reading.resume ⟨.answer (.ok inside), stack, rest, depth⟩ .parens inside) := by
  cases rest with
  | nil => exact .error _ _
  | cons token rest =>
    cases token with
    | symbol s =>
      cases s with
      | rightParen => exact .ok _ _
      | _ => exact .error _ _
    | number | name | stray => exact .error _ _

theorem Enters.primary {inner : Reader} (h : Enters .comparison depth (Reader.expression inner)) :
    Follows .primary depth (Reader.primary inner) := by
  intro stack tokens
  cases tokens with
  | nil => exact .error _ _
  | cons token rest =>
    cases token with
    | number value => exact .ok _ _
    | name text =>
      simp only [Reader.primary, Reading.begin]
      cases constant? text with
      | none => exact .error _ _
      | some constant => exact .ok _ _
    | stray c => exact .error _ _
    | symbol s =>
      cases s with
      | leftParen =>
        exact (h _ .parens stack rest).bind rfl fun inside rest _ => completes_close inside rest
      | _ => exact .error _ _

theorem Enters.power {inner : Reader} (h : Enters .signed depth inner)
    (hprimary : Follows .primary depth (Reader.primary inner)) :
    Follows .power depth (Reader.power inner) := by
  intro stack tokens
  refine hprimary.bind (.first .power) rfl fun base rest _ => ?_
  cases rest with
  | nil => exact .ok _ _
  | cons token rest =>
    cases token with
    | symbol s =>
      cases s with
      | caret => exact (h _ (.exponent base) stack rest).bind rfl fun exponent rest _ => .ok _ _
      | _ => exact .ok _ _
    | number | name | stray => exact .ok _ _

theorem Enters.signed {inner : Reader} (h : Enters .signed depth inner)
    (hpower : Follows .power depth (Reader.power inner)) :
    Follows .signed depth (Reader.signed inner) := by
  intro stack tokens
  simp only [Reader.signed, Reading.begin]
  cases leading? sign? tokens with
  | some found =>
    obtain ⟨op, rest⟩ := found
    exact (h _ (.sign op) stack rest).bind rfl fun operand rest _ => .ok _ _
  | none =>
    change Completes stack depth (Reader.power inner tokens) _
    rw [← bind_pure (Reader.power inner tokens)]
    exact hpower.bind (.first .signed) rfl fun operand rest _ => .ok operand rest

/-- The levels of the grammar, from tight to loose. -/
theorem follows_of_enters (hsigned : Enters .signed depth (inner room))
    (hcomparison : Enters .comparison depth (Reader.expression (inner room))) (level : Level) :
    Follows level depth (ofLevel level room) := by
  have hprimary : Follows .primary depth (ofLevel .primary room) := hcomparison.primary
  have hpower : Follows .power depth (ofLevel .power room) := hsigned.power hprimary
  have hsign : Follows .signed depth (ofLevel .signed room) := by
    rw [ofLevel, signedWithin_eq]
    exact hsigned.signed hpower
  have hmultiplicative := @Follows.chain .multiplicative _ _ _ hsign rfl rfl
  have hadditive := @Follows.chain .additive _ _ _ hmultiplicative rfl rfl
  cases level with
  | comparison => exact hadditive.chain rfl rfl
  | additive => exact hadditive
  | multiplicative => exact hmultiplicative
  | signed => exact hsign
  | power => exact hpower
  | primary => exact hprimary

/-- The calls of a level follow the reader that has room for the nesting levels that are left. -/
theorem follows_ofLevel (hroom : depth + room = deepestNesting) (level : Level) :
    Follows level depth (ofLevel level room) := by
  induction room generalizing depth level with
  | zero =>
    have hdepth : deepestNesting ≤ depth := by omega
    exact follows_of_enters (enters_tooDeep hdepth) (enters_tooDeep hdepth) level
  | succ room ih =>
    have hdepth : depth < deepestNesting := by omega
    have hinside : ∀ level, Follows level (depth + 1) (ofLevel level room) := ih (by omega)
    exact follows_of_enters ((hinside .signed).enters hdepth)
      ((hinside .comparison).enters hdepth) level

/-- A phrase has at least one token. -/
theorem Derives.length_pos {phrase : List Token} {tree : Expr} {nesting : Nat}
    (h : Derives level phrase tree nesting) : 0 < phrase.length := by
  induction h with
  | tighter _ _ ih => exact ih
  | join => simp
  | sign => simp
  | power => simp
  | number | constant => exact Nat.one_pos
  | parens => simp

/-! ## Whole readings -/

/-- A reading ends with the tree that makes up all the tokens, or with the cause for which there is
none. -/
theorem exists_reaches_ofTokens (tokens : List Token) :
    ∃ result rest, (Reading.start tokens).Reaches ⟨.answer result, [], rest, 0⟩ ∧
      Expr.ofTokens tokens = (do
        let tree ← result
        match rest with
        | [] => .ok tree
        | met :: _ => .error (.trailing met)) := by
  obtain ⟨answered, habove, hanswers⟩ :=
    follows_ofLevel (Nat.zero_add deepestNesting) .comparison [] tokens
  have hreaches : (Reading.start tokens).Reaches answered := .head rfl habove.reaches
  change Answers [] 0 (Reader.expression (signedWithin deepestNesting) tokens) answered at hanswers
  rw [Expr.ofTokens]
  generalize Reader.expression (signedWithin deepestNesting) tokens = outcome at hanswers ⊢
  cases hanswers with
  | ok tree rest => exact ⟨_, rest, hreaches, rfl⟩
  | error cause rest => exact ⟨_, rest, hreaches, rfl⟩

/-- A call comes back to its stack and its depth, with what the reader of its level reads. It has
taken tokens off the front, and at least one if it has read a tree. -/
theorem exists_above_of_call (hcall : r.control = .call level)
    (hdepth : r.depth ≤ deepestNesting) :
    ∃ result rest, Above r.stack r.step ⟨.answer result, r.stack, rest, r.depth⟩ ∧
      result = (ofLevel level (deepestNesting - r.depth) r.tokens).map Prod.fst ∧
      rest <:+ r.tokens ∧ ∀ tree, result = .ok tree → rest.length < r.tokens.length := by
  obtain ⟨control, stack, tokens, depth⟩ := r
  cases hcall
  obtain ⟨answered, habove, hanswers⟩ :=
    follows_ofLevel (Nat.add_sub_of_le hdepth) level stack tokens
  have hreaches : Reading.Reaches ⟨.call level, stack, tokens, depth⟩ answered :=
    .head rfl habove.reaches
  have hsuffix := hreaches.suffix
  dsimp only
  cases houtcome : ofLevel level (deepestNesting - depth) tokens with
  | error cause =>
    rw [houtcome] at hanswers
    cases hanswers
    exact ⟨_, _, habove, rfl, hsuffix, fun tree htree => by cases htree⟩
  | ok found =>
    obtain ⟨tree, rest⟩ := found
    rw [houtcome] at hanswers
    cases hanswers
    refine ⟨_, _, habove, rfl, hsuffix, fun _ _ => ?_⟩
    obtain ⟨phrase, nesting, happend, -, hderives⟩ := sound_ofLevel _ _ _ _ _ houtcome
    have hpos := hderives.length_pos
    rw [happend, List.length_append]
    omega

end

end Worksheet.Formula
