import Worksheet.Proofs.Formula.Reader

/-!
# Reading with a stack

The readers call each other. Here the calls that wait for an answer stand on a stack, and a counter
tells how deep the nesting is. Reading goes on in single steps: the reader of a level is called, or
an answer is given to the call on top of the stack.

* `Frame` is a call that waits, `Reading` a reading under way, and `Reading.step` its next step.
* `Turns` lists what a call can do when it is its turn, and `Moves` what a step can do.
  `moves_step` says that a step does nothing else.
* No step gives a token back (`Reaches.suffix`).
* `Kept` says that the counter is the number of nesting levels that are entered and not left, that
  it is within the limit, and that there are at most seven calls for each of them. A step preserves
  it (`Moves.kept`), and so does a whole reading (`Reaches.kept`).
-/

namespace Worksheet.Formula

open Reader (operandLevel)

/-! ## Steps -/

/-- A call that waits for the answer of another one. -/
inductive Frame where
  /-- A phrase of a level waits for its first operand. -/
  | first (level : Level)
  /-- A phrase of a level waits for the operand behind an operator. -/
  | next (level : Level) (op : BinaryOp) (left : Expr)
  /-- A signed phrase waits for the operand of its sign. -/
  | sign (op : UnaryOp)
  /-- A power waits for its exponent. -/
  | exponent (base : Expr)
  /-- A primary phrase waits for what its parentheses enclose. -/
  | parens
  /-- A nesting level has been entered. -/
  | nested

/-- What comes next: the call of the reader of a level, or the answer to the call on top of the
stack. -/
inductive Control where
  | call (level : Level)
  | answer (result : Except ParseError Expr)

/-- A reading under way: what comes next, the calls that wait, the tokens that are left, and the
counter of nesting levels. -/
structure Reading where
  control : Control
  stack : List Frame
  tokens : List Token
  depth : Nat

namespace Reading

/-- A reading that has not begun. -/
def start (tokens : List Token) : Reading :=
  ⟨.call .comparison, [], tokens, 0⟩

/-- Gives an answer to the call on top of the stack. -/
def answer (r : Reading) (result : Except ParseError Expr) : Reading :=
  { r with control := .answer result }

/-- Waits for the answer of the reader of a level. -/
def call (r : Reading) (frame : Frame) (level : Level) : Reading :=
  { r with control := .call level, stack := frame :: r.stack }

/-- Waits for the answer of the reader of a level one nesting level further in. There is no nesting
level beyond the limit. -/
def enter (r : Reading) (frame : Frame) (level : Level) : Reading :=
  if deepestNesting ≤ r.depth then
    { r with control := .answer (.error .tooDeep), stack := frame :: r.stack }
  else
    { r with
      control := .call level
      stack := .nested :: frame :: r.stack
      depth := r.depth + 1 }

/-- Leaves a nesting level. -/
def leave (r : Reading) (result : Except ParseError Expr) : Reading :=
  { r with control := .answer result, depth := r.depth - 1 }

/-- Goes on from a left operand, if an operator of the level follows it. -/
def goOn (r : Reading) (level : Level) (left : Expr) : Reading :=
  match leading? level.operator? r.tokens with
  | some (op, rest) => { r with tokens := rest }.call (.next level op left) (operandLevel level)
  | none => r.answer (.ok left)

/-- The first step of the reader of a level. -/
def begin (r : Reading) : Level → Reading
  | .comparison => r.call (.first .comparison) .additive
  | .additive => r.call (.first .additive) .multiplicative
  | .multiplicative => r.call (.first .multiplicative) .signed
  | .signed =>
    match leading? sign? r.tokens with
    | some (op, rest) => { r with tokens := rest }.enter (.sign op) .signed
    | none => r.call (.first .signed) .power
  | .power => r.call (.first .power) .primary
  | .primary =>
    match r.tokens with
    | .number value :: rest => { r with tokens := rest }.answer (.ok (.number value))
    | .name text :: rest =>
      match constant? text with
      | some constant => { r with tokens := rest }.answer (.ok constant)
      | none => { r with tokens := rest }.answer (.error (.unknownName text))
    | .symbol .leftParen :: rest => { r with tokens := rest }.enter .parens .comparison
    | tokens => { r with tokens := tokens.tail }.answer (.error (.unexpected tokens.head?))

/-- What a call does with the tree that it has waited for. -/
def resume (r : Reading) : Frame → Expr → Reading
  | .first .power, base =>
    match r.tokens with
    | .symbol .caret :: rest => { r with tokens := rest }.enter (.exponent base) .signed
    | _ => r.answer (.ok base)
  | .first .signed, operand => r.answer (.ok operand)
  | .first level, left => r.goOn level left
  | .next level op left, right => r.goOn level (.binary op left right)
  | .sign op, operand => r.answer (.ok (.unary op operand))
  | .exponent base, exponent => r.answer (.ok (.binary .power base exponent))
  | .parens, inside =>
    match r.tokens with
    | .symbol .rightParen :: rest => { r with tokens := rest }.answer (.ok inside)
    | tokens => r.answer (.error (.unclosed tokens.head?))
  | .nested, inside => r.leave (.ok inside)

/-- The next step of a reading. An answer that no call waits for is the end of it. -/
def step (r : Reading) : Reading :=
  match r.control, r.stack with
  | .call level, _ => r.begin level
  | .answer _, [] => r
  | .answer result, .nested :: stack => { r with stack }.leave result
  | .answer (.error cause), _ :: stack => { r with stack }.answer (.error cause)
  | .answer (.ok tree), frame :: stack => { r with stack }.resume frame tree

/-- A reading comes to another one. -/
def Reaches : Reading → Reading → Prop :=
  Relation.ReflTransGen fun r r' => r.step = r'

end Reading

/-! ## What a step can do -/

/-- The level of the call in a frame. A nesting level has none. -/
def Frame.level? : Frame → Option Level
  | first level => some level
  | next level _ _ => some level
  | sign _ => some .signed
  | exponent _ => some .power
  | parens => some .primary
  | nested => none

namespace Reading

variable {frame : Frame} {level : Level} {stack : List Frame} {tokens : List Token} {depth : Nat}

theorem step_error (hframe : frame.level? = some level) (cause : ParseError) :
    step ⟨.answer (.error cause), frame :: stack, tokens, depth⟩ =
      ⟨.answer (.error cause), stack, tokens, depth⟩ := by
  cases frame with
  | nested => cases hframe
  | first | next | sign | exponent | parens => rfl

theorem step_ok (hframe : frame.level? = some level) (tree : Expr) :
    step ⟨.answer (.ok tree), frame :: stack, tokens, depth⟩ =
      resume ⟨.answer (.ok tree), stack, tokens, depth⟩ frame tree := by
  cases frame with
  | nested => cases hframe
  | first | next | sign | exponent | parens => rfl

end Reading

/-- What a call of a level does when it is its turn: it gives an answer, or waits for the answer of
another call. It has taken some tokens, or none. -/
inductive Turns (level : Level) (stack : List Frame) (tokens : List Token) (depth : Nat) :
    Reading → Prop where
  | answer {rest : List Token} (result : Except ParseError Expr) (hrest : rest <:+ tokens) :
      Turns level stack tokens depth ⟨.answer result, stack, rest, depth⟩
  | call {frame : Frame} {next : Level} {rest : List Token} (hframe : frame.level? = some level)
      (hnext : next.rank = level.rank + 1) (hrest : rest <:+ tokens) :
      Turns level stack tokens depth ⟨.call next, frame :: stack, rest, depth⟩
  | enter {frame : Frame} {rest : List Token} (inside : Level) (hframe : frame.level? = some level)
      (hdepth : depth < deepestNesting) (hrest : rest <:+ tokens) :
      Turns level stack tokens depth ⟨.call inside, .nested :: frame :: stack, rest, depth + 1⟩
  | refuse {frame : Frame} {rest : List Token} (hframe : frame.level? = some level)
      (hrest : rest <:+ tokens) :
      Turns level stack tokens depth ⟨.answer (.error .tooDeep), frame :: stack, rest, depth⟩

/-- What a step can do. -/
inductive Moves : Reading → Reading → Prop where
  | begin {level : Level} {stack : List Frame} {tokens : List Token} {depth : Nat} {r' : Reading}
      (hturn : Turns level stack tokens depth r') : Moves ⟨.call level, stack, tokens, depth⟩ r'
  | resume {result : Except ParseError Expr} {frame : Frame} {level : Level} {stack : List Frame}
      {tokens : List Token} {depth : Nat} {r' : Reading} (hframe : frame.level? = some level)
      (hturn : Turns level stack tokens depth r') :
      Moves ⟨.answer result, frame :: stack, tokens, depth⟩ r'
  | leave {result : Except ParseError Expr} {stack : List Frame} {tokens : List Token}
      {depth : Nat} :
      Moves ⟨.answer result, .nested :: stack, tokens, depth⟩
        ⟨.answer result, stack, tokens, depth - 1⟩
  | done {result : Except ParseError Expr} {tokens : List Token} {depth : Nat} :
      Moves ⟨.answer result, [], tokens, depth⟩ ⟨.answer result, [], tokens, depth⟩

section

variable {level : Level} {stack : List Frame} {tokens rest : List Token} {depth : Nat}

theorem suffix_of_leading? {α : Type} {meaning? : Symbol → Option α} {meaning : α}
    (h : leading? meaning? tokens = some (meaning, rest)) : rest <:+ tokens := by
  obtain ⟨s, rfl, -⟩ := Reader.leading?_eq_some_iff.mp h
  exact List.suffix_cons _ _

theorem turns_enter {frame : Frame} (control : Control) (inside : Level)
    (hframe : frame.level? = some level) (hrest : rest <:+ tokens) :
    Turns level stack tokens depth
      ((⟨control, stack, rest, depth⟩ : Reading).enter frame inside) := by
  unfold Reading.enter
  split
  · exact .refuse hframe hrest
  · next hdepth => exact .enter inside hframe (Nat.not_le.mp hdepth) hrest

theorem turns_goOn (control : Control) (left : Expr) :
    Turns level stack tokens depth
      ((⟨control, stack, tokens, depth⟩ : Reading).goOn level left) := by
  unfold Reading.goOn
  split
  · next op rest hleading =>
    obtain ⟨s, -, hop⟩ := Reader.leading?_eq_some_iff.mp hleading
    have hnext : (operandLevel level).rank = level.rank + 1 := by
      cases operator?_eq_some_iff.mp hop <;> rfl
    exact .call rfl hnext (suffix_of_leading? hleading)
  · exact .answer _ List.suffix_rfl

theorem turns_begin (control : Control) :
    Turns level stack tokens depth
      ((⟨control, stack, tokens, depth⟩ : Reading).begin level) := by
  cases level with
  | comparison | additive | multiplicative | power => exact .call rfl rfl List.suffix_rfl
  | signed =>
    rw [Reading.begin]
    split
    · next hop => exact turns_enter _ _ rfl (suffix_of_leading? hop)
    · exact .call rfl rfl List.suffix_rfl
  | primary =>
    dsimp only [Reading.begin]
    split
    · exact .answer _ (List.suffix_cons _ _)
    · split <;> exact .answer _ (List.suffix_cons _ _)
    · exact turns_enter _ _ rfl (List.suffix_cons _ _)
    · exact .answer _ (List.tail_suffix _)

theorem turns_resume {frame : Frame} (control : Control) (tree : Expr)
    (hframe : frame.level? = some level) :
    Turns level stack tokens depth
      ((⟨control, stack, tokens, depth⟩ : Reading).resume frame tree) := by
  cases frame with
  | first own =>
    cases hframe
    cases level with
    | power =>
      dsimp only [Reading.resume]
      split
      · exact turns_enter _ _ rfl (List.suffix_cons _ _)
      · exact .answer _ List.suffix_rfl
    | signed => exact .answer _ List.suffix_rfl
    | comparison | additive | multiplicative | primary => exact turns_goOn _ _
  | next own op left =>
    cases hframe
    exact turns_goOn _ _
  | sign op => exact .answer _ List.suffix_rfl
  | exponent base => exact .answer _ List.suffix_rfl
  | parens =>
    dsimp only [Reading.resume]
    split
    · exact .answer _ (List.suffix_cons _ _)
    · exact .answer _ List.suffix_rfl
  | nested => cases hframe

/-- A step does nothing else. -/
theorem moves_step (r : Reading) : Moves r r.step := by
  obtain ⟨control, stack, tokens, depth⟩ := r
  cases control with
  | call level => exact .begin (turns_begin _)
  | answer result =>
    cases stack with
    | nil => exact .done
    | cons frame stack =>
      cases hframe : frame.level? with
      | none =>
        cases frame <;> cases hframe
        exact .leave
      | some level =>
        refine .resume hframe ?_
        cases result with
        | error cause =>
          rw [Reading.step_error hframe]
          exact .answer _ List.suffix_rfl
        | ok tree =>
          rw [Reading.step_ok hframe]
          exact turns_resume _ tree hframe

theorem Turns.suffix {r : Reading} (h : Turns level stack tokens depth r) :
    r.tokens <:+ tokens := by
  cases h with
  | answer _ hrest => exact hrest
  | call _ _ hrest => exact hrest
  | enter _ _ _ hrest => exact hrest
  | refuse _ hrest => exact hrest

/-- A step takes tokens off the front, or none. -/
theorem Moves.suffix {r r' : Reading} (h : Moves r r') : r'.tokens <:+ r.tokens := by
  cases h with
  | begin hturn => exact hturn.suffix
  | resume _ hturn => exact hturn.suffix
  | leave => exact List.suffix_rfl
  | done => exact List.suffix_rfl

theorem Reading.Reaches.suffix {r r' : Reading} (h : r.Reaches r') : r'.tokens <:+ r.tokens := by
  induction h with
  | refl => exact List.suffix_rfl
  | @tail middle _ _ hstep ih =>
    subst hstep
    exact (moves_step middle).suffix.trans ih

end

/-! ## What a step preserves -/

/-- The nesting levels that are entered and not left. -/
def nestedCalls : List Frame → Nat
  | [] => 0
  | .nested :: stack => nestedCalls stack + 1
  | _ :: stack => nestedCalls stack

/-- There is place for a call of a rank on a stack: the calls within one nesting level are of
different ranks, the smaller ones further down, and there are seven ranks with the nesting
level. -/
def HasPlace (stack : List Frame) (rank : Nat) : Prop :=
  stack.length ≤ 7 * nestedCalls stack + rank

/-- How tightly the call in a frame binds. A nesting level comes behind the levels of the
grammar. -/
def Frame.rank (frame : Frame) : Nat :=
  match frame.level? with
  | some level => level.rank
  | none => 6

/-- Each call on a stack has found its place. -/
inductive Placed : List Frame → Prop where
  | nil : Placed []
  | cons {frame : Frame} {stack : List Frame} (hplace : HasPlace stack frame.rank)
      (hstack : Placed stack) : Placed (frame :: stack)

/-- A stack goes with the counter of nesting levels. -/
structure Balanced (stack : List Frame) (depth : Nat) : Prop where
  depth_eq : depth = nestedCalls stack
  depth_le : depth ≤ deepestNesting
  placed : Placed stack

/-- What each step of a reading preserves. -/
structure Kept (r : Reading) : Prop where
  balanced : Balanced r.stack r.depth
  hasPlace : ∀ level, r.control = .call level → HasPlace r.stack level.rank

theorem Level.rank_le (level : Level) : level.rank ≤ 5 := by
  cases level <;> decide

section

variable {level : Level} {stack : List Frame} {tokens : List Token} {depth : Nat} {frame : Frame}

theorem nestedCalls_cons (hframe : frame.level? = some level) (stack : List Frame) :
    nestedCalls (frame :: stack) = nestedCalls stack := by
  cases frame with
  | nested => cases hframe
  | first | next | sign | exponent | parens => rfl

theorem Frame.rank_eq (hframe : frame.level? = some level) : frame.rank = level.rank := by
  rw [rank, hframe]

theorem HasPlace.cons (h : HasPlace stack level.rank) (hframe : frame.level? = some level) :
    HasPlace (frame :: stack) (level.rank + 1) := by
  unfold HasPlace at h ⊢
  rw [List.length_cons, nestedCalls_cons hframe]
  omega

theorem HasPlace.mono {rank rank' : Nat} (h : HasPlace stack rank) (hrank : rank ≤ rank') :
    HasPlace stack rank' :=
  h.trans (Nat.add_le_add_left hrank _)

/-- A nesting level has place for every call. -/
theorem HasPlace.nested (h : HasPlace stack 6) (rank : Nat) :
    HasPlace (.nested :: stack) rank := by
  unfold HasPlace at h ⊢
  rw [List.length_cons, nestedCalls]
  omega

/-- There are at most seven calls for each nesting level, and six around all of them. -/
theorem Placed.length_le (h : Placed stack) : stack.length ≤ 7 * nestedCalls stack + 6 := by
  cases h with
  | nil => exact Nat.zero_le _
  | @cons frame stack hplace =>
    cases hframe : frame.level? with
    | none =>
      cases frame <;> cases hframe
      exact HasPlace.nested hplace 6
    | some level =>
      rw [Frame.rank_eq hframe] at hplace
      exact (hplace.cons hframe).mono (Nat.succ_le_succ level.rank_le)

theorem Balanced.cons (h : Balanced stack depth) (hplace : HasPlace stack level.rank)
    (hframe : frame.level? = some level) : Balanced (frame :: stack) depth := by
  refine ⟨?_, h.depth_le, .cons ?_ h.placed⟩
  · rw [nestedCalls_cons hframe]
    exact h.depth_eq
  · rw [Frame.rank_eq hframe]
    exact hplace

theorem Balanced.tail (h : Balanced (frame :: stack) depth) (hframe : frame.level? = some level) :
    Balanced stack depth ∧ HasPlace stack level.rank := by
  obtain ⟨hdepth, hle, hplaced⟩ := h
  rw [nestedCalls_cons hframe] at hdepth
  cases hplaced with
  | cons hplace hstack =>
    rw [Frame.rank_eq hframe] at hplace
    exact ⟨⟨hdepth, hle, hstack⟩, hplace⟩

theorem Balanced.leave (h : Balanced (.nested :: stack) depth) : Balanced stack (depth - 1) := by
  obtain ⟨hdepth, hle, hplaced⟩ := h
  rw [nestedCalls] at hdepth
  cases hplaced with
  | cons _ hstack => exact ⟨by omega, by omega, hstack⟩

theorem Kept.of_answer {result : Except ParseError Expr} (h : Balanced stack depth) :
    Kept ⟨.answer result, stack, tokens, depth⟩ := by
  refine ⟨h, fun level hcall => ?_⟩
  cases hcall

theorem Turns.kept {r : Reading} (h : Turns level stack tokens depth r)
    (hbalanced : Balanced stack depth) (hplace : HasPlace stack level.rank) : Kept r := by
  cases h with
  | answer result _ => exact .of_answer hbalanced
  | call hframe hnext _ =>
    refine ⟨hbalanced.cons hplace hframe, fun called hcall => ?_⟩
    cases hcall
    rw [hnext]
    exact hplace.cons hframe
  | enter inside hframe hdepth _ =>
    -- The call that enters is of one of six ranks, so the nesting level has place above it.
    have hwaiting := hbalanced.cons hplace hframe
    have hnested := (hplace.cons hframe).mono (Nat.succ_le_succ level.rank_le)
    refine ⟨⟨?_, hdepth, .cons hnested hwaiting.placed⟩, fun called _ => hnested.nested _⟩
    rw [nestedCalls]
    exact congrArg (· + 1) hwaiting.depth_eq
  | refuse hframe _ => exact .of_answer (hbalanced.cons hplace hframe)

theorem Moves.kept {r r' : Reading} (h : Moves r r') (hkept : Kept r) : Kept r' := by
  obtain ⟨hbalanced, hplace⟩ := hkept
  cases h with
  | begin hturn => exact hturn.kept hbalanced (hplace _ rfl)
  | resume hframe hturn =>
    obtain ⟨htail, hbelow⟩ := hbalanced.tail hframe
    exact hturn.kept htail hbelow
  | leave => exact .of_answer hbalanced.leave
  | done => exact .of_answer hbalanced

theorem Reading.Reaches.kept {r r' : Reading} (h : r.Reaches r') (hkept : Kept r) : Kept r' := by
  induction h with
  | refl => exact hkept
  | @tail middle _ _ hstep ih =>
    subst hstep
    exact (moves_step middle).kept ih

theorem kept_start (tokens : List Token) : Kept (.start tokens) :=
  ⟨⟨rfl, Nat.zero_le _, .nil⟩, fun _ _ => Nat.zero_le _⟩

/-- The fourth step enters the nesting level of a sign. -/
example : (Reading.step^[4] (.start [.symbol .minus, .name "true"])).stack =
    [.nested, .sign .negate, .first .multiplicative, .first .additive, .first .comparison] := by
  rfl

end

end Worksheet.Formula
