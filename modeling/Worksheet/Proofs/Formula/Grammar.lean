import Mathlib
import Worksheet.Formula.Reader

/-!
# The grammar of expressions

The grammar is stated over tokens, apart from the readers that follow it. A phrase belongs to one
of six levels, from loose to tight:

* a comparison is additive phrases joined by comparison operators;
* an additive phrase is multiplicative phrases joined by `+` and `-`;
* a multiplicative phrase is signed phrases joined by `*`, `/` and `%`;
* a signed phrase is a sign and a signed phrase, or a power;
* a power is a primary phrase, or one with `^` and a signed phrase behind it;
* a primary phrase is a number, a constant, or a comparison in parentheses.

The first three levels group to the left: the phrase in front of the last operator is a phrase of
the same level, and the one behind it is of the next level.

`Derives` relates a phrase to its tree and its nesting, the greatest number of parentheses, signs
and exponents that stand around one point of the phrase.
-/

namespace Worksheet.Formula

/-- The levels of the grammar. -/
inductive Level where
  | comparison
  | additive
  | multiplicative
  | signed
  | power
  | primary
deriving DecidableEq

/-- The next tighter level. -/
def Level.tighter? : Level → Option Level
  | comparison => some additive
  | additive => some multiplicative
  | multiplicative => some signed
  | signed => some power
  | power => some primary
  | primary => none

/-- How tightly a level binds. -/
def Level.rank : Level → Nat
  | comparison => 0
  | additive => 1
  | multiplicative => 2
  | signed => 3
  | power => 4
  | primary => 5

theorem Level.rank_injective {level other : Level} (h : level.rank = other.rank) :
    level = other := by
  cases level <;> cases other <;> first | rfl | cases h

theorem Level.rank_of_tighter? {level next : Level} (h : level.tighter? = some next) :
    next.rank = level.rank + 1 := by
  cases level <;> cases h <;> rfl

theorem Level.exists_tighter?_of_rank_lt {level other : Level} (h : level.rank < other.rank) :
    ∃ next, level.tighter? = some next := by
  cases level with
  | primary => cases other <;> exact absurd h (by decide)
  | _ => exact ⟨_, rfl⟩

/-- A symbol joins phrases of a level as an operator. -/
inductive Joins : Level → Symbol → BinaryOp → Prop where
  | equal : Joins .comparison .equal .equal
  | notEqual : Joins .comparison .notEqual .notEqual
  | less : Joins .comparison .less .less
  | lessEqual : Joins .comparison .lessEqual .lessEqual
  | greater : Joins .comparison .greater .greater
  | greaterEqual : Joins .comparison .greaterEqual .greaterEqual
  | add : Joins .additive .plus .add
  | subtract : Joins .additive .minus .subtract
  | multiply : Joins .multiplicative .star .multiply
  | divide : Joins .multiplicative .slash .divide
  | modulo : Joins .multiplicative .percent .modulo

/-- A symbol is a sign. -/
inductive Signs : Symbol → UnaryOp → Prop where
  | negate : Signs .minus .negate
  | plus : Signs .plus .plus

/-- A name is a constant. -/
inductive Names : String → Expr → Prop where
  | true : Names "true" (.boolean true)
  | false : Names "false" (.boolean false)
  | infinity : Names "Infinity" (.number Number.infinity)
  | notANumber : Names "NaN" (.number Number.notANumber)

/-- A phrase of a level has a tree and a nesting. -/
inductive Derives : Level → List Token → Expr → Nat → Prop where
  | tighter {level next : Level} {tokens : List Token} {tree : Expr} {nesting : Nat}
      (hlevel : level.tighter? = some next) (hphrase : Derives next tokens tree nesting) :
      Derives level tokens tree nesting
  | join {level next : Level} {s : Symbol} {op : BinaryOp} {left right : List Token}
      {leftTree rightTree : Expr} {leftNesting rightNesting : Nat}
      (hlevel : level.tighter? = some next) (hop : Joins level s op)
      (hleft : Derives level left leftTree leftNesting)
      (hright : Derives next right rightTree rightNesting) :
      Derives level (left ++ .symbol s :: right) (.binary op leftTree rightTree)
        (max leftNesting rightNesting)
  | sign {s : Symbol} {op : UnaryOp} {operand : List Token} {tree : Expr} {nesting : Nat}
      (hop : Signs s op) (hoperand : Derives .signed operand tree nesting) :
      Derives .signed (.symbol s :: operand) (.unary op tree) (nesting + 1)
  | power {base exponent : List Token} {baseTree exponentTree : Expr}
      {baseNesting exponentNesting : Nat} (hbase : Derives .primary base baseTree baseNesting)
      (hexponent : Derives .signed exponent exponentTree exponentNesting) :
      Derives .power (base ++ .symbol .caret :: exponent) (.binary .power baseTree exponentTree)
        (max baseNesting (exponentNesting + 1))
  | number (value : Float) : Derives .primary [.number value] (.number value) 0
  | constant {name : String} {tree : Expr} (hname : Names name tree) :
      Derives .primary [.name name] tree 0
  | parens {inside : List Token} {tree : Expr} {nesting : Nat}
      (hinside : Derives .comparison inside tree nesting) :
      Derives .primary (.symbol .leftParen :: inside ++ [.symbol .rightParen]) tree (nesting + 1)

/-- A phrase of a level is a phrase of every looser level. -/
theorem Derives.loosen {loose tight : Level} {tokens : List Token} {tree : Expr} {nesting : Nat}
    (hrank : loose.rank ≤ tight.rank) (h : Derives tight tokens tree nesting) :
    Derives loose tokens tree nesting := by
  by_cases hsame : loose = tight
  · rw [hsame]
    exact h
  · have hless : loose.rank < tight.rank := by
      have hne : loose.rank ≠ tight.rank := fun hequal => hsame (Level.rank_injective hequal)
      omega
    obtain ⟨next, hnext⟩ := Level.exists_tighter?_of_rank_lt hless
    have hstep := Level.rank_of_tighter? hnext
    exact .tighter hnext (loosen (by omega) h)
termination_by tight.rank - loose.rank

/-- Signed phrases joined by an operator are a comparison. -/
theorem Derives.comparison_of_joins {level : Level} {s : Symbol} {op : BinaryOp}
    {left right : List Token} {leftTree rightTree : Expr} {m n : Nat} (hop : Joins level s op)
    (hleft : Derives .signed left leftTree m) (hright : Derives .signed right rightTree n) :
    Derives .comparison (left ++ .symbol s :: right) (.binary op leftTree rightTree)
      (max m n) := by
  have hrank : level.rank < Level.signed.rank := by
    cases hop <;> decide
  obtain ⟨next, hnext⟩ := Level.exists_tighter?_of_rank_lt hrank
  have hstep := Level.rank_of_tighter? hnext
  exact loosen (Nat.zero_le _)
    (.join hnext hop (hleft.loosen (by omega)) (hright.loosen (by omega)))

/-! ## The tables of the readers -/

/-- The operators that the reader of a level looks for. -/
def Level.operator? : Level → Symbol → Option BinaryOp
  | comparison => comparison?
  | additive => additive?
  | multiplicative => multiplicative?
  | _ => fun _ => none

theorem operator?_eq_some_iff {level : Level} {s : Symbol} {op : BinaryOp} :
    level.operator? s = some op ↔ Joins level s op := by
  constructor
  · intro h
    cases level <;> cases s <;> cases h <;> constructor
  · intro h
    cases h <;> rfl

theorem sign?_eq_some_iff {s : Symbol} {op : UnaryOp} : sign? s = some op ↔ Signs s op := by
  constructor
  · intro h
    cases s <;> cases h <;> constructor
  · intro h
    cases h <;> rfl

theorem constant?_eq_some_iff {name : String} {tree : Expr} :
    constant? name = some tree ↔ Names name tree := by
  constructor
  · intro h
    unfold constant? at h
    split at h <;> cases h <;> constructor
  · intro h
    cases h <;> rfl

/-! ## What may follow a phrase -/

/-- The level at which a symbol prolongs the phrase in front of it. -/
def Symbol.operatorLevel? : Symbol → Option Level
  | equal | notEqual | less | lessEqual | greater | greaterEqual => some .comparison
  | plus | minus => some .additive
  | star | slash | percent => some .multiplicative
  | caret => some .power
  | leftParen | rightParen => none

/-- Whether a phrase of a level ends in front of these tokens: no operator of the level or of a
tighter one comes next. -/
def Ends (level : Level) (rest : List Token) : Prop :=
  ∀ s after, rest = .symbol s :: after →
    ∀ own, s.operatorLevel? = some own → own.rank < level.rank

theorem ends_nil (level : Level) : Ends level [] := by
  intro s after h
  cases h

theorem ends_rightParen (level : Level) (rest : List Token) :
    Ends level (.symbol .rightParen :: rest) := by
  intro s after h own hown
  cases h
  cases hown

theorem ends_primary (rest : List Token) : Ends .primary rest := by
  intro s after _ own hown
  cases s <;> cases hown <;> decide

theorem Ends.tighter {level next : Level} {rest : List Token} (h : Ends level rest)
    (hlevel : level.tighter? = some next) : Ends next rest := by
  intro s after hrest own hown
  have hrank := h s after hrest own hown
  have hstep := Level.rank_of_tighter? hlevel
  omega

theorem operatorLevel?_of_joins {level : Level} {s : Symbol} {op : BinaryOp}
    (h : Joins level s op) : s.operatorLevel? = some level := by
  cases h <;> rfl

/-- An operator ends the operand in front of it. -/
theorem ends_of_joins {level next : Level} {s : Symbol} {op : BinaryOp} (h : Joins level s op)
    (hlevel : level.tighter? = some next) (after : List Token) :
    Ends next (.symbol s :: after) := by
  intro s' after' hrest own hown
  cases hrest
  rw [operatorLevel?_of_joins h] at hown
  cases hown
  have hstep := Level.rank_of_tighter? hlevel
  omega

theorem Ends.operator?_eq_none {level : Level} {s : Symbol} {after : List Token}
    (h : Ends level (.symbol s :: after)) : level.operator? s = none := by
  rw [Option.eq_none_iff_forall_ne_some]
  intro op hop
  have hown := operatorLevel?_of_joins (operator?_eq_some_iff.mp hop)
  have hrank := h s after rfl level hown
  omega

/-- No operator stands at the level of signs. -/
theorem Ends.signed {rest : List Token} (h : Ends .power rest) : Ends .signed rest := by
  intro s after hrest own hown
  have hrank := h s after hrest own hown
  cases s <;> cases hown <;> first | decide | exact absurd hrank (by decide)

theorem Ends.ne_caret {rest after : List Token} (h : Ends .power rest) :
    rest ≠ .symbol .caret :: after := by
  intro hrest
  have hrank := h .caret after hrest .power rfl
  omega

end Worksheet.Formula
