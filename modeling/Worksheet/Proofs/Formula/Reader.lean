import Worksheet.Proofs.Formula.Grammar

/-!
# The readers follow the grammar

What a reader reads is a phrase of its level, and every phrase is read, up to the limit on nesting.

There are four groups.

* `ofLevel` is the reader of a level with room for a number of nesting levels, and `inner` the
  reader of what stands one nesting level further in.
* Soundness. `Sound` says that a reader reads phrases within its room. It is carried from the
  operands through `sound_chain` to the whole expression.
* Completeness. `Reads` says that the reader of a level reads a phrase off the front of any tokens
  that cannot prolong its last operand, if the nesting fits the room, and reports that the nesting
  is too deep otherwise. One lemma for each way to form a phrase carries it to `reads_of_derives`.
* The grammar as a whole. `derives_unique` says that a phrase has one tree and one nesting, and
  `parse_eq_ok_iff` which texts are expressions.
-/

namespace Worksheet.Formula

theorem bind_eq_ok_iff {ε α β : Type} {x : Except ε α} {f : α → Except ε β} {b : β} :
    (x >>= f) = .ok b ↔ ∃ a, x = .ok a ∧ f a = .ok b := by
  cases x with
  | error e => simp [bind, Except.bind]
  | ok a => simp [bind, Except.bind]

theorem bind_eq_error_iff {ε α β : Type} {x : Except ε α} {f : α → Except ε β} {e : ε} :
    (x >>= f) = .error e ↔ x = .error e ∨ ∃ a, x = .ok a ∧ f a = .error e := by
  cases x with
  | error e => simp [bind, Except.bind]
  | ok a => simp [bind, Except.bind]

namespace Reader

/-! ## The reader of a level -/

/-- Reads a signed phrase one nesting level further in. -/
def inner : (room : Nat) → Reader
  | 0 => fun _ => .error .tooDeep
  | room + 1 => signedWithin room

theorem signedWithin_eq (room : Nat) : signedWithin room = signed (inner room) := by
  cases room <;> rfl

/-- Reads a phrase of a level. -/
def ofLevel : Level → (room : Nat) → Reader
  | .comparison, room => expression (signedWithin room)
  | .additive, room => chain additive? (chain multiplicative? (signedWithin room))
  | .multiplicative, room => chain multiplicative? (signedWithin room)
  | .signed, room => signedWithin room
  | .power, room => power (inner room)
  | .primary, room => primary (inner room)

theorem leading?_eq_some_iff {α : Type} {meaning? : Symbol → Option α} {tokens rest : List Token}
    {meaning : α} :
    leading? meaning? tokens = some (meaning, rest) ↔
      ∃ s, tokens = .symbol s :: rest ∧ meaning? s = some meaning := by
  constructor
  · intro h
    unfold leading? at h
    split at h
    · next s others =>
      obtain ⟨_, hmeaning, heq⟩ := Option.map_eq_some_iff.mp h
      cases heq
      exact ⟨s, rfl, hmeaning⟩
    · cases h
  · rintro ⟨s, rfl, hmeaning⟩
    simp [leading?, hmeaning]

/-! ## Soundness -/

/-- Whatever a reader reads is a phrase of the level, nested at most `room` levels deep when it
stands `depth` levels deep. -/
def Sound (reader : Reader) (level : Level) (depth room : Nat) : Prop :=
  ∀ tokens tree rest, reader tokens = .ok (tree, rest) →
    ∃ phrase nesting, tokens = phrase ++ rest ∧ nesting + depth ≤ room ∧
      Derives level phrase tree nesting

variable {depth room : Nat}

theorem Sound.length_le {reader : Reader} {level : Level} (h : Sound reader level depth room)
    {tokens rest : List Token} {tree : Expr} (hread : reader tokens = .ok (tree, rest)) :
    rest.length ≤ tokens.length := by
  obtain ⟨phrase, _, rfl, -⟩ := h tokens tree rest hread
  simp

theorem sound_chainFrom {level next : Level} (hlevel : level.tighter? = some next)
    {operand : Reader} (hoperand : Sound operand next depth room) (count : Nat)
    {phrase tokens rest : List Token} {left tree : Expr} {nesting : Nat}
    (hleft : Derives level phrase left nesting) (hnesting : nesting + depth ≤ room)
    (hread : chainFrom level.operator? operand count left tokens = .ok (tree, rest)) :
    ∃ more nesting', tokens = more ++ rest ∧ nesting' + depth ≤ room ∧
      Derives level (phrase ++ more) tree nesting' := by
  induction count generalizing phrase tokens left nesting with
  | zero =>
    cases hread
    exact ⟨[], nesting, rfl, hnesting, by simpa using hleft⟩
  | succ count ih =>
    rw [chainFrom] at hread
    split at hread
    · cases hread
      exact ⟨[], nesting, rfl, hnesting, by simpa using hleft⟩
    · next op afterOp hop =>
      obtain ⟨⟨right, afterRight⟩, hright, hgoOn⟩ := bind_eq_ok_iff.mp hread
      obtain ⟨s, rfl, hs⟩ := leading?_eq_some_iff.mp hop
      obtain ⟨rightPhrase, rightNesting, rfl, hrightNesting, hderives⟩ :=
        hoperand _ _ _ hright
      have hjoined := Derives.join hlevel (operator?_eq_some_iff.mp hs) hleft hderives
      obtain ⟨more, nesting', rfl, hnesting', hwhole⟩ := ih hjoined (by omega) hgoOn
      refine ⟨.symbol s :: rightPhrase ++ more, nesting', by simp, hnesting', ?_⟩
      simpa using hwhole

theorem sound_chain {level next : Level} (hlevel : level.tighter? = some next)
    {operand : Reader} (hoperand : Sound operand next depth room) :
    Sound (chain level.operator? operand) level depth room := by
  intro tokens tree rest hread
  obtain ⟨⟨left, afterLeft⟩, hleft, hgoOn⟩ := bind_eq_ok_iff.mp hread
  obtain ⟨phrase, nesting, rfl, hnesting, hderives⟩ := hoperand _ _ _ hleft
  obtain ⟨more, nesting', rfl, hnesting', hwhole⟩ :=
    sound_chainFrom hlevel hoperand _ (.tighter hlevel hderives) hnesting hgoOn
  exact ⟨phrase ++ more, nesting', by simp, hnesting', hwhole⟩

theorem sound_expression {operand : Reader} (hoperand : Sound operand .signed depth room) :
    Sound (expression operand) .comparison depth room :=
  @sound_chain depth room .comparison .additive rfl _
    (@sound_chain depth room .additive .multiplicative rfl _
      (@sound_chain depth room .multiplicative .signed rfl _ hoperand))

theorem sound_primary {inner : Reader} (hinner : Sound inner .signed (depth + 1) room)
    (hroom : depth ≤ room) :
    Sound (primary inner) .primary depth room := by
  intro tokens tree rest hread
  unfold primary at hread
  split at hread
  · next value others =>
    cases hread
    exact ⟨[.number value], 0, rfl, by omega, .number value⟩
  · next text others =>
    split at hread
    · next hconstant =>
      cases hread
      exact ⟨[.name text], 0, rfl, by omega, .constant (constant?_eq_some_iff.mp hconstant)⟩
    · cases hread
  · next others =>
    obtain ⟨⟨inside, afterInside⟩, hinside, hclose⟩ := bind_eq_ok_iff.mp hread
    obtain ⟨phrase, nesting, rfl, hnesting, hderives⟩ := sound_expression hinner _ _ _ hinside
    dsimp only at hclose
    split at hclose
    · cases hclose
      exact ⟨_, nesting + 1, by simp, by omega, .parens hderives⟩
    · cases hclose
  · cases hread

theorem sound_power {inner : Reader} (hinner : Sound inner .signed (depth + 1) room)
    (hroom : depth ≤ room) :
    Sound (power inner) .power depth room := by
  intro tokens tree rest hread
  obtain ⟨⟨base, afterBase⟩, hbase, hgoOn⟩ := bind_eq_ok_iff.mp hread
  obtain ⟨phrase, nesting, rfl, hnesting, hderives⟩ := sound_primary hinner hroom _ _ _ hbase
  dsimp only at hgoOn
  split at hgoOn
  · obtain ⟨⟨exponent, afterExponent⟩, hexponent, hwhole⟩ := bind_eq_ok_iff.mp hgoOn
    obtain ⟨exponentPhrase, exponentNesting, rfl, hexponentNesting, hexponentDerives⟩ :=
      hinner _ _ _ hexponent
    cases hwhole
    exact ⟨_, _, by simp, by omega, .power hderives hexponentDerives⟩
  · cases hgoOn
    exact ⟨phrase, nesting, rfl, hnesting, .tighter rfl hderives⟩

theorem sound_signed {inner : Reader} (hinner : Sound inner .signed (depth + 1) room)
    (hroom : depth ≤ room) :
    Sound (signed inner) .signed depth room := by
  intro tokens tree rest hread
  unfold signed at hread
  split at hread
  · next op others hop =>
    obtain ⟨⟨operand, afterOperand⟩, hoperand, hwhole⟩ := bind_eq_ok_iff.mp hread
    obtain ⟨phrase, nesting, rfl, hnesting, hderives⟩ := hinner _ _ _ hoperand
    obtain ⟨s, rfl, hs⟩ := leading?_eq_some_iff.mp hop
    cases hwhole
    exact ⟨.symbol s :: phrase, nesting + 1, rfl, by omega,
      .sign (sign?_eq_some_iff.mp hs) hderives⟩
  · obtain ⟨phrase, nesting, happend, hnesting, hderives⟩ :=
      sound_power hinner hroom _ _ _ hread
    exact ⟨phrase, nesting, happend, hnesting, .tighter rfl hderives⟩

theorem sound_signedWithin (room : Nat) : Sound (signedWithin room) .signed 0 room := by
  induction room with
  | zero =>
    rw [signedWithin_eq]
    refine sound_signed (fun tokens tree rest hread => ?_) (Nat.le_refl 0)
    cases hread
  | succ room ih =>
    rw [signedWithin_eq]
    refine sound_signed (fun tokens tree rest hread => ?_) (Nat.zero_le _)
    obtain ⟨phrase, nesting, happend, hnesting, hderives⟩ := ih tokens tree rest hread
    exact ⟨phrase, nesting, happend, by omega, hderives⟩

theorem sound_inner (room : Nat) : Sound (inner room) .signed 1 room := by
  intro tokens tree rest hread
  cases room with
  | zero => cases hread
  | succ room =>
    obtain ⟨phrase, nesting, happend, hnesting, hderives⟩ :=
      sound_signedWithin room tokens tree rest hread
    exact ⟨phrase, nesting, happend, by omega, hderives⟩

theorem sound_ofLevel (level : Level) (room : Nat) : Sound (ofLevel level room) level 0 room := by
  have hsigned := sound_signedWithin room
  have hmultiplicative := @sound_chain 0 room .multiplicative .signed rfl _ hsigned
  have hadditive := @sound_chain 0 room .additive .multiplicative rfl _ hmultiplicative
  cases level with
  | comparison => exact sound_expression hsigned
  | additive => exact hadditive
  | multiplicative => exact hmultiplicative
  | signed => exact hsigned
  | power => exact sound_power (sound_inner room) (Nat.zero_le room)
  | primary => exact sound_primary (sound_inner room) (Nat.zero_le room)

/-! ## Completeness -/

/-- Refuses a nesting that does not fit the room. -/
def within (nesting room : Nat) : Except ParseError Unit :=
  if nesting ≤ room then .ok () else .error .tooDeep

theorem within_of_le {nesting room : Nat} (h : nesting ≤ room) : within nesting room = .ok () :=
  if_pos h

theorem within_of_lt {nesting room : Nat} (h : room < nesting) :
    within nesting room = .error .tooDeep :=
  if_neg (Nat.not_le.mpr h)

/-- Two phrases fit the room if each of them does. -/
theorem within_max {α : Type} (m n room : Nat) (x : Except ParseError α) :
    (do within m room; within n room; x) = (do within (max m n) room; x) := by
  by_cases hm : m ≤ room
  · by_cases hn : n ≤ room
    · rw [within_of_le hm, within_of_le hn, within_of_le (Nat.max_le.mpr ⟨hm, hn⟩)]
      rfl
    · rw [within_of_le hm, within_of_lt (by omega : room < n),
        within_of_lt (by omega : room < max m n)]
      rfl
  · rw [within_of_lt (by omega : room < m), within_of_lt (by omega : room < max m n)]
    rfl

/-- How many operators may still follow does not matter, as long as there are enough. -/
theorem chainFrom_congr {op? : Symbol → Option BinaryOp} {operand : Reader}
    (hoperand : ∀ tokens tree rest, operand tokens = .ok (tree, rest) →
      rest.length ≤ tokens.length)
    {count count' : Nat} {left : Expr} {tokens : List Token} (hcount : tokens.length ≤ count)
    (hcount' : tokens.length ≤ count') :
    chainFrom op? operand count left tokens = chainFrom op? operand count' left tokens := by
  induction count generalizing count' left tokens with
  | zero =>
    have htokens : tokens = [] := List.length_eq_zero_iff.mp (by omega)
    subst htokens
    cases count' <;> rfl
  | succ count ih =>
    cases count' with
    | zero =>
      have htokens : tokens = [] := List.length_eq_zero_iff.mp (by omega)
      subst htokens
      rfl
    | succ count' =>
      rw [chainFrom, chainFrom]
      cases hleading : leading? op? tokens with
      | none => rfl
      | some found =>
        obtain ⟨op, afterOp⟩ := found
        obtain ⟨s, rfl, -⟩ := leading?_eq_some_iff.mp hleading
        rw [List.length_cons] at hcount hcount'
        dsimp only
        cases hread : operand afterOp with
        | error cause => rfl
        | ok result =>
          obtain ⟨right, rest⟩ := result
          have hrest := hoperand _ _ _ hread
          have hfuel : rest.length ≤ count := by omega
          have hfuel' : rest.length ≤ count' := by omega
          exact ih hfuel hfuel'

/-- The level of the operands that a level joins; the levels from the signed one on join none. -/
def operandLevel : Level → Level
  | .comparison => .additive
  | .additive => .multiplicative
  | .multiplicative => .signed
  | level => level

/-- Goes on from a phrase of a level with the operators that follow it. -/
def goOn (level : Level) (room : Nat) : Expr → Reader := fun left rest =>
  chainFrom level.operator? (ofLevel (operandLevel level) room) rest.length left rest

theorem goOn_of_ends {level : Level} {rest : List Token} (h : Ends level rest) (room : Nat)
    (left : Expr) : goOn level room left rest = .ok (left, rest) := by
  unfold goOn
  cases rest with
  | nil => rfl
  | cons token after =>
    rw [List.length_cons, chainFrom]
    cases hleading : leading? level.operator? (token :: after) with
    | none => rfl
    | some found =>
      obtain ⟨s, htokens, hop⟩ := leading?_eq_some_iff.mp hleading
      rw [List.cons.injEq] at htokens
      rw [htokens.1] at h
      rw [h.operator?_eq_none] at hop
      cases hop

theorem goOn_join {level : Level} {s : Symbol} {op : BinaryOp} (hop : Joins level s op)
    (room : Nat) (left : Expr) (tokens : List Token) :
    goOn level room left (.symbol s :: tokens) =
      ofLevel (operandLevel level) room tokens >>= fun (right, rest) =>
        goOn level room (.binary op left right) rest := by
  have hleading : leading? level.operator? (.symbol s :: tokens) = some (op, tokens) :=
    leading?_eq_some_iff.mpr ⟨s, rfl, operator?_eq_some_iff.mpr hop⟩
  rw [goOn, List.length_cons, chainFrom, hleading]
  dsimp only
  cases hread : ofLevel (operandLevel level) room tokens with
  | error cause => rfl
  | ok result =>
    obtain ⟨right, rest⟩ := result
    have hoperand : ∀ tokens tree rest,
        ofLevel (operandLevel level) room tokens = .ok (tree, rest) →
          rest.length ≤ tokens.length :=
      fun _ _ _ => (sound_ofLevel (operandLevel level) room).length_le
    exact chainFrom_congr hoperand (hoperand _ _ _ hread) (Nat.le_refl _)

theorem ofLevel_of_tighter {level next : Level} (hlevel : level.tighter? = some next)
    (hnext : next = operandLevel level) (room : Nat) (tokens : List Token) :
    ofLevel level room tokens =
      ofLevel next room tokens >>= fun (left, rest) => goOn level room left rest := by
  subst hnext
  cases level <;> cases hlevel <;> rfl

theorem eq_operandLevel_of_joins {level next : Level} {s : Symbol} {op : BinaryOp}
    (hop : Joins level s op) (hlevel : level.tighter? = some next) :
    next = operandLevel level := by
  cases hop <;> cases hlevel <;> rfl

theorem ends_operandLevel {level : Level} {rest : List Token} (h : Ends level rest) :
    Ends (operandLevel level) rest := by
  cases level with
  | comparison | additive | multiplicative => exact h.tighter rfl
  | signed | power | primary => exact h

/-- No power begins with a sign. -/
theorem leading?_sign?_eq_none {level : Level} {phrase : List Token} {tree : Expr}
    {nesting : Nat} (h : Derives level phrase tree nesting)
    (hlevel : level = .power ∨ level = .primary) (rest : List Token) :
    leading? sign? (phrase ++ rest) = none := by
  induction h generalizing rest with
  | tighter hnext _ ih =>
    rcases hlevel with rfl | rfl
    · cases hnext
      exact ih (Or.inr rfl) rest
    · cases hnext
  | join _ hop =>
    rcases hlevel with rfl | rfl <;> cases hop
  | sign => rcases hlevel with h | h <;> cases h
  | power _ _ ihBase =>
    rw [List.append_assoc]
    exact ihBase (Or.inr rfl) _
  | number value => rfl
  | constant hname => rfl
  | parens hinside => rfl

/-! ### One way to form a phrase at a time -/

/-- A phrase is read off the front of any tokens that do not prolong its last operand, and reading
goes on with the operators behind it, unless the nesting is too deep. -/
def Reads (level : Level) (phrase : List Token) (tree : Expr) (nesting : Nat) : Prop :=
  ∀ room rest, Ends (operandLevel level) rest →
    ofLevel level room (phrase ++ rest) = (do within nesting room; goOn level room tree rest)

variable {level next : Level} {phrase : List Token} {tree : Expr} {nesting : Nat}

/-- Nothing is left to go on with in front of tokens that do not prolong the phrase. -/
theorem Reads.ofLevel_eq (h : Reads level phrase tree nesting) {rest : List Token}
    (hends : Ends level rest) (room : Nat) :
    ofLevel level room (phrase ++ rest) = (do within nesting room; .ok (tree, rest)) := by
  rw [h room rest (ends_operandLevel hends), goOn_of_ends hends]

/-- One nesting level further in, the nesting is one greater. -/
theorem read_deeper {outer deeper : Nat → Reader} {tokens rest : List Token}
    (hzero : deeper 0 tokens = .error .tooDeep)
    (hsucc : ∀ room, deeper (room + 1) tokens = outer room tokens)
    (hread : ∀ room, outer room tokens = (do within nesting room; .ok (tree, rest)))
    (room : Nat) : deeper room tokens = (do within (nesting + 1) room; .ok (tree, rest)) := by
  cases room with
  | zero =>
    rw [hzero, within_of_lt (Nat.zero_lt_succ nesting)]
    rfl
  | succ room =>
    rw [hsucc, hread]
    simp only [within, Nat.add_le_add_iff_right]

theorem Reads.inner_eq (h : Reads .signed phrase tree nesting) {rest : List Token}
    (hends : Ends .signed rest) (room : Nat) :
    inner room (phrase ++ rest) = (do within (nesting + 1) room; .ok (tree, rest)) :=
  read_deeper rfl (fun _ => rfl) (h.ofLevel_eq hends) room

theorem Reads.expression_inner_eq (h : Reads .comparison phrase tree nesting) {rest : List Token}
    (hends : Ends .comparison rest) (room : Nat) :
    expression (inner room) (phrase ++ rest) =
      (do within (nesting + 1) room; .ok (tree, rest)) :=
  @read_deeper tree nesting (fun room => expression (signedWithin room))
    (fun room => expression (inner room)) _ _ rfl (fun _ => rfl) (h.ofLevel_eq hends) room

/-- A primary phrase is a whole power in front of tokens that cannot prolong it. -/
theorem power_of_ends {inner : Reader} {tokens rest : List Token}
    (hbase : primary inner tokens = .ok (tree, rest)) (hends : Ends .power rest) :
    power inner tokens = .ok (tree, rest) := by
  rw [power, hbase]
  dsimp only [bind, Except.bind]
  split
  · next after => exact absurd rfl hends.ne_caret
  · rfl

/-- A single operand of one of the three chains. -/
theorem Reads.of_operand (hlevel : level.tighter? = some next) (hchain : next = operandLevel level)
    (h : Reads next phrase tree nesting) : Reads level phrase tree nesting := by
  intro room rest hends
  rw [← hchain] at hends
  rw [ofLevel_of_tighter hlevel hchain, h.ofLevel_eq hends]
  cases within nesting room <;> rfl

theorem Reads.of_power (hderives : Derives .power phrase tree nesting)
    (h : Reads .power phrase tree nesting) : Reads .signed phrase tree nesting := by
  intro room rest hends
  have hsigned : Ends .signed rest := hends
  have hpower := h.ofLevel_eq (hsigned.tighter rfl) room
  rw [ofLevel, signedWithin_eq, signed, leading?_sign?_eq_none hderives (Or.inl rfl),
    goOn_of_ends hsigned]
  exact hpower

theorem Reads.of_primary (h : Reads .primary phrase tree nesting) :
    Reads .power phrase tree nesting := by
  intro room rest hends
  have hpower : Ends .power rest := hends
  have hprimary := h.ofLevel_eq (ends_primary rest) room
  rw [ofLevel] at hprimary
  rw [ofLevel, goOn_of_ends hpower]
  cases hwithin : within nesting room with
  | error cause =>
    rw [hwithin] at hprimary
    rw [power, hprimary]
    rfl
  | ok _ =>
    rw [hwithin] at hprimary
    exact power_of_ends hprimary hpower

theorem Reads.of_tighter (hlevel : level.tighter? = some next)
    (hderives : Derives next phrase tree nesting) (h : Reads next phrase tree nesting) :
    Reads level phrase tree nesting := by
  cases level with
  | comparison | additive | multiplicative =>
    cases hlevel
    exact .of_operand rfl rfl h
  | signed =>
    cases hlevel
    exact .of_power hderives h
  | power =>
    cases hlevel
    exact .of_primary h
  | primary => cases hlevel

theorem Reads.join {s : Symbol} {op : BinaryOp} {left right : List Token}
    {leftTree rightTree : Expr} {m n : Nat} (hlevel : level.tighter? = some next)
    (hop : Joins level s op) (hleft : Reads level left leftTree m)
    (hright : Reads next right rightTree n) :
    Reads level (left ++ .symbol s :: right) (.binary op leftTree rightTree) (max m n) := by
  intro room rest hends
  have hnext := eq_operandLevel_of_joins hop hlevel
  subst hnext
  have hmiddle := ends_of_joins hop hlevel (right ++ rest)
  rw [List.append_assoc, List.cons_append, hleft room _ hmiddle, goOn_join hop,
    hright.ofLevel_eq hends, ← within_max]
  cases within m room with
  | error cause => rfl
  | ok _ => cases within n room <;> rfl

theorem Reads.sign {s : Symbol} {op : UnaryOp} (hop : Signs s op)
    (h : Reads .signed phrase tree nesting) :
    Reads .signed (.symbol s :: phrase) (.unary op tree) (nesting + 1) := by
  intro room rest hends
  have hsigned : Ends .signed rest := hends
  have hleading : leading? sign? (.symbol s :: (phrase ++ rest)) = some (op, phrase ++ rest) :=
    leading?_eq_some_iff.mpr ⟨s, rfl, sign?_eq_some_iff.mpr hop⟩
  rw [List.cons_append, ofLevel, signedWithin_eq, signed, hleading, goOn_of_ends hsigned]
  dsimp only
  rw [h.inner_eq hsigned]
  cases within (nesting + 1) room <;> rfl

theorem Reads.power {base exponent : List Token} {baseTree exponentTree : Expr} {m n : Nat}
    (hbase : Reads .primary base baseTree m) (hexponent : Reads .signed exponent exponentTree n) :
    Reads .power (base ++ .symbol .caret :: exponent) (.binary .power baseTree exponentTree)
      (max m (n + 1)) := by
  intro room rest hends
  have hpower : Ends .power rest := hends
  have hinner := hexponent.inner_eq hpower.signed room
  have hprimary := hbase.ofLevel_eq (ends_primary (.symbol .caret :: (exponent ++ rest))) room
  rw [ofLevel] at hprimary
  rw [List.append_assoc, List.cons_append, ofLevel, Reader.power, hprimary, goOn_of_ends hpower,
    ← within_max]
  cases within m room with
  | error cause => rfl
  | ok _ =>
    dsimp only [bind, Except.bind] at hinner ⊢
    rw [hinner]
    cases within (n + 1) room <;> rfl

theorem reads_number (value : Float) : Reads .primary [.number value] (.number value) 0 := by
  intro room rest _
  rw [within_of_le (Nat.zero_le room), goOn_of_ends (ends_primary rest)]
  rfl

theorem reads_constant {name : String} (h : Names name tree) :
    Reads .primary [.name name] tree 0 := by
  intro room rest _
  have hconstant := constant?_eq_some_iff.mpr h
  rw [within_of_le (Nat.zero_le room), goOn_of_ends (ends_primary rest)]
  simp only [ofLevel, List.singleton_append, primary, hconstant]
  rfl

theorem Reads.parens (h : Reads .comparison phrase tree nesting) :
    Reads .primary (.symbol .leftParen :: phrase ++ [.symbol .rightParen]) tree
      (nesting + 1) := by
  intro room rest _
  rw [goOn_of_ends (ends_primary rest), ofLevel, List.append_assoc, List.cons_append, primary,
    List.singleton_append, h.expression_inner_eq (ends_rightParen _ rest)]
  cases within (nesting + 1) room <;> rfl

/-- Every phrase is read. -/
theorem reads_of_derives (h : Derives level phrase tree nesting) :
    Reads level phrase tree nesting := by
  induction h with
  | tighter hlevel hphrase ih => exact .of_tighter hlevel hphrase ih
  | join hlevel hop _ _ ihLeft ihRight => exact .join hlevel hop ihLeft ihRight
  | sign hop _ ih => exact .sign hop ih
  | power _ _ ihBase ihExponent => exact .power ihBase ihExponent
  | number value => exact reads_number value
  | constant hname => exact reads_constant hname
  | parens _ ih => exact .parens ih

/-- A phrase that makes up all the tokens is read, unless the nesting is too deep. -/
theorem ofLevel_eq_of_derives (h : Derives level phrase tree nesting) (room : Nat) :
    ofLevel level room phrase = (do within nesting room; .ok (tree, [])) := by
  have hread := (reads_of_derives h).ofLevel_eq (ends_nil level) room
  rwa [List.append_nil] at hread

theorem read_within_iff {nesting room : Nat} {tree other : Expr} {rest : List Token} :
    (do within nesting room; .ok (tree, []) : Except ParseError (Expr × List Token)) =
        .ok (other, rest) ↔ nesting ≤ room ∧ other = tree ∧ rest = [] := by
  by_cases hfits : nesting ≤ room
  · rw [within_of_le hfits]
    constructor
    · intro h
      cases h
      exact ⟨hfits, rfl, rfl⟩
    · rintro ⟨-, rfl, rfl⟩
      rfl
  · rw [within_of_lt (Nat.not_le.mp hfits)]
    constructor
    · intro h
      cases h
    · rintro ⟨h, -⟩
      exact absurd h hfits

end Reader

/-! ## The grammar as a whole -/

/-- A phrase has one tree and one nesting. -/
theorem derives_unique {level : Level} {tokens : List Token} {tree other : Expr} {m n : Nat}
    (h : Derives level tokens tree m) (hother : Derives level tokens other n) :
    other = tree ∧ n = m := by
  -- Both are read in the same way, whatever the room is.
  have hsame : ∀ room, (do Reader.within m room; .ok (tree, [])) =
      (do Reader.within n room; .ok (other, []) : Except ParseError (Expr × List Token)) := by
    intro room
    rw [← Reader.ofLevel_eq_of_derives h, ← Reader.ofLevel_eq_of_derives hother]
  obtain ⟨hnm, htree, -⟩ := Reader.read_within_iff.mp
    ((hsame m).symm.trans (Reader.read_within_iff.mpr ⟨Nat.le_refl m, rfl, rfl⟩))
  obtain ⟨hmn, -, -⟩ := Reader.read_within_iff.mp
    ((hsame n).trans (Reader.read_within_iff.mpr ⟨Nat.le_refl n, rfl, rfl⟩))
  exact ⟨htree.symm, Nat.le_antisymm hnm hmn⟩

/-- A token list that is an expression is read, unless the nesting is too deep. -/
theorem Expr.ofTokens_of_derives {tokens : List Token} {tree : Expr} {nesting : Nat}
    (h : Derives .comparison tokens tree nesting) :
    Expr.ofTokens tokens = (do Reader.within nesting deepestNesting; .ok tree) := by
  have hread := Reader.ofLevel_eq_of_derives h deepestNesting
  rw [Reader.ofLevel] at hread
  rw [Expr.ofTokens, hread]
  cases Reader.within nesting deepestNesting <;> rfl

theorem Expr.ofTokens_eq_ok_iff {tokens : List Token} {tree : Expr} :
    Expr.ofTokens tokens = .ok tree ↔
      ∃ nesting, Derives .comparison tokens tree nesting ∧ nesting ≤ deepestNesting := by
  constructor
  · intro h
    obtain ⟨⟨found, rest⟩, hread, hrest⟩ := bind_eq_ok_iff.mp h
    obtain ⟨phrase, nesting, rfl, hnesting, hderives⟩ :=
      Reader.sound_ofLevel .comparison deepestNesting tokens found rest hread
    dsimp only at hrest
    split at hrest
    · cases hrest
      rw [List.append_nil]
      exact ⟨nesting, hderives, hnesting⟩
    · cases hrest
  · rintro ⟨nesting, hderives, hnesting⟩
    rw [Expr.ofTokens_of_derives hderives, Reader.within_of_le hnesting]
    rfl

/-- A text that is read is short enough, and its tokens derive the tree without nesting too
deep. -/
theorem Expr.fits_of_parse {e : String} {tree : Expr} (h : Expr.parse e = .ok tree) :
    e.utf8ByteSize ≤ longestExpression ∧
      ∃ tokens nesting, Token.scan e.toList = .ok tokens ∧
        Derives .comparison tokens tree nesting ∧ nesting ≤ deepestNesting := by
  unfold Expr.parse at h
  split at h
  · cases h
  · next hshort =>
    obtain ⟨tokens, hscan, hread⟩ := bind_eq_ok_iff.mp h
    obtain ⟨nesting, hderives, hnesting⟩ := Expr.ofTokens_eq_ok_iff.mp hread
    exact ⟨Nat.not_lt.mp hshort, tokens, nesting, hscan, hderives, hnesting⟩

theorem Expr.exists_derives_of_parse {e : String} {tree : Expr} (h : Expr.parse e = .ok tree) :
    ∃ tokens nesting, Token.scan e.toList = .ok tokens ∧
      Derives .comparison tokens tree nesting := by
  obtain ⟨-, tokens, nesting, hscan, hderives, -⟩ := fits_of_parse h
  exact ⟨tokens, nesting, hscan, hderives⟩

/-- A text is an expression with a tree if it is short enough and its tokens derive the tree
without nesting too deep. No tokens derive a second tree. -/
theorem parse_eq_ok_iff (input : String) (tree : Expr) :
    (Expr.parse input = .ok tree ↔
      input.utf8ByteSize ≤ 8192 ∧
        ∃ tokens nesting, Token.scan input.toList = .ok tokens ∧
          Derives .comparison tokens tree nesting ∧ nesting ≤ 256) ∧
    ∀ tokens other m n, Derives .comparison tokens tree m →
      Derives .comparison tokens other n → other = tree ∧ n = m := by
  refine ⟨?_, fun tokens other m n => derives_unique⟩
  unfold Expr.parse
  split
  · next hlong =>
    constructor
    · intro h
      cases h
    · rintro ⟨hshort, -⟩
      exact absurd hlong (Nat.not_lt.mpr hshort)
  · next hshort =>
    rw [bind_eq_ok_iff]
    constructor
    · rintro ⟨tokens, hscan, hread⟩
      obtain ⟨nesting, hderives, hnesting⟩ := Expr.ofTokens_eq_ok_iff.mp hread
      exact ⟨Nat.not_lt.mp hshort, tokens, nesting, hscan, hderives, hnesting⟩
    · rintro ⟨-, tokens, nesting, hscan, hderives, hnesting⟩
      exact ⟨tokens, hscan, Expr.ofTokens_eq_ok_iff.mpr ⟨nesting, hderives, hnesting⟩⟩

/-- The sign of `-true^(false)` stands in front of the whole power. -/
theorem parse_signedPower :
    Expr.parse "-true^(false)" =
        .ok (.unary .negate (.binary .power (.boolean true) (.boolean false))) ∧
      ∀ other n,
        Derives .comparison [.symbol .minus, .name "true", .symbol .caret, .symbol .leftParen,
          .name "false", .symbol .rightParen] other n →
        other = .unary .negate (.binary .power (.boolean true) (.boolean false)) ∧ n = 3 := by
  have hscan : Token.scan "-true^(false)".toList =
      .ok [.symbol .minus, .name "true", .symbol .caret, .symbol .leftParen, .name "false",
        .symbol .rightParen] := by cbv
  have hfalse : Derives .comparison [.name "false"] (.boolean false) 0 :=
    .loosen (by decide) (.constant .false)
  have hexponent : Derives .signed [.symbol .leftParen, .name "false", .symbol .rightParen]
      (.boolean false) 1 := .loosen (by decide) (.parens hfalse)
  have hpower : Derives .signed [.name "true", .symbol .caret, .symbol .leftParen, .name "false",
      .symbol .rightParen] (.binary .power (.boolean true) (.boolean false)) 2 :=
    .loosen (by decide) (.power (.constant .true) hexponent)
  have hwhole := @Derives.loosen .comparison .signed _ _ _ (by decide) (.sign .negate hpower)
  obtain ⟨hparse, hunique⟩ := parse_eq_ok_iff "-true^(false)"
    (.unary .negate (.binary .power (.boolean true) (.boolean false)))
  exact ⟨hparse.mpr ⟨by decide, _, _, hscan, hwhole, by decide⟩,
    fun other n => hunique _ other _ n hwhole⟩

end Worksheet.Formula
