import Mathlib

/-!
# Step functions

A walk is given by a step function: from a state it yields an element and the next state, or
nothing. A call that yields nothing leaves the state as it is.

* `stateAfter` is the state after a number of calls, and `stateAfter_induction` carries an
  invariant to it.
* `Yields` says what the calls yield from a state on, and that nothing follows. The elements are
  determined by the state (`Yields.unique`), and those still to come after some calls are the rest
  of them (`Yields.drop`).
-/

namespace Worksheet

variable {σ α : Type}

/-- The state after a number of calls of a step function. -/
def stateAfter (next? : σ → Option (α × σ)) : (calls : Nat) → σ → σ
  | 0, state => state
  | calls + 1, state => stateAfter next? calls (((next? state).map Prod.snd).getD state)

/-- One call after the other yields these elements, and each further call yields nothing. -/
def Yields (next? : σ → Option (α × σ)) (state : σ) (elements : List α) : Prop :=
  ∀ calls, (next? (stateAfter next? calls state)).map Prod.fst = elements[calls]?

variable {next? : σ → Option (α × σ)} {state rest : σ} {a : α} {elements others : List α}

theorem stateAfter_of_eq_none (h : next? state = none) (calls : Nat) :
    stateAfter next? calls state = state := by
  induction calls with
  | zero => rfl
  | succ calls ih =>
    rw [stateAfter, h]
    exact ih

theorem stateAfter_succ_of_eq_some (h : next? state = some (a, rest)) (calls : Nat) :
    stateAfter next? (calls + 1) state = stateAfter next? calls rest := by
  rw [stateAfter, h]
  rfl

theorem stateAfter_add (calls more : Nat) :
    stateAfter next? (calls + more) state =
      stateAfter next? more (stateAfter next? calls state) := by
  induction calls generalizing state with
  | zero => rw [Nat.zero_add, stateAfter]
  | succ calls ih => rw [Nat.add_right_comm, stateAfter, ih, stateAfter]

/-- What a yielding call preserves is preserved by any number of calls. -/
theorem stateAfter_induction {P : σ → Prop}
    (hstep : ∀ state a rest, P state → next? state = some (a, rest) → P rest) (h : P state)
    (calls : Nat) : P (stateAfter next? calls state) := by
  induction calls generalizing state with
  | zero => exact h
  | succ calls ih =>
    cases hnext : next? state with
    | none =>
      rw [stateAfter_of_eq_none hnext]
      exact h
    | some found =>
      rw [stateAfter_succ_of_eq_some hnext]
      exact ih (hstep state found.1 found.2 h hnext)

theorem yields_nil (h : next? state = none) : Yields next? state [] := by
  intro calls
  rw [stateAfter_of_eq_none h, h]
  rfl

theorem Yields.cons (h : next? state = some (a, rest)) (hrest : Yields next? rest elements) :
    Yields next? state (a :: elements) := by
  intro calls
  cases calls with
  | zero =>
    rw [stateAfter, h]
    rfl
  | succ calls =>
    rw [stateAfter_succ_of_eq_some h, List.getElem?_cons_succ]
    exact hrest calls

theorem Yields.drop (h : Yields next? state elements) (calls : Nat) :
    Yields next? (stateAfter next? calls state) (elements.drop calls) := by
  intro more
  rw [← stateAfter_add, List.getElem?_drop]
  exact h (calls + more)

theorem Yields.unique (h : Yields next? state elements) (hothers : Yields next? state others) :
    elements = others :=
  List.ext_getElem? fun calls => (h calls).symm.trans (hothers calls)

/-- A call yields nothing exactly if all elements have been yielded before it. -/
theorem Yields.next?_eq_none_iff (h : Yields next? state elements) (calls : Nat) :
    next? (stateAfter next? calls state) = none ↔ elements.length ≤ calls := by
  rw [← List.getElem?_eq_none_iff, ← h calls, Option.map_eq_none_iff]

/-- Each of the elements is yielded by some call. -/
theorem Yields.exists_of_mem (h : Yields next? state elements) (ha : a ∈ elements) :
    ∃ calls rest, next? (stateAfter next? calls state) = some (a, rest) := by
  obtain ⟨calls, hcall⟩ := List.mem_iff_getElem?.mp ha
  rw [← h calls] at hcall
  obtain ⟨⟨_, rest⟩, hnext, rfl⟩ := Option.map_eq_some_iff.mp hcall
  exact ⟨calls, rest, hnext⟩

end Worksheet
