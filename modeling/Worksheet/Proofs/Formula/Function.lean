import Worksheet.Formula.Function
import Worksheet.Proofs.Text.Digits

/-!
# The front of a call

A body calls a function if the name of the function and an opening parenthesis stand in front of
it. `Function.ofCall?_eq_some_iff` says that these are the calls that are found, although the
search takes all capitals in front for the name: no name goes on behind its end, since a
parenthesis is no capital.
-/

namespace Worksheet.Formula.Function

open Text (NotInFront notInFront_cons takeWhile_append_of_front dropWhile_append_of_front)

/-- Whether a body is the name of a function with these arguments behind it, which begin with a
parenthesis. -/
def Calls (body : List Char) (function : Function) (args : List Char) : Prop :=
  body = function.name.toList ++ args ∧ ∃ rest, args = '(' :: rest

theorem isUpper_name (function : Function) : ∀ c ∈ function.name.toList, c.isUpper = true := by
  cases function <;> simp [name]

variable {body args : List Char} {function : Function}

theorem ofCall?_eq_some_iff : ofCall? body = some (function, args) ↔ Calls body function args := by
  constructor
  · intro h
    rw [ofCall?] at h
    split at h
    · next rest hdrop =>
      obtain ⟨found, hname, heq⟩ := Option.map_eq_some_iff.mp h
      cases heq
      have hfound := List.find?_some hname
      have hletters : function.name = String.ofList (body.takeWhile Char.isUpper) :=
        eq_of_beq hfound
      refine ⟨?_, rest, rfl⟩
      rw [hletters, String.toList_ofList, ← hdrop, List.takeWhile_append_dropWhile]
    · cases h
  · rintro ⟨rfl, rest, rfl⟩
    have hparen : NotInFront Char.isUpper ('(' :: rest) := notInFront_cons.mpr (by decide)
    simp only [ofCall?, takeWhile_append_of_front function.isUpper_name hparen,
      dropWhile_append_of_front function.isUpper_name hparen, String.ofList_toList, ofName?_name,
      Option.map_some]

/-- No body calls two functions. -/
theorem Calls.unique {other : Function} {otherArgs : List Char} (h : Calls body function args)
    (hother : Calls body other otherArgs) : function = other ∧ args = otherArgs := by
  have hfound := ofCall?_eq_some_iff.mpr h
  rw [ofCall?_eq_some_iff.mpr hother, Option.some.injEq, Prod.mk.injEq] at hfound
  exact ⟨hfound.1.symm, hfound.2.symm⟩

theorem ofCall?_cons_of_not_isUpper {c : Char} {rest : List Char} (h : c.isUpper = false) :
    ofCall? (c :: rest) = none := by
  have htake : (c :: rest).takeWhile Char.isUpper = [] := by simp [h]
  have hdrop : (c :: rest).dropWhile Char.isUpper = c :: rest := by simp [h]
  rw [ofCall?, htake, hdrop]
  split
  · rfl
  · rfl

theorem ofCall?_eq_none_iff :
    ofCall? body = none ↔ ∀ function args, ¬Calls body function args := by
  simp only [Option.eq_none_iff_forall_ne_some, Prod.forall, ne_eq, ofCall?_eq_some_iff]

end Worksheet.Formula.Function
