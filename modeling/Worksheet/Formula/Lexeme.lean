import Worksheet.Formula.Symbol
import Worksheet.Number.Literal
import Worksheet.Text.Blank

/-!
# Lexemes

An expression is cut into lexemes: symbols, decimal literals, names, and stray characters that
the grammar has no use for. Blanks separate lexemes and belong to none.

* `Lexeme.cut?` cuts the longest lexeme off the front of a text; `cut?_append` and
  `text_ne_nil_of_cut?` say that nothing is lost and that something is taken.
* `lexemes` cuts a whole text.
-/

namespace Worksheet.Formula

/-- A piece of an expression. -/
inductive Lexeme where
  | symbol (symbol : Symbol)
  | number (text : List Char)
  | name (text : List Char)
  | stray (c : Char)
deriving DecidableEq

namespace Lexeme

/-- The characters of a lexeme. -/
def text : Lexeme → List Char
  | symbol s => s.spelling
  | number t => t
  | name t => t
  | stray c => [c]

/-- Whether a name can begin with the character: an ASCII letter or an underscore. -/
def beginsName (c : Char) : Bool :=
  c.isAlpha || c == '_'

/-- Whether a name can go on with the character: an ASCII letter, a digit or an underscore. -/
def continuesName (c : Char) : Bool :=
  c.isAlphanum || c == '_'

/-- Cuts the longest lexeme off the front of a text that does not begin with a blank. -/
def cut? : List Char → Option (Lexeme × List Char)
  | [] => none
  | c :: rest =>
    match Symbol.cut? (c :: rest) with
    | some (s, rest) => some (symbol s, rest)
    | none =>
      match Number.Literal.cut? (c :: rest) with
      | some (literal, rest) => some (number literal, rest)
      | none =>
        if beginsName c then
          some (name (c :: rest.takeWhile continuesName), rest.dropWhile continuesName)
        else some (stray c, rest)

theorem cut?_append {input rest : List Char} {lexeme : Lexeme}
    (h : cut? input = some (lexeme, rest)) : lexeme.text ++ rest = input := by
  fun_cases cut? input <;> simp_all [cut?]
  all_goals obtain ⟨rfl, rfl⟩ := h
  · exact Symbol.cut?_append ‹_›
  · exact Number.Literal.cut?_append ‹_›
  all_goals simp [text]

theorem text_ne_nil_of_cut? {input rest : List Char} {lexeme : Lexeme}
    (h : cut? input = some (lexeme, rest)) : lexeme.text ≠ [] := by
  fun_cases cut? input <;> simp_all [cut?]
  all_goals obtain ⟨rfl, rfl⟩ := h
  · exact Symbol.spelling_ne_nil _
  · exact Number.Literal.cut?_ne_nil ‹_›
  all_goals simp [text]

theorem length_lt_of_cut? {input rest : List Char} {lexeme : Lexeme}
    (h : cut? input = some (lexeme, rest)) : rest.length < input.length := by
  have happend := congrArg List.length (cut?_append h)
  have hpos := List.length_pos_iff.mpr (text_ne_nil_of_cut? h)
  simp only [List.length_append] at happend
  omega

end Lexeme

/-- Cuts a text into lexemes, leaving out the blanks. -/
def lexemes (input : List Char) : List Lexeme :=
  match _hcut : Lexeme.cut? (Text.trimStart input) with
  | none => []
  | some (lexeme, rest) => lexeme :: lexemes rest
termination_by input.length
decreasing_by
  have hcut := Lexeme.length_lt_of_cut? _hcut
  have htrim := (List.dropWhile_sublist Text.isBlank (l := input)).length_le
  unfold Text.trimStart at hcut
  omega

end Worksheet.Formula
