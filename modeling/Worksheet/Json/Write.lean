import Worksheet.Json.Basic
import Worksheet.Text.Digits

/-!
# Writing JSON

A value is written on one line without blanks, or over several lines with two blanks for each
level. In a text, the quotation mark, the backslash and the control characters are escaped, and
nothing else is.

* `Json.compact` writes one line, `Json.pretty` several.
* `Json.sortMembers` puts the members of every object in the order of their names.
-/

namespace Worksheet.Json

/-- A character inside a quoted text. -/
def escapeChar (c : Char) : List Char :=
  match c with
  | '"' => ['\\', '"']
  | '\\' => ['\\', '\\']
  | '\x08' => ['\\', 'b']
  | '\x0c' => ['\\', 'f']
  | '\n' => ['\\', 'n']
  | '\r' => ['\\', 'r']
  | '\t' => ['\\', 't']
  | _ =>
    if c.toNat < 0x20 then ['\\', 'u', '0', '0'] ++ Text.hexPair c.toNat else [c]

/-- A text between quotation marks. -/
def quote (content : String) : List Char :=
  '"' :: content.toList.flatMap escapeChar ++ ['"']

/-- A text between quotation marks; one without content is written as half a surrogate pair. -/
def quoteText : Option String → List Char
  | some content => quote content
  | none => "\"\\ud800\"".toList

/-- Joins texts, with a separator between them. -/
def joinWith (separator : List Char) : List (List Char) → List Char
  | [] => []
  | [last] => last
  | first :: others => first ++ separator ++ joinWith separator others

/-- A truth value. -/
def boolText : Bool → List Char
  | true => "true".toList
  | false => "false".toList

mutual

/-- Writes a value on one line. -/
def compactChars : Json → List Char
  | null => "null".toList
  | boolean value => boolText value
  | number literal => literal
  | text content => quoteText content
  | array items => '[' :: joinWith [','] (compactItems items) ++ [']']
  | object members => '\x7b' :: joinWith [','] (compactMembers members) ++ ['\x7d']

/-- Writes the items of an array, each on its own. -/
def compactItems : List Json → List (List Char)
  | [] => []
  | item :: items => compactChars item :: compactItems items

/-- Writes the members of an object, each on its own. -/
def compactMembers : List (Option String × Json) → List (List Char)
  | [] => []
  | (name, value) :: members =>
    (quoteText name ++ ':' :: compactChars value) :: compactMembers members

end

/-- A value on one line. -/
def compact (value : Json) : String :=
  String.ofList (compactChars value)

/-- The start of a line that is indented by a number of levels. -/
def newLine (level : Nat) : List Char :=
  '\n' :: List.replicate (2 * level) ' '

/-- Puts parts between brackets, each on a line of its own; no parts take no line. -/
def bracketed (opening closing : Char) (level : Nat) (parts : List (List Char)) : List Char :=
  if parts.isEmpty then [opening, closing]
  else
    opening :: newLine (level + 1) ++ joinWith (',' :: newLine (level + 1)) parts ++
      newLine level ++ [closing]

mutual

/-- Writes a value over several lines, from a given level of indentation. -/
def prettyChars (level : Nat) : Json → List Char
  | null => "null".toList
  | boolean value => boolText value
  | number literal => literal
  | text content => quoteText content
  | array items => bracketed '[' ']' level (prettyItems (level + 1) items)
  | object members => bracketed '\x7b' '\x7d' level (prettyMembers (level + 1) members)

/-- Writes the items of an array, each on its own. -/
def prettyItems (level : Nat) : List Json → List (List Char)
  | [] => []
  | item :: items => prettyChars level item :: prettyItems level items

/-- Writes the members of an object, each on its own. -/
def prettyMembers (level : Nat) : List (Option String × Json) → List (List Char)
  | [] => []
  | (name, value) :: members =>
    (quoteText name ++ ':' :: ' ' :: prettyChars level value) :: prettyMembers level members

end

/-- A value over several lines. -/
def pretty (value : Json) : String :=
  String.ofList (prettyChars 0 value)

/-- Whether a member may stand before another: names in code point order. -/
def memberLE (a b : Option String × Json) : Bool :=
  match a.1, b.1 with
  | none, _ => true
  | some _, none => false
  | some x, some y => !(y < x)

mutual

/-- Puts the members of every object in the order of their names. -/
def sortMembers : Json → Json
  | array items => array (sortItems items)
  | object members => object ((sortValues members).mergeSort memberLE)
  | other => other

/-- Sorts within the items of an array. -/
def sortItems : List Json → List Json
  | [] => []
  | item :: items => sortMembers item :: sortItems items

/-- Sorts within the members of an object. -/
def sortValues : List (Option String × Json) → List (Option String × Json)
  | [] => []
  | (name, value) :: members => (name, sortMembers value) :: sortValues members

end

end Worksheet.Json
