/-!
# JSON values

A JSON value as it is written: numbers keep their literal, and the members of an object keep their
order and their repetitions. A text whose escapes name half of a surrogate pair spells no Unicode
text; it is kept as a value without content, because it may stand where nothing is read from it.
-/

namespace Worksheet

/-- A JSON value. -/
inductive Json where
  | null
  | boolean (value : Bool)
  | number (literal : List Char)
  | text (content : Option String)
  | array (items : List Json)
  | object (members : List (Option String × Json))

namespace Json

/-- The value of a Unicode text. -/
def ofString (content : String) : Json :=
  text (some content)

/-- The value of a natural number. -/
def ofNat (n : Nat) : Json :=
  number (Nat.toDigits 10 n)

/-- An object with Unicode names. -/
def ofMembers (members : List (String × Json)) : Json :=
  object (members.map fun (name, value) => (some name, value))

end Json

end Worksheet
