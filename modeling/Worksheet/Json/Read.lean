import Worksheet.Json.Basic
import Worksheet.Text.Digits

/-!
# Reading JSON

The reader follows the JSON grammar: blanks are spaces, tabs and line ends; numbers have no
leading zeros; texts hold no raw control characters; nothing may follow the value.

* The leaves come first: `natural?`, `number?`, `text?`.
* `value?` reads any value, `Json.parse` a whole text.
-/

namespace Worksheet.Json

/-- Whether a character is a blank between values. -/
def isBlank (c : Char) : Bool :=
  c == ' ' || c == '\t' || c == '\n' || c == '\r'

/-- Removes the blanks at the front. -/
def skip (input : List Char) : List Char :=
  input.dropWhile isBlank

/-! ## Numbers -/

/-- Splits off digits, at least one. -/
def digits? (input : List Char) : Option (List Char × List Char) :=
  let (digits, rest) := Text.spanDigits input
  if digits.isEmpty then none else some (digits, rest)

/-- Splits off the digits of a whole number, which begin with zero only if that is all. -/
def natural? : List Char → Option (List Char × List Char)
  | '0' :: rest =>
    match rest with
    | c :: _ => if c.isDigit then none else some (['0'], rest)
    | [] => some (['0'], [])
  | input => digits? input

/-- Splits off a fraction, if a point begins one. -/
def fraction? : List Char → Option (List Char × List Char)
  | '.' :: rest => (digits? rest).map fun (digits, rest) => ('.' :: digits, rest)
  | input => some ([], input)

/-- Splits off an exponent, if the letter `e` begins one. -/
def exponent? : List Char → Option (List Char × List Char)
  | [] => some ([], [])
  | mark :: rest =>
    if mark == 'e' || mark == 'E' then
      let (sign, afterSign) := Text.spanSign rest
      (digits? afterSign).map fun (digits, rest) => (mark :: sign ++ digits, rest)
    else some ([], mark :: rest)

/-- Splits off a number without its sign. -/
def magnitude? (input : List Char) : Option (List Char × List Char) := do
  let (whole, rest) ← natural? input
  let (fraction, rest) ← fraction? rest
  let (exponent, rest) ← exponent? rest
  return (whole ++ fraction ++ exponent, rest)

/-- Splits off a number. -/
def number? : List Char → Option (List Char × List Char)
  | '-' :: rest => (magnitude? rest).map fun (literal, rest) => ('-' :: literal, rest)
  | input => magnitude? input

/-! ## Texts -/

/-- A part of a quoted text: a character, or a sixteen-bit code given by an escape. -/
inductive TextUnit where
  | char (c : Char)
  | code (n : Nat)
deriving DecidableEq

/-- The code of four hexadecimal digits. -/
def code? (a b c d : Char) : Option Nat := do
  let high := (← Text.hexValue? a) * 16 + (← Text.hexValue? b)
  let low := (← Text.hexValue? c) * 16 + (← Text.hexValue? d)
  return high * 256 + low

/-- The character of a one-letter escape. -/
def escaped? : Char → Option Char
  | '"' => some '"'
  | '\\' => some '\\'
  | '/' => some '/'
  | 'b' => some '\x08'
  | 'f' => some '\x0c'
  | 'n' => some '\n'
  | 'r' => some '\r'
  | 't' => some '\t'
  | _ => none

/-- Reads a quoted text from behind its first quotation mark to behind its last. -/
def textUnits? : List Char → Option (List TextUnit × List Char)
  | [] => none
  | '"' :: rest => some ([], rest)
  | '\\' :: 'u' :: a :: b :: c :: d :: rest => do
    let n ← code? a b c d
    let (units, rest) ← textUnits? rest
    return (.code n :: units, rest)
  | '\\' :: letter :: rest => do
    let c ← escaped? letter
    let (units, rest) ← textUnits? rest
    return (.char c :: units, rest)
  | c :: rest =>
    if c.toNat < 0x20 then none
    else do
      let (units, rest) ← textUnits? rest
      return (.char c :: units, rest)

/-- Whether a code is the first half of a surrogate pair. -/
def isHighSurrogate (n : Nat) : Bool :=
  0xD800 ≤ n && n < 0xDC00

/-- Whether a code is the second half of a surrogate pair. -/
def isLowSurrogate (n : Nat) : Bool :=
  0xDC00 ≤ n && n < 0xE000

/-- The characters of a text, unless half of a surrogate pair stands alone. -/
def assemble? : List TextUnit → Option (List Char)
  | [] => some []
  | .char c :: rest => (assemble? rest).map (c :: ·)
  | .code high :: .code low :: rest =>
    if isHighSurrogate high then
      if isLowSurrogate low then
        let c := Char.ofNat (0x10000 + (high - 0xD800) * 0x400 + (low - 0xDC00))
        (assemble? rest).map (c :: ·)
      else none
    else if isLowSurrogate high then none
    else (assemble? (.code low :: rest)).map (Char.ofNat high :: ·)
  | .code n :: rest =>
    if isHighSurrogate n || isLowSurrogate n then none
    else (assemble? rest).map (Char.ofNat n :: ·)

/-- Reads a quoted text from behind its first quotation mark. -/
def text? (input : List Char) : Option (Option String × List Char) :=
  (textUnits? input).map fun (units, rest) => ((assemble? units).map String.ofList, rest)

/-! ## Values -/

/-- Reads one of the three words, or a number. -/
def scalar? (input : List Char) : Option (Json × List Char) :=
  let word := fun (spelling : List Char) => spelling.isPrefixOf input
  if word "null".toList then some (null, input.drop 4)
  else if word "true".toList then some (boolean true, input.drop 4)
  else if word "false".toList then some (boolean false, input.drop 5)
  else (number? input).map fun (literal, rest) => (number literal, rest)

mutual

/-- Reads a value; `bound` bounds the number of steps into the value. -/
def value? (bound : Nat) (input : List Char) : Option (Json × List Char) :=
  match bound with
  | 0 => none
  | bound + 1 =>
    match skip input with
    | '"' :: rest => (text? rest).map fun (content, rest) => (text content, rest)
    | '[' :: rest =>
      match skip rest with
      | ']' :: rest => some (array [], rest)
      | _ => (items? bound rest).map fun (items, rest) => (array items, rest)
    | '\x7b' :: rest =>
      match skip rest with
      | '\x7d' :: rest => some (object [], rest)
      | _ => (members? bound rest).map fun (members, rest) => (object members, rest)
    | other => scalar? other

/-- Reads the items of an array, at least one, and its closing bracket. -/
def items? (bound : Nat) (input : List Char) : Option (List Json × List Char) :=
  match bound with
  | 0 => none
  | bound + 1 => do
    let (item, rest) ← value? bound input
    match skip rest with
    | ',' :: rest =>
      let (items, rest) ← items? bound rest
      return (item :: items, rest)
    | ']' :: rest => return ([item], rest)
    | _ => none

/-- Reads the members of an object, at least one, and its closing brace. -/
def members? (bound : Nat) (input : List Char) :
    Option (List (Option String × Json) × List Char) :=
  match bound with
  | 0 => none
  | bound + 1 =>
    match skip input with
    | '"' :: rest => do
      let (name, rest) ← text? rest
      match skip rest with
      | ':' :: rest =>
        let (value, rest) ← value? bound rest
        match skip rest with
        | ',' :: rest =>
          let (members, rest) ← members? bound rest
          return ((name, value) :: members, rest)
        | '\x7d' :: rest => return ([(name, value)], rest)
        | _ => none
      | _ => none
    | _ => none

end

/-- Reads a text that is one value. Every step into a value takes a character or follows one. -/
def parse (input : String) : Option Json := do
  let chars := input.toList
  let (value, rest) ← value? (2 * chars.length + 2) chars
  if (skip rest).isEmpty then return value else none

end Worksheet.Json
