import Worksheet.Error
import Worksheet.Text.Digits

/-!
# Colors

A color has three channels of eight bits and is written as `#` and six hexadecimal digits.

* `Color.ofHex?` and `Color.parse` read the notation; the `#` may be left out.
* `Color.hex` writes it, with small letters.
-/

namespace Worksheet

/-- A color by its red, green and blue channels. -/
structure Color where
  red : UInt8
  green : UInt8
  blue : UInt8
deriving DecidableEq

namespace Color

/-- The color `#000000`. -/
def black : Color := ⟨0, 0, 0⟩

/-- The color `#ffffff`. -/
def white : Color := ⟨255, 255, 255⟩

/-- A channel from its two characters. The number in a channel may carry a plus sign, which
leaves room for one digit. -/
def channel? (high low : Char) : Option UInt8 :=
  if high = '+' then (Text.hexValue? low).map UInt8.ofNat
  else do return UInt8.ofNat (16 * (← Text.hexValue? high) + (← Text.hexValue? low))

/-- Reads the three channels, with or without the leading `#`. -/
def ofHex? (text : List Char) : Option Color :=
  let body := match text with
    | '#' :: rest => rest
    | _ => text
  match body with
  | [r₁, r₂, g₁, g₂, b₁, b₂] => do
    return ⟨← channel? r₁ r₂, ← channel? g₁ g₂, ← channel? b₁ b₂⟩
  | _ => none

/-- Reads a color, keeping the text that is refused. -/
def parse (text : String) : Except Error Color :=
  match ofHex? text.toList with
  | some color => .ok color
  | none => .error (.invalidColor text)

/-- The two hexadecimal digits of a channel. -/
def channelHex (channel : UInt8) : List Char :=
  Text.hexPair channel.toNat

/-- The color as `#` and six hexadecimal digits. -/
def hex (color : Color) : String :=
  String.ofList
    ('#' :: channelHex color.red ++ channelHex color.green ++ channelHex color.blue)

end Color

end Worksheet
