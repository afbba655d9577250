import Swagger.Text.Printable

/-! # Quoted text in messages
Text between double quotes, with escapes for whatever would not show as itself.

* `quotedChar` — one character: as it is if printable, else by a short escape or its code point.
* `quoted` — a text; a single quote needs no escape. -/

namespace Swagger

namespace Text

/-- The lower-case hexadecimal digits of a number. -/
def hexDigits (n : Nat) : List Char := (Nat.toDigits 16 n).map Char.toLower

/-- One character between double quotes. -/
def quotedChar (c : Char) : List Char :=
  match c with
  | '\x00' => ['\x5c', '0']
  | '\t' => ['\x5c', 't']
  | '\r' => ['\x5c', 'r']
  | '\n' => ['\x5c', 'n']
  | '\x22' => ['\x5c', '\x22']
  | '\x5c' => ['\x5c', '\x5c']
  | c =>
    if 0x20 ≤ c.toNat ∧ c.toNat < 0x7f then [c]
    else if isPrintable c then [c]
    else '\x5c' :: 'u' :: '\x7b' :: (hexDigits c.toNat ++ ['\x7d'])

/-- A text between double quotes. -/
def quoted (s : String) : String :=
  String.ofList ('\x22' :: (s.toList.flatMap quotedChar ++ ['\x22']))

end Text

end Swagger
