/-
# AccountStore.Text.Quoted -- texts in double quotes

Messages show a text between double quotes.  A quote, a backslash, and the
line feed, carriage return, tab and zero characters have two-character
escapes; a hidden character is spelt `\u{HEX}`; every other character stands
for itself.
-/
import AccountStore.Text.Hidden

namespace AccountStore.Text

set_option autoImplicit false

/-- A number below sixteen as a lower-case digit. -/
def hexDigit (n : Nat) : Char :=
  if n < 10 then Char.ofNat (n + '0'.toNat) else Char.ofNat (n - 10 + 'a'.toNat)

/-- The digits of a number in base sixteen, most significant first, at most
`fuel` of them. -/
def hexDigits : Nat → Nat → List Char
  | 0, _ => []
  | fuel + 1, n => if n < 16 then [hexDigit n] else hexDigits fuel (n / 16) ++ [hexDigit (n % 16)]

namespace Quoted

/-- One character as it stands between the quotes. -/
def escape (c : Char) : List Char :=
  match c with
  | '"' => ['\\', '"']
  | '\\' => ['\\', '\\']
  | '\n' => ['\\', 'n']
  | '\r' => ['\\', 'r']
  | '\t' => ['\\', 't']
  | '\x00' => ['\\', '0']
  | c => if isHidden c then ['\\', 'u', '\x7b'] ++ hexDigits 8 c.toNat ++ ['\x7d'] else [c]

def encode (s : List Char) : List Char := '"' :: (s.flatMap escape ++ ['"'])

end Quoted

/-- A text between double quotes, its unshowable characters escaped. -/
def quoted (s : String) : String := String.ofList (Quoted.encode s.toList)

end AccountStore.Text
