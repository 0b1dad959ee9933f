/-
# AccountStore.Decimal.Reader -- numbers read from text

`Binary64.read?` takes an optional sign, digits with at most one point and at
least one digit, and an optional exponent; or, in any case of letters, `inf`,
`infinity` and `nan`.  The result is the nearest number.  `readNat?` and
`readInt?` take an optional sign and at least one digit and refuse what does
not fit the bounds.
-/
import AccountStore.Decimal.Layout

namespace AccountStore

set_option autoImplicit false

def digitValue (c : Char) : Nat := c.toNat - '0'.toNat

def isDigit (c : Char) : Bool := '0' ≤ c && c ≤ '9'

/-- The number that the digits spell. -/
def digitsValue (cs : List Char) : Nat := cs.foldl (fun n c => n * 10 + digitValue c) 0

def asciiLower (c : Char) : Char :=
  if 'A' ≤ c && c ≤ 'Z' then Char.ofNat (c.toNat + 32) else c

def asciiLowerText (s : String) : String := String.ofList (s.toList.map asciiLower)

/-- A sign, if there is one, and the rest: `true` for minus. -/
def splitSign : List Char → Bool × List Char
  | '-' :: r => (true, r)
  | '+' :: r => (false, r)
  | r => (false, r)

namespace Binary64

/-- The exponent part: nothing at all, or `e` with a signed number. -/
def readExponent? : List Char → Option Int
  | [] => some 0
  | c :: r =>
      if asciiLower c = 'e' then
        let (negative, ds) := splitSign r
        if ds ≠ [] && ds.all isDigit then
          let n : Int := digitsValue ds
          some (if negative then -n else n)
        else none
      else none

/-- Exponents beyond these give zero or infinity whatever the digits are. -/
def clampExponent (digits : Nat) (e : Int) : Int :=
  let width : Int := digitCount digits
  max (min e 400) (-400 - width)

/-- Digits, a point, digits and an exponent, without a sign. -/
def readMagnitude? (negative : Bool) (cs : List Char) : Option Binary64 :=
  let whole := cs.takeWhile isDigit
  let rest := cs.dropWhile isDigit
  let (fraction, rest) :=
    match rest with
    | '.' :: r => (r.takeWhile isDigit, r.dropWhile isDigit)
    | r => ([], r)
  if whole = [] && fraction = [] then none
  else
    match readExponent? rest with
    | none => none
    | some e =>
        let digits := digitsValue (whole ++ fraction)
        let exponent := e - fraction.length
        some (ofDecimal negative digits (clampExponent digits exponent))

def read? (cs : List Char) : Option Binary64 :=
  let (negative, body) := splitSign cs
  let word := body.map asciiLower
  if word = ['i', 'n', 'f'] || word = ['i', 'n', 'f', 'i', 'n', 'i', 't', 'y'] then
    some (infinity negative)
  else if word = ['n', 'a', 'n'] then some (if negative then neg nan else nan)
  else readMagnitude? negative body

end Binary64

/-- An optional plus sign and digits, at most `high`. -/
def readNat? (high : Nat) (cs : List Char) : Option Nat :=
  let ds := match cs with
    | '+' :: r => r
    | r => r
  if ds = [] || !ds.all isDigit then none
  else
    let n := digitsValue ds
    if n ≤ high then some n else none

/-- An optional sign and digits, between `low` and `high`. -/
def readInt? (low high : Int) (cs : List Char) : Option Int :=
  let (negative, ds) := splitSign cs
  if ds = [] || !ds.all isDigit then none
  else
    let n : Int := if negative then -(digitsValue ds : Int) else digitsValue ds
    if low ≤ n && n ≤ high then some n else none

/-- The bounds of a signed 64-bit number. -/
def int64Min : Int := -9223372036854775808
def int64Max : Int := 9223372036854775807

/-- The largest unsigned 64-bit number. -/
def nat64Max : Nat := 18446744073709551615

end AccountStore
