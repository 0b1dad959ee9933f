/-
# AccountStore.Interchange.Number -- numbers in JSON

A whole number that fits sixty-four bits stays whole, with zero under a minus
sign as the one exception.  Of any other number the leading digits that fit
sixty-four bits count; they are scaled by a power of ten in double precision,
so the result may be off in its last place.
-/
import AccountStore.Interchange.Fault

namespace AccountStore.Interchange

set_option autoImplicit false

inductive Number where
  | whole (n : Int)
  | real (x : Binary64)
  deriving DecidableEq, Repr

namespace Number

/-- The leading digits as long as the number stays at most `high`, how many
they are, and the rest. -/
def leading (high : Nat) : Nat → List Char → Nat × Nat × List Char
  | n, [] => (n, 0, [])
  | n, c :: r =>
      if isDigit c && decide (n * 10 + digitValue c ≤ high) then
        let (m, used, rest) := leading high (n * 10 + digitValue c) r
        (m, used + 1, rest)
      else (n, 0, c :: r)

def startsWithDigit : List Char → Bool
  | [] => false
  | c :: _ => isDigit c

def startsWithExponent : List Char → Bool
  | [] => false
  | c :: _ => c == 'e' || c == 'E'

/-- The largest power of ten that is used at once. -/
def largestPower : Nat := 308

/-- `x * 10 ^ exponent`; a large negative exponent is applied in several steps,
of which three make any number zero. -/
def scale : Nat → Binary64 → Int → Except Fault Binary64
  | 0, _, _ => .ok (Binary64.zero false)
  | fuel + 1, x, exponent =>
      if exponent.natAbs ≤ largestPower then
        let power := Binary64.ofDecimal false 1 exponent.natAbs
        if 0 ≤ exponent then
          let y := Binary64.mulMagnitude x power
          if y.isInfinite then .error .numberTooLarge else .ok y
        else .ok (Binary64.divMagnitude x power)
      else if x == Binary64.zero false then .ok x
      else if 0 ≤ exponent then .error .numberTooLarge
      else
        scale fuel (Binary64.divMagnitude x (Binary64.ofDecimal false 1 largestPower))
          (exponent + largestPower)

def ofParts (negative : Bool) (digits : Nat) (exponent : Int) (rest : List Char) : Read Number :=
  match scale 8 (Binary64.ofInt digits) exponent with
  | .ok x => .ok (.real (if negative then Binary64.neg x else x), rest)
  | .error e => .error e

/-- Exponents have at most thirty-one bits. -/
def exponentMax : Nat := 2147483647

/-- After `e`: a sign, if there is one, and digits. -/
def readExponent (negative : Bool) (digits : Nat) (exponent : Int) (s : List Char) : Read Number :=
  let (down, s) := splitSign s
  match s with
  | [] => .error .valueNotEnded
  | c :: r =>
      if isDigit c then
        let (e, _, rest) := leading exponentMax 0 (c :: r)
        if startsWithDigit rest then
          if digits != 0 && !down then .error .numberTooLarge
          else .ok (.real (Binary64.zero negative), rest.dropWhile isDigit)
        else
          let e : Int := e
          ofParts negative digits (if down then exponent - e else exponent + e) rest
      else .error .invalidNumber

/-- After the digits of a number that is not whole: an exponent or the end. -/
def readScale (negative : Bool) (digits : Nat) (exponent : Int) (s : List Char) : Read Number :=
  if startsWithExponent s then readExponent negative digits exponent (s.drop 1)
  else ofParts negative digits exponent s

/-- After the point. -/
def readFraction (negative : Bool) (digits : Nat) (exponent : Int) (s : List Char) :
    Read Number :=
  let (digits, used, rest) := leading nat64Max digits s
  if startsWithDigit rest then
    readScale negative digits (exponent - used) (rest.dropWhile isDigit)
  else if used = 0 then .error (if rest.isEmpty then .valueNotEnded else .invalidNumber)
  else readScale negative digits (exponent - used) rest

/-- After the whole digits of a number. -/
def readAfterWhole (negative : Bool) (digits : Nat) (s : List Char) : Read Number :=
  match s with
  | '.' :: r => readFraction negative digits 0 r
  | s =>
      if startsWithExponent s then readExponent negative digits 0 (s.drop 1)
      else if negative then
        if digits = 0 || int64Min.natAbs < digits then
          .ok (.real (Binary64.neg (Binary64.ofInt digits)), s)
        else .ok (.whole (-(digits : Int)), s)
      else .ok (.whole digits, s)

/-- A number whose sign is gone. -/
def read (negative : Bool) : List Char → Read Number
  | [] => .error .valueNotEnded
  | '0' :: r => if startsWithDigit r then .error .invalidNumber else readAfterWhole negative 0 r
  | c :: r =>
      if isDigit c then
        let (digits, _, rest) := leading nat64Max 0 (c :: r)
        if startsWithDigit rest then
          let dropped : Int := (rest.takeWhile isDigit).length
          match rest.dropWhile isDigit with
          | '.' :: r => readFraction negative digits dropped r
          | s => readScale negative digits dropped s
        else readAfterWhole negative digits rest
      else .error .invalidNumber

/-! Numbers that nobody looks at. -/

/-- What follows an exponent after its `e`. -/
def skipExponent (s : List Char) : Except Fault (List Char) :=
  let s := (splitSign s).2
  if startsWithDigit s then .ok (s.dropWhile isDigit) else .error .invalidNumber

/-- What follows a number after its whole digits. -/
def skipAfterWhole : List Char → Except Fault (List Char)
  | '.' :: r =>
      if startsWithDigit r then
        let s := r.dropWhile isDigit
        if startsWithExponent s then skipExponent (s.drop 1) else .ok s
      else .error .invalidNumber
  | s => if startsWithExponent s then skipExponent (s.drop 1) else .ok s

/-- What follows a number whose sign is gone. -/
def skip : List Char → Except Fault (List Char)
  | '0' :: r => if startsWithDigit r then .error .invalidNumber else skipAfterWhole r
  | s => if startsWithDigit s then skipAfterWhole (s.dropWhile isDigit) else .error .invalidNumber

end Number

end AccountStore.Interchange
