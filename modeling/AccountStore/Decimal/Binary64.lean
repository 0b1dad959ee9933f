/-
# AccountStore.Decimal.Binary64 -- double-precision numbers by their bit pattern

A number is its 64 bits: a sign, eleven bits of exponent and fifty-two bits of
fraction.  `parts` decodes a finite number to `mantissa * 2 ^ power`, and
`nearest` rounds an exact quotient of naturals to the nearest number, a tie
going to the even mantissa.  Everything is arithmetic on naturals, so a
statement about a number is a statement about its mantissa and power.
-/

namespace AccountStore

set_option autoImplicit false

structure Binary64 where
  bits : UInt64
  deriving DecidableEq, Repr, Inhabited

namespace Binary64

def fractionSize : Nat := Nat.pow 2 52

def isNegative (x : Binary64) : Bool := decide (Nat.pow 2 63 ≤ x.bits.toNat)

/-- The eleven exponent bits. -/
def exponentField (x : Binary64) : Nat := x.bits.toNat / fractionSize % 2048

def fractionField (x : Binary64) : Nat := x.bits.toNat % fractionSize

def isNaN (x : Binary64) : Bool := x.exponentField == 2047 && x.fractionField != 0

def isInfinite (x : Binary64) : Bool := x.exponentField == 2047 && x.fractionField == 0

def isFinite (x : Binary64) : Bool := x.exponentField != 2047

/-- The magnitude of a finite number is `mantissa * 2 ^ power`. -/
structure Parts where
  mantissa : Nat
  power : Int
  deriving DecidableEq, Repr

def parts (x : Binary64) : Parts :=
  if x.exponentField = 0 then ⟨x.fractionField, -1074⟩
  else ⟨fractionSize + x.fractionField, (x.exponentField : Int) - 1075⟩

def ofFields (negative : Bool) (exponent fraction : Nat) : Binary64 :=
  ⟨UInt64.ofNat ((if negative then Nat.pow 2 63 else 0) + exponent * fractionSize + fraction)⟩

def zero (negative : Bool) : Binary64 := ofFields negative 0 0

def infinity (negative : Bool) : Binary64 := ofFields negative 2047 0

def nan : Binary64 := ofFields false 2047 (Nat.pow 2 51)

/-- `num / den` rounded to a natural, a half going to the even neighbour. -/
def roundHalfEven (num den : Nat) : Nat :=
  let q := num / den
  let r := num % den
  if 2 * r < den then q
  else if den < 2 * r then q + 1
  else if q % 2 = 0 then q else q + 1

/-- `num / den` divided by `2 ^ power`, as a quotient of naturals. -/
def scaled (num den : Nat) (power : Int) : Nat × Nat :=
  if power < 0 then (num * Nat.pow 2 power.natAbs, den) else (num, den * Nat.pow 2 power.natAbs)

/-- The power of two at which the quotient has a mantissa of fifty-three bits,
never below the one of the subnormal numbers. -/
def powerFor (num den : Nat) : Int :=
  let guess : Int := (num.log2 : Int) - den.log2 - 52
  let (n, d) := scaled num den guess
  let power := if n / d < fractionSize then guess - 1 else guess
  max power (-1074)

/-- The number nearest to `num / den`. -/
def nearest (negative : Bool) (num den : Nat) : Binary64 :=
  if num = 0 || den = 0 then zero negative
  else
    let power := powerFor num den
    let (n, d) := scaled num den power
    let m := roundHalfEven n d
    let (m, power) := if m = 2 * fractionSize then (fractionSize, power + 1) else (m, power)
    if m < fractionSize then ofFields negative 0 m
    else
      let exponent := power + 1075
      if 2047 ≤ exponent then infinity negative
      else ofFields negative exponent.toNat (m - fractionSize)

/-- The number nearest to `digits * 10 ^ exponent`. -/
def ofDecimal (negative : Bool) (digits : Nat) (exponent : Int) : Binary64 :=
  if exponent < 0 then nearest negative digits (Nat.pow 10 exponent.natAbs)
  else nearest negative (digits * Nat.pow 10 exponent.natAbs) 1

def ofInt (n : Int) : Binary64 := nearest (decide (n < 0)) n.natAbs 1

/-- The magnitude of a finite number, as a quotient of naturals. -/
def magnitude (x : Binary64) : Nat × Nat :=
  let p := x.parts
  if p.power < 0 then (p.mantissa, Nat.pow 2 p.power.natAbs) else (p.mantissa * Nat.pow 2 p.power.natAbs, 1)

def neg (x : Binary64) : Binary64 := ⟨x.bits ^^^ 0x8000000000000000⟩

/-- The sum of the magnitudes of two finite numbers, rounded once. -/
def addMagnitude (x y : Binary64) : Binary64 :=
  let (a, b) := x.magnitude
  let (c, d) := y.magnitude
  nearest false (a * d + c * b) (b * d)

/-- By how much the first magnitude exceeds the second, rounded once; zero if
it does not. -/
def subMagnitude (x y : Binary64) : Binary64 :=
  let (a, b) := x.magnitude
  let (c, d) := y.magnitude
  nearest false (a * d - c * b) (b * d)

/-- Magnitudes compare as their bits do. -/
def ltMagnitude (x y : Binary64) : Bool :=
  x.bits.toNat % Nat.pow 2 63 < y.bits.toNat % Nat.pow 2 63

/-- The product of the magnitudes of two finite numbers, rounded once. -/
def mulMagnitude (x y : Binary64) : Binary64 :=
  let (a, b) := x.magnitude
  let (c, d) := y.magnitude
  nearest false (a * c) (b * d)

/-- The quotient of the magnitudes of two finite numbers, rounded once. -/
def divMagnitude (x y : Binary64) : Binary64 :=
  let (a, b) := x.magnitude
  let (c, d) := y.magnitude
  nearest false (a * d) (b * c)

end Binary64

end AccountStore
