/-
# AccountStore.Decimal.Shortest -- the fewest digits that read back

A finite number is written with the fewest decimal digits whose nearest number
it is; of two such decimals, the one nearer to it, and the even one of two
equally near.  The search tries one digit, two digits, and so on; at every
length the only candidates are the two neighbours of the number on the grid of
that length.  The test is exact arithmetic on naturals.
-/
import AccountStore.Decimal.Binary64

namespace AccountStore

set_option autoImplicit false

/-- `digits * 10 ^ exponent`. -/
structure Decimal where
  digits : Nat
  exponent : Int
  deriving DecidableEq, Repr

namespace Binary64

/-- The reals that round to a number: `low / den` to `high / den`, around
`value / den`, the ends belonging to it when the mantissa is even. -/
structure Interval where
  low : Nat
  value : Nat
  high : Nat
  den : Nat
  closed : Bool

def Parts.interval (p : Parts) : Interval :=
  let narrow := p.mantissa = fractionSize && p.power != -1074
  let m4 := 4 * p.mantissa
  let scale := Nat.pow 2 p.power.natAbs
  let (up, down) := if p.power < 0 then (1, 4 * scale) else (scale, 4)
  { low := (m4 - if narrow then 1 else 2) * up, value := m4 * up, high := (m4 + 2) * up,
    den := down, closed := p.mantissa % 2 = 0 }

/-- `digits * 10 ^ exponent` against `a / den`, both brought to naturals. -/
def gridPoint (i : Interval) (digits : Nat) (exponent : Int) : Nat × Nat :=
  if exponent < 0 then (digits * i.den, Nat.pow 10 exponent.natAbs)
  else (digits * Nat.pow 10 exponent.natAbs * i.den, 1)

def Interval.contains (i : Interval) (digits : Nat) (exponent : Int) : Bool :=
  let (p, s) := gridPoint i digits exponent
  if i.closed then i.low * s ≤ p && p ≤ i.high * s else i.low * s < p && p < i.high * s

def Interval.distance (i : Interval) (digits : Nat) (exponent : Int) : Nat :=
  let (p, s) := gridPoint i digits exponent
  (p - i.value * s) + (i.value * s - p)

/-- The largest multiple of `10 ^ exponent` not above the value, as a count. -/
def Interval.floorAt (i : Interval) (exponent : Int) : Nat :=
  if exponent < 0 then i.value * Nat.pow 10 exponent.natAbs / i.den
  else i.value / (i.den * Nat.pow 10 exponent.natAbs)

/-- The grid point that stands for the value on one grid, if any. -/
def Interval.onGrid (i : Interval) (exponent : Int) : Option Decimal :=
  let d := i.floorAt exponent
  let below := d != 0 && i.contains d exponent
  let above := i.contains (d + 1) exponent
  match below, above with
  | false, false => none
  | true, false => some ⟨d, exponent⟩
  | false, true => some ⟨d + 1, exponent⟩
  | true, true =>
      let b := i.distance d exponent
      let a := i.distance (d + 1) exponent
      if b < a || (b = a && d % 2 = 0) then some ⟨d, exponent⟩ else some ⟨d + 1, exponent⟩

/-- Tries the grids of `tries` successive exponents, coarsest first. -/
def Interval.search (i : Interval) : Nat → Int → Option Decimal
  | 0, _ => none
  | tries + 1, exponent =>
      match i.onGrid exponent with
      | some d => some d
      | none => i.search tries (exponent - 1)

/-- A decimal without trailing zeros. -/
def Decimal.trimmed : Nat → Decimal → Decimal
  | 0, d => d
  | fuel + 1, d =>
      if d.digits != 0 && d.digits % 10 = 0 then
        Decimal.trimmed fuel ⟨d.digits / 10, d.exponent + 1⟩
      else d

/-- The number of decimal digits, one for zero. -/
def digitCount (n : Nat) : Nat := (Nat.toDigits 10 n).length

/-- An exponent at which the value has at most one digit before the point. -/
def Interval.coarsest (i : Interval) : Int :=
  (digitCount i.value : Int) - digitCount i.den + 1

/-- The shortest decimal of a finite number other than zero. -/
def shortest (x : Binary64) : Decimal :=
  if x.parts.mantissa = 0 then ⟨0, 0⟩
  else
    let i := x.parts.interval
    match i.search 24 i.coarsest with
    | some d => Decimal.trimmed 24 d
    | none => ⟨0, 0⟩

end Binary64

end AccountStore
