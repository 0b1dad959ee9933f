/-
# AccountStore.Decimal.Layout -- how a double-precision number is spelt

The digits come from `Binary64.shortest`; a layout only decides where the
point goes.  `plain` never uses an exponent and writes a whole number without
a point.  `exact` keeps `.0` on whole numbers and moves to an exponent outside
`1e-4` to `1e16`; `interchange` does so outside `1e-5` to `1e16`.
-/
import AccountStore.Decimal.Shortest

namespace AccountStore

set_option autoImplicit false

structure DecimalLayout where
  /-- Positional when the point stands after more than this many digits … -/
  lowPoint : Option Int
  /-- … and after at most this many. -/
  highPoint : Option Int
  /-- Whole numbers end in `.0`. -/
  pointZero : Bool
  deriving DecidableEq, Repr

namespace DecimalLayout

def plain : DecimalLayout := ⟨none, none, false⟩

def exact : DecimalLayout := ⟨some (-4), some 16, true⟩

def interchange : DecimalLayout := ⟨some (-5), some 16, true⟩

def isPositional (l : DecimalLayout) (point : Int) : Bool :=
  (match l.lowPoint with | none => true | some low => decide (low < point)) &&
    (match l.highPoint with | none => true | some high => decide (point ≤ high))

def zeros (n : Nat) : List Char := List.replicate n '0'

/-- Digits with the point after the first `point` of them. -/
def positional (l : DecimalLayout) (digits : List Char) (point : Int) : List Char :=
  if point ≤ 0 then '0' :: '.' :: (zeros point.natAbs ++ digits)
  else
    let n := point.toNat
    if digits.length ≤ n then
      digits ++ zeros (n - digits.length) ++ (if l.pointZero then ['.', '0'] else [])
    else digits.take n ++ '.' :: digits.drop n

def scientific (digits : List Char) (point : Int) : List Char :=
  (match digits with
    | [] => []
    | [d] => [d]
    | d :: rest => d :: '.' :: rest) ++ 'e' :: (toString (point - 1)).toList

/-- A decimal of at least one digit. -/
def decimal (l : DecimalLayout) (d : Decimal) : List Char :=
  let digits := Nat.toDigits 10 d.digits
  let point : Int := digits.length + d.exponent
  if d.digits = 0 then if l.pointZero then ['0', '.', '0'] else ['0']
  else if l.isPositional point then l.positional digits point
  else scientific digits point

def write (l : DecimalLayout) (x : Binary64) : String :=
  if x.isNaN then "NaN"
  else
    let sign := if x.isNegative then "-" else ""
    if x.isInfinite then sign ++ "inf"
    else sign ++ String.ofList (l.decimal x.shortest)

end DecimalLayout

end AccountStore
