/-
# AccountStore.Config.Toml.Word -- numbers, truth values and dates in TOML

These values are words: runs of letters, digits and the signs that occur in
numbers and dates.  A word is a value as a whole or not at all.  Only between a
date and a time a blank may stand.

Underscores may separate digits.  A whole number must fit sixty-four bits; a
decimal number above the largest double-precision one is refused, while one
below the smallest becomes infinite.  A date becomes a table of one entry,
under a key that no setting has.
-/
import AccountStore.Config.Value
import AccountStore.Config.Toml.Text
import AccountStore.Instant.Calendar

namespace AccountStore.Config.Toml

set_option autoImplicit false

def isWordChar (c : Char) : Bool :=
  c.isAlphanum || c == '_' || c == '+' || c == '-' || c == '.' || c == ':'

/-- The digits of a number; single underscores may stand between two of them. -/
def ungroup? (p : Char → Bool) : List Char → Option (List Char)
  | [] => none
  | [c] => if p c then some [c] else none
  | c :: '_' :: r => if p c then (ungroup? p r).map (c :: ·) else none
  | c :: r => if p c then (ungroup? p r).map (c :: ·) else none

/-- Decimal digits without leading zeros. -/
def wholeDigits? (s : List Char) : Option (List Char) :=
  match ungroup? isDigit s with
  | some ['0'] => some ['0']
  | some ('0' :: _) => none
  | ds => ds

/-- A sign in front, if there is one. -/
def signOf : List Char → List Char
  | '+' :: _ => ['+']
  | '-' :: _ => ['-']
  | _ => []

/-- A whole number in a base other than ten has no sign. -/
def readBased? (base : Nat) (s : List Char) : Option Value :=
  let inBase (c : Char) : Bool := match hexValue? c with | some d => d < base | none => false
  match ungroup? inBase s with
  | none => none
  | some ds =>
      let n := (ds.filterMap hexValue?).foldl (fun n d => n * base + d) 0
      if (n : Int) ≤ int64Max then some (.signed n) else none

def readWhole? (s : List Char) : Option Value :=
  match wholeDigits? (s.drop (signOf s).length) with
  | none => none
  | some ds => (readInt? int64Min int64Max (signOf s ++ ds)).map Value.signed

/-- The part after the point, point included; empty where there is none. -/
def fractionDigits? : List Char → Option (List Char)
  | [] => some []
  | _ :: s => (ungroup? isDigit s).map ('.' :: ·)

/-- The exponent, its letter included; empty where there is none. -/
def exponentDigits? : List Char → Option (List Char)
  | [] => some []
  | c :: s =>
      if c = 'e' || c = 'E' then
        (ungroup? isDigit (s.drop (signOf s).length)).map (fun ds => 'e' :: (signOf s ++ ds))
      else none

def isGroupChar (c : Char) : Bool := isDigit c || c == '_'

/-- A number with a point, an exponent or both. -/
def readDecimal? (s : List Char) : Option Value :=
  let body := s.drop (signOf s).length
  let rest := body.dropWhile isGroupChar
  let point := rest.takeWhile (· == '.')
  let fraction := if point.isEmpty then [] else '.' :: (rest.drop 1).takeWhile isGroupChar
  let exponent := rest.drop fraction.length
  if fraction.isEmpty && exponent.isEmpty then none
  else
    match wholeDigits? (body.takeWhile isGroupChar), fractionDigits? fraction,
        exponentDigits? exponent with
    | some w, some f, some e =>
        match Binary64.read? (signOf s ++ w ++ f ++ e) with
        | some x => if x == Binary64.infinity false then none else some (.real x)
        | none => none
    | _, _, _ => none

/-- Infinity and the number that is none, with or without a sign. -/
def readSpecial? (s : List Char) : Option Value :=
  let body := s.drop (signOf s).length
  if body = ['i', 'n', 'f'] || body = ['n', 'a', 'n'] then (Binary64.read? s).map Value.real
  else none

def readNumber? (s : List Char) : Option Value :=
  match s with
  | '0' :: 'x' :: r => readBased? 16 r
  | '0' :: 'o' :: r => readBased? 8 r
  | '0' :: 'b' :: r => readBased? 2 r
  | s => readSpecial? s <|> readDecimal? s <|> readWhole? s

/-! Dates. -/

/-- The number of exactly two digits, if it lies between the bounds. -/
def twoDigits? (low high : Nat) : List Char → Option Nat
  | [a, b] =>
      let n := digitsValue [a, b]
      if isDigit a && isDigit b && low ≤ n && n ≤ high then some n else none
  | _ => none

def isDate (s : List Char) : Bool :=
  match s with
  | [a, b, c, d, '-', m, n, '-', p, q] =>
      match twoDigits? 1 12 [m, n] with
      | some month =>
          [a, b, c, d].all isDigit &&
            (twoDigits? 1 (Date.daysInMonth (digitsValue [a, b, c, d]) month) [p, q]).isSome
      | none => false
  | _ => false

/-- What follows a time of day; its seconds may have a fraction. -/
def afterTime? (s : List Char) : Option (List Char) :=
  match s with
  | a :: b :: ':' :: c :: d :: ':' :: e :: f :: r =>
      if (twoDigits? 0 23 [a, b]).isSome && (twoDigits? 0 59 [c, d]).isSome &&
          (twoDigits? 0 60 [e, f]).isSome then
        match r with
        | '.' :: r => if (r.takeWhile isDigit).isEmpty then none else some (r.dropWhile isDigit)
        | r => some r
      else none
  | _ => none

def isOffset (s : List Char) : Bool :=
  match s with
  | [c] => c == 'Z' || c == 'z'
  | [sign, a, b, ':', c, d] =>
      (sign == '+' || sign == '-') && (twoDigits? 0 23 [a, b]).isSome &&
        (twoDigits? 0 59 [c, d]).isSome
  | _ => false

def isTime (s : List Char) : Bool := afterTime? s == some []

/-- A time of day with or without an offset. -/
def isZonedTime (s : List Char) : Bool :=
  match afterTime? s with
  | some r => r.isEmpty || isOffset r
  | none => false

def isMoment (s : List Char) : Bool :=
  isDate s || isTime s ||
    (isDate (s.take 10) &&
      match s.drop 10 with
      | c :: r => (c == 'T' || c == 't') && isZonedTime r
      | [] => false)

def momentKey : String := "$__toml_private_datetime"

def moment (s : List Char) : Value := .table [(momentKey, .text (String.ofList s))]

/-! Words. -/

def readWord? (s : List Char) : Option Value :=
  if s = ['t', 'r', 'u', 'e'] then some (.truth true)
  else if s = ['f', 'a', 'l', 's', 'e'] then some (.truth false)
  else if isMoment s then some (moment s)
  else readNumber? s

/-- A word at the front; after a date, a blank and a time belong to it. -/
def readWord : Reader Value := fun s =>
  let word := s.takeWhile isWordChar
  let rest := s.dropWhile isWordChar
  let time := (rest.drop 1).takeWhile isWordChar
  if isDate word && rest.head? == some ' ' && isZonedTime time then
    some (moment (word ++ ' ' :: time), rest.drop (1 + time.length))
  else (readWord? word).map (fun v => (v, rest))

end AccountStore.Config.Toml
