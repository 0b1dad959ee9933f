/-
# AccountStore.Instant.Reader -- instants read from text

`parseStrict` reads RFC 3339: fixed widths, four year digits, `T`, `t` or a
space between date and time, an optional fraction of any length of which nine
digits count, and an offset that is `Z` or a sign, two digits, a colon and two
digits.  `parseLenient` also takes signed years of any length, one-digit
fields, blanks around the separators and before the offset, an offset with
blanks or no colon, and `UTC`.  The first fault decides the error.
-/
import AccountStore.Instant.Written
import AccountStore.Decimal.Reader
import AccountStore.Text.Blank

namespace AccountStore

set_option autoImplicit false

namespace Instant

inductive ReadError where
  | tooShort
  | invalid
  | outOfRange
  | tooLong
  | impossible
  deriving DecidableEq, Repr

def ReadError.message : ReadError → String
  | .tooShort => "premature end of input"
  | .invalid => "input contains invalid characters"
  | .outOfRange => "input is out of range"
  | .tooLong => "trailing input"
  | .impossible => "no possible date and time matching input"

/-- A step reads a value off the front of a text. -/
abbrev Step (α : Type) := List Char → Except ReadError (α × List Char)

/-- The number of bytes of a text in UTF-8. -/
def byteLength : List Char → Nat
  | [] => 0
  | c :: r => c.utf8Size + byteLength r

/-- Exactly one given character. -/
def readChar (c : Char) : Step Unit
  | [] => .error .tooShort
  | d :: r => if d = c then .ok ((), r) else .error .invalid

/-- Exactly `n` digits, after `acc`. -/
def readDigits : Nat → Nat → Step Nat
  | 0, acc, s => .ok (acc, s)
  | n + 1, acc, s =>
      match s with
      | [] => .error .tooShort
      | c :: r => if isDigit c then readDigits n (acc * 10 + digitValue c) r else .error .invalid

/-- A fraction after its point: at least one digit, of which nine count. -/
def readFraction : Step Nat
  | [] => .error .tooShort
  | c :: r =>
      if isDigit c then
        let ds := (c :: r).takeWhile isDigit
        let counted := ds.take 9
        .ok (digitsValue counted * Nat.pow 10 (9 - counted.length), (c :: r).dropWhile isDigit)
      else .error .invalid

/-- The fraction, if the text goes on with a point. -/
def readOptionalFraction : Step Nat
  | '.' :: r => readFraction r
  | s => .ok (0, s)

/-- Two digits of an offset; fewer than two bytes are too few. -/
def readPair : Step (Char × Char)
  | [] => .error .tooShort
  | [c] => if c.utf8Size = 1 then .error .tooShort else .error .invalid
  | a :: b :: r => .ok ((a, b), r)

def readOffsetHours : Step Nat := fun s => do
  let ((a, b), r) ← readPair s
  if isDigit a && isDigit b then .ok (digitValue a * 10 + digitValue b, r) else .error .invalid

def readOffsetMinutes : Step Nat := fun s => do
  let ((a, b), r) ← readPair s
  if isDigit a && isDigit b then
    if a ≤ '5' then .ok (digitValue a * 10 + digitValue b, r) else .error .outOfRange
  else .error .invalid

/-- The sign of an offset, `true` for minus. -/
def readSign : Step Bool
  | [] => .error .tooShort
  | c :: r =>
      if c = '+' then .ok (false, r)
      else if c = '-' || c = '\u2212' then .ok (true, r)
      else .error .invalid

/-- A UTC offset in seconds, with `separator` between hours and minutes. -/
def readOffset (separator : Step Unit) : Step Int
  | 'Z' :: r => .ok (0, r)
  | 'z' :: r => .ok (0, r)
  | s => do
      let (negative, s) ← readSign s
      let (hours, s) ← readOffsetHours s
      let ((), s) ← separator s
      let (minutes, s) ← readOffsetMinutes s
      let seconds : Int := hours * 3600 + minutes * 60
      .ok (if negative then -seconds else seconds, s)

/-- The instant of a local reading, if it lies in the years an instant can
have; the shift to UTC leaves a leap second a leap second. -/
def ofLocal (r : Reading) (offset : Int) : Except ReadError Instant :=
  let local' := ofReading r
  let t : Instant := ⟨local'.seconds - offset, local'.nanos⟩
  let year := t.reading.date.year
  if Date.firstYear ≤ year && year ≤ Date.lastYear then .ok t else .error .impossible

def isTimeValid (hour minute second : Nat) : Bool :=
  hour ≤ 23 && minute ≤ 59 && second ≤ 60

/-- The largest offset of the strict form, 23:59. -/
def maxOffset : Int := 86340

/-- The character between date and time. -/
def readDateTimeMark : Step Unit
  | [] => .error .tooShort
  | c :: r => if c = 't' || c = 'T' || c = ' ' then .ok ((), r) else .error .invalid

/-- RFC 3339, nothing before and nothing after. -/
def parseStrict (s : List Char) : Except ReadError Instant :=
  if byteLength s < 19 then .error .tooShort
  else do
    let (year, s) ← readDigits 4 0 s
    let ((), s) ← readChar '-' s
    let (month, s) ← readDigits 2 0 s
    let ((), s) ← readChar '-' s
    let (day, s) ← readDigits 2 0 s
    let date : Date := ⟨year, month, day⟩
    if !date.isValid then .error .outOfRange
    else
      let ((), s) ← readDateTimeMark s
      let (hour, s) ← readDigits 2 0 s
      let ((), s) ← readChar ':' s
      let (minute, s) ← readDigits 2 0 s
      let ((), s) ← readChar ':' s
      let (second, s) ← readDigits 2 0 s
      let (nanos, s) ← readOptionalFraction s
      if !isTimeValid hour minute second then .error .outOfRange
      else
        let (offset, s) ← readOffset (readChar ':') s
        if offset < -maxOffset || maxOffset < offset then .error .outOfRange
        else if s ≠ [] then .error .tooLong
        else ofLocal ⟨date, hour, minute, second, nanos⟩ offset

/-- One to `width` digits after blanks. -/
def readNumber (width : Nat) : Step Nat := fun s =>
  match Text.trimLeft s with
  | [] => .error .tooShort
  | c :: r =>
      if isDigit c then
        let ds := (c :: r).takeWhile isDigit |>.take width
        .ok (digitsValue ds, (c :: r).drop ds.length)
      else .error .invalid

/-- A number of any length, at most `int64Max`. -/
def readLongNumber : Step Nat := fun s =>
  match s with
  | [] => .error .tooShort
  | c :: r =>
      if isDigit c then
        let n := digitsValue ((c :: r).takeWhile isDigit)
        if (n : Int) ≤ int64Max then .ok (n, (c :: r).dropWhile isDigit) else .error .outOfRange
      else .error .invalid

/-- Four digits at most, or a sign and any number of digits. -/
def readYear : Step Int := fun s => do
  let (year, rest) ← (match Text.trimLeft s with
    | '-' :: r => (readLongNumber r).map (fun (n, r) => (-(n : Int), r))
    | '+' :: r => (readLongNumber r).map (fun (n, r) => ((n : Int), r))
    | r => (readNumber 4 r).map (fun (n, r) => ((n : Int), r)))
  if -2147483648 ≤ year && year ≤ 2147483647 then .ok (year, rest) else .error .outOfRange

/-- A number of one or two digits between two bounds. -/
def readField (low high : Nat) : Step Nat := fun s => do
  let (n, r) ← readNumber 2 s
  if low ≤ n && n ≤ high then .ok (n, r) else .error .outOfRange

/-- One given character after blanks. -/
def readMark (c : Char) : Step Unit := fun s => readChar c (Text.trimLeft s)

/-- Any run of colons and blanks, also none. -/
def skipColons : Step Unit := fun s =>
  .ok ((), s.dropWhile (fun c => c = ':' || Text.isBlank c))

/-- `UTC` in any case of letters, or an offset. -/
def readZone : Step Int := fun s =>
  match s with
  | a :: b :: c :: r =>
      if asciiLower a = 'u' && asciiLower b = 't' && asciiLower c = 'c' then .ok (0, r)
      else readOffset skipColons s
  | _ => readOffset skipColons s

/-- The forgiving form. -/
def parseLenient (s : List Char) : Except ReadError Instant := do
  let (year, s) ← readYear s
  let ((), s) ← readMark '-' s
  let (month, s) ← readField 1 12 s
  let ((), s) ← readMark '-' s
  let (day, s) ← readField 1 31 s
  let ((), s) ← readDateTimeMark s
  let (hour, s) ← readField 0 23 s
  let ((), s) ← readMark ':' s
  let (minute, s) ← readField 0 59 s
  let ((), s) ← readMark ':' s
  let (second, s) ← readField 0 60 s
  let (nanos, s) ← readOptionalFraction s
  let (offset, s) ← readZone (Text.trimLeft s)
  let date : Date := ⟨year, month, day⟩
  if Text.trimLeft s ≠ [] then .error .tooLong
  else if !date.isValid then .error .outOfRange
  else if offset ≤ -secondsPerDay || secondsPerDay ≤ offset then .error .outOfRange
  else ofLocal ⟨date, hour, minute, second, nanos⟩ offset

end Instant

end AccountStore
