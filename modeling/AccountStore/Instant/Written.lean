/-
# AccountStore.Instant.Written -- instants as text

Both written forms are RFC 3339 in UTC with the suffix `Z`.  The stored form
always has nine fraction digits, so that for years 0 to 9999 every text has
thirty bytes and texts sort as their instants do.  The interchange form has as
many groups of three fraction digits as the nanoseconds need.  A year outside
0 to 9999 has a sign and at least four digits in both.
-/
import AccountStore.Instant.Basic

namespace AccountStore

set_option autoImplicit false

/-- The decimal digits of a number, at least `width` of them. -/
def paddedDigits (width n : Nat) : List Char :=
  let ds := Nat.toDigits 10 n
  List.replicate (width - ds.length) '0' ++ ds

namespace Instant

def yearText (year : Int) : List Char :=
  if 0 ≤ year && year ≤ 9999 then paddedDigits 4 year.toNat
  else (if year < 0 then '-' else '+') :: paddedDigits 4 year.natAbs

/-- Date and time of day down to the second. -/
def Reading.text (r : Reading) : List Char :=
  yearText r.date.year ++ '-' :: paddedDigits 2 r.date.month ++ '-' :: paddedDigits 2 r.date.day ++
    'T' :: paddedDigits 2 r.hour ++ ':' :: paddedDigits 2 r.minute ++ ':' :: paddedDigits 2 r.second

/-- The text of an instant in the database. -/
def storedChars (t : Instant) : List Char :=
  let r := t.reading
  r.text ++ '.' :: paddedDigits 9 r.nanos ++ ['Z']

def storedText (t : Instant) : String := String.ofList t.storedChars

def fractionText (nanos : Nat) : List Char :=
  if nanos = 0 then []
  else if nanos % 1000000 = 0 then '.' :: paddedDigits 3 (nanos / 1000000)
  else if nanos % 1000 = 0 then '.' :: paddedDigits 6 (nanos / 1000)
  else '.' :: paddedDigits 9 nanos

/-- The text of an instant in JSON. -/
def interchangeText (t : Instant) : String :=
  let r := t.reading
  String.ofList (r.text ++ fractionText r.nanos ++ ['Z'])

end Instant

end AccountStore
