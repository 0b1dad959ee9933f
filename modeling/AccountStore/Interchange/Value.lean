/-
# AccountStore.Interchange.Value -- the values of record fields

A field holds a whole number, a text, a truth value or an instant, which is
written as text.  A value of another kind is refused, and the refusal tells
what stands there.
-/
import AccountStore.Interchange.Skip

namespace AccountStore.Interchange

set_option autoImplicit false

def describeNumber : Number → String
  | .whole n => s!"integer `{n}`"
  | .real x => s!"floating point `{DecimalLayout.interchange.write x}`"

/-- What a text starts with, read only as far as a refusal needs it. -/
def describe (s : List Char) : Except Fault String :=
  match s with
  | [] => .error .valueNotEnded
  | c :: r =>
      if c = 'n' then (readWord ['u', 'l', 'l'] r).map (fun _ => "null")
      else if c = 't' then (readWord ['r', 'u', 'e'] r).map (fun _ => "boolean `true`")
      else if c = 'f' then (readWord ['a', 'l', 's', 'e'] r).map (fun _ => "boolean `false`")
      else if c = '-' then (Number.read true r).map (fun p => describeNumber p.1)
      else if isDigit c then (Number.read false (c :: r)).map (fun p => describeNumber p.1)
      else if c = '"' then
        (readText r).map (fun p => "string " ++ Text.quoted (String.ofList p.1))
      else if c = '[' then .ok "sequence"
      else if c = '\x7b' then .ok "map"
      else .error .valueExpected

/-- Refuses what a text starts with. -/
def refuse {α : Type} (expected : String) (s : List Char) : Except Fault α :=
  match describe s with
  | .ok found => .error (.invalidType found expected)
  | .error e => .error e

/-- A whole number of sixty-four bits with a sign. -/
def wholeOf (p : Number × List Char) : Read Int :=
  match p.1 with
  | .whole n =>
      if n ≤ int64Max then .ok (n, p.2) else .error (.invalidValue s!"integer `{n}`" "i64")
  | .real x => .error (.invalidType (describeNumber (.real x)) "i64")

def readInteger (s : List Char) : Read Int :=
  match skipSpace s with
  | [] => .error .valueNotEnded
  | c :: r =>
      if c = '-' then (Number.read true r).bind wholeOf
      else if isDigit c then (Number.read false (c :: r)).bind wholeOf
      else refuse "i64" (c :: r)

/-- A text where `expected` is asked for. -/
def readTextAs (expected : String) (s : List Char) : Read String :=
  match skipSpace s with
  | '"' :: r => (readText r).map (fun p => (String.ofList p.1, p.2))
  | s => refuse expected s

def readString : List Char → Read String := readTextAs "a string"

def readFlag (s : List Char) : Read Bool :=
  match skipSpace s with
  | 't' :: r => (readWord ['r', 'u', 'e'] r).map (fun r => (true, r))
  | 'f' :: r => (readWord ['a', 'l', 's', 'e'] r).map (fun r => (false, r))
  | s => refuse "a boolean" s

def readInstant (s : List Char) : Read Instant :=
  match readTextAs "an RFC 3339 formatted date and time string" s with
  | .error e => .error e
  | .ok (text, rest) =>
      match Instant.parseLenient text.toList with
      | .ok t => .ok (t, rest)
      | .error e => .error (.instant e)

def writeInteger (n : Int) : List Char := (toString n).toList

def writeString (s : String) : List Char := writeText s.toList

def writeFlag (b : Bool) : List Char := if b then ['t', 'r', 'u', 'e'] else ['f', 'a', 'l', 's', 'e']

def writeInstant (t : Instant) : List Char := writeString t.interchangeText

end AccountStore.Interchange
