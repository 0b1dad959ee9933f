/-
# AccountStore.Interchange.Skip -- values that nobody looks at

The value of a field that no record has is passed over.  Its brackets must
close in order; inside them the text is checked less strictly than elsewhere.
-/
import AccountStore.Interchange.Text
import AccountStore.Interchange.Number

namespace AccountStore.Interchange

set_option autoImplicit false

/-- The rest of a word whose first letter is gone. -/
def readWord : List Char → List Char → Except Fault (List Char)
  | [], s => .ok s
  | _ :: _, [] => .error .valueNotEnded
  | w :: ws, c :: r => if c = w then readWord ws r else .error .wordExpected

/-- An open bracket: `true` for an object. -/
abbrev Frame := Bool

/-- What a value starts with. -/
inductive Opening where
  /-- A value without brackets, and what follows it. -/
  | leaf (rest : List Char)
  | bracket (frame : Frame) (rest : List Char)
  deriving DecidableEq, Repr

def leafOf (r : Except Fault (List Char)) : Except Fault Opening := r.map Opening.leaf

def skipOpening (s : List Char) : Except Fault Opening :=
  match s with
  | [] => .error .valueNotEnded
  | c :: r =>
      if c = 'n' then leafOf (readWord ['u', 'l', 'l'] r)
      else if c = 't' then leafOf (readWord ['r', 'u', 'e'] r)
      else if c = 'f' then leafOf (readWord ['a', 'l', 's', 'e'] r)
      else if c = '-' then leafOf (Number.skip r)
      else if isDigit c then leafOf (Number.skip (c :: r))
      else if c = '"' then leafOf (skipText r)
      else if c = '[' then .ok (.bracket false r)
      else if c = '\x7b' then .ok (.bracket true r)
      else .error .valueExpected

/-- Closes brackets until a comma asks for another value, or until none is
open: then the list of brackets is empty.  `comma` tells whether a comma may
stand here. -/
def closeFrames : Bool → List Frame → List Char → Except Fault (List Frame × List Char)
  | _, [], s => .ok ([], s)
  | comma, frame :: frames, s =>
      match skipSpace s with
      | [] => .error (if frame then .objectNotEnded else .listNotEnded)
      | c :: r =>
          if c = ',' && comma then .ok (frame :: frames, r)
          else if c = (if frame then '\x7d' else ']') then closeFrames true frames r
          else if comma then .error (if frame then .objectEndExpected else .listEndExpected)
          else .ok (frame :: frames, c :: r)

/-- The key of an object's next member. -/
def skipKey (s : List Char) : Except Fault (List Char) :=
  match skipSpace s with
  | [] => .error .objectNotEnded
  | '"' :: r =>
      match skipText r with
      | .error e => .error e
      | .ok r =>
          match skipSpace r with
          | [] => .error .objectNotEnded
          | ':' :: r => .ok r
          | _ => .error .colonExpected
  | _ => .error .keyNotText

/-- Passes over a value inside the open brackets, and over all that is open. -/
def skipFrom : Nat → List Frame → List Char → Except Fault (List Char)
  | 0, _, s => .ok s
  | fuel + 1, frames, s =>
      match skipOpening (skipSpace s) with
      | .error e => .error e
      | .ok opening =>
          let step :=
            match opening with
            | .leaf rest => closeFrames true frames rest
            | .bracket frame rest => closeFrames false (frame :: frames) rest
          match step with
          | .error e => .error e
          | .ok ([], rest) => .ok rest
          | .ok (frame :: frames, rest) =>
              if frame then
                match skipKey rest with
                | .error e => .error e
                | .ok rest => skipFrom fuel (frame :: frames) rest
              else skipFrom fuel (frame :: frames) rest

/-- What follows a value. -/
def skipValue (s : List Char) : Except Fault (List Char) := skipFrom (s.length + 1) [] s

end AccountStore.Interchange
