/-
# AccountStore.Interchange.Text -- texts between quotes

Inside the quotes a backslash starts an escape, and control characters must be
escaped.  An escape with four hexadecimal digits stands for a UTF-16 unit; two
of them in a row may stand for one character.
-/
import AccountStore.Interchange.Fault

namespace AccountStore.Interchange

set_option autoImplicit false

/-- What a character after a backslash stands for. -/
def simpleEscape? : Char → Option Char
  | '"' => some '"'
  | '\\' => some '\\'
  | '/' => some '/'
  | 'b' => some '\x08'
  | 'f' => some '\x0c'
  | 'n' => some '\n'
  | 'r' => some '\r'
  | 't' => some '\t'
  | _ => none

def hexValue? (c : Char) : Option Nat :=
  if isDigit c then some (digitValue c)
  else if 'a' ≤ c && c ≤ 'f' then some (c.toNat - 'a'.toNat + 10)
  else if 'A' ≤ c && c ≤ 'F' then some (c.toNat - 'A'.toNat + 10)
  else none

/-- The number that four hexadecimal digits at the front spell. -/
def hexUnit (s : List Char) : Except Fault Nat :=
  match s.take 4 with
  | [a, b, c, d] =>
      match hexValue? a, hexValue? b, hexValue? c, hexValue? d with
      | some a, some b, some c, some d => .ok (((a * 16 + b) * 16 + c) * 16 + d)
      | _, _, _, _ => .error .invalidEscape
  | _ => if Instant.byteLength s < 4 then .error .textNotEnded else .error .invalidEscape

def isLowSurrogate (n : Nat) : Bool := 0xDC00 ≤ n && n ≤ 0xDFFF

def isHighSurrogate (n : Nat) : Bool := 0xD800 ≤ n && n ≤ 0xDBFF

/-- The character of an escape after `\u`, and how many characters it takes. -/
def unicodeEscape (s : List Char) : Except Fault (Char × Nat) :=
  match hexUnit s with
  | .error e => .error e
  | .ok n =>
      if isLowSurrogate n then .error .loneSurrogate
      else if !isHighSurrogate n then .ok (Char.ofNat n, 4)
      else
        match s.drop 4 with
        | [] => .error .textNotEnded
        | ['\\'] => .error .textNotEnded
        | '\\' :: 'u' :: r =>
            match hexUnit r with
            | .error e => .error e
            | .ok m =>
                if isLowSurrogate m then
                  .ok (Char.ofNat ((n - 0xD800) * 1024 + (m - 0xDC00) + 0x10000), 10)
                else .error .loneSurrogate
        | _ => .error .surrogateNotEnded

/-- The character of an escape after the backslash, and how many characters it
takes. -/
def escapedChar : List Char → Except Fault (Char × Nat)
  | [] => .error .textNotEnded
  | c :: r =>
      if c = 'u' then (unicodeEscape r).map (fun p => (p.1, p.2 + 1))
      else
        match simpleEscape? c with
        | some d => .ok (d, 1)
        | none => .error .invalidEscape

/-- A text after its opening quote. -/
def readText : List Char → Read (List Char)
  | [] => .error .textNotEnded
  | c :: r =>
      if c = '"' then .ok ([], r)
      else if c = '\\' then
        match escapedChar r with
        | .error e => .error e
        | .ok (d, n) => (readText (r.drop n)).map (fun p => (d :: p.1, p.2))
      else if c.toNat < 32 then .error .controlCharacter
      else (readText r).map (fun p => (c :: p.1, p.2))
termination_by s => s.length
decreasing_by
  · simp only [List.length_drop, List.length_cons]
    omega
  · simp

/-- How many characters an escape takes in a text that nobody looks at: there
any four hexadecimal digits will do. -/
def skippedEscape : List Char → Except Fault Nat
  | [] => .error .textNotEnded
  | c :: r =>
      if c = 'u' then (hexUnit r).map (fun _ => 5)
      else
        match simpleEscape? c with
        | some _ => .ok 1
        | none => .error .invalidEscape

/-- What follows a text whose opening quote is gone. -/
def skipText : List Char → Except Fault (List Char)
  | [] => .error .textNotEnded
  | c :: r =>
      if c = '"' then .ok r
      else if c = '\\' then
        match skippedEscape r with
        | .error e => .error e
        | .ok n => skipText (r.drop n)
      else if c.toNat < 32 then .error .controlCharacter
      else skipText r
termination_by s => s.length
decreasing_by
  · simp only [List.length_drop, List.length_cons]
    omega
  · simp

/-- One character as it is written between quotes. -/
def writeChar (c : Char) : List Char :=
  match c with
  | '"' => ['\\', '"']
  | '\\' => ['\\', '\\']
  | '\x08' => ['\\', 'b']
  | '\x0c' => ['\\', 'f']
  | '\n' => ['\\', 'n']
  | '\r' => ['\\', 'r']
  | '\t' => ['\\', 't']
  | c =>
      if c.toNat < 32 then
        ['\\', 'u', '0', '0', Text.hexDigit (c.toNat / 16), Text.hexDigit (c.toNat % 16)]
      else [c]

def writeText (s : List Char) : List Char := '"' :: (s.flatMap writeChar ++ ['"'])

end AccountStore.Interchange
