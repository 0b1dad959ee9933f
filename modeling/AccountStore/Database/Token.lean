/-
# AccountStore.Database.Token -- the words of a statement

A statement is a run of words, quoted names, texts, numbers, parameters and
marks.  Blanks and comments separate and are otherwise skipped.  Every statement
ends in a `finish`, so a reader always has a token at which to stop.  A
parameter without a number gets the number after the largest one before it.
-/
import AccountStore.Decimal.Reader

namespace AccountStore.Database

set_option autoImplicit false

inductive Token where
  | word (s : String)
  /-- A name in double quotes, back quotes or brackets. -/
  | quotedName (s : String)
  | text (s : String)
  | number (digits : String)
  | parameter (written : String) (index : Nat)
  | mark (s : String)
  /-- Characters that make no token. -/
  | unknown (s : String)
  /-- The end of a statement: a `;`, or the end of the text. -/
  | finish (marked : Bool)
  deriving DecidableEq, Repr

namespace Token

def isSpace (c : Char) : Bool :=
  c == ' ' || c == '\t' || c == '\n' || c == '\r' || c == '\x0c'

/-- Letters, `_` and everything beyond ASCII. -/
def isNameStart (c : Char) : Bool := c.isAlpha || c == '_' || decide (128 ≤ c.toNat)

def isNameChar (c : Char) : Bool := isNameStart c || isDigit c || c == '$'

/-- The text up to a closing quote, which stands twice inside, and the rest. -/
def untilQuote (quote : Char) : List Char → Option (List Char × List Char)
  | [] => none
  | [c] => if c = quote then some ([], []) else none
  | c :: d :: r =>
      if c = quote then
        if d = quote then (untilQuote quote r).map (fun p => (quote :: p.1, p.2))
        else some ([], d :: r)
      else (untilQuote quote (d :: r)).map (fun p => (c :: p.1, p.2))

/-- The quote that ends what a quote starts. -/
def closing (c : Char) : Char := if c = '[' then ']' else c

/-- The token that starts with `c`, and how many characters of the rest belong
to it. -/
def next (c : Char) (r : List Char) : Token × Nat :=
  if isNameStart c then
    let tail := r.takeWhile isNameChar
    (.word (String.ofList (c :: tail)), tail.length)
  else if isDigit c then
    let tail := r.takeWhile isNameChar
    let s := String.ofList (c :: tail)
    (if tail.all isDigit then .number s else .unknown s, tail.length)
  else if c = '?' then
    let tail := r.takeWhile isDigit
    (.parameter (String.ofList (c :: tail)) (digitsValue tail), tail.length)
  else if c = '\'' || c = '"' || c = '`' || c = '[' then
    match untilQuote (closing c) r with
    | some (s, rest) =>
        let s := String.ofList s
        (if c = '\'' then .text s else .quotedName s, r.length - rest.length)
    | none => (.unknown (String.ofList (c :: r)), r.length)
  else if c = '<' && r.head? = some '=' then (.mark "<=", 1)
  else if c = '$' || c = '@' || c = ':' || c = '#' then
    let tail := r.takeWhile isNameChar
    (.mark (String.ofList (c :: tail)), tail.length)
  else (.mark (String.singleton c), 0)

/-- How many characters there are up to the end of a `*/`, or of the text. -/
def longComment : List Char → Nat
  | [] => 0
  | c :: r => if c = '*' && r.head? = some '/' then 2 else longComment r + 1

/-- How many characters of `r` belong to the comment that starts with `c`: two
dashes and the rest of the line, or what stands between `/*` and `*/`. -/
def comment? (c : Char) (r : List Char) : Option Nat :=
  if c = '-' && r.head? = some '-' then some (r.takeWhile (· != '\n')).length
  else if c = '/' && r.head? = some '*' && 2 ≤ r.length then some (1 + longComment (r.drop 1))
  else none

/-- Every token of a text. -/
def scan : List Char → List Token
  | [] => []
  | c :: r =>
      if isSpace c then scan r
      else
        match comment? c r with
        | some n => scan (r.drop n)
        | none =>
            let t := next c r
            t.1 :: scan (r.drop t.2)
termination_by s => s.length
decreasing_by
  · simp
  all_goals
    simp only [List.length_drop, List.length_cons]
    omega

/-- Numbers the parameters that have no number of their own. -/
def numbered : Nat → List Token → List Token
  | _, [] => []
  | largest, .parameter s n :: rest =>
      let index := if n = 0 then largest + 1 else n
      .parameter s index :: numbered (max largest index) rest
  | largest, t :: rest => t :: numbered largest rest

/-- The statements of a text, each with its `finish`. -/
def statements : List Token → List (List Token)
  | [] => [[.finish false]]
  | .mark ";" :: rest => [.finish true] :: statements rest
  | t :: rest =>
      match statements rest with
      | s :: more => (t :: s) :: more
      | [] => [[t]]

def isFinish : Token → Bool
  | .finish _ => true
  | _ => false

/-- The statements of a text; empty ones are left out. -/
def ofText (s : String) : List (List Token) :=
  ((statements (scan s.toList)).filter (fun ts => !ts.all isFinish)).map (numbered 0)

/-- A token as it stands in a statement. -/
def written : Token → String
  | .word s => s
  | .quotedName s => "\"" ++ s ++ "\""
  | .text s => "'" ++ s ++ "'"
  | .number s => s
  | .parameter s _ => s
  | .mark s => s
  | .unknown s => s
  | .finish marked => if marked then ";" else ""

/-- A word, in any case of letters. -/
def isWord (t : Token) (s : String) : Bool :=
  match t with
  | .word w => asciiLowerText w == s
  | _ => false

end Token

end AccountStore.Database
