/-
# AccountStore.Config.Toml.Text -- blanks, line ends and quoted texts in TOML

A text stands between double quotes, where a backslash starts an escape, or
between single quotes, where every character counts.  Three quotes open a text
that may run over several lines; a line end right after them is not part of it,
and up to two quotes may stand before the closing three.
-/
import AccountStore.Decimal.Reader

namespace AccountStore.Config.Toml

set_option autoImplicit false

/-- Reads something at the front of a text and gives the rest; nothing at all
when the text does not start with it. -/
abbrev Reader (α : Type) := List Char → Option (α × List Char)

def isSpace (c : Char) : Bool := c == ' ' || c == '\t'

def skipSpace (s : List Char) : List Char := s.dropWhile isSpace

/-- Tabs, and all characters from the space on save the delete character. -/
def isPlain (c : Char) : Bool := c == '\t' || (0x20 ≤ c.toNat && c.toNat != 0x7F)

/-- What follows a line end. -/
def afterNewline? : List Char → Option (List Char)
  | '\n' :: r => some r
  | '\r' :: '\n' :: r => some r
  | _ => none

/-- What follows blanks, a comment and the end of a line or of the text. -/
def afterLine? (s : List Char) : Option (List Char) :=
  let s :=
    match skipSpace s with
    | '#' :: r => r.dropWhile isPlain
    | s => s
  if s.isEmpty then some [] else afterNewline? s

/-- What follows blanks, line ends and comments; the mark tells whether the
text starts inside a comment. -/
def skipLines : Bool → List Char → List Char
  | _, [] => []
  | _, '\n' :: r => skipLines false r
  | _, '\r' :: '\n' :: r => skipLines false r
  | comment, c :: r =>
      if comment then if isPlain c then skipLines true r else c :: r
      else if isSpace c then skipLines false r
      else if c = '#' then skipLines true r
      else c :: r

/-- What follows blanks and line ends. -/
def skipBreak : List Char → List Char
  | [] => []
  | '\n' :: r => skipBreak r
  | '\r' :: '\n' :: r => skipBreak r
  | c :: r => if isSpace c then skipBreak r else c :: r

/-! Escapes. -/

def hexValue? (c : Char) : Option Nat :=
  if isDigit c then some (digitValue c)
  else
    let d := asciiLower c
    if 'a' ≤ d && d ≤ 'f' then some (d.toNat - 'a'.toNat + 10) else none

/-- The character whose number is spelt by exactly `count` digits in front. -/
def readCodePoint? (count : Nat) (s : List Char) : Option Char :=
  let digits := (s.take count).filterMap hexValue?
  if digits.length = count then
    let n := digits.foldl (fun n d => n * 16 + d) 0
    if h : n.isValidChar then some (Char.ofNatAux n h) else none
  else none

/-- What the text after a backslash stands for, and how many characters of it. -/
def readEscape? : List Char → Option (Char × Nat)
  | 'b' :: _ => some ('\x08', 1)
  | 't' :: _ => some ('\t', 1)
  | 'n' :: _ => some ('\n', 1)
  | 'f' :: _ => some ('\x0c', 1)
  | 'r' :: _ => some ('\r', 1)
  | '"' :: _ => some ('"', 1)
  | '\\' :: _ => some ('\\', 1)
  | 'u' :: r => (readCodePoint? 4 r).map (fun c => (c, 5))
  | 'U' :: r => (readCodePoint? 8 r).map (fun c => (c, 9))
  | _ => none

/-! Texts on one line. -/

/-- After a double quote. -/
def readEscaped : List Char → Option (List Char × List Char)
  | [] => none
  | c :: r =>
      if c = '"' then some ([], r)
      else if c = '\\' then
        match readEscape? r with
        | none => none
        | some (d, n) => (readEscaped (r.drop n)).map (fun p => (d :: p.1, p.2))
      else if isPlain c then (readEscaped r).map (fun p => (c :: p.1, p.2))
      else none
termination_by s => s.length
decreasing_by
  · simp only [List.length_drop, List.length_cons]
    omega
  · simp

/-- After a single quote. -/
def readLiteral : Reader (List Char)
  | [] => none
  | c :: r =>
      if c = '\'' then some ([], r)
      else if isPlain c then (readLiteral r).map (fun p => (c :: p.1, p.2))
      else none

/-! Texts over several lines. -/

/-- What follows the blanks and line ends after a backslash that ends a line. -/
def afterJoin? (s : List Char) : Option (List Char) := (afterNewline? (skipSpace s)).map skipBreak

theorem length_skipSpace_le (s : List Char) : (skipSpace s).length ≤ s.length :=
  (List.dropWhile_sublist _).length_le

theorem length_skipBreak_le (s : List Char) : (skipBreak s).length ≤ s.length := by
  fun_induction skipBreak s <;> simp_all <;> omega

theorem length_afterNewline?_lt {s r : List Char} (h : afterNewline? s = some r) :
    r.length < s.length := by
  unfold afterNewline? at h
  split at h
  · cases h
    simp
  · cases h
    exact Nat.lt_add_of_pos_right (by decide : 0 < 2)
  · cases h

theorem length_afterJoin?_lt {s r : List Char} (h : afterJoin? s = some r) :
    r.length < s.length := by
  obtain ⟨t, ht, rfl⟩ := Option.map_eq_some_iff.1 h
  have h1 := length_afterNewline?_lt ht
  have h2 := length_skipSpace_le s
  have h3 := length_skipBreak_le t
  omega

/-- After three quotes `q`. -/
def readLong (q : Char) : List Char → Option (List Char × List Char)
  | [] => none
  | c :: r =>
      if c = q then
        let quotes := c :: r.takeWhile (· == q)
        let rest := r.dropWhile (· == q)
        if quotes.length < 3 then (readLong q rest).map (fun p => (quotes ++ p.1, p.2))
        else if quotes.length ≤ 5 then some (quotes.drop 3, rest)
        else none
      else if c = '\\' && q == '"' then
        match _h : afterJoin? r with
        | some rest => readLong q rest
        | none =>
            match readEscape? r with
            | none => none
            | some (d, n) => (readLong q (r.drop n)).map (fun p => (d :: p.1, p.2))
      else if isPlain c then (readLong q r).map (fun p => (c :: p.1, p.2))
      else
        match _h : afterNewline? (c :: r) with
        | some rest => (readLong q rest).map (fun p => ('\n' :: p.1, p.2))
        | none => none
termination_by s => s.length
decreasing_by
  · have := (List.dropWhile_sublist (l := r) (· == q)).length_le
    simp only [List.length_cons]
    omega
  · have := length_afterJoin?_lt ‹_›
    simp only [List.length_cons]
    omega
  · simp only [List.length_drop, List.length_cons]
    omega
  · simp
  · exact length_afterNewline?_lt ‹_›

/-- The first line end of a long text does not count. -/
def readLongText (q : Char) (s : List Char) : Option (List Char × List Char) :=
  readLong q ((afterNewline? s).getD s)

/-- A text, quotes and all. -/
def readText : Reader (List Char)
  | '"' :: '"' :: '"' :: r => readLongText '"' r
  | '\'' :: '\'' :: '\'' :: r => readLongText '\'' r
  | '"' :: r => readEscaped r
  | '\'' :: r => readLiteral r
  | _ => none

end AccountStore.Config.Toml
