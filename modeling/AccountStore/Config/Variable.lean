/-
# AccountStore.Config.Variable -- values in environment variables

A variable holds a value in a notation of its own: a truth value, a number, a
text between double quotes, a character between single quotes, a list in
brackets, or a table in braces.  Anything else is a text without quotes, its
outer blanks aside.  A variable that breaks the notation is a text as it
stands.
-/
import AccountStore.Config.Toml.Text
import AccountStore.Config.Value
import AccountStore.Text.Blank

namespace AccountStore.Config.Variable

set_option autoImplicit false

abbrev Reader (α : Type) := List Char → Option (α × List Char)

def isSpace (c : Char) : Bool :=
  c == ' ' || c == '\t' || c == '\n' || c == '\r' || c == '\x0c'

def skipSpace (s : List Char) : List Char := s.dropWhile isSpace

/-- Characters of a text without quotes. -/
def isUnquoted (c : Char) : Bool := !(c == ',' || c == '\x7b' || c == '\x7d' || c == '[' || c == ']')

def isKeyChar (c : Char) : Bool := c.isAlphanum || c == '_' || c == '-'

/-- A number with a point is a decimal number; a whole number has no sign if it
can do without. -/
def ofUnquoted (s : List Char) : Value :=
  match (if s.contains '.' then Binary64.read? s else none) with
  | some x => .real x
  | none =>
      match readNat? nat64Max s with
      | some n => .unsigned n
      | none =>
          match readInt? int64Min int64Max s with
          | some n => .signed n
          | none => .text (String.ofList s)

/-- Values with commas between them, up to the closing bracket; a comma may
stand last. -/
def readItems {α : Type} (closing : Char) (item : Reader α) : Nat → Reader (List α)
  | 0, _ => none
  | fuel + 1, s =>
      match s with
      | [] => none
      | c :: r =>
          if c = closing then some ([], r)
          else
            match item (c :: r) with
            | some (v, d :: r) =>
                if d = ',' then (readItems closing item fuel r).map (fun p => (v :: p.1, p.2))
                else if d = closing then some ([v], r)
                else none
            | _ => none

def readQuoted : Reader String
  | '"' :: r => (Toml.readEscaped r).map (fun p => (String.ofList p.1, p.2))
  | _ => none

def readKey : Reader String := fun s =>
  if s.head? == some '"' then readQuoted s
  else
    let key := s.takeWhile isKeyChar
    if key.isEmpty then none else some (String.ofList key, s.dropWhile isKeyChar)

def readPair (value : Reader Value) : Reader (String × Value) := fun s =>
  match readKey (skipSpace s) with
  | none => none
  | some (key, s) =>
      match skipSpace s with
      | '=' :: r => (value (skipSpace r)).map (fun p => ((key, p.1), skipSpace p.2))
      | _ => none

/-- The later of two values under one key counts. -/
def tableOf (pairs : List (String × Value)) : Entries Value :=
  pairs.foldl (fun t p => t.put p.1 p.2) []

def afterWord? (word : String) (s : List Char) : Option (List Char) :=
  if word.toList.isPrefixOf s then some (s.drop word.length) else none

/-- A value without the blanks around it; `value` reads those inside brackets. -/
def readBody (value : Reader Value) (s : List Char) : Option (Value × List Char) :=
  match afterWord? "true" s, afterWord? "false" s with
  | some r, _ => some (.truth true, r)
  | _, some r => some (.truth false, r)
  | none, none =>
      match s with
      | '\x7b' :: r =>
          (readItems '\x7d' (readPair value) (r.length + 1) r).map
            (fun p => (.table (tableOf p.1), p.2))
      | '[' :: r => (readItems ']' value (r.length + 1) r).map (fun p => (.list p.1, p.2))
      | '"' :: _ => (readQuoted s).map (fun p => (.text p.1, p.2))
      | '\'' :: c :: '\'' :: r => some (.text c.toString, r)
      | '\'' :: _ => none
      | s => some (ofUnquoted (Text.trim (s.takeWhile isUnquoted)), s.dropWhile isUnquoted)

def readValue : Nat → Reader Value
  | 0 => fun _ => none
  | depth + 1 => fun s =>
      (readBody (readValue depth) (skipSpace s)).map (fun p => (p.1, skipSpace p.2))

/-- The value of a variable. -/
def read (text : String) : Value :=
  match readValue (text.length + 1) text.toList with
  | some (v, []) => v
  | _ => .text text

end AccountStore.Config.Variable
