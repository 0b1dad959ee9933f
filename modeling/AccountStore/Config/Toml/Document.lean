/-
# AccountStore.Config.Toml.Document -- reading a TOML document

A document is a list of lines: assignments, headers, comments and blank lines.
Values may span lines inside brackets and long texts.  Brackets nest at most
seventy-nine deep and keys have at most as many parts.  A document with any
fault is refused as a whole.
-/
import AccountStore.Config.Toml.Table
import AccountStore.Config.Toml.Word

namespace AccountStore.Config.Toml

set_option autoImplicit false

/-- How deep brackets may nest, and how many parts a key may have. -/
def depthMax : Nat := 79

/-! Keys. -/

def isBareChar (c : Char) : Bool := c.isAlphanum || c == '_' || c == '-'

def readKeyPart : Reader (List Char)
  | '"' :: r => readEscaped r
  | '\'' :: r => readLiteral r
  | s =>
      let part := s.takeWhile isBareChar
      if part.isEmpty then none else some (part, s.dropWhile isBareChar)

/-- The parts of a key, with points between them and blanks around them. -/
def readKeyParts : Nat → Reader (List String)
  | 0, _ => none
  | fuel + 1, s =>
      match readKeyPart (skipSpace s) with
      | none => none
      | some (part, s) =>
          match skipSpace s with
          | '.' :: r => (readKeyParts fuel r).map (fun p => (String.ofList part :: p.1, p.2))
          | s => some ([String.ofList part], s)

def readKey : Reader (List String) := readKeyParts depthMax

/-- A key, an equals sign and a value. -/
def readAssignment (value : Reader Value) : Reader Assignment := fun s =>
  match readKey s with
  | some (path, '=' :: r) => (value (skipSpace r)).map (fun p => ((path, p.1), p.2))
  | _ => none

/-! Values. -/

/-- The values of a list up to its closing bracket; a comma may stand last. -/
def readItems (value : Reader Value) : Nat → Reader (List Value)
  | 0, _ => none
  | fuel + 1, s =>
      match skipLines false s with
      | ']' :: r => some ([], r)
      | s =>
          match value s with
          | none => none
          | some (v, s) =>
              match skipLines false s with
              | ',' :: r => (readItems value fuel r).map (fun p => (v :: p.1, p.2))
              | ']' :: r => some ([v], r)
              | _ => none

/-- The assignments of an inline table up to its closing brace. -/
def readPairs (value : Reader Value) : Nat → Reader (List Assignment)
  | 0, _ => none
  | fuel + 1, s =>
      match readAssignment value s with
      | none => none
      | some (a, s) =>
          match skipSpace s with
          | ',' :: r => (readPairs value fuel r).map (fun p => (a :: p.1, p.2))
          | '\x7d' :: r => some ([a], r)
          | _ => none

def readInlineTable (value : Reader Value) : Reader Value := fun s =>
  let pairs :=
    match skipSpace s with
    | '\x7d' :: r => some ([], r)
    | s => readPairs value (s.length + 1) s
  match pairs with
  | none => none
  | some (as, r) => (assignAll as []).map (fun t => (.table (toEntries t), r))

def readPlain : Reader Value := fun s =>
  match s with
  | '"' :: _ => (readText s).map (fun p => (.text (String.ofList p.1), p.2))
  | '\'' :: _ => (readText s).map (fun p => (.text (String.ofList p.1), p.2))
  | s => readWord s

/-- A value whose brackets nest at most `depth` deep. -/
def readValue : Nat → Reader Value
  | 0 => readPlain
  | depth + 1 => fun s =>
      match s with
      | '[' :: r => (readItems (readValue depth) (r.length + 1) r).map (fun p => (.list p.1, p.2))
      | '\x7b' :: r => readInlineTable (readValue depth) r
      | s => readPlain s

/-! Lines. -/

inductive Line where
  | blank
  | assignment (a : Assignment)
  | header (path : List String) (repeated : Bool)

/-- The path of a header and what follows its closing brackets. -/
def readHeader (repeated : Bool) : Reader Line := fun s =>
  match readKey s with
  | none => none
  | some (path, s) =>
      let closing := if repeated then [']', ']'] else [']']
      if closing.isPrefixOf s then some (.header path repeated, s.drop closing.length) else none

def readContent : Reader Line := fun s =>
  match s with
  | [] => some (.blank, [])
  | '#' :: r => some (.blank, '#' :: r)
  | '\n' :: r => some (.blank, '\n' :: r)
  | '\r' :: r => some (.blank, '\r' :: r)
  | '[' :: '[' :: r => readHeader true r
  | '[' :: r => readHeader false r
  | s => (readAssignment (readValue depthMax) s).map (fun p => (.assignment p.1, p.2))

/-- The lines of a text, as many as there are. -/
def readLines : Nat → List Char → Option (List Line)
  | 0, _ => some []
  | fuel + 1, s =>
      match readContent (skipSpace s) with
      | none => none
      | some (line, s) =>
          match afterLine? s with
          | none => none
          | some [] => some [line]
          | some s => (readLines fuel s).map (line :: ·)

/-- The assignments before the first header, and the blocks. -/
def blocks : List Line → List Assignment × List Block
  | [] => ([], [])
  | .blank :: rest => blocks rest
  | .assignment a :: rest =>
      let (as, bs) := blocks rest
      (a :: as, bs)
  | .header path repeated :: rest =>
      let (as, bs) := blocks rest
      ([], ⟨path, repeated, as⟩ :: bs)

/-- A document may start with a byte order mark. -/
def afterMark : List Char → List Char
  | '\uFEFF' :: r => r
  | s => s

/-- The table that a document describes. -/
def read? (text : String) : Option (Entries Value) := do
  let s := afterMark text.toList
  let lines ← readLines (s.length + 1) s
  let (assignments, bs) := blocks lines
  let root ← assignAll assignments []
  let root ← bs.foldlM (fun t b => b.addTo t) root
  pure (toEntries root)

end AccountStore.Config.Toml
