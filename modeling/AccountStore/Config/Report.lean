/-
# AccountStore.Config.Report -- diagnostics as text for a terminal

A report shows the diagnostic's code, its message and what may help, wrapped at
the width of the terminal.  A diagnostic that points into a document shows the
line it points to between its neighbours, with the place marked underneath.
Tabs run to the next multiple of four columns.
-/
import AccountStore.Config.Diagnostic
import AccountStore.Text.Wrap

namespace AccountStore.Config.Report

set_option autoImplicit false

/-- Columns for the text of a report. -/
def columns : Nat := 198

/-- A text in lines: the first one starts with `first`, the others with `rest`,
which are equally wide. -/
def paragraph (first rest text : String) : List String :=
  let wrapped := (splitAt '\n' text.toList).flatMap (Text.Wrap.wrapLine (columns - first.length))
  match wrapped.map String.ofList with
  | [] => []
  | l :: ls => (first ++ l) :: ls.map (rest ++ ·)

/-! Lines of a document. -/

def tabWidth : Nat := 4

/-- The column after a character that stands at `column`. -/
def advance (column : Nat) (c : Char) : Nat :=
  if c = '\t' then column + (tabWidth - column % tabWidth) else column + Text.charWidth c

/-- The column after a text. -/
def columnAfter (s : List Char) : Nat := s.foldl advance 0

/-- A text whose tabs are spaces. -/
def expandTabs : Nat → List Char → List Char
  | _, [] => []
  | column, c :: r =>
      let next := advance column c
      (if c = '\t' then List.replicate (next - column) ' ' else [c]) ++ expandTabs next r

/-- A line without its line end. -/
def withoutEnd (line : List Char) : List Char :=
  match line.reverse with
  | '\n' :: '\r' :: r => r.reverse
  | '\n' :: r => r.reverse
  | _ => line

/-- The characters of the first `bytes` bytes. -/
def takeBytes : Nat → List Char → List Char
  | _, [] => []
  | bytes, c :: r => if bytes = 0 then [] else c :: takeBytes (bytes - c.utf8Size) r

/-- A line of a document: its number and the offset of its first byte. -/
structure Line where
  number : Nat
  offset : Nat
  content : List Char
  deriving DecidableEq, Repr

def numbered : Nat → Nat → List (List Char) → List Line
  | _, _, [] => []
  | number, offset, l :: rest =>
      ⟨number, offset, l⟩ :: numbered (number + 1) (offset + Instant.byteLength l) rest

def Line.holds (l : Line) (offset : Nat) : Bool :=
  l.offset ≤ offset && offset < l.offset + Instant.byteLength l.content

/-- The line that holds the offset, with the lines next to it. -/
def around? (offset : Nat) : Option Line → List Line → Option (Option Line × Line × Option Line)
  | _, [] => none
  | before, l :: rest =>
      if l.holds offset then some (before, l, rest.head?) else around? offset (some l) rest

/-! Snippets. -/

def spaces (n : Nat) : String := String.ofList (List.replicate n ' ')

/-- A number at the right end of `width` columns. -/
def padded (width n : Nat) : String :=
  let digits := toString n
  spaces (width - digits.length) ++ digits

def shownLine (width : Nat) (l : Line) : String :=
  s!" {padded width l.number} | " ++ String.ofList (expandTabs 0 (withoutEnd l.content))

/-- What stands under the marked place. -/
def labelText : String := "not a recognized key"

/-- The two lines under a marked line: the mark, and what it says. -/
def marks (width : Nat) (l : Line) (label : Label) : List String :=
  let text := withoutEnd l.content
  let start := columnAfter (takeBytes (label.offset - l.offset) text)
  let stop :=
    max (start + 1) (columnAfter (takeBytes (label.offset + label.length - l.offset) text))
  let middle := (start + stop) / 2
  let line (n : Nat) : String := String.ofList (List.replicate n '^')
  let gutter := s!" {spaces width} : "
  let mark := if label.length = 0 then "^" else "|"
  [gutter ++ spaces start ++ line (middle - start) ++ mark ++ line (stop - middle - 1),
    gutter ++ spaces middle ++ "`-- " ++ labelText]

def snippet (label : Label) : List String :=
  match around? label.offset none (numbered 1 0 (lines label.document.content.toList)) with
  | none => []
  | some (before, l, after) =>
      let last := after.getD l
      let width := (toString last.number).length
      let column := label.offset - l.offset + 1
      (spaces (width + 2) ++ s!",-[{label.document.name}:{l.number}:{column}]") ::
        before.toList.map (shownLine width) ++ [shownLine width l] ++ marks width l label ++
        after.toList.map (shownLine width) ++ [spaces (width + 2) ++ "`----"]

/-! Reports. -/

def ofDiagnostic (d : Diagnostic) : List String :=
  [d.code, ""] ++ paragraph "  x " "  | " d.message ++ d.label?.toList.flatMap snippet ++
    d.help?.toList.flatMap (paragraph "  help: " "        ")

/-- The report of several diagnostics; every line ends in a line feed. -/
def write (ds : List Diagnostic) : String :=
  String.join ((ds.flatMap ofDiagnostic).map (· ++ "\n"))

end AccountStore.Config.Report
