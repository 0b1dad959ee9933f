/-
# AccountStore.Config.KeyOffset -- where a key is assigned in a document

A key is looked for below the header of its section, or from the beginning of
the text when it has no section.  It stands where a line, its leading blanks
aside, starts with the key and goes on with an equals sign.  The next line that
starts with a bracket ends the search.  Offsets count bytes.
-/
import AccountStore.Instant.Reader
import AccountStore.Text.Blank

namespace AccountStore.Config

set_option autoImplicit false

/-- What follows a beginning. -/
def afterStart? (start s : List Char) : Option (List Char) :=
  if start.isPrefixOf s then some (s.drop start.length) else none

/-- What follows the first occurrence of `part`, and how many bytes come before
it. -/
def afterFirst? (part : List Char) : List Char → Option (Nat × List Char)
  | [] => (afterStart? part []).map (fun r => (Instant.byteLength part, r))
  | c :: s =>
      match afterStart? part (c :: s) with
      | some r => some (Instant.byteLength part, r)
      | none => (afterFirst? part s).map (fun p => (p.1 + c.utf8Size, p.2))

/-- The lines of a text with their line feeds. -/
def lines : List Char → List (List Char)
  | [] => []
  | c :: r =>
      if c = '\n' then [c] :: lines r
      else
        match lines r with
        | [] => [[c]]
        | line :: rest => (c :: line) :: rest

/-- The offset of the key inside a line that assigns it. -/
def assignedAt? (field line : List Char) : Option Nat :=
  match afterStart? field (Text.trimLeft line) with
  | none => none
  | some r =>
      if (Text.trimLeft r).head? == some '=' then
        some (Instant.byteLength (line.takeWhile Text.isBlank))
      else none

/-- Whether a line starts with a bracket. -/
def isHeaderLine (line : List Char) : Bool := (Text.trimLeft line).head? == some '['

/-- The offset of the key in the lines up to the next header; the first line may
be the rest of a header's own line. -/
def scanLines (field : List Char) : Bool → Nat → List (List Char) → Option Nat
  | _, _, [] => none
  | first, offset, line :: rest =>
      if isHeaderLine line && !first then none
      else
        match assignedAt? field line with
        | some n => some (offset + n)
        | none => scanLines field false (offset + Instant.byteLength line) rest

/-- The offset of a key whose path starts with its section. -/
def keyOffset? (content : String) (path : List String) (field : String) : Option Nat :=
  match path with
  | [] => scanLines field.toList true 0 (lines content.toList)
  | name :: _ =>
      match afterFirst? ('[' :: (name.toList ++ [']'])) content.toList with
      | none => none
      | some (start, rest) => scanLines field.toList true start (lines rest)

end AccountStore.Config
