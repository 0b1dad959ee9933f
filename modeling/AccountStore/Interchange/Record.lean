/-
# AccountStore.Interchange.Record -- records as JSON objects

A record has members in a fixed order.  Written, it is an object with exactly
these members and no blanks.  Read, it may be an object with the members in any
order and with others among them, or a list of the values in order.  Of several
faults the first one in the text decides; a missing member is noticed only when
the object ends.
-/
import AccountStore.Interchange.Value

namespace AccountStore.Interchange

set_option autoImplicit false

/-- A member of records `ρ`: reading it changes a record, writing shows it. -/
structure Member (ρ : Type) where
  name : String
  read : List Char → Read (ρ → ρ)
  write : ρ → List Char

structure RecordFormat (ρ : Type) where
  /-- What faults call the record. -/
  title : String
  members : List (Member ρ)
  /-- The record whose members are yet to be read. -/
  blank : ρ

namespace RecordFormat

variable {ρ : Type}

/-- A record in the making and the names of the members that it has. -/
structure Partial (ρ : Type) where
  record : ρ
  found : List String

/-- What follows the colon after a key. -/
def afterColon (s : List Char) : Except Fault (List Char) :=
  match skipSpace s with
  | [] => .error .objectNotEnded
  | ':' :: r => .ok r
  | _ => .error .colonExpected

/-- A member after the opening quote of its key. -/
def readMember (f : RecordFormat ρ) (p : Partial ρ) (s : List Char) : Read (Partial ρ) :=
  match readText s with
  | .error e => .error e
  | .ok (key, s) =>
      match f.members.find? (fun m => m.name == String.ofList key) with
      | none =>
          match (afterColon s).bind skipValue with
          | .error e => .error e
          | .ok s => .ok (p, s)
      | some m =>
          if p.found.contains m.name then .error (.duplicateField m.name)
          else
            match (afterColon s).bind m.read with
            | .error e => .error e
            | .ok (change, s) => .ok (⟨change p.record, m.name :: p.found⟩, s)

/-- Where the next key starts after a comma. -/
def keyAfterComma (s : List Char) : Except Fault (List Char) :=
  match skipSpace s with
  | [] => .error .valueNotEnded
  | '"' :: r => .ok r
  | '\x7d' :: _ => .error .trailingComma
  | _ => .error .keyNotText

/-- The members up to the closing brace. -/
def readMembers (f : RecordFormat ρ) : Nat → Bool → Partial ρ → List Char → Read (Partial ρ)
  | 0, _, p, s => .ok (p, s)
  | fuel + 1, first, p, s =>
      let next (key : Except Fault (List Char)) : Read (Partial ρ) :=
        match key.bind (f.readMember p) with
        | .error e => .error e
        | .ok (p, s) => readMembers f fuel false p s
      match skipSpace s with
      | [] => .error .objectNotEnded
      | '\x7d' :: r => .ok (p, r)
      | ',' :: r => if first then .error .keyNotText else next (keyAfterComma r)
      | '"' :: r => if first then next (.ok r) else .error .objectEndExpected
      | _ => .error (if first then .keyNotText else .objectEndExpected)

/-- The first member that was not there. -/
def missing? (f : RecordFormat ρ) (p : Partial ρ) : Option String :=
  (f.members.map Member.name).find? (fun n => !p.found.contains n)

def readObject (f : RecordFormat ρ) (s : List Char) : Read ρ :=
  match f.readMembers (s.length + 1) true ⟨f.blank, []⟩ s with
  | .error e => .error e
  | .ok (p, s) =>
      match f.missing? p with
      | some name => .error (.missingField name)
      | none => .ok (p.record, s)

/-- Where the next element of a list starts, if there is one. -/
def elementStart (first : Bool) (s : List Char) : Except Fault (Option (List Char)) :=
  match skipSpace s with
  | [] => .error .listNotEnded
  | ']' :: _ => .ok none
  | ',' :: r =>
      if first then .ok (some (',' :: r))
      else
        match skipSpace r with
        | [] => .error .valueNotEnded
        | ']' :: _ => .error .trailingComma
        | s => .ok (some s)
  | s => if first then .ok (some s) else .error .listEndExpected

/-- The values of members in order, after `count` others. -/
def readElements (f : RecordFormat ρ) (count : Nat) : List (Member ρ) → ρ → List Char → Read ρ
  | [], record, s => .ok (record, s)
  | m :: rest, record, s =>
      match elementStart (count == 0) s with
      | .error e => .error e
      | .ok none => .error (.invalidLength count f.title f.members.length)
      | .ok (some s) =>
          match m.read s with
          | .error e => .error e
          | .ok (change, s) => readElements f (count + 1) rest (change record) s

/-- The closing bracket after the last element. -/
def endList (s : List Char) : Except Fault (List Char) :=
  match skipSpace s with
  | [] => .error .listNotEnded
  | ']' :: r => .ok r
  | ',' :: r =>
      match skipSpace r with
      | ']' :: _ => .error .trailingComma
      | _ => .error .trailingCharacters
  | _ => .error .trailingCharacters

def readList (f : RecordFormat ρ) (s : List Char) : Read ρ :=
  match f.readElements 0 f.members f.blank s with
  | .error e => .error e
  | .ok (record, s) => (endList s).map (fun s => (record, s))

def readRecord (f : RecordFormat ρ) (s : List Char) : Read ρ :=
  match skipSpace s with
  | '\x7b' :: r => f.readObject r
  | '[' :: r => f.readList r
  | s => refuse ("struct " ++ f.title) s

/-- Reads a record that is all of a text. -/
def decode (f : RecordFormat ρ) (text : String) : Except Fault ρ :=
  match f.readRecord text.toList with
  | .error e => .error e
  | .ok (record, s) =>
      if (skipSpace s).isEmpty then .ok record else .error .trailingCharacters

def writeMember (m : Member ρ) (record : ρ) : List Char :=
  writeString m.name ++ ':' :: m.write record

/-- Members with commas between them. -/
def writeMembers (record : ρ) : List (Member ρ) → List Char
  | [] => []
  | [m] => writeMember m record
  | m :: rest => writeMember m record ++ ',' :: writeMembers record rest

def encode (f : RecordFormat ρ) (record : ρ) : String :=
  String.ofList ('\x7b' :: (writeMembers record f.members ++ ['\x7d']))

end RecordFormat

end AccountStore.Interchange
