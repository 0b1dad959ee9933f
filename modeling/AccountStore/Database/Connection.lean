/-
# AccountStore.Database.Connection -- statements over one database

A connection remembers the state before the transaction that it is in, the
rows that the last write touched, and the number of the last row that it
added.  Undoing a transaction restores the contents but not those two numbers.
A batch is a transaction of its own; a failing statement ends it, and what the
batch did is undone.
-/
import AccountStore.Backend
import AccountStore.Database.Contents

namespace AccountStore.Database

set_option autoImplicit false

/-- An open transaction. -/
structure Transaction where
  /-- The contents to go back to. -/
  before : Contents
  /-- Some statement has read or written since. -/
  used : Bool := false
  deriving DecidableEq, Repr

structure Connection where
  contents : Contents := {}
  transaction : Option Transaction := none
  changes : Nat := 0
  lastRow : Int := 0
  deriving DecidableEq, Repr

namespace Connection

def opened (c : Contents) : Connection := { contents := c }

/-- Whether a statement looks at tables. -/
def usesTables : Statement → Bool
  | .values _ | .startTransaction | .commit | .rollback => false
  | _ => true

/-- A statement has run: an open transaction is in use if it looked at tables. -/
def touch (k : Connection) (s : Statement) : Connection :=
  if usesTables s then
    { k with transaction := k.transaction.map (fun t => { t with used := true }) }
  else k

/-- A statement was refused before it ran. -/
def isRefusal : Failure → Bool
  | .engine 1 _ => true
  | _ => false

/-- The connection after a statement that failed. -/
def touchFailed (k : Connection) (s : Statement) (e : Failure) : Connection :=
  if isRefusal e then k else k.touch s

/-! ## Transactions -/

def start (k : Connection) : Except Failure Connection :=
  match k.transaction with
  | some _ => .error (sqlFailure "cannot start a transaction within a transaction")
  | none => .ok { k with transaction := some ⟨k.contents, false⟩ }

def commit (k : Connection) : Except Failure Connection :=
  match k.transaction with
  | none => .error (sqlFailure "cannot commit - no transaction is active")
  | some _ => .ok { k with transaction := none }

def rollback (k : Connection) : Except Failure Connection :=
  match k.transaction with
  | none => .error (sqlFailure "cannot rollback - no transaction is active")
  | some t => .ok { k with contents := t.before, transaction := none }

/-! ## Statements -/

def store (k : Connection) : Except Failure Contents → Except Failure Connection
  | .ok c => .ok { k with contents := c }
  | .error e => .error e

def write (k : Connection) : Except Failure (Contents × Written) → Except Failure Connection
  | .ok (c, w) =>
      .ok { k with contents := c, changes := w.rows, lastRow := w.added.getD k.lastRow }
  | .error e => .error e

/-- Runs a statement for its effect. -/
def run (k : Connection) (parameters : List SqlValue) : Statement → Except Failure Connection
  | .createTable d => k.store (k.contents.createTable d)
  | .createIndex ifNotExists name table columns =>
      k.store (k.contents.createIndex ifNotExists name table columns)
  | .dropTable name => k.store (k.contents.dropTable name)
  | .insert table columns operands => k.write (k.contents.insert table columns operands parameters)
  | .update table assignments condition =>
      k.write (k.contents.update table assignments condition parameters)
  | .delete table condition => k.write (k.contents.delete table condition parameters)
  | .select columns table condition =>
      match k.contents.select columns table condition parameters with
      | .ok _ => .ok k
      | .error e => .error e
  | .values _ => .ok k
  | .startTransaction => k.start
  | .commit => k.commit
  | .rollback => k.rollback

/-- What a table that cannot be created has against it comes before a fault
further on in the statement. -/
def readFailure (k : Connection) (e : SyntaxFault) : Failure :=
  match e.begun.map k.contents.createTable with
  | some (.error refusal) => refusal
  | _ => sqlFailure e.message

/-- Reads a statement that keeps to the limits. -/
def readTokens (k : Connection) (ts : List Token) : Except Failure Statement :=
  match Statement.ofTokens ts with
  | .error e => .error (k.readFailure e)
  | .ok s =>
      match s.excess? ts with
      | some message => .error (sqlFailure message)
      | none => .ok s

/-- What stands in the way of a statement without tokens. -/
def misuse : Failure := .engine 21 (some "not an error")

/-- The one statement of a text. -/
def parse (k : Connection) (text : String) : Except Failure Statement :=
  match Token.ofText text with
  | [] => .error misuse
  | ts :: _ => k.readTokens ts

def outcome (k : Connection) : Outcome := ⟨some k.changes, some k.lastRow⟩

/-- Runs a statement that returns no rows. -/
def execute (text : String) (parameters : List SqlValue) (k : Connection) :
    Except DriverError Outcome × Connection :=
  match k.parse text with
  | .error e => (.error (.failure e), k)
  | .ok s =>
      match k.run parameters s with
      | .ok k => (.ok k.outcome, k.touch s)
      | .error e => (.error (.failure e), k.touchFailed s e)

/-! ## Rows -/

/-- What a type error calls the type of a stored value. -/
def storedTypeName : SqlValue → String
  | .integer _ => "Integer"
  | .real _ => "Real"
  | .text _ => "Text"
  | .blob _ => "Blob"
  | _ => "Null"

/-- Reads a stored value in the kind that is asked for.  Null is null in every
kind, an integer is also a real and a truth value, and a text may be an
instant. -/
def readColumn (index : Nat) (name : String) (kind : ScanKind) (v : SqlValue) :
    Except Failure SqlValue :=
  match kind, v with
  | _, .null => .ok .null
  | .integer, .integer n => .ok (.integer n)
  | .real, .integer n => .ok (.real (Binary64.ofInt n))
  | .real, .real x => .ok (.real x)
  | .bool, .integer n => .ok (.bool (n != 0))
  | .text, .text s => .ok (.text s)
  | .blob, .blob b => .ok (.blob b)
  | .timestamp, .text s =>
      match Instant.parseStrict s.toList with
      | .ok t => .ok (.timestamp t)
      | .error e => .error (.columnInstant index e)
  | _, v => .error (.columnType (storedTypeName v) index name)

/-- Reads the columns of a row from the left, as many as there are kinds. -/
def readColumns (index : Nat) : List ScanKind → List (String × SqlValue) → Except Failure (List SqlValue)
  | [], _ => .ok []
  | _ :: _, [] => .error (.columnIndex index)
  | kind :: kinds, (name, v) :: rest =>
      match readColumn index name kind v with
      | .error e => .error e
      | .ok a =>
          match readColumns (index + 1) kinds rest with
          | .ok as' => .ok (a :: as')
          | .error e => .error e

/-- The first row of a statement, if it has one. -/
def firstRow (k : Connection) (parameters : List SqlValue) :
    Statement → Except Failure (Option (List (String × SqlValue)))
  | .select columns table condition => k.contents.select columns table condition parameters
  | .values operands =>
      .ok (some (operands.map (fun o => (o.2, Table.operand parameters o.1))))
  | _ => .ok none

/-- Asks for one row. -/
def queryRow (text : String) (parameters : List SqlValue) (kinds : List ScanKind) (k : Connection) :
    Except DriverError Row × Connection :=
  match k.parse text with
  | .error e => (.error (.failure e), k)
  | .ok s =>
      match k.firstRow parameters s with
      | .error e => (.error (.failure e), k)
      | .ok none => (.error .noRows, k.touch s)
      | .ok (some row) =>
          match readColumns 0 kinds row with
          | .error e => (.error (.failure e), k.touch s)
          | .ok vs => (.ok ⟨vs⟩, k.touch s)

/-! ## Batches -/

/-- Runs the statements of a text; the first failure ends it. -/
def runTokens : List (List Token) → Connection → Except Failure Unit × Connection
  | [], k => (.ok (), k)
  | ts :: rest, k =>
      match k.readTokens ts with
      | .error e => (.error e, k)
      | .ok s =>
          match k.run [] s with
          | .error e => (.error e, k.touchFailed s e)
          | .ok k => runTokens rest (k.touch s)

def runText (text : String) (k : Connection) : Except Failure Unit × Connection :=
  runTokens (Token.ofText text) k

def runTexts : List String → Connection → Except Failure Unit × Connection
  | [], k => (.ok (), k)
  | t :: rest, k =>
      match runText t k with
      | (.ok (), k) => runTexts rest k
      | (.error e, k) => (.error e, k)

def runBatch (texts : List String) (k : Connection) : Except BatchFailure Unit × Connection :=
  match k.start with
  | .error e => (.error (.start (.failure e)), k)
  | .ok k =>
      match runTexts texts k with
      | (.ok (), k) =>
          match k.commit with
          | .ok k => (.ok (), k)
          | .error e => (.error (.commit (.failure e)), k)
      | (.error initial, k) =>
          match k.rollback with
          | .ok k => (.error (.statement (.failure initial)), k)
          | .error e => (.error (.rollback (.failure initial) (.failure e)), k)

def backend : Backend Connection where
  runBatch := runBatch
  execute := execute
  queryRow := queryRow

/-- A connection always answers. -/
def ping (k : Connection) : Except DriverError Unit × Connection := (.ok (), k)

/-- Folds the log back into the database, unless a transaction is in the way. -/
def checkpoint (k : Connection) : Except DriverError Unit × Connection :=
  match k.transaction with
  | some ⟨_, true⟩ => (.error (.failure (.engine 6 (some "database table is locked"))), k)
  | _ => (.ok (), k)

end Connection

end AccountStore.Database
