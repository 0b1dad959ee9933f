/-
# AccountStore.Database.Contents -- everything that a database holds

Tables and indexes share one space of names, in which ASCII case does not
count.  A statement that fails changes nothing.  An index has no effect on any
answer; only its name and its columns are checked.
-/
import AccountStore.Database.Table

namespace AccountStore.Database

set_option autoImplicit false

structure Index where
  name : String
  table : String
  deriving DecidableEq, Repr

structure Contents where
  tables : List Table := []
  indexes : List Index := []
  deriving DecidableEq, Repr

/-- What a write did: how many rows, and the number of a row that it added. -/
structure Written where
  rows : Nat
  added : Option Int
  deriving DecidableEq, Repr

namespace Contents

def empty : Contents := {}

def findTable? (c : Contents) (name : String) : Option Table :=
  c.tables.find? (fun t => sameName t.name name)

def findIndex? (c : Contents) (name : String) : Option Index :=
  c.indexes.find? (fun i => sameName i.name name)

def table (c : Contents) (name : String) : Except Failure Table :=
  match c.findTable? name with
  | some t => .ok t
  | none => .error (sqlFailure s!"no such table: {name}")

/-- Puts a table in the place of the one of the same name. -/
def setTable (c : Contents) (t : Table) : Contents :=
  { c with tables := c.tables.map (fun old => if sameName old.name t.name then t else old) }

/-- Names that start like the engine's own are refused. -/
def reservedStart : List Char := ['s', 'q', 'l', 'i', 't', 'e', '_']

def isReservedName (name : String) : Bool :=
  reservedStart.isPrefixOf (asciiLowerText name).toList

def checkName (name : String) : Except Failure Unit :=
  if isReservedName name then
    .error (sqlFailure s!"object name reserved for internal use: {name}")
  else .ok ()

def createTable (c : Contents) (d : Declaration) : Except Failure Contents :=
  match checkName d.name with
  | .error e => .error e
  | .ok () =>
      match c.findTable? d.name with
      | some _ =>
          if d.ifNotExists then .ok c else .error (sqlFailure s!"table {d.name} already exists")
      | none =>
          match c.findIndex? d.name with
          | some _ => .error (sqlFailure s!"there is already an index named {d.name}")
          | none =>
              match Table.ofDefinitions d.name d.columns with
              | .error e => .error e
              | .ok t => .ok { c with tables := c.tables ++ [t] }

/-- Finds every column of a list. -/
def columnsOf (t : Table) : List String → Except Failure (List Nat)
  | [] => .ok []
  | s :: rest =>
      match t.column s with
      | .error e => .error e
      | .ok i =>
          match columnsOf t rest with
          | .ok is => .ok (i :: is)
          | .error e => .error e

def createIndex (c : Contents) (ifNotExists : Bool) (name table : String)
    (columns : List String) : Except Failure Contents :=
  match c.findTable? table with
  | none => .error (sqlFailure s!"no such table: main.{table}")
  | some t =>
      match checkName name with
      | .error e => .error e
      | .ok () =>
          match c.findTable? name, c.findIndex? name with
          | some _, _ => .error (sqlFailure s!"there is already a table named {name}")
          | none, some _ =>
              if ifNotExists then .ok c else .error (sqlFailure s!"index {name} already exists")
          | none, none =>
              match columnsOf t columns with
              | .error e => .error e
              | .ok _ => .ok { c with indexes := c.indexes ++ [⟨name, t.name⟩] }

def dropTable (c : Contents) (name : String) : Except Failure Contents :=
  match c.findTable? name with
  | none => .error (sqlFailure s!"no such table: {name}")
  | some _ =>
      .ok { tables := c.tables.filter (fun t => !sameName t.name name)
            indexes := c.indexes.filter (fun i => !sameName i.table name) }

/-- The positions of the columns that an insert lists. -/
def insertedColumns (t : Table) (table : String) : List String → Except Failure (List Nat)
  | [] => .ok []
  | s :: rest =>
      match t.columnIndex? s with
      | none => .error (sqlFailure s!"table {table} has no column named {s}")
      | some i =>
          match insertedColumns t table rest with
          | .ok is => .ok (i :: is)
          | .error e => .error e

def insert (c : Contents) (table : String) (columns : List String) (operands : List Operand)
    (parameters : List SqlValue) : Except Failure (Contents × Written) :=
  match c.table table with
  | .error e => .error e
  | .ok t =>
      match insertedColumns t table columns with
      | .error e => .error e
      | .ok is =>
          if is.length = operands.length then
            match t.insert (is.zip (operands.map (Table.operand parameters))) with
            | .error e => .error e
            | .ok t => .ok (c.setTable t, ⟨1, some t.lastNumber⟩)
          else .error (sqlFailure s!"{operands.length} values for {is.length} columns")

def update (c : Contents) (table : String) (assignments : List (String × Operand))
    (condition : Condition) (parameters : List SqlValue) : Except Failure (Contents × Written) :=
  match c.table table with
  | .error e => .error e
  | .ok t =>
      match columnsOf t (assignments.map Prod.fst) with
      | .error e => .error e
      | .ok is =>
          match t.filter parameters condition with
          | .error e => .error e
          | .ok f =>
              let values := assignments.map (fun a => Table.operand parameters a.2)
              match t.update f (is.zip values) with
              | .error e => .error e
              | .ok (t, n) => .ok (c.setTable t, ⟨n, none⟩)

def delete (c : Contents) (table : String) (condition : Condition) (parameters : List SqlValue) :
    Except Failure (Contents × Written) :=
  match c.table table with
  | .error e => .error e
  | .ok t =>
      match t.filter parameters condition with
      | .error e => .error e
      | .ok f =>
          let (t, n) := t.delete f
          .ok (c.setTable t, ⟨n, none⟩)

/-- The first row of a lookup, each value under its column's name. -/
def select (c : Contents) (columns : List (String × Option String)) (table : String)
    (condition : Condition) (parameters : List SqlValue) :
    Except Failure (Option (List (String × SqlValue))) :=
  match c.table table with
  | .error e => .error e
  | .ok t =>
      match columnsOf t (columns.map Prod.fst) with
      | .error e => .error e
      | .ok is =>
          match t.filter parameters condition with
          | .error e => .error e
          | .ok f =>
              let names := (is.zip columns).map (fun p => p.2.2.getD (t.columnName p.1))
              .ok ((t.find? f).map (fun r => names.zip (is.map (Table.rowValue r))))

end Contents

end AccountStore.Database
