/-
# AccountStore.Database.Table -- tables of rows with unique keys

A table declares its columns once.  Every row has a number; a column declared
`INTEGER PRIMARY KEY` shows that number, and with `AUTOINCREMENT` no number is
given twice.  Writes are refused, as a whole, when they leave a column empty
that must not be, or put one value under a unique key twice.  Of several keys
the one declared last is checked first.
-/
import AccountStore.Database.Statement
import AccountStore.Error
import AccountStore.Instant.Written

namespace AccountStore.Database

set_option autoImplicit false

/-- Names of tables, indexes and columns differ only beyond ASCII case. -/
def sameName (a b : String) : Bool := asciiLowerText a == asciiLowerText b

/-- What the engine says of a statement that it does not run. -/
def sqlFailure (message : String) : Failure := .engine 1 (some message)

structure Column where
  name : String
  notNull : Bool
  deriving DecidableEq, Repr

/-- A column whose values must differ, and the code of a violation. -/
structure UniqueKey where
  column : Nat
  code : Int
  deriving DecidableEq, Repr

structure StoredRow where
  number : Int
  values : List SqlValue
  deriving DecidableEq, Repr

structure Table where
  name : String
  columns : List Column
  /-- The column that shows the row's number. -/
  numberColumn : Option Nat
  autoIncrement : Bool
  /-- In the order in which they are checked. -/
  uniqueKeys : List UniqueKey
  /-- The largest number ever given, where numbers are not given twice. -/
  lastNumber : Int := 0
  /-- In the order of their numbers. -/
  rows : List StoredRow := []
  deriving DecidableEq, Repr

namespace Table

def columnIndex? (t : Table) (column : String) : Option Nat :=
  t.columns.findIdx? (fun c => sameName c.name column)

/-- The position of a column that a statement names. -/
def column (t : Table) (column : String) : Except Failure Nat :=
  match t.columnIndex? column with
  | some i => .ok i
  | none => .error (sqlFailure s!"no such column: {column}")

def columnName (t : Table) (i : Nat) : String := (t.columns[i]?.map Column.name).getD ""

/-! ## Declaring -/

/-- A column shows the row's number. -/
def showsNumber (d : ColumnDefinition) : Bool :=
  d.primaryKey && (match d.typeWords with
    | [w] => asciiLowerText w == "integer"
    | _ => false)

/-- A column is refused when an earlier one has its name or is the primary key
too, or when it numbers rows without being an integer. -/
def checkDefinition (table : String) (earlier : List ColumnDefinition) (d : ColumnDefinition) :
    Except Failure Unit :=
  if earlier.any (fun e => sameName e.name d.name) then
    .error (sqlFailure s!"duplicate column name: {d.name}")
  else if d.primaryKey && earlier.any ColumnDefinition.primaryKey then
    .error (sqlFailure s!"table \"{table}\" has more than one primary key")
  else if d.autoIncrement && !showsNumber d then
    .error (sqlFailure "AUTOINCREMENT is only allowed on an INTEGER PRIMARY KEY")
  else .ok ()

def checkDefinitions (table : String) (earlier : List ColumnDefinition) :
    List ColumnDefinition → Except Failure Unit
  | [] => .ok ()
  | d :: rest =>
      match checkDefinition table earlier d with
      | .ok () => checkDefinitions table (earlier ++ [d]) rest
      | .error e => .error e

/-- The keys of the column at a position, the last one first. -/
def keysOf (i : Nat) (d : ColumnDefinition) : List UniqueKey :=
  (if d.unique then [⟨i, Failure.uniqueViolation⟩] else [])
    ++ (if d.primaryKey && !showsNumber d then [⟨i, Failure.primaryKeyViolation⟩] else [])

/-- The keys of the columns from a position on, the last one first. -/
def keysFrom (i : Nat) : List ColumnDefinition → List UniqueKey
  | [] => []
  | d :: rest => keysFrom (i + 1) rest ++ keysOf i d

def ofDefinitions (name : String) (ds : List ColumnDefinition) : Except Failure Table :=
  match checkDefinitions name [] ds with
  | .error e => .error e
  | .ok () =>
      .ok { name := name
            columns := ds.map (fun d => ⟨d.name, d.notNull⟩)
            numberColumn := ds.findIdx? showsNumber
            autoIncrement := ds.any ColumnDefinition.autoIncrement
            uniqueKeys := keysFrom 0 ds }

/-! ## Values -/

/-- What is stored of a bound value: there are no booleans, no instants and no
number that is not one. -/
def stored : SqlValue → SqlValue
  | .bool b => .integer (if b then 1 else 0)
  | .timestamp t => .text t.storedText
  | .real x => if x.isNaN then .null else .real x
  | v => v

/-- The value of an operand; a parameter that was not bound is null. -/
def operand (parameters : List SqlValue) : Operand → SqlValue
  | .parameter n => stored ((parameters[n - 1]?).getD .null)
  | .constant s => .text s

def rowValue (r : StoredRow) (i : Nat) : SqlValue := (r.values[i]?).getD .null

/-- Nothing equals null; other values equal themselves. -/
def equalValues (a b : SqlValue) : Bool := a != .null && a == b

/-- Texts compare by their characters, numbers by their size. -/
def atMostValues : SqlValue → SqlValue → Bool
  | .text a, .text b => decide (a ≤ b)
  | .integer a, .integer b => decide (a ≤ b)
  | .integer _, .text _ => true
  | _, _ => false

def compare : Comparison → SqlValue → SqlValue → Bool
  | .equal => equalValues
  | .atMost => atMostValues

/-- A condition whose column and value are found. -/
structure Filter where
  column : Nat
  comparison : Comparison
  value : SqlValue
  deriving DecidableEq, Repr

def filter (t : Table) (parameters : List SqlValue) (c : Condition) : Except Failure Filter :=
  match t.column c.column with
  | .ok i => .ok ⟨i, c.comparison, operand parameters c.operand⟩
  | .error e => .error e

def Filter.holds (f : Filter) (r : StoredRow) : Bool :=
  compare f.comparison (rowValue r f.column) f.value

/-! ## Constraints -/

def qualified (t : Table) (i : Nat) : String := t.name ++ "." ++ t.columnName i

/-- The first column that is empty and must not be. -/
def emptyColumn? (t : Table) (r : StoredRow) : Option Nat :=
  (List.range t.columns.length).find? (fun i =>
    ((t.columns[i]?).map Column.notNull).getD false && rowValue r i == .null)

/-- The first key under which another row has the same value. -/
def violatedKey? (t : Table) (others : List StoredRow) (r : StoredRow) : Option UniqueKey :=
  t.uniqueKeys.find? (fun k =>
    others.any (fun o => equalValues (rowValue o k.column) (rowValue r k.column)))

/-- Whether a row may stand beside others. -/
def checkRow (t : Table) (others : List StoredRow) (r : StoredRow) : Except Failure Unit :=
  match t.emptyColumn? r with
  | some i => .error (.engine Failure.notNullViolation
      (some s!"NOT NULL constraint failed: {t.qualified i}"))
  | none =>
      match t.violatedKey? others r with
      | some k => .error (.engine k.code (some s!"UNIQUE constraint failed: {t.qualified k.column}"))
      | none => .ok ()

/-! ## Reading and writing -/

/-- The first row for which a condition holds. -/
def find? (t : Table) (f : Filter) : Option StoredRow := t.rows.find? f.holds

/-- The number of the next row. -/
def nextNumber (t : Table) : Int :=
  let largest := (t.rows.getLast?.map StoredRow.number).getD 0
  (if t.autoIncrement then max largest t.lastNumber else largest) + 1

/-- The value of each column: its number, what the statement gives it, or null. -/
def newValues (t : Table) (number : Int) (given : List (Nat × SqlValue)) : List SqlValue :=
  (List.range t.columns.length).map (fun i =>
    if t.numberColumn = some i then .integer number else (given.lookup i).getD .null)

def insert (t : Table) (given : List (Nat × SqlValue)) : Except Failure Table :=
  let r : StoredRow := ⟨t.nextNumber, t.newValues t.nextNumber given⟩
  match t.checkRow t.rows r with
  | .error e => .error e
  | .ok () => .ok { t with rows := t.rows ++ [r], lastNumber := r.number }

/-- A row with new values in some of its columns; of two values for one column
the later counts. -/
def changed (r : StoredRow) (assignments : List (Nat × SqlValue)) : StoredRow :=
  { r with values := assignments.foldl (fun vs a => vs.set a.1 a.2) r.values }

/-- Changes the rows for which a condition holds, one after the other, each
checked against all others as they are by then.  Counts them. -/
def updateRows (t : Table) (f : Filter) (assignments : List (Nat × SqlValue)) :
    List StoredRow → List StoredRow → Except Failure (List StoredRow × Nat)
  | before, [] => .ok (before, 0)
  | before, r :: rest =>
      if f.holds r then
        let r' := changed r assignments
        match t.checkRow (before ++ rest) r' with
        | .error e => .error e
        | .ok () =>
            match updateRows t f assignments (before ++ [r']) rest with
            | .ok (rows, n) => .ok (rows, n + 1)
            | .error e => .error e
      else updateRows t f assignments (before ++ [r]) rest

def update (t : Table) (f : Filter) (assignments : List (Nat × SqlValue)) :
    Except Failure (Table × Nat) :=
  match updateRows t f assignments [] t.rows with
  | .ok (rows, n) => .ok ({ t with rows := rows }, n)
  | .error e => .error e

/-- Removes the rows for which a condition holds and counts them. -/
def delete (t : Table) (f : Filter) : Table × Nat :=
  ({ t with rows := t.rows.filter (fun r => !f.holds r) }, t.rows.countP f.holds)

end Table

end AccountStore.Database
