/-
# AccountStore.Database.Statement -- statements and how they are read

A statement of the engine creates or drops a table or an index, looks up one
row, writes rows, or starts and ends a transaction.  These are the kinds that the
stores are made of, with the transactions that a caller may put among them; the
rest of the engine's language is left out.  A reader takes the tokens of one
statement; the first token that cannot go on is the error.
-/
import AccountStore.Database.Token

namespace AccountStore.Database

set_option autoImplicit false

/-- A column as a table declares it. -/
structure ColumnDefinition where
  name : String
  typeWords : List String
  notNull : Bool := false
  unique : Bool := false
  primaryKey : Bool := false
  autoIncrement : Bool := false
  deriving DecidableEq, Repr

/-- What a statement says of the table that it creates. -/
structure Declaration where
  ifNotExists : Bool
  name : String
  columns : List ColumnDefinition
  deriving DecidableEq, Repr

/-- The token at which a statement stops being one, and the table that it had
begun to declare by then. -/
structure SyntaxFault where
  token : Token
  begun : Option Declaration := none
  deriving DecidableEq, Repr

def SyntaxFault.message (e : SyntaxFault) : String :=
  match e.token with
  | .finish false => "incomplete input"
  | .unknown s => s!"unrecognized token: \"{s}\""
  | t => s!"near \"{t.written}\": syntax error"

abbrev Read (α : Type) := Except SyntaxFault α

/-- A value in a statement. -/
inductive Operand where
  | parameter (index : Nat)
  | constant (s : String)
  deriving DecidableEq, Repr

inductive Comparison where
  | equal
  | atMost
  deriving DecidableEq, Repr

structure Condition where
  column : String
  comparison : Comparison
  operand : Operand
  deriving DecidableEq, Repr

inductive Statement where
  | createTable (d : Declaration)
  | createIndex (ifNotExists : Bool) (name table : String) (columns : List String)
  | dropTable (name : String)
  /-- Columns, each under the name it has in the answer if that differs. -/
  | select (columns : List (String × Option String)) (table : String) (condition : Condition)
  | values (operands : List (Operand × String))
  | insert (table : String) (columns : List String) (operands : List Operand)
  | update (table : String) (assignments : List (String × Operand)) (condition : Condition)
  | delete (table : String) (condition : Condition)
  | startTransaction
  | commit
  | rollback
  deriving DecidableEq, Repr

namespace Statement

/-- Words that are never names. -/
def reserved : List String :=
  ["add", "all", "alter", "and", "as", "autoincrement", "between", "case", "check", "collate",
    "commit", "constraint", "create", "default", "deferrable", "delete", "distinct", "drop",
    "else", "escape", "except", "exists", "foreign", "from", "group", "having", "in", "index",
    "insert", "intersect", "into", "is", "isnull", "join", "limit", "not", "nothing", "notnull",
    "null", "on", "or", "order", "primary", "references", "returning", "select", "set", "table",
    "then", "to", "transaction", "union", "unique", "update", "using", "values", "when", "where"]

def isReserved (s : String) : Bool := reserved.contains (asciiLowerText s)

def fail {α : Type} (t : Token) : Read α := .error ⟨t, none⟩

/-- Fails at the first of the tokens. -/
def failAt {α : Type} (ts : List Token) : Read α := fail (ts.headD (.finish false))

def nameOf (t : Token) : Read String :=
  match t with
  | .word s => if isReserved s then fail t else .ok s
  | .quotedName s => .ok s
  | _ => fail t

def operandOf (t : Token) : Read Operand :=
  match t with
  | .parameter _ n => .ok (.parameter n)
  | .text s => .ok (.constant s)
  | _ => fail t

/-- Leaves out a mark. -/
def skipMark (s : String) : List Token → Read (List Token)
  | .mark m :: rest => if m = s then .ok rest else fail (.mark m)
  | ts => failAt ts

/-- Leaves out a word. -/
def skipWord (s : String) : List Token → Read (List Token)
  | [] => fail (.finish false)
  | t :: rest => if t.isWord s then .ok rest else fail t

def readName : List Token → Read (String × List Token)
  | [] => fail (.finish false)
  | t :: rest => (nameOf t).map (fun s => (s, rest))

/-- Nothing is left of the statement. -/
def finished : List Token → Read Unit
  | [.finish _] => .ok ()
  | ts => failAt ts

/-- Tokens up to a comma or a stop, with the token that ended them. -/
structure Item where
  tokens : List Token
  after : Token
  deriving DecidableEq, Repr

/-- The items before the first token that stops, and what follows it. -/
def items (stop : Token → Bool) : List Token → List Item × List Token
  | [] => ([⟨[], .finish false⟩], [])
  | t :: rest =>
      if stop t then ([⟨[], t⟩], rest)
      else
        let (more, left) := items stop rest
        if t = .mark "," then (⟨[], t⟩ :: more, left)
        else
          match more with
          | i :: more => (⟨t :: i.tokens, i.after⟩ :: more, left)
          | [] => ([⟨[t], .finish false⟩], left)

def isClosing (t : Token) : Bool := t == .mark ")" || t.isFinish

/-- Reads an item of one token. -/
def readSingle {α : Type} (f : Token → Read α) (i : Item) : Read α :=
  match i.tokens with
  | [] => fail i.after
  | [t] => f t
  | t :: u :: _ => (f t).bind (fun _ => fail u)

/-- Reads every item in order. -/
def readAll {α : Type} (f : Item → Read α) : List Item → Read (List α)
  | [] => .ok []
  | i :: rest => do
      let a ← f i
      let as' ← readAll f rest
      return a :: as'

/-- The items between parentheses. -/
def readParenthesized {α : Type} (f : Item → Read α) (ts : List Token) :
    Read (List α × List Token) := do
  let ts ← skipMark "(" ts
  let (is, left) := items isClosing ts
  let as' ← readAll f is
  match (is.getLast?).map Item.after with
  | some (.finish marked) => fail (.finish marked)
  | _ => return (as', left)

/-- The words of a type, and what follows. -/
def typeWords : List Token → List String × List Token
  | .word s :: rest =>
      if isReserved s then ([], .word s :: rest)
      else
        let (ws, left) := typeWords rest
        (s :: ws, left)
  | ts => ([], ts)

/-- Adds the constraints that follow a column's type. -/
def readConstraints (after : Token) : List Token → ColumnDefinition → Read ColumnDefinition
  | [], d => .ok d
  | t :: rest, d =>
      if t.isWord "unique" then readConstraints after rest { d with unique := true }
      else if t.isWord "autoincrement" && d.primaryKey then
        readConstraints after rest { d with autoIncrement := true }
      else if t.isWord "not" then
        match rest with
        | [] => fail after
        | u :: rest =>
            if u.isWord "null" then readConstraints after rest { d with notNull := true } else fail u
      else if t.isWord "primary" then
        match rest with
        | [] => fail after
        | u :: rest =>
            if u.isWord "key" then readConstraints after rest { d with primaryKey := true }
            else fail u
      else fail t

/-- After the first column, these words start a constraint on the whole table,
of which there are none here. -/
def startsTableConstraint (t : Token) : Bool :=
  t.isWord "primary" || t.isWord "unique" || t.isWord "check" || t.isWord "foreign"

def readColumn (i : Item) : Read ColumnDefinition :=
  match i.tokens with
  | [] => fail i.after
  | t :: rest => do
      let name ← nameOf t
      let (words, rest) := typeWords rest
      readConstraints i.after rest { name := name, typeWords := words }

def readLaterColumn (i : Item) : Read ColumnDefinition :=
  match i.tokens with
  | [] => readColumn i
  | t :: rest =>
      if startsTableConstraint t then fail (rest.headD i.after)
      else if t.isWord "constraint" then fail ((rest.drop 1).headD i.after)
      else readColumn i

/-- Each column with the way that it is read. -/
def columnReads : List Item → List (Item × Read ColumnDefinition)
  | [] => []
  | i :: rest => (i, readColumn i) :: rest.map (fun i => (i, readLaterColumn i))

/-- A column that is at fault after its name and its type has them all the same. -/
def begunColumn (i : Item) : List ColumnDefinition :=
  match i.tokens with
  | [] => []
  | t :: rest =>
      match nameOf t with
      | .ok name => [{ name := name, typeWords := (typeWords rest).1 }]
      | .error _ => []

/-- The columns up to the first fault, and the fault. -/
def columnsUntilFault : List (Item × Read ColumnDefinition) →
    List ColumnDefinition × Option SyntaxFault
  | [] => ([], none)
  | (_, .ok d) :: rest =>
      let (ds, e) := columnsUntilFault rest
      (d :: ds, e)
  | (i, .error e) :: _ => (begunColumn i, some e)

/-- `IF NOT EXISTS`, if it stands there. -/
def readIfNotExists : List Token → Bool × List Token
  | a :: b :: c :: rest =>
      if a.isWord "if" && b.isWord "not" && c.isWord "exists" then (true, rest)
      else (false, a :: b :: c :: rest)
  | ts => (false, ts)

/-- What follows the name of a new table: the columns that can be read, and the
fault after them if there is one. -/
def readColumns (ts : List Token) : List ColumnDefinition × Read Unit :=
  match skipMark "(" ts with
  | .error e => ([], .error e)
  | .ok ts =>
      let (is, left) := items isClosing ts
      match columnsUntilFault (columnReads is) with
      | (ds, some e) => (ds, .error e)
      | (ds, none) =>
          match (is.getLast?).map Item.after with
          | some (.finish marked) => (ds, fail (.finish marked))
          | _ => (ds, finished left)

def readCreateTable (ts : List Token) : Read Statement := do
  let (ifNotExists, ts) := readIfNotExists ts
  let (name, ts) ← readName ts
  let (columns, fault) := readColumns ts
  let d : Declaration := ⟨ifNotExists, name, columns⟩
  match fault with
  | .ok () => return .createTable d
  | .error e => .error { e with begun := some d }

def readCreateIndex (ts : List Token) : Read Statement := do
  let (conditional, ts) := readIfNotExists ts
  let (name, ts) ← readName ts
  let ts ← skipWord "on" ts
  let (table, ts) ← readName ts
  let (columns, ts) ← readParenthesized (readSingle nameOf) ts
  finished ts
  return .createIndex conditional name table columns

def readDropTable (ts : List Token) : Read Statement := do
  let (name, ts) ← readName ts
  finished ts
  return .dropTable name

def readCondition (ts : List Token) : Read Condition := do
  let (column, ts) ← readName ts
  match ts with
  | .mark m :: v :: rest =>
      let comparison ←
        (if m = "=" then .ok Comparison.equal
          else if m = "<=" then .ok Comparison.atMost
          else fail (.mark m) : Read Comparison)
      let operand ← operandOf v
      finished rest
      return ⟨column, comparison, operand⟩
  | ts => failAt ts

/-- A column of an answer, perhaps under another name. -/
def readSelected (i : Item) : Read (String × Option String) :=
  match i.tokens with
  | [] => fail i.after
  | [t] => (nameOf t).map (fun s => (s, none))
  | [t, u] => do
      let s ← nameOf t
      let name ← nameOf u
      return (s, some name)
  | t :: _ :: u :: _ => (nameOf t).bind (fun _ => fail u)

def readValue (i : Item) : Read (Operand × String) :=
  readSingle (fun t => (operandOf t).map (fun o => (o, t.written))) i

def readSelect (ts : List Token) : Read Statement := do
  let (is, left) := items (fun t => t.isWord "from" || t.isFinish) ts
  if left.isEmpty then
    return .values (← readAll readValue is)
  else
    let columns ← readAll readSelected is
    let (table, ts) ← readName left
    let ts ← skipWord "where" ts
    return .select columns table (← readCondition ts)

def readInsert (ts : List Token) : Read Statement := do
  let ts ← skipWord "into" ts
  let (table, ts) ← readName ts
  let (columns, ts) ← readParenthesized (readSingle nameOf) ts
  let ts ← skipWord "values" ts
  let (operands, ts) ← readParenthesized (readSingle operandOf) ts
  finished ts
  return .insert table columns operands

/-- `column = value`. -/
def readAssignment (i : Item) : Read (String × Operand) :=
  match i.tokens with
  | [] => fail i.after
  | [t] => (nameOf t).bind (fun _ => fail i.after)
  | [t, m] => do
      let _ ← nameOf t
      if m = .mark "=" then fail i.after else fail m
  | t :: m :: v :: rest => do
      let column ← nameOf t
      if m = .mark "=" then
        let operand ← operandOf v
        match rest with
        | [] => return (column, operand)
        | u :: _ => fail u
      else fail m

def readUpdate (ts : List Token) : Read Statement := do
  let (table, ts) ← readName ts
  let ts ← skipWord "set" ts
  let (is, left) := items (fun t => t.isWord "where" || t.isFinish) ts
  let assignments ← readAll readAssignment is
  return .update table assignments (← readCondition left)

def readDelete (ts : List Token) : Read Statement := do
  let ts ← skipWord "from" ts
  let (table, ts) ← readName ts
  let ts ← skipWord "where" ts
  return .delete table (← readCondition ts)

/-- `TRANSACTION`, perhaps with a name, says nothing after the word for what to do. -/
def skipTransaction : List Token → List Token
  | [] => []
  | t :: rest =>
      if t.isWord "transaction" then
        match rest with
        | [] => []
        | u :: more =>
            match nameOf u with
            | .ok _ => more
            | .error _ => u :: more
      else t :: rest

/-- Reads one statement from its tokens.  What the engine knows beyond these kinds of
statements and clauses, such as savepoints, pragmas, unique indexes, other ways to resolve
a conflict and other modes of a transaction, is not read and counts as a fault. -/
def ofTokens : List Token → Read Statement
  | [] => fail (.finish false)
  | t :: rest =>
      if t.isWord "create" then
        match rest with
        | [] => fail (.finish false)
        | u :: rest =>
            if u.isWord "table" then readCreateTable rest
            else if u.isWord "index" then readCreateIndex rest
            else fail u
      else if t.isWord "drop" then (skipWord "table" rest).bind readDropTable
      else if t.isWord "select" then readSelect rest
      else if t.isWord "insert" then readInsert rest
      else if t.isWord "update" then readUpdate rest
      else if t.isWord "delete" then readDelete rest
      else if t.isWord "begin" then
        (finished (skipTransaction rest)).map (fun _ => .startTransaction)
      else if t.isWord "commit" || t.isWord "end" then
        (finished (skipTransaction rest)).map (fun _ => .commit)
      else if t.isWord "rollback" then
        (finished (skipTransaction rest)).map (fun _ => .rollback)
      else fail t

/-! ## Limits -/

/-- The largest number that a parameter may have. -/
def parameterLimit : Nat := 32766

/-- How many columns a statement may set or answer with. -/
def columnLimit : Nat := 2000

/-- What is wrong with the number of a parameter. -/
def parameterExcess? (t : Token) : Option String :=
  match t with
  | .parameter written n =>
      if n ≤ parameterLimit then none
      else if written = "?" then some "too many SQL variables"
      else some s!"variable number must be between ?1 and ?{parameterLimit}"
  | _ => none

/-- What is wrong with the number of columns. -/
def columnExcess? (s : Statement) : Option String :=
  match s with
  | .update _ assignments _ =>
      if assignments.length ≤ columnLimit then none else some "too many columns in set list"
  | .select columns _ _ =>
      if columns.length ≤ columnLimit then none else some "too many columns in result set"
  | .values operands =>
      if operands.length ≤ columnLimit then none else some "too many columns in result set"
  | _ => none

/-- What a statement has too much of.  Parameters count while it is read, its
columns when it is whole. -/
def excess? (s : Statement) (ts : List Token) : Option String :=
  (ts.findSome? parameterExcess?).or (columnExcess? s)

end Statement

end AccountStore.Database
