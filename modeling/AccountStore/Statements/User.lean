/-
# AccountStore.Statements.User -- the statements of the user table

The texts are built from a template, which gives the table's name and the
constraint on email addresses, and from the columns of the users.  The text
that creates the table goes through the template as a whole; every other text
is put together around the table's name.
-/
import AccountStore.Template

namespace AccountStore

set_option autoImplicit false

/-- Statements for users.  Lookups take one parameter and select the id and the
ten fields; `insert` takes the ten fields; `update` takes the listed fields, or
all of them, and then the id. -/
structure UserStatements where
  init : List String
  byId : String
  byUsername : String
  byEmail : String
  insert : String
  update : Option (List UserField) → String
  /-- Whether `update` honours a list of fields. -/
  supportsFields : Bool
  delete : String

namespace UserStatements

/-- The declared type of a field's column, before substitution. -/
def columnType : UserField → String
  | .username => "TEXT NOT NULL UNIQUE"
  | .email => "TEXT NOT NULL " ++ Template.emailUnique
  | .password | .firstName | .lastName => "TEXT NOT NULL"
  | .isSuperuser | .isStaff | .isActive => "INTEGER NOT NULL"
  | .dateJoined | .lastLogin => "TEXT NOT NULL"

/-- One line per column in the text that creates the table. -/
def definitions (c : UserColumns) : List String :=
  UserField.all.map (fun f => "    " ++ c.column f ++ " " ++ columnType f)

def createText (c : UserColumns) : String :=
  "CREATE TABLE IF NOT EXISTS " ++ Template.usersTable ++ " (\n    " ++ c.id
    ++ " INTEGER PRIMARY KEY AUTOINCREMENT,\n" ++ ",\n".intercalate (definitions c) ++ "\n)"

def selectText (table : String) (c : UserColumns) (key : String) : String :=
  "SELECT " ++ c.id ++ ", " ++ ", ".intercalate c.names ++ " FROM " ++ table ++ " WHERE " ++ key
    ++ " = ?"

def insertText (table : String) (c : UserColumns) : String :=
  "INSERT INTO " ++ table ++ " (" ++ ", ".intercalate c.names ++ ") VALUES ("
    ++ ", ".intercalate (c.names.map (fun _ => "?")) ++ ")"

def updateText (table : String) (c : UserColumns) (fields : List UserField) : String :=
  "UPDATE " ++ table ++ " SET " ++ ", ".intercalate (fields.map (fun f => c.column f ++ " = ?"))
    ++ " WHERE " ++ c.id ++ " = ?"

def deleteText (table : String) (c : UserColumns) : String :=
  "DELETE FROM " ++ table ++ " WHERE " ++ c.id ++ " = ?"

/-- The fields that an update of a list touches: no list, or an empty one,
stands for all. -/
def touched : Option (List UserField) → List UserField
  | none => UserField.all
  | some [] => UserField.all
  | some fields => fields

def tableName (t : Template) : String := t.apply Template.usersTable

def ofColumns (t : Template) (c : UserColumns) : UserStatements where
  init := [t.apply (createText c)]
  byId := selectText (tableName t) c c.id
  byUsername := selectText (tableName t) c (c.column .username)
  byEmail := selectText (tableName t) c (c.column .email)
  insert := insertText (tableName t) c
  update fields := updateText (tableName t) c (touched fields)
  supportsFields := true
  delete := deleteText (tableName t) c

end UserStatements

end AccountStore
