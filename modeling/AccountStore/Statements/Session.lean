/-
# AccountStore.Statements.Session -- the statements of the session table

Every text goes through the template, which gives the table's name.  Expiry
dates are stored as text whose order is the order of instants, so that a sweep
can compare them in the statement.
-/
import AccountStore.Template

namespace AccountStore

set_option autoImplicit false

/-- Statements for sessions: a lookup by key, an insert of key, user and
expiry, and three kinds of removal with one parameter each. -/
structure SessionStatements where
  init : List String
  byKey : String
  insert : String
  delete : String
  deleteExpired : String
  deleteForUser : String

namespace SessionStatements

def createText : String :=
  "CREATE TABLE IF NOT EXISTS " ++ Template.sessionsTable ++ " (\n"
    ++ "        session_key TEXT NOT NULL PRIMARY KEY,\n"
    ++ "        user_id INTEGER NOT NULL,\n"
    ++ "        expire_date TEXT NOT NULL\n    )"

/-- What follows the table's name in the name of its index. -/
def indexSuffix : String := "_expire_date_idx"

def indexText : String :=
  "CREATE INDEX IF NOT EXISTS " ++ Template.sessionsTable ++ indexSuffix ++ "\n        ON "
    ++ Template.sessionsTable ++ " (expire_date)"

def selectText : String :=
  "SELECT session_key, user_id, expire_date FROM " ++ Template.sessionsTable
    ++ " WHERE session_key = ?1"

def insertText : String :=
  "INSERT INTO " ++ Template.sessionsTable
    ++ " (session_key, user_id, expire_date) VALUES (?1, ?2, ?3)"

def deleteText (condition : String) : String :=
  "DELETE FROM " ++ Template.sessionsTable ++ " WHERE " ++ condition ++ " ?1"

def ofTemplate (t : Template) : SessionStatements where
  init := [t.apply createText, t.apply indexText]
  byKey := t.apply selectText
  insert := t.apply insertText
  delete := t.apply (deleteText "session_key =")
  deleteExpired := t.apply (deleteText "expire_date <=")
  deleteForUser := t.apply (deleteText "user_id =")

end SessionStatements

end AccountStore
