/-
# AccountStore.Config.Settings -- the settings of a store

Settings come in three sections.  The record types carry the defaults; only
the default path of the database depends on where the program runs.
-/
import AccountStore.Template

namespace AccountStore

set_option autoImplicit false

structure StorageSettings where
  databasePath : String
  walMode : Bool := true
  usersTable : String := "auth_user"
  sessionsTable : String := "auth_session"
  emailUnique : Bool := true
  deriving DecidableEq, Repr

structure SessionSettings where
  /-- How many inserts a new session may take. -/
  keyRetryAttempts : Nat := 3
  deriving DecidableEq, Repr

structure LoggingSettings where
  level : String := "info"
  deriving DecidableEq, Repr

structure Settings where
  storage : StorageSettings
  session : SessionSettings := {}
  logging : LoggingSettings := {}
  deriving DecidableEq, Repr

namespace Settings

/-- Every setting at its default. -/
def default (databasePath : String) : Settings := { storage := { databasePath := databasePath } }

end Settings

/-- A letter or `_`, then letters, digits or `_`, all of them ASCII. -/
def isTableIdentifier (name : String) : Bool :=
  match name.toList with
  | [] => false
  | c :: rest =>
      (c.isAlpha || c == '_') && rest.all (fun d => d.isAlphanum || d == '_')

/-- The placeholders of the statements for these tables; both names must be
identifiers, since they stand in statements as they are. -/
def Template.ofSettings (s : StorageSettings) : Except StoreError Template :=
  if !isTableIdentifier s.usersTable then .error (.invalidTableName s.usersTable)
  else if !isTableIdentifier s.sessionsTable then .error (.invalidTableName s.sessionsTable)
  else
    match Template.empty.setMany
        [(Template.usersTable, s.usersTable), (Template.sessionsTable, s.sessionsTable),
          (Template.emailUnique, if s.emailUnique then "UNIQUE" else "")] with
    | (.ok (), t) => .ok t
    | (.error e, _) => .error (.template e)

end AccountStore
