/-
# AccountStore.Config.Validate -- which settings make sense

Settings that were read may still be of no use.  Every rule is checked on its
own, and all that is wrong is told at once, in the order of the rules.
-/
import AccountStore.Config.Settings
import AccountStore.Text.Blank

namespace AccountStore.Config

set_option autoImplicit false

/-- A rule that settings break. -/
inductive Violation where
  | noDatabasePath
  | notIdentifier (key name : String)
  | sameTables (name : String)
  | noAttempts
  | unknownLevel (level : String)
  deriving DecidableEq, Repr

/-- The levels of logging, in letters of any case. -/
def levels : List String := ["trace", "debug", "info", "warn", "error"]

def usersTableKey : String := "storage.users_table"
def sessionsTableKey : String := "storage.sessions_table"

def Violation.message : Violation → String
  | .noDatabasePath => "storage.database_path must not be empty"
  | .notIdentifier key name => s!"{key} `{name}` is not a valid SQL identifier"
  | .sameTables name => s!"{usersTableKey} and {sessionsTableKey} are both `{name}`"
  | .noAttempts => "session.key_retry_attempts must be at least 1"
  | .unknownLevel level =>
      s!"logging.level `{level}` is not one of " ++ ", ".intercalate levels

/-- The violation if the rule is broken. -/
def violatedIf (broken : Bool) (v : Violation) : List Violation := if broken then [v] else []

/-- All that is wrong with the settings. -/
def violations (s : Settings) : List Violation :=
  violatedIf (Text.allBlank s.storage.databasePath.toList) .noDatabasePath ++
    violatedIf (!isTableIdentifier s.storage.usersTable)
      (.notIdentifier usersTableKey s.storage.usersTable) ++
    violatedIf (!isTableIdentifier s.storage.sessionsTable)
      (.notIdentifier sessionsTableKey s.storage.sessionsTable) ++
    violatedIf (s.storage.usersTable == s.storage.sessionsTable)
      (.sameTables s.storage.usersTable) ++
    violatedIf (s.session.keyRetryAttempts == 0) .noAttempts ++
    violatedIf (!levels.contains (asciiLowerText s.logging.level)) (.unknownLevel s.logging.level)

end AccountStore.Config
