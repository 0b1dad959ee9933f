/-
# AccountStore.Error -- what can go wrong in a store

`Failure` is what a database driver reports, `DriverError` separates it from
an empty answer, and `StoreError` is what callers of a store see.  Each error
is a cause with its data; the wording is in `message` alone.
-/
import AccountStore.Session
import AccountStore.Instant.Reader

namespace AccountStore

set_option autoImplicit false

/-- A failure inside a database driver. -/
inductive Failure where
  /-- The operating system refused. -/
  | system (text : String)
  /-- The database engine refused, with its extended result code. -/
  | engine (code : Int) (text : Option String)
  /-- A column holds a value of another type. -/
  | columnType (found : String) (index : Nat) (name : String)
  /-- A column holds a text that is no instant. -/
  | columnInstant (index : Nat) (cause : Instant.ReadError)
  /-- The answer has no such column. -/
  | columnIndex (index : Nat)
  /-- A statement would have stored a second row under a unique key. -/
  | duplicate (text : String)
  | other (text : String)
  deriving DecidableEq, Repr

namespace Failure

/-- Extended result codes of the engine. -/
def uniqueViolation : Int := 2067
def primaryKeyViolation : Int := 1555
def notNullViolation : Int := 1299

/-- What the engine says about a result code when it says nothing else. -/
def codeText (code : Int) : String :=
  if code = uniqueViolation then "A UNIQUE constraint failed"
  else if code = primaryKeyViolation then "A PRIMARY KEY constraint failed"
  else if code = 787 then "Foreign key constraint failed"
  else if code = 1299 then "A NOT NULL constraint failed"
  else if code = 275 then "A CHECK constraint failed"
  else if code = 2579 then "A rowid or primary key is not unique"
  else
    match (code % 256).toNat with
    | 1 => "SQL logic error"
    | 3 => "Access permission denied"
    | 5 => "The database file is locked"
    | 6 => "A table in the database is locked"
    | 7 => "A malloc() failed"
    | 8 => "Attempt to write a readonly database"
    | 9 => "Operation terminated by sqlite3_interrupt()"
    | 10 => "Some kind of disk I/O error occurred"
    | 11 => "The database disk image is malformed"
    | 13 => "Insertion failed because database is full"
    | 14 => "Unable to open the database file"
    | 19 => "Abort due to constraint violation"
    | 20 => "Data type mismatch"
    | 21 => "Library used incorrectly"
    | 25 => "2nd parameter to sqlite3_bind out of range"
    | 26 => "File opened that is not a database file"
    | _ => "Unknown error code"

def message : Failure → String
  | .system text => text
  | .engine _ (some text) => text
  | .engine code none => s!"Error code {code}: {codeText code}"
  | .columnType found index name => s!"Invalid column type {found} at index: {index}, name: {name}"
  | .columnInstant index cause => s!"Conversion error from type Text at index: {index}, {cause.message}"
  | .columnIndex index => s!"Invalid column index: {index}"
  | .duplicate text => text
  | .other text => text

def isSystem : Failure → Bool
  | .system _ => true
  | _ => false

end Failure

inductive DriverError where
  /-- A query that must find a row found none. -/
  | noRows
  | failure (cause : Failure)
  deriving DecidableEq, Repr

def DriverError.message : DriverError → String
  | .noRows => "query returned no rows"
  | .failure cause => cause.message

/-- How a user was looked up. -/
inductive UserLookup where
  | byId (id : UserId)
  | byUsername (name : String)
  | byEmail (address : String)
  deriving DecidableEq, Repr

def UserLookup.text : UserLookup → String
  | .byId id => s!"id {id.value}"
  | .byUsername name => s!"username `{name}`"
  | .byEmail address => s!"email `{address}`"

inductive TemplateError where
  | emptyKey
  deriving DecidableEq, Repr

def TemplateError.message : TemplateError → String
  | .emptyKey => "template placeholder must not be empty"

inductive StoreError where
  | noSuchUser (lookup : UserLookup)
  | noSuchSession (key : String)
  | userExists (detail : String)
  | sessionExists (key : String)
  | ambiguousUpdate (detail : String)
  | unsupported (operation : String)
  | rollback (initial undoing : StoreError)
  | retryExhausted (collisions : List StoreError)
  | unknownField (name : String)
  | typeMismatch (expected found : String)
  | keyGeneration (detail : String)
  | invalidTableName (name : String)
  | notInitialized
  | alreadyInitialized
  | commit (cause : DriverError)
  | template (cause : TemplateError)
  | driver (cause : DriverError)
  deriving Repr, BEq

namespace StoreError

def message : StoreError → String
  | .noSuchUser lookup => s!"no user with {lookup.text}"
  | .noSuchSession key => s!"no session with key `{key}`"
  | .userExists detail => s!"user already exists: {detail}"
  | .sessionExists key => s!"session with key `{key}` already exists"
  | .ambiguousUpdate detail => s!"ambiguous user credentials: {detail}"
  | .unsupported operation => s!"operation not supported by backend: {operation}"
  | .rollback initial undoing =>
      s!"statement failed: {message initial}, unable to rollback: {message undoing}"
  | .retryExhausted collisions =>
      s!"session insert gave up after {collisions.length} key collisions"
  | .unknownField name => s!"unknown user field `{name}`"
  | .typeMismatch expected found => s!"type mismatch: expected {expected}, found {found}"
  | .keyGeneration detail => s!"session key generation failed: {detail}"
  | .invalidTableName name => s!"`{name}` is not a valid table name"
  | .notInitialized => "storage not initialized, call initialize() first"
  | .alreadyInitialized => "storage already initialized"
  | .commit cause => s!"commit failed: {cause.message}"
  | .template cause => cause.message
  | .driver cause => cause.message

def isNotFound : StoreError → Bool
  | .noSuchUser _ | .noSuchSession _ => true
  | _ => false

def isAlreadyExists : StoreError → Bool
  | .userExists _ | .sessionExists _ => true
  | _ => false

/-- For the errors that wrap a driver error: whether the operating system is
at the bottom of it. -/
def isSystemFailure? : StoreError → Option Bool
  | .commit .noRows | .driver .noRows => some false
  | .commit (.failure cause) | .driver (.failure cause) => some cause.isSystem
  | _ => none

end StoreError

/-- Field names read one after the other; the first unknown one decides. -/
def UserField.parseList : List String → Except StoreError (List UserField)
  | [] => .ok []
  | s :: rest =>
      match UserField.ofName? s with
      | none => .error (.unknownField s)
      | some f => (parseList rest).map (f :: ·)

end AccountStore
