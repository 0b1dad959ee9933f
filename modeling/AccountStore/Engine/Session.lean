/-
# AccountStore.Engine.Session -- sessions behind a database backend

Any backend, any statements and any bridge make a store of sessions, one call
of the backend per operation.
-/
import AccountStore.Engine.User
import AccountStore.Statements.Session

namespace AccountStore

set_option autoImplicit false

structure SessionEngine (σ : Type) where
  backend : Backend σ
  statements : SessionStatements
  bridge : Bridge

namespace SessionEngine

variable {σ : Type}

def scanKinds (b : Bridge) : List ScanKind := [.text, .integer, b.timestampKind]

/-- Reads a session from the three columns of a lookup, from left to right. -/
def readSession (b : Bridge) (r : Row) : Except StoreError Session := do
  let key ← (r.takeText 0).1
  let user ← (r.takeInteger 1).1
  let expires ← UserEngine.takeInstant b r 2
  return ⟨key, ⟨user⟩, expires⟩

def parameters (b : Bridge) (session : Session) : List SqlValue :=
  [.text session.key, .integer session.user.value, b.encode session.expires]

def insertError (b : Bridge) (session : Session) (err : DriverError) : StoreError :=
  if b.isDuplicateInsert err then .sessionExists session.key else .driver err

def insert (e : SessionEngine σ) (session : Session) (s : σ) : Except StoreError Unit × σ :=
  match e.backend.execute e.statements.insert (parameters e.bridge session) s with
  | (.ok _, s) => (.ok (), s)
  | (.error err, s) => (.error (insertError e.bridge session err), s)

def get (e : SessionEngine σ) (key : String) (s : σ) : Except StoreError Session × σ :=
  match e.backend.queryRow e.statements.byKey [.text key] (scanKinds e.bridge) s with
  | (.ok row, s) => (readSession e.bridge row, s)
  | (.error .noRows, s) => (.error (.noSuchSession key), s)
  | (.error err, s) => (.error (.driver err), s)

def delete (e : SessionEngine σ) (key : String) (s : σ) : Except StoreError Unit × σ :=
  match e.backend.execute e.statements.delete [.text key] s with
  | (.ok _, s) => (.ok (), s)
  | (.error err, s) => (.error (.driver err), s)

/-- Runs a removal that must report how many rows it removed. -/
def remove (e : SessionEngine σ) (statement : String) (value : SqlValue) (s : σ) :
    Except StoreError Nat × σ :=
  match e.backend.execute statement [value] s with
  | (.ok outcome, s) =>
      match outcome.rowsAffected with
      | some n => (.ok n, s)
      | none => (.error (.unsupported "affected row count"), s)
  | (.error err, s) => (.error (.driver err), s)

def store (e : SessionEngine σ) : SessionStore σ where
  init := e.backend.setUp e.statements.init
  insert := e.insert
  get := e.get
  delete := e.delete
  cleanUp reference := e.remove e.statements.deleteExpired (e.bridge.encode reference)
  deleteForUser user := e.remove e.statements.deleteForUser (.integer user.value)

end SessionEngine

end AccountStore
