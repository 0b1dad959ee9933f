/-
# AccountStore.Engine.User -- users behind a database backend

Any backend, any statements and any bridge make a store of users.  Each
operation is one call of the backend; the answer or the error is then put into
the words of a store.
-/
import AccountStore.Backend
import AccountStore.Bridge
import AccountStore.Statements.User
import AccountStore.Store.Basic

namespace AccountStore

set_option autoImplicit false

structure UserEngine (σ : Type) where
  backend : Backend σ
  statements : UserStatements
  bridge : Bridge

namespace UserEngine

variable {σ : Type}

/-- The kinds of the eleven columns of a lookup. -/
def scanKinds (b : Bridge) : List ScanKind :=
  [.integer, .text, .text, .text, .text, .text, .bool, .bool, .bool, b.timestampKind,
    b.timestampKind]

/-- Takes an instant from a row. -/
def takeInstant (b : Bridge) (r : Row) (index : Nat) : Except StoreError Instant :=
  match (r.take index).1 with
  | .ok v => b.decode v
  | .error e => .error e

/-- Reads a user from the eleven columns of a lookup, from left to right. -/
def readUser (b : Bridge) (r : Row) : Except StoreError User := do
  let id ← (r.takeInteger 0).1
  let username ← (r.takeText 1).1
  let password ← (r.takeText 2).1
  let email ← (r.takeText 3).1
  let firstName ← (r.takeText 4).1
  let lastName ← (r.takeText 5).1
  let isSuperuser ← (r.takeBool 6).1
  let isStaff ← (r.takeBool 7).1
  let isActive ← (r.takeBool 8).1
  let dateJoined ← takeInstant b r 9
  let lastLogin ← takeInstant b r 10
  return { id := ⟨id⟩, username := username, password := password, email := email,
           firstName := firstName, lastName := lastName, isSuperuser := isSuperuser,
           isStaff := isStaff, isActive := isActive, dateJoined := dateJoined,
           lastLogin := lastLogin }

/-- The values of a user's fields as parameters. -/
def parameters (b : Bridge) (u : User) (fields : List UserField) : List SqlValue :=
  fields.map (fun f => b.parameter (f.value u))

def fetch (e : UserEngine σ) (statement : String) (key : SqlValue) (lookup : UserLookup) (s : σ) :
    Except StoreError User × σ :=
  match e.backend.queryRow statement [key] (scanKinds e.bridge) s with
  | (.ok row, s) => (readUser e.bridge row, s)
  | (.error .noRows, s) => (.error (.noSuchUser lookup), s)
  | (.error err, s) => (.error (.driver err), s)

def insertError (b : Bridge) (u : User) (err : DriverError) : StoreError :=
  if b.isDuplicateInsert err then
    .userExists s!"username `{u.username}` or email `{u.email}`: {err.message}"
  else .driver err

def insert (e : UserEngine σ) (now : Instant) (u : User) (s : σ) :
    (Except StoreError UserId × User) × σ :=
  let u := u.prepared now
  match e.backend.execute e.statements.insert (parameters e.bridge u UserField.all) s with
  | (.ok outcome, s) =>
      match outcome.lastInsertId with
      | some id => ((.ok ⟨id⟩, { u with id := ⟨id⟩ }), s)
      | none => ((.error (.unsupported "last insert id"), u), s)
  | (.error err, s) => ((.error (insertError e.bridge u err), u), s)

/-- The list of fields that an update names in its statement, if any. -/
def updateList (e : UserEngine σ) (fields : List UserField) : Option (List UserField) :=
  if e.statements.supportsFields && !fields.isEmpty then some fields else none

def updateError (b : Bridge) (id : UserId) (err : DriverError) : StoreError :=
  if b.isDuplicateUpdate err then
    .ambiguousUpdate s!"update of user {id.value} collides with another user: {err.message}"
  else .driver err

def update (e : UserEngine σ) (id : UserId) (u : User) (fields : List UserField) (s : σ) :
    Except StoreError Unit × σ :=
  let listed := e.updateList fields
  let values := parameters e.bridge u (listed.getD UserField.all) ++ [.integer id.value]
  match e.backend.execute (e.statements.update listed) values s with
  | (.ok _, s) => (.ok (), s)
  | (.error err, s) => (.error (updateError e.bridge id err), s)

def delete (e : UserEngine σ) (id : UserId) (s : σ) : Except StoreError Unit × σ :=
  match e.backend.execute e.statements.delete [.integer id.value] s with
  | (.ok _, s) => (.ok (), s)
  | (.error err, s) => (.error (.driver err), s)

def store (e : UserEngine σ) : UserStore σ where
  init := e.backend.setUp e.statements.init
  get id := e.fetch e.statements.byId (.integer id.value) (.byId id)
  getByName name := e.fetch e.statements.byUsername (.text name) (.byUsername name)
  getByEmail address := e.fetch e.statements.byEmail (.text address) (.byEmail address)
  insert := e.insert
  update := e.update
  delete := e.delete

end UserEngine

end AccountStore
