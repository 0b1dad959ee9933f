/-
# AccountStore.Storage -- users and sessions in one database file

A handle has settings and, once it is open, a connection.  Opening reads the
settings, opens the file and prepares both tables; when any of it fails, the
handle stays closed and can be opened later.  Before that every other
operation is refused.  Closing keeps the handle open; dropping it leaves the
database on the disk.
-/
import AccountStore.Database.Connection
import AccountStore.Database.Disk
import AccountStore.Engine.Session
import AccountStore.Config.Settings
import AccountStore.Store.Retry

namespace AccountStore

set_option autoImplicit false

open AccountStore.Database

/-- What an open handle works with. -/
structure OpenStorage where
  template : Template
  connection : Connection
  deriving DecidableEq, Repr

structure Storage where
  settings : StorageSettings
  session : SessionSettings := {}
  columns : UserColumns := {}
  disk : Disk
  opened : Option OpenStorage := none

namespace Storage

def userEngine (t : Template) (c : UserColumns) : UserEngine Connection :=
  ⟨Connection.backend, UserStatements.ofColumns t c, Bridge.textual⟩

def sessionEngine (t : Template) : SessionEngine Connection :=
  ⟨Connection.backend, SessionStatements.ofTemplate t, Bridge.textual⟩

/-- Prepares both tables, users first. -/
def prepare (t : Template) (c : UserColumns) (k : Connection) :
    Except StoreError Unit × Connection :=
  match (userEngine t c).store.init k with
  | (.error e, k) => (.error e, k)
  | (.ok (), k) => (sessionEngine t).store.init k

/-- Puts what a connection holds back on the disk. -/
def save (s : Storage) (k : Connection) : Storage :=
  { s with disk := s.disk.put s.settings.databasePath (.database k.contents) }

/-- Opens a handle. -/
def start (s : Storage) : Except StoreError Unit × Storage :=
  match s.opened with
  | some _ => (.error .alreadyInitialized, s)
  | none =>
      match Template.ofSettings s.settings with
      | .error e => (.error e, s)
      | .ok t =>
          match s.disk.openDatabase s.settings.databasePath with
          | (.error e, disk) => (.error (.driver (.failure e)), { s with disk := disk })
          | (.ok c, disk) =>
              let s := { s with disk := disk }
              match prepare t s.columns (Connection.opened c) with
              | (.error e, k) => (.error e, s.save k)
              | (.ok (), k) => (.ok (), { s with opened := some ⟨t, k⟩ })

/-- Lets go of a handle and leaves the disk. -/
def drop (s : Storage) : Disk :=
  match s.opened with
  | some o => (s.save o.connection).disk
  | none => s.disk

/-- Runs an operation on the open connection. -/
def onConnection {α : Type}
    (f : OpenStorage → Connection → Except StoreError α × Connection) (s : Storage) :
    Except StoreError α × Storage :=
  match s.opened with
  | none => (.error .notInitialized, s)
  | some o =>
      let (r, k) := f o o.connection
      (r, { s with opened := some { o with connection := k } })

/-- Hands out a store of the handle, once it is open. -/
def access {α : Type} (store : α) (s : Storage) : Except StoreError α :=
  match s.opened with
  | none => .error .notInitialized
  | some _ => .ok store

def health : Storage → Except StoreError Unit × Storage :=
  onConnection (fun _ k => let (r, k) := k.ping; (r.mapError StoreError.driver, k))

/-- Folds the log back into the file where there is one. -/
def close (s : Storage) : Except StoreError Unit × Storage :=
  onConnection (fun _ k =>
    if s.settings.walMode then
      let (r, k) := k.checkpoint
      (r.mapError StoreError.driver, k)
    else (.ok (), k)) s

/-- The users behind a handle. -/
def users : UserStore Storage where
  init s := onConnection (fun o => (userEngine o.template s.columns).store.init) s
  get id s := onConnection (fun o => (userEngine o.template s.columns).store.get id) s
  getByName name s :=
    onConnection (fun o => (userEngine o.template s.columns).store.getByName name) s
  getByEmail address s :=
    onConnection (fun o => (userEngine o.template s.columns).store.getByEmail address) s
  insert now u s :=
    match s.opened with
    | none => ((.error .notInitialized, u), s)
    | some o =>
        let (r, k) := (userEngine o.template s.columns).store.insert now u o.connection
        (r, { s with opened := some { o with connection := k } })
  update id u fields s :=
    onConnection (fun o => (userEngine o.template s.columns).store.update id u fields) s
  delete id s := onConnection (fun o => (userEngine o.template s.columns).store.delete id) s

/-- The sessions behind a handle. -/
def sessions : SessionStore Storage where
  init := onConnection (fun o => (sessionEngine o.template).store.init)
  insert session := onConnection (fun o => (sessionEngine o.template).store.insert session)
  get key := onConnection (fun o => (sessionEngine o.template).store.get key)
  delete key := onConnection (fun o => (sessionEngine o.template).store.delete key)
  cleanUp reference := onConnection (fun o => (sessionEngine o.template).store.cleanUp reference)
  deleteForUser user := onConnection (fun o => (sessionEngine o.template).store.deleteForUser user)

/-- Creates a session under a fresh key, in as many attempts as the settings
allow.  A closed handle draws no key. -/
def createSession (user : UserId) (expires : Instant) (source : Entropy) (s : Storage) :
    Except StoreError Session × Entropy × Storage :=
  match s.opened with
  | none => (.error .notInitialized, source, s)
  | some _ => sessions.create s.session.keyRetryAttempts user expires source s

end Storage

end AccountStore
