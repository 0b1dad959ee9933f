/-
# AccountStore.Config.Decode -- settings from what the layers say

The merged layers are read section by section and key by key, in the order of
the keys.  A section is a table; it may also be a list of the values of its
keys in their own order, where surplus values do not count.  The first fault
ends the reading.  Settings that no layer mentions keep their defaults.
-/
import AccountStore.Config.Settings
import AccountStore.Config.Environment

namespace AccountStore.Config

set_option autoImplicit false

/-- Why a layered configuration gives no settings. -/
inductive Fault where
  /-- A file that is no TOML document. -/
  | unreadable (source : Source)
  | unknownKey (path : List String) (key : String) (valid : List String) (source : Source)
  | wrongKind (path : List String) (found expected : String)
  /-- A negative number where only others will do. -/
  | negative (path : List String) (n : Int) (expected : String) (source : Source)
  deriving DecidableEq, Repr

/-- Why a key refuses a value. -/
inductive Refusal where
  | wrongKind
  | negative (n : Int)
  deriving DecidableEq, Repr

/-- A key of a section: what it expects, and how its value changes the settings. -/
structure Key where
  name : String
  expected : String
  read : Value → Except Refusal (Settings → Settings)

namespace Key

def text (name : String) (set : String → Settings → Settings) : Key where
  name := name
  expected := "a string"
  read v := match v with | .text s => .ok (set s) | _ => .error .wrongKind

def truth (name : String) (set : Bool → Settings → Settings) : Key where
  name := name
  expected := "a boolean"
  read v := match v with | .truth b => .ok (set b) | _ => .error .wrongKind

/-- A whole number that is not negative. -/
def count (name : String) (set : Nat → Settings → Settings) : Key where
  name := name
  expected := "usize"
  read v :=
    match v with
    | .unsigned n => .ok (set n)
    | .signed n => if n < 0 then .error (.negative n) else .ok (set n.toNat)
    | _ => .error .wrongKind

/-- Reads the value at `path`. -/
def apply (k : Key) (path : List String) (source : Source) (v : Value) (s : Settings) :
    Except Fault Settings :=
  match k.read v with
  | .ok change => .ok (change s)
  | .error .wrongKind => .error (.wrongKind path v.describe k.expected)
  | .error (.negative n) => .error (.negative path n k.expected source)

end Key

structure Section where
  name : String
  /-- What messages call it. -/
  title : String
  keys : List Key

namespace Section

def keyNames (s : Section) : List String := s.keys.map Key.name

def readEntry (s : Section) (settings : Settings) (key : String) (v : Setting) :
    Except Fault Settings :=
  match s.keys.find? (fun k => k.name == key) with
  | none => .error (.unknownKey [s.name, key] key s.keyNames v.source)
  | some k =>
      match v with
      | .leaf source v => k.apply [s.name, key] source v settings
      | .table _ _ => .error (.wrongKind [s.name, key] (Value.table []).describe k.expected)

/-- The values of the keys in order; `i` of them have been read. -/
def readItems (s : Section) (source : Source) :
    Nat → List Key → List Value → Settings → Except Fault Settings
  | i, k :: keys, v :: items, settings =>
      match k.apply [s.name, toString i] source v settings with
      | .error e => .error e
      | .ok settings => readItems s source (i + 1) keys items settings
  | _, _, _, settings => .ok settings

def read (s : Section) (v : Setting) (settings : Settings) : Except Fault Settings :=
  match v with
  | .table _ entries => entries.foldlM (fun settings p => s.readEntry settings p.1 p.2) settings
  | .leaf source (.list items) => s.readItems source 0 s.keys items settings
  | .leaf _ v => .error (.wrongKind [s.name] v.describe ("struct " ++ s.title))

end Section

def storageSection : Section where
  name := "storage"
  title := "StorageConfig"
  keys := [
    .text "database_path" fun v s => { s with storage := { s.storage with databasePath := v } },
    .truth "wal_mode" fun v s => { s with storage := { s.storage with walMode := v } },
    .text "users_table" fun v s => { s with storage := { s.storage with usersTable := v } },
    .text "sessions_table" fun v s => { s with storage := { s.storage with sessionsTable := v } },
    .truth "email_unique" fun v s => { s with storage := { s.storage with emailUnique := v } }]

def sessionSection : Section where
  name := "session"
  title := "SessionConfig"
  keys := [
    .count "key_retry_attempts" fun v s =>
      { s with session := { s.session with keyRetryAttempts := v } }]

def loggingSection : Section where
  name := "logging"
  title := "LoggingConfig"
  keys := [.text "level" fun v s => { s with logging := { s.logging with level := v } }]

def sections : List Section := [storageSection, sessionSection, loggingSection]

/-- A top entry of the merged layers. -/
def readSection (settings : Settings) (key : String) (v : Setting) : Except Fault Settings :=
  match sections.find? (fun s => s.name == key) with
  | none => .error (.unknownKey [key] key (sections.map Section.name) v.source)
  | some s => s.read v settings

/-- Changes `settings` as the entries say. -/
def decode (settings : Settings) (entries : Entries Setting) : Except Fault Settings :=
  entries.foldlM (fun settings p => readSection settings p.1 p.2) settings

end AccountStore.Config
