/-
# AccountStore.Memory.User -- users kept in memory

A table is a map from ids to users, kept in the order of the ids, and the id
that the next user gets.  Ids start at one and none is given twice.  Two users
collide when they share a username or, where email addresses are unique, an
email address.
-/
import AccountStore.Store.Basic

namespace AccountStore

set_option autoImplicit false

structure UserTable where
  /-- The id that the next user gets.  It has no bound here; a table in memory counts with
  sixty-four bits, and the two are the same as long as this stays below `int64Max`. -/
  nextId : Int := 1
  /-- Each user under an id, the smallest id first. -/
  entries : List (UserId × User) := []
  deriving DecidableEq, Repr

namespace UserTable

def size (t : UserTable) : Nat := t.entries.length

def users (t : UserTable) : List User := t.entries.map Prod.snd

def find? (t : UserTable) (id : UserId) : Option User := t.entries.lookup id

/-- Puts a user under an id, in place of the one that is there. -/
def putEntry (id : UserId) (u : User) : List (UserId × User) → List (UserId × User)
  | [] => [(id, u)]
  | (k, v) :: rest =>
      if id.value < k.value then (id, u) :: (k, v) :: rest
      else if k = id then (id, u) :: rest
      else (k, v) :: putEntry id u rest

def put (t : UserTable) (id : UserId) (u : User) : UserTable :=
  { t with entries := putEntry id u t.entries }

def collides (emailUnique : Bool) (a b : User) : Bool :=
  a.username == b.username || (emailUnique && a.email == b.email)

/-- The first user under another id that collides with `u`. -/
def conflict? (emailUnique : Bool) (t : UserTable) (skip : UserId) (u : User) : Option User :=
  t.users.find? (fun other => other.id != skip && collides emailUnique other u)

def get (id : UserId) (t : UserTable) : Except StoreError User × UserTable :=
  match t.find? id with
  | some u => (.ok u, t)
  | none => (.error (.noSuchUser (.byId id)), t)

def getByName (name : String) (t : UserTable) : Except StoreError User × UserTable :=
  match t.users.find? (fun u => u.username == name) with
  | some u => (.ok u, t)
  | none => (.error (.noSuchUser (.byUsername name)), t)

def getByEmail (address : String) (t : UserTable) : Except StoreError User × UserTable :=
  match t.users.find? (fun u => u.email == address) with
  | some u => (.ok u, t)
  | none => (.error (.noSuchUser (.byEmail address)), t)

def insert (emailUnique : Bool) (now : Instant) (u : User) (t : UserTable) :
    (Except StoreError UserId × User) × UserTable :=
  let u := u.prepared now
  match t.conflict? emailUnique UserId.invalid u with
  | some other =>
      let detail := s!"username `{u.username}` or email `{u.email}` is taken by user {other.id.value}"
      ((.error (.userExists detail), u), t)
  | none =>
      let id : UserId := ⟨t.nextId⟩
      let u := { u with id := id }
      ((.ok id, u), { t with nextId := t.nextId + 1 }.put id u)

/-- The fields that an update touches; an empty list stands for all. -/
def touched (fields : List UserField) : List UserField :=
  if fields.isEmpty then UserField.all else fields

def update (emailUnique : Bool) (id : UserId) (u : User) (fields : List UserField)
    (t : UserTable) : Except StoreError Unit × UserTable :=
  match t.find? id with
  | none => (.ok (), t)
  | some current =>
      let updated := UserField.copyAll (touched fields) u current
      match t.conflict? emailUnique id updated with
      | some other =>
          let detail := s!"update of user {id.value} collides with user {other.id.value}"
          (.error (.ambiguousUpdate detail), t)
      | none => (.ok (), t.put id updated)

def delete (id : UserId) (t : UserTable) : Except StoreError Unit × UserTable :=
  (.ok (), { t with entries := t.entries.filter (fun e => e.1 != id) })

def store (emailUnique : Bool) : UserStore UserTable where
  init t := (.ok (), t)
  get := get
  getByName := getByName
  getByEmail := getByEmail
  insert := insert emailUnique
  update := update emailUnique
  delete := delete

end UserTable

end AccountStore
