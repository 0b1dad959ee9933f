/-
# AccountStore.Conformance.User -- what every store of users must do

Each check starts from an empty store that was not prepared yet.  Where a check
depends on it, `emailUnique` tells whether two users may share an email
address.
-/
import AccountStore.Conformance.Basic
import AccountStore.Conformance.Samples

namespace AccountStore.Conformance

set_option autoImplicit false

variable {σ : Type}

def prepareUsers (store : UserStore σ) : Check σ Unit := succeeds "init_users failed" store.init

/-- Inserts a user that must go in, and checks what the insert did to it. -/
def insertSample (store : UserStore σ) (now : Instant) (u : User) : Check σ User := do
  let (result, u) ← ExceptT.mk (fun s => let r := store.insert now u s; (.ok r.1, r.2))
  match result with
  | .error e => find (.insertFailed u.username e)
  | .ok id =>
      require id.isValid (.refuted "insert returned invalid id")
      require (u.id == id) (.unequal (some "insert did not write the id back"))
      require (!Instant.lt u.dateJoined (shift now (-nanosPerSecond))) (.refuted "date_joined not stamped")
      require (u.lastLogin == Instant.epoch) (.unequal (some "last_login not reset"))
      pure u

def insertUsers (store : UserStore σ) (now : Instant) : List User → Check σ (List User)
  | [] => pure []
  | u :: rest => do
      let u ← insertSample store now u
      let rest ← insertUsers store now rest
      pure (u :: rest)

def insertSamples (store : UserStore σ) (now : Instant) : Check σ (List User) :=
  insertUsers store now sampleUsers

/-- Every user is found by id, by username and, where it is unique, by email
address. -/
def checkLookups (store : UserStore σ) (emailUnique : Bool) : List User → Check σ Unit :=
  each (fun u => do
    let byId ← succeeds "lookup by id failed" (store.get u.id)
    require (byId.id == u.id) (.unequal none)
    require (sameUser u byId) (.refuted "user mismatch:")
    let byName ← succeeds "lookup by username failed" (store.getByName u.username)
    require (sameUser u byName) (.refuted "user mismatch:")
    if emailUnique then
      let byEmail ← succeeds "lookup by email failed" (store.getByEmail u.email)
      require (sameUser u byEmail) (.refuted "user mismatch:"))

def isUserExists : StoreError → Bool
  | .userExists _ => true
  | _ => false

def isAmbiguousUpdate : StoreError → Bool
  | .ambiguousUpdate _ => true
  | _ => false

def requireUserExists (e : StoreError) : Check σ Unit :=
  require (isUserExists e) (.wrongErrorFor "UserExists" e)

def requireAmbiguous (e : StoreError) : Check σ Unit := require (isAmbiguousUpdate e) (.wrongError e)

/-- Inserting without a look at the user after it. -/
def insertOnly (store : UserStore σ) (now : Instant) (u : User) (s : σ) :
    Except StoreError UserId × σ :=
  let r := store.insert now u s
  (r.1.1, r.2)

def areDistinct : List UserId → Bool
  | [] => true
  | id :: rest => !rest.contains id && areDistinct rest

def checkInsert (store : UserStore σ) (now : Instant) (emailUnique : Bool) : Check σ Unit := do
  prepareUsers store
  let users ← insertSamples store now
  require (areDistinct (users.map User.id)) (.unequal (some "ids are not distinct"))
  let e ← fails "duplicate username accepted" Seen.userId (insertOnly store now duplicateUsername)
  requireUserExists e
  if emailUnique then
    let e ← fails "duplicate email accepted" Seen.userId (insertOnly store now duplicateEmail)
    requireUserExists e
  else
    let _ ← succeeds "duplicate email rejected although emails are not unique"
      (insertOnly store now duplicateEmail)

def user (_ : User) : Seen := .record

def checkLookup (store : UserStore σ) (now : Instant) (emailUnique : Bool) : Check σ Unit := do
  prepareUsers store
  let users ← insertSamples store now
  checkLookups store emailUnique users
  let e ← fails "invalid id found" user (store.get UserId.invalid)
  require (e == .noSuchUser (.byId UserId.invalid)) (.wrongError e)
  let e ← fails "unknown email found" user (store.getByEmail "user@exists.not")
  require (match e with | .noSuchUser (.byEmail _) => true | _ => false) (.wrongError e)
  let e ← fails "unknown username found" user (store.getByName "nonexistent")
  require (match e with | .noSuchUser (.byUsername _) => true | _ => false) (.wrongError e)

/-- Changes the users of a list one by one; what goes past the list is left
out. -/
def changeEach : List (User → User) → List User → List User
  | f :: fs, u :: us => f u :: changeEach fs us
  | _, us => us

/-- An id that no user has. -/
def missingId : UserId := ⟨int64Max⟩

def nothing (_ : Unit) : Seen := .nothing

/-- Full updates, then updates of just the fields that changed. -/
def checkUpdate (store : UserStore σ) (now : Instant) (emailUnique : Bool) : Check σ Unit := do
  prepareUsers store
  let users ← insertSamples store now
  let users := changeEach
    [fun u => { u with username := "new-user1" }, fun u => { u with email := "new@ok.de" },
      fun u => { u with username := "new-user3", isSuperuser := false }] users
  each (fun u => succeeds "full update failed" (store.update u.id u [])) users
  checkLookups store emailUnique users
  let users := changeEach
    [fun u => { u with username := "newer-user1" }, fun u => { u with email := "newer@ok.de" },
      fun u => { u with username := "newer-user3", isSuperuser := true }] users
  each (fun p => succeeds "partial update failed" (store.updateByNames p.1.id p.1 p.2))
    (users.zip [["Username"], ["EMail"], ["Username", "IsSuperUser"]])
  checkLookups store emailUnique users
  succeeds "update of missing id failed" (store.update missingId (users.headD {}) [])

/-- Fields that an update leaves out keep what they were. -/
def checkPartialUpdate (store : UserStore σ) (now : Instant) : Check σ Unit := do
  prepareUsers store
  let users ← insertSamples store now
  let stored := users.headD {}
  let changed := { stored with username := "renamed", email := "renamed@foo.com",
                               firstName := "Bar", isStaff := true, lastLogin := now }
  succeeds "partial update failed" (store.update stored.id changed [.firstName, .lastLogin])
  let got ← succeeds "lookup failed" (store.get stored.id)
  require (got.firstName == "Bar") (.unequal none)
  require (closeInTime got.lastLogin changed.lastLogin)
    (.untrue "close_in_time(got.last_login, changed.last_login)")
  require got.hasLoggedIn (.untrue "got.has_logged_in()")
  require (got.username == stored.username) (.unequal none)
  require (got.email == stored.email) (.unequal none)
  require (!got.isStaff) (.untrue "!got.is_staff")
  succeeds "lower-case field name rejected" (store.updateByNames stored.id changed ["isstaff"])
  let got ← succeedsPlainly (store.get stored.id)
  require got.isStaff (.untrue "store.get_user(stored.id).await.unwrap().is_staff")
  let e ← fails "unknown field accepted" nothing
    (store.updateByNames stored.id changed ["Username", "Nickname"])
  require (e == .unknownField "Nickname") (.wrongError e)
  let got ← succeedsPlainly (store.get stored.id)
  require (got.username == stored.username) (.unequal none)

/-- An update that would give two users one username is refused. -/
def checkConflict (store : UserStore σ) (now : Instant) (emailUnique : Bool) : Check σ Unit := do
  prepareUsers store
  let users ← insertSamples store now
  match users with
  | [first, second, third] =>
      let clash := { second with username := first.username }
      let e ← fails "duplicate username accepted on update" nothing
        (store.update clash.id clash [.username])
      requireAmbiguous e
      if emailUnique then
        let clash := { second with email := third.email }
        let e ← fails "duplicate email accepted on update" nothing (store.update clash.id clash [])
        requireAmbiguous e
      checkLookups store emailUnique users
  | _ => pure ()

def checkDelete (store : UserStore σ) (now : Instant) (emailUnique : Bool) : Check σ Unit := do
  prepareUsers store
  let users ← insertSamples store now
  match users with
  | [first, second, third] =>
      succeeds "delete failed" (store.delete second.id)
      checkLookups store emailUnique [first, third]
      let e ← fails "deleted user found" user (store.get second.id)
      require e.isNotFound (.wrongError e)
      succeeds "second delete of the same id failed" (store.delete second.id)
      succeeds "delete of missing id failed" (store.delete missingId)
  | _ => pure ()

/-- The checks by name. -/
def userCheck? (store : UserStore σ) (now : Instant) (emailUnique : Bool) :
    String → Option (Check σ Unit)
  | "user_init" => some (prepareUsers store)
  | "user_insert" => some (checkInsert store now emailUnique)
  | "user_lookup" => some (checkLookup store now emailUnique)
  | "user_update" => some (checkUpdate store now emailUnique)
  | "partial_update_isolation" => some (checkPartialUpdate store now)
  | "update_conflict" => some (checkConflict store now emailUnique)
  | "user_delete" => some (checkDelete store now emailUnique)
  | _ => none

end AccountStore.Conformance
