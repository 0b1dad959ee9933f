/-
# AccountStore.Conformance.Session -- what every store of sessions must do

Each check starts from an empty store that was not prepared yet.
-/
import AccountStore.Conformance.Basic
import AccountStore.Conformance.Samples

namespace AccountStore.Conformance

set_option autoImplicit false

variable {σ : Type}

def prepareSessions (store : SessionStore σ) : Check σ Unit :=
  succeeds "init_sessions failed" store.init

def insertSession (store : SessionStore σ) (s : Session) : Check σ Unit :=
  succeeds "session insert failed" (store.insert s)

def insertSessions (store : SessionStore σ) : Check σ Unit :=
  each (insertSession store) sampleSessions

def session (_ : Session) : Seen := .record

def noValue (_ : Unit) : Seen := .nothing

/-- The session under a key must be gone. -/
def requireGone (store : SessionStore σ) (key condition : String) : Check σ Unit := do
  let r ← call (store.get key)
  require (match r with | .ok _ => false | .error _ => true) (.untrue condition)

def requireCount (want got : Nat) (claim : Option String) : Check σ Unit :=
  require (got == want) (.unequal claim)

def checkSessionInsert (store : SessionStore σ) : Check σ Unit := do
  prepareSessions store
  insertSessions store
  each (fun s => do
    let e ← fails "duplicate session key accepted" noValue (store.insert s)
    require (e == .sessionExists s.key) (.wrongError e)) sampleSessions

def isNoSuchSession : StoreError → Bool
  | .noSuchSession _ => true
  | _ => false

def checkSessionGet (store : SessionStore σ) : Check σ Unit := do
  prepareSessions store
  insertSessions store
  each (fun s => do
    let got ← succeeds "get failed" (store.get s.key)
    require (sameSession s got) (.refuted "session mismatch:")) sampleSessions
  each (fun key => do
    let e ← fails "missing key found" session (store.get key)
    require (isNoSuchSession e) (.wrongError e)) missingKeys

/-- The samples one by one. -/
def sampleA : Session := ⟨keyOf 'A', ⟨1⟩, day 9⟩
def sampleB : Session := ⟨keyOf 'B', ⟨2⟩, day 10⟩
def sampleC : Session := ⟨keyOf 'C', ⟨3⟩, day 12⟩

def checkSessionDelete (store : SessionStore σ) : Check σ Unit := do
  prepareSessions store
  insertSessions store
  each (fun s => do
    succeeds "delete failed" (store.delete s.key)
    let e ← fails "deleted session found" session (store.get s.key)
    require e.isNotFound (.wrongError e)) [sampleA, sampleB]
  let _ ← succeeds "untouched session lost" (store.get sampleC.key)
  each (fun key => succeeds "delete of missing key failed" (store.delete key)) missingKeys

def checkSessionCleanUp (store : SessionStore σ) : Check σ Unit := do
  prepareSessions store
  insertSessions store
  let removed ← succeeds "clean up failed" (store.cleanUp sweepReference)
  requireCount 2 removed (some s!"clean up removed {removed} sessions")
  let kept ← succeeds "valid session removed" (store.get sampleC.key)
  require (sameSession sampleC kept) (.refuted "session mismatch:")
  each (fun s => requireGone store s.key "store.get_session(&expired.key).await.is_err()")
    [sampleA, sampleB]
  let n ← succeedsPlainly (store.deleteForUser ⟨1⟩)
  requireCount 0 n none
  let n ← succeedsPlainly (store.cleanUp sweepReference)
  requireCount 0 n none

def checkSessionDeleteForUser (store : SessionStore σ) : Check σ Unit := do
  prepareSessions store
  insertSessions store
  let n ← succeeds "delete for user failed" (store.deleteForUser ⟨1⟩)
  requireCount 1 n none
  requireGone store sampleA.key "store.get_session(&sessions[0].key).await.is_err()"
  let _ ← succeeds "other user's session removed" (store.get sampleB.key)
  let n ← succeedsPlainly (store.deleteForUser ⟨1⟩)
  requireCount 0 n none
  let n ← succeedsPlainly (store.cleanUp sweepReference)
  requireCount 1 n none

/-- A session that was read back holds up to its expiry and not at it. -/
def checkSessionValidity (store : SessionStore σ) : Check σ Unit := do
  prepareSessions store
  insertSessions store
  let got ← succeeds "get failed" (store.get sampleB.key)
  require (got.isValid (shift got.expires (-1000)))
    (.untrue "got.is_valid(got.expire_date - Duration::microseconds(1))")
  require (!got.isValid got.expires) (.untrue "!got.is_valid(got.expire_date)")
  require (!got.isValid sweepReference) (.untrue "!got.is_valid(clean_up_reference())")
  require (got.isValid (day 9)) (.untrue "got.is_valid(day(9))")

/-- One run of attempts as a call. -/
def retrying (store : SessionStore σ) (attempts : Nat) (entry : Session) (source : Entropy) :
    Check σ (Retried Unit) :=
  ExceptT.mk (fun s =>
    let r := store.insertWithRetry attempts entry source s
    (.ok ⟨r.result, r.session, r.source, ()⟩, r.store))

def exhaustedAfter : StoreError → Option Nat
  | .retryExhausted collisions => some collisions.length
  | _ => none

/-- A run of attempts gets a taken key out of the way, and ends when no attempt
is left. -/
def checkSessionRetry (store : SessionStore σ) (source : Entropy) : Check σ Unit := do
  prepareSessions store
  insertSessions store
  let r ← retrying store 3 ⟨sampleA.key, ⟨9⟩, day 12⟩ source
  let _ ← succeeds "retry did not recover from a collision" (fun s => (r.result, s))
  require (r.session.key != sampleA.key) .agreed
  require (r.session.key.length == SessionKey.length) (.unequal none)
  let stored ← succeeds "retried session missing" (store.get r.session.key)
  require (stored.user == ⟨9⟩) (.unequal none)
  let r ← retrying store 1 ⟨sampleB.key, ⟨9⟩, day 12⟩ r.source
  let e ← fails "single attempt should not retry" noValue (fun s => (r.result, s))
  match exhaustedAfter e with
  | some n => requireCount 1 n none
  | none => find (.wrongErrorFor "RetryExhausted" e)
  let r ← retrying store 0 ⟨keyOf 'D', ⟨9⟩, day 12⟩ r.source
  let e ← fails "zero attempts inserted" noValue (fun s => (r.result, s))
  require (exhaustedAfter e == some 0)
    (.untrue "matches!(err, StoreError::RetryExhausted \x7b ref collisions \x7d if collisions.is_empty())")
  requireGone store r.session.key "store.get_session(&entry.key).await.is_err()"

/-- Expiry and reference that differ by less than a microsecond still compare
strictly. -/
def checkSessionPrecision (store : SessionStore σ) : Check σ Unit := do
  prepareSessions store
  let expiry := shift sweepReference 500
  let reference := shift expiry (-400)
  let s : Session := ⟨keyOf 'E', ⟨5⟩, expiry⟩
  insertSession store s
  let stored ← succeeds "get failed" (store.get s.key)
  require (stored.expires == expiry) (.unequal (some "expiry lost precision"))
  require (stored.isValid reference) (.untrue "stored.is_valid(reference)")
  let n ← succeedsPlainly (store.cleanUp reference)
  requireCount 0 n (some "valid session swept")
  let _ ← succeeds "valid session removed" (store.get s.key)
  let n ← succeedsPlainly (store.cleanUp expiry)
  requireCount 1 n none

/-- The checks by name. -/
def sessionCheck? (store : SessionStore σ) (source : Entropy) : String → Option (Check σ Unit)
  | "session_init" => some (prepareSessions store)
  | "session_insert" => some (checkSessionInsert store)
  | "session_get" => some (checkSessionGet store)
  | "session_delete" => some (checkSessionDelete store)
  | "session_clean_up" => some (checkSessionCleanUp store)
  | "session_delete_for_user" => some (checkSessionDeleteForUser store)
  | "session_validity" => some (checkSessionValidity store)
  | "session_key_retry" => some (checkSessionRetry store source)
  | "session_sub_microsecond_expiry" => some (checkSessionPrecision store)
  | _ => none

end AccountStore.Conformance
