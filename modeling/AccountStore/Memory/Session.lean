/-
# AccountStore.Memory.Session -- sessions kept in memory

A table is a map from keys to sessions.  It keeps its entries in the order in
which they came; no answer depends on that order.
-/
import AccountStore.Store.Basic

namespace AccountStore

set_option autoImplicit false

structure SessionTable where
  entries : List (String × Session) := []
  deriving DecidableEq, Repr

namespace SessionTable

def size (t : SessionTable) : Nat := t.entries.length

def sessions (t : SessionTable) : List Session := t.entries.map Prod.snd

def find? (t : SessionTable) (key : String) : Option Session := t.entries.lookup key

def insert (session : Session) (t : SessionTable) : Except StoreError Unit × SessionTable :=
  match t.find? session.key with
  | some _ => (.error (.sessionExists session.key), t)
  | none => (.ok (), ⟨t.entries ++ [(session.key, session)]⟩)

def get (key : String) (t : SessionTable) : Except StoreError Session × SessionTable :=
  match t.find? key with
  | some session => (.ok session, t)
  | none => (.error (.noSuchSession key), t)

def delete (key : String) (t : SessionTable) : Except StoreError Unit × SessionTable :=
  (.ok (), ⟨t.entries.filter (fun e => e.1 != key)⟩)

/-- Removes the sessions for which a condition holds and counts them. -/
def removeWhere (condition : Session → Bool) (t : SessionTable) :
    Except StoreError Nat × SessionTable :=
  let kept := t.entries.filter (fun e => !condition e.2)
  (.ok (t.entries.length - kept.length), ⟨kept⟩)

def cleanUp (reference : Instant) : SessionTable → Except StoreError Nat × SessionTable :=
  removeWhere (fun s => !s.isValid reference)

def deleteForUser (user : UserId) : SessionTable → Except StoreError Nat × SessionTable :=
  removeWhere (fun s => s.user == user)

def store : SessionStore SessionTable where
  init t := (.ok (), t)
  insert := insert
  get := get
  delete := delete
  cleanUp := cleanUp
  deleteForUser := deleteForUser

end SessionTable

end AccountStore
