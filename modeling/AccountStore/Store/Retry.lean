/-
# AccountStore.Store.Retry -- inserting a session under a key that may be taken

When the key of a session is taken, it gets a fresh one and another attempt,
as long as attempts are left.  The last attempt draws no key.  Any other error
ends the run, also the failure to draw a key.
-/
import AccountStore.Store.Basic

namespace AccountStore

set_option autoImplicit false

/-- How a run of attempts ended: the session has the key of the last insert. -/
structure Retried (σ : Type) where
  result : Except StoreError Unit
  session : Session
  source : Entropy
  store : σ

namespace SessionStore

variable {σ : Type}

/-- Up to `attempts` inserts after the collisions so far. -/
def insertAfter (store : SessionStore σ) :
    Nat → List StoreError → Session → Entropy → σ → Retried σ
  | 0, collisions, session, source, s => ⟨.error (.retryExhausted collisions), session, source, s⟩
  | attempts + 1, collisions, session, source, s =>
      match store.insert session s with
      | (.ok (), s) => ⟨.ok (), session, source, s⟩
      | (.error (.sessionExists key), s) =>
          let collisions := collisions ++ [.sessionExists key]
          if attempts = 0 then ⟨.error (.retryExhausted collisions), session, source, s⟩
          else
            match source.draw with
            | (.error e, source) => ⟨.error e, session, source, s⟩
            | (.ok key, source) =>
                insertAfter store attempts collisions { session with key := key } source s
      | (.error e, s) => ⟨.error e, session, source, s⟩

/-- Inserts a session in at most `attempts` attempts. -/
def insertWithRetry (store : SessionStore σ) (attempts : Nat) (session : Session)
    (source : Entropy) (s : σ) : Retried σ :=
  store.insertAfter attempts [] session source s

/-- Creates a session under a fresh key. -/
def create (store : SessionStore σ) (attempts : Nat) (user : UserId) (expires : Instant)
    (source : Entropy) (s : σ) : Except StoreError Session × Entropy × σ :=
  match Session.withNewKey source user expires with
  | (.error e, source) => (.error e, source, s)
  | (.ok session, source) =>
      let r := store.insertWithRetry attempts session source s
      (r.result.map (fun _ => r.session), r.source, r.store)

end SessionStore

end AccountStore
