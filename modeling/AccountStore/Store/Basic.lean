/-
# AccountStore.Store.Basic -- what a store of users or sessions offers

A store over states `σ` answers each call with a result and the state after
it.  Whoever keeps accounts in this way, in memory or behind a database, is a
value of these records, so that callers and laws need not know which.
-/
import AccountStore.SessionKey

namespace AccountStore

set_option autoImplicit false

structure UserStore (σ : Type) where
  init : σ → Except StoreError Unit × σ
  get : UserId → σ → Except StoreError User × σ
  getByName : String → σ → Except StoreError User × σ
  getByEmail : String → σ → Except StoreError User × σ
  /-- Takes the clock's reading and the user to insert; answers with the new id
  and with the user as it is after the call. -/
  insert : Instant → User → σ → (Except StoreError UserId × User) × σ
  /-- Takes over the listed fields, or all when there are none. -/
  update : UserId → User → List UserField → σ → Except StoreError Unit × σ
  delete : UserId → σ → Except StoreError Unit × σ

structure SessionStore (σ : Type) where
  init : σ → Except StoreError Unit × σ
  insert : Session → σ → Except StoreError Unit × σ
  get : String → σ → Except StoreError Session × σ
  delete : String → σ → Except StoreError Unit × σ
  /-- Removes what is no longer valid at an instant and counts it. -/
  cleanUp : Instant → σ → Except StoreError Nat × σ
  deleteForUser : UserId → σ → Except StoreError Nat × σ

variable {σ : Type}

/-- An update of fields given by name; an unknown name leaves the store alone. -/
def UserStore.updateByNames (store : UserStore σ) (id : UserId) (u : User) (names : List String)
    (s : σ) : Except StoreError Unit × σ :=
  match UserField.parseList names with
  | .ok fields => store.update id u fields s
  | .error e => (.error e, s)

/-- A user on the way into a store: no id yet, joined now, never logged in. -/
def User.prepared (u : User) (now : Instant) : User :=
  { u with id := UserId.invalid, dateJoined := now, lastLogin := Instant.epoch }

end AccountStore
