/-
# AccountStore.Proofs.Engine.Errors -- a store does not speak of its handle

Whether a handle is open is the handle's business.  A store behind a backend
answers with what the driver says and with errors about rows, keys and names, and
never that something was not opened: not from a call on users (`step_reached`),
nor from one on sessions, retried or not.
-/
import AccountStore.Proofs.Store.Run
import AccountStore.Engine.Session

namespace AccountStore

set_option autoImplicit false

/-- The result is not that a handle is closed. -/
def Reached {α : Type} (r : Except StoreError α) : Prop := r ≠ .error .notInitialized

section Reached

variable {α β : Type}

theorem reached_ok (a : α) : Reached (.ok a) := by
  simp [Reached]

theorem reached_error {e : StoreError} (other : e ≠ .notInitialized) :
    Reached (.error e : Except StoreError α) :=
  fun closed => other (Except.error.inj closed)

/-- An error that is passed on. -/
theorem Reached.error {e : StoreError} (h : Reached (.error e : Except StoreError α)) :
    Reached (.error e : Except StoreError β) :=
  fun closed => h (congrArg Except.error (Except.error.inj closed))

theorem Reached.bind {r : Except StoreError α} {f : α → Except StoreError β} (first : Reached r)
    (later : ∀ a, Reached (f a)) : Reached (r >>= f) := by
  cases r with
  | error e => exact first.error
  | ok a => exact later a

theorem Reached.map {r : Except StoreError α} {f : α → β} (first : Reached r) :
    Reached (r.map f) := by
  cases r with
  | error e => exact first.error
  | ok a => exact reached_ok _

/-- What the driver said of a call that the handle passed on. -/
theorem reached_driver (r : Except DriverError α) : Reached (r.mapError StoreError.driver) := by
  cases r with
  | error e => exact reached_error (by simp)
  | ok a => exact reached_ok a

end Reached

/-! ## Rows -/

namespace Row

theorem take_reached (r : Row) (index : Nat) : Reached (r.take index).1 := by
  unfold take
  split
  · exact reached_ok _
  · exact reached_error (by simp)

theorem takeWith_reached {α : Type} (expected : String) (read : SqlValue → Option α) (r : Row)
    (index : Nat) : Reached (takeWith expected read r index).1 := by
  have taken := take_reached r index
  unfold takeWith
  split
  next e r' found =>
    rw [found] at taken
    exact taken.error
  next =>
    split
    · exact reached_ok _
    · exact reached_error (by simp)

end Row

theorem Bridge.decodeText_reached (v : SqlValue) : Reached (Bridge.decodeText v) := by
  unfold decodeText
  split
  · split
    · exact reached_ok _
    · exact reached_error (by simp)
  · exact reached_ok _
  · exact reached_error (by simp)

theorem Backend.setUp_reached {σ : Type} (b : Backend σ) (statements : List String) (s : σ) :
    Reached (b.setUp statements s).1 := by
  unfold setUp
  split
  · exact reached_ok _
  next e _ _ => cases e <;> exact reached_error (by simp [batchError])

theorem UserField.parseList_reached : ∀ names : List String, Reached (UserField.parseList names)
  | [] => reached_ok _
  | name :: rest => by
      unfold parseList
      split
      · exact reached_error (by simp)
      · exact (parseList_reached rest).map

theorem Entropy.draw_reached (source : Entropy) : Reached source.draw.1 := by
  cases source with
  | nil => exact reached_error (by simp)
  | cons block rest => exact reached_ok _

theorem Session.withNewKey_reached (source : Entropy) (user : UserId) (expires : Instant) :
    Reached (Session.withNewKey source user expires).1 := by
  have drawn := source.draw_reached
  unfold Session.withNewKey
  split
  next e rest found =>
    rw [found] at drawn
    exact drawn.error
  · exact reached_ok _

/-! ## Users -/

def UserAnswer.Reached : UserAnswer → Prop
  | .done result => AccountStore.Reached result
  | .found result => AccountStore.Reached result
  | .inserted result _ => AccountStore.Reached result

namespace UserEngine

variable {σ : Type}

theorem takeInstant_reached {b : Bridge} (decoded : ∀ v, Reached (b.decode v)) (r : Row)
    (index : Nat) : Reached (takeInstant b r index) := by
  have taken := r.take_reached index
  unfold takeInstant
  split
  next v _ => exact decoded v
  next e found =>
    rw [found] at taken
    exact taken.error

theorem readUser_reached {b : Bridge} (decoded : ∀ v, Reached (b.decode v)) (r : Row) :
    Reached (readUser b r) := by
  have instant : ∀ index, Reached (takeInstant b r index) := takeInstant_reached decoded r
  have integer : ∀ index, Reached (r.takeInteger index).1 := Row.takeWith_reached _ _ r
  have text : ∀ index, Reached (r.takeText index).1 := Row.takeWith_reached _ _ r
  have flag : ∀ index, Reached (r.takeBool index).1 := Row.takeWith_reached _ _ r
  unfold readUser
  refine (integer 0).bind fun _ => (text 1).bind fun _ => (text 2).bind fun _ =>
    (text 3).bind fun _ => (text 4).bind fun _ => (text 5).bind fun _ => ?_
  refine (flag 6).bind fun _ => (flag 7).bind fun _ => (flag 8).bind fun _ => ?_
  exact (instant 9).bind fun _ => (instant 10).bind fun _ => reached_ok _

theorem fetch_reached {e : UserEngine σ} (decoded : ∀ v, Reached (e.bridge.decode v))
    (statement : String) (key : SqlValue) (lookup : UserLookup) (s : σ) :
    Reached (e.fetch statement key lookup s).1 := by
  unfold fetch
  split
  · exact readUser_reached decoded _
  · exact reached_error (by simp)
  · exact reached_error (by simp)

theorem insert_reached (e : UserEngine σ) (now : Instant) (u : User) (s : σ) :
    Reached (e.insert now u s).1.1 := by
  unfold insert
  simp only
  split
  · split
    · exact reached_ok _
    · exact reached_error (by simp)
  · simp only [insertError]
    split <;> exact reached_error (by simp)

theorem update_reached (e : UserEngine σ) (id : UserId) (u : User) (fields : List UserField)
    (s : σ) : Reached (e.update id u fields s).1 := by
  unfold update
  simp only
  split
  · exact reached_ok _
  · simp only [updateError]
    split <;> exact reached_error (by simp)

theorem delete_reached (e : UserEngine σ) (id : UserId) (s : σ) : Reached (e.delete id s).1 := by
  unfold delete
  split
  · exact reached_ok _
  · exact reached_error (by simp)

/-- **No call on users says that a handle is closed.** -/
theorem step_reached {e : UserEngine σ} (decoded : ∀ v, AccountStore.Reached (e.bridge.decode v))
    (step : UserStep) (s : σ) : (e.store.step step s).1.Reached := by
  cases step with
  | init => exact e.backend.setUp_reached _ s
  | get id => exact fetch_reached decoded _ _ _ s
  | getByName name => exact fetch_reached decoded _ _ _ s
  | getByEmail address => exact fetch_reached decoded _ _ _ s
  | insert now u => exact e.insert_reached now u s
  | update id u fields => exact e.update_reached id u fields s
  | updateByNames id u names =>
      rcases e.store.updateByNames_cases id u names s with ⟨fields, -, same⟩ | ⟨err, unknown, same⟩
      · simp only [UserStore.step, same, Prod.map, UserAnswer.Reached]
        exact e.update_reached id u fields s
      · have parsed := UserField.parseList_reached names
        rw [unknown] at parsed
        simp only [UserStore.step, same, Prod.map, UserAnswer.Reached]
        exact parsed.error
  | delete id => exact e.delete_reached id s

end UserEngine

/-! ## Sessions -/

def SessionAnswer.Reached : SessionAnswer → Prop
  | .done result => AccountStore.Reached result
  | .found result => AccountStore.Reached result
  | .counted result => AccountStore.Reached result
  | .retried result _ _ => AccountStore.Reached result

namespace SessionStore

variable {σ : Type} {store : SessionStore σ}

/-- Retried inserts add errors of their own, about keys alone. -/
theorem insertAfter_reached (inserted : ∀ x s, Reached (store.insert x s).1) :
    ∀ (attempts : Nat) (collisions : List StoreError) (x : Session) (source : Entropy) (s : σ),
      Reached (store.insertAfter attempts collisions x source s).result
  | 0, _, _, _, _ => reached_error (by simp)
  | attempts + 1, collisions, x, source, s => by
      have first := inserted x s
      have drawn := source.draw_reached
      unfold insertAfter
      split
      · exact reached_ok _
      · simp only
        split
        · exact reached_error (by simp)
        · split
          next e rest found =>
            rw [found] at drawn
            exact drawn.error
          · exact insertAfter_reached inserted attempts _ _ _ _
      next e s' _ found =>
        rw [found] at first
        exact first

theorem create_reached (inserted : ∀ x s, Reached (store.insert x s).1) (attempts : Nat)
    (user : UserId) (expires : Instant) (source : Entropy) (s : σ) :
    Reached (store.create attempts user expires source s).1 := by
  have keyed := Session.withNewKey_reached source user expires
  unfold create
  split
  next e rest found =>
    rw [found] at keyed
    exact keyed.error
  · exact (insertAfter_reached inserted attempts [] _ _ s).map

end SessionStore

namespace SessionEngine

variable {σ : Type}

theorem readSession_reached {b : Bridge} (decoded : ∀ v, Reached (b.decode v)) (r : Row) :
    Reached (readSession b r) := by
  unfold readSession
  exact (Row.takeWith_reached _ _ r 0).bind fun _ => (Row.takeWith_reached _ _ r 1).bind fun _ =>
    (UserEngine.takeInstant_reached decoded r 2).bind fun _ => reached_ok _

theorem insert_reached (e : SessionEngine σ) (x : Session) (s : σ) :
    Reached (e.insert x s).1 := by
  unfold insert
  split
  · exact reached_ok _
  · simp only [insertError]
    split <;> exact reached_error (by simp)

theorem get_reached {e : SessionEngine σ} (decoded : ∀ v, Reached (e.bridge.decode v))
    (key : String) (s : σ) : Reached (e.get key s).1 := by
  unfold get
  split
  · exact readSession_reached decoded _
  · exact reached_error (by simp)
  · exact reached_error (by simp)

theorem delete_reached (e : SessionEngine σ) (key : String) (s : σ) :
    Reached (e.delete key s).1 := by
  unfold delete
  split
  · exact reached_ok _
  · exact reached_error (by simp)

theorem remove_reached (e : SessionEngine σ) (statement : String) (value : SqlValue) (s : σ) :
    Reached (e.remove statement value s).1 := by
  unfold remove
  split
  · split
    · exact reached_ok _
    · exact reached_error (by simp)
  · exact reached_error (by simp)

/-- **No call on sessions says that a handle is closed.** -/
theorem step_reached {e : SessionEngine σ} (decoded : ∀ v, AccountStore.Reached (e.bridge.decode v))
    (step : SessionStep) (s : σ) : (e.store.step step s).1.Reached := by
  cases step with
  | init => exact e.backend.setUp_reached _ s
  | insert x => exact e.insert_reached x s
  | get key => exact get_reached decoded key s
  | delete key => exact e.delete_reached key s
  | cleanUp reference => exact e.remove_reached _ _ s
  | deleteForUser user => exact e.remove_reached _ _ s
  | insertWithRetry attempts x source =>
      exact SessionStore.insertAfter_reached e.insert_reached attempts [] x source s

end SessionEngine

end AccountStore
