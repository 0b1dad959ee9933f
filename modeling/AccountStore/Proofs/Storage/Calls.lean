/-
# AccountStore.Proofs.Storage.Calls -- calls on an open handle

A call on the users or the sessions of an open handle is the call on its
connection (`step_onto`), and every other call, opening again, closing and the
health check, leaves an open handle as it is (`call_onto_of_step?_eq_none`).  So of
the calls on a handle the steps alone decide what it answers to them and what it
holds.
-/
import AccountStore.Proofs.Engine.Sharing

namespace AccountStore

set_option autoImplicit false

open Database

/-- One call on a handle. -/
inductive StorageCall where
  | start
  | health
  | close
  | account (step : AccountStep)
  deriving DecidableEq, Repr

inductive StorageAnswer where
  | done (result : Except StoreError Unit)
  | account (answer : AccountAnswer)

def StorageCall.step? : StorageCall → Option AccountStep
  | .account step => some step
  | _ => none

def StorageAnswer.answer? : StorageAnswer → Option AccountAnswer
  | .account answer => some answer
  | .done _ => none

namespace Storage

/-- A call on the users or the sessions of a handle. -/
def step : AccountStep → Storage → AccountAnswer × Storage
  | .user step, s => (users.step step s).map .user id
  | .session step, s => (sessions.step step s).map .session id
  | .create user expires source, s =>
      let r := createSession user expires source s
      (.created r.1 r.2.1, r.2.2)

def call : StorageCall → Storage → StorageAnswer × Storage
  | .start, s => s.start.map .done id
  | .health, s => s.health.map .done id
  | .close, s => s.close.map .done id
  | .account step, s => (s.step step).map .account id

/-- The handle, open on this connection. -/
def onto (s : Storage) (tpl : Template) (k : Connection) : Storage :=
  { s with opened := some ⟨tpl, k⟩ }

variable (s : Storage) (tpl : Template) (k : Connection)

theorem onConnection_onto {α : Type}
    (f : OpenStorage → Connection → Except StoreError α × Connection) :
    onConnection f (s.onto tpl k) = ((f ⟨tpl, k⟩ k).1, s.onto tpl (f ⟨tpl, k⟩ k).2) :=
  Prod.ext rfl rfl

theorem users_step_onto (step : UserStep) :
    users.step step (s.onto tpl k) =
      let r := (userEngine tpl s.columns).store.step step k
      (r.1, s.onto tpl r.2) := by
  cases step with
  | updateByNames id u names =>
      simp only [UserStore.step, UserStore.updateByNames]
      cases UserField.parseList names <;> rfl
  | _ => rfl

theorem insertAfter_onto (attempts : Nat) (collisions : List StoreError) (x : Session)
    (source : Entropy) :
    let r := sessions.insertAfter attempts collisions x source (s.onto tpl k)
    let r' := (sessionEngine tpl).store.insertAfter attempts collisions x source k
    r.result = r'.result ∧ r.session = r'.session ∧ r.source = r'.source ∧
      r.store = s.onto tpl r'.store := by
  have agree : ∀ y (h : Storage) (k : Connection), True → h = s.onto tpl k →
      (sessions.insert y h).1 = ((sessionEngine tpl).store.insert y k).1 ∧
        (sessions.insert y h).2 = s.onto tpl ((sessionEngine tpl).store.insert y k).2 := by
    rintro y _ k - rfl
    exact ⟨rfl, rfl⟩
  exact @SessionStore.insertAfter_agrees _ _ sessions (sessionEngine tpl).store
    (fun h k => h = s.onto tpl k) (fun _ => True) agree attempts collisions x source
    (s.onto tpl k) k trivial rfl

theorem sessions_step_onto (step : SessionStep) :
    sessions.step step (s.onto tpl k) =
      let r := (sessionEngine tpl).store.step step k
      (r.1, s.onto tpl r.2) := by
  cases step with
  | insertWithRetry attempts x source =>
      obtain ⟨result, session, rest, store⟩ := insertAfter_onto s tpl k attempts [] x source
      simp only [SessionStore.step, SessionStore.insertWithRetry, result, session, rest, store]
  | _ => simp only [SessionStore.step, sessions, onConnection_onto, Prod.map, id_eq]

theorem createSession_onto (user : UserId) (expires : Instant) (source : Entropy) :
    createSession user expires source (s.onto tpl k) =
      let r := (sessionEngine tpl).store.create s.session.keyRetryAttempts user expires source k
      (r.1, r.2.1, s.onto tpl r.2.2) := by
  have opened : createSession user expires source (s.onto tpl k) =
      sessions.create s.session.keyRetryAttempts user expires source (s.onto tpl k) := rfl
  rw [opened]
  unfold SessionStore.create
  cases Session.withNewKey source user expires with
  | mk drawn rest =>
      cases drawn with
      | error e => rfl
      | ok x =>
          obtain ⟨result, session, rest, store⟩ := insertAfter_onto s tpl k
            s.session.keyRetryAttempts [] x rest
          simp only [SessionStore.insertWithRetry, result, session, rest, store]

/-- **A call through an open handle is the call on its connection.** -/
theorem step_onto (default : s.columns = {}) (step : AccountStep) :
    (s.onto tpl k).step step =
      let r := accountStep tpl s.session.keyRetryAttempts step k
      (r.1, s.onto tpl r.2) := by
  cases step with
  | user step =>
      rw [Storage.step, users_step_onto, default]
      rfl
  | session step =>
      rw [Storage.step, sessions_step_onto]
      rfl
  | create user expires source =>
      rw [Storage.step, createSession_onto]
      rfl

/-- The other calls leave an open handle as it is. -/
theorem call_onto_of_step?_eq_none {c : StorageCall} (other : c.step? = none) :
    (call c (s.onto tpl k)).1.answer? = none ∧ (call c (s.onto tpl k)).2 = s.onto tpl k := by
  cases c with
  | start => exact ⟨rfl, rfl⟩
  | health => exact ⟨rfl, rfl⟩
  | close =>
      have kept : k.checkpoint.2 = k := by
        unfold Connection.checkpoint
        split <;> rfl
      refine ⟨rfl, ?_⟩
      simp only [call, close, onConnection, onto, Prod.map_snd, id_eq, kept, ite_self, apply_ite]
  | account step => cases other

/-- What an open handle answers to its steps and holds after its calls. -/
theorem calls_onto (default : s.columns = {}) : ∀ (calls : List StorageCall) (k : Connection),
    ((trace call calls (s.onto tpl k)).map Prod.fst).filterMap StorageAnswer.answer? =
        (trace (accountStep tpl s.session.keyRetryAttempts) (calls.filterMap StorageCall.step?)
          k).map Prod.fst ∧
      after call calls (s.onto tpl k) =
        s.onto tpl (after (accountStep tpl s.session.keyRetryAttempts)
          (calls.filterMap StorageCall.step?) k)
  | [], _ => ⟨rfl, rfl⟩
  | c :: rest, k => by
      cases known : c.step? with
      | none =>
          obtain ⟨silent, same⟩ := call_onto_of_step?_eq_none s tpl k known
          have later := calls_onto default rest k
          rw [List.filterMap_cons, known]
          rw [trace, List.map_cons, List.filterMap_cons, silent, after, List.foldl_cons, same]
          exact later
      | some step =>
          obtain rfl : c = .account step := by
            cases c with
            | account step' => exact congrArg StorageCall.account (Option.some.inj known)
            | _ => cases known
          have made : call (.account step) (s.onto tpl k) =
              (.account (accountStep tpl s.session.keyRetryAttempts step k).1,
                s.onto tpl (accountStep tpl s.session.keyRetryAttempts step k).2) := by
            rw [call, step_onto s tpl k default]
            rfl
          obtain ⟨answers, state⟩ := calls_onto default rest
            (accountStep tpl s.session.keyRetryAttempts step k).2
          rw [List.filterMap_cons, known, trace, List.map_cons, made, List.filterMap_cons]
          refine ⟨congrArg _ answers, ?_⟩
          rw [after, List.foldl_cons, made]
          exact state

end Storage

end AccountStore
