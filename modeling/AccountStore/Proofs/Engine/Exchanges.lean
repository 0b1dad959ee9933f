/-
# AccountStore.Proofs.Engine.Exchanges -- what passes between an engine and its backend

A backend can be watched: `observed` forwards every call and keeps it with its reply,
in order.  An engine over a watched backend does what it does unwatched, and what was
kept says which calls it made.  For each operation there is one equation, with the
answer, the state and the exchange that it adds.
-/
import AccountStore.Proofs.Engine.Locality

namespace AccountStore

set_option autoImplicit false

/-- One call of a backend with what it replied. -/
inductive Exchange where
  | batch (statements : List String) (reply : Except BatchFailure Unit)
  | execute (statement : String) (parameters : List SqlValue) (reply : Except DriverError Outcome)
  | queryRow (statement : String) (parameters : List SqlValue) (kinds : List ScanKind)
      (reply : Except DriverError Row)

/-- The backend with a record of all exchanges so far. -/
def Backend.observed {σ : Type} (b : Backend σ) : Backend (σ × List Exchange) where
  runBatch statements s :=
    let r := b.runBatch statements s.1
    (r.1, r.2, s.2 ++ [.batch statements r.1])
  execute statement parameters s :=
    let r := b.execute statement parameters s.1
    (r.1, r.2, s.2 ++ [.execute statement parameters r.1])
  queryRow statement parameters kinds s :=
    let r := b.queryRow statement parameters kinds s.1
    (r.1, r.2, s.2 ++ [.queryRow statement parameters kinds r.1])

/-- What is said of a table that is set up is what the batch comes to. -/
theorem Backend.setUp_split {σ : Type} (b : Backend σ) (statements : List String) (s : σ) :
    b.setUp statements s =
      let r := b.runBatch (statements.filter fun t => !isBlank t) s
      (r.1.mapError batchError, r.2) := by
  simp only [setUp]
  split
  · next answer => rw [answer, Except.mapError]
  · next answer => rw [answer, Except.mapError]

theorem Backend.setUp_observed {σ : Type} (b : Backend σ) (statements : List String) (s : σ)
    (log : List Exchange) :
    b.observed.setUp statements (s, log) =
      let asked := statements.filter fun t => !isBlank t
      let r := b.runBatch asked s
      (r.1.mapError batchError, r.2, log ++ [.batch asked r.1]) := by
  rw [setUp_split]
  rfl

/-! ## Users -/

namespace UserEngine

variable {σ : Type} (e : UserEngine σ)

def observed : UserEngine (σ × List Exchange) := ⟨e.backend.observed, e.statements, e.bridge⟩

theorem fetch_observed (statement : String) (key : SqlValue) (lookup : UserLookup) (s : σ)
    (log : List Exchange) :
    e.observed.fetch statement key lookup (s, log) =
      let r := e.backend.queryRow statement [key] (scanKinds e.bridge) s
      (fetchAnswer e.bridge lookup r.1, r.2,
        log ++ [.queryRow statement [key] (scanKinds e.bridge) r.1]) := by
  rw [fetch_split]
  rfl

theorem insert_observed (now : Instant) (u : User) (s : σ) (log : List Exchange) :
    e.observed.insert now u (s, log) =
      let values := parameters e.bridge (u.prepared now) UserField.all
      let r := e.backend.execute e.statements.insert values s
      (insertAnswer e.bridge (u.prepared now) r.1, r.2,
        log ++ [.execute e.statements.insert values r.1]) := by
  rw [insert_split]
  rfl

theorem update_observed (id : UserId) (u : User) (fields : List UserField) (s : σ)
    (log : List Exchange) :
    e.observed.update id u fields (s, log) =
      let listed := e.updateList fields
      let values := parameters e.bridge u (listed.getD UserField.all) ++ [.integer id.value]
      let r := e.backend.execute (e.statements.update listed) values s
      (doneAnswer (updateError e.bridge id) (r.1.map Outcome.rowsAffected), r.2,
        log ++ [.execute (e.statements.update listed) values r.1]) := by
  rw [update_split]
  rfl

theorem delete_observed (id : UserId) (s : σ) (log : List Exchange) :
    e.observed.delete id (s, log) =
      let r := e.backend.execute e.statements.delete [.integer id.value] s
      (doneAnswer .driver (r.1.map Outcome.rowsAffected), r.2,
        log ++ [.execute e.statements.delete [.integer id.value] r.1]) := by
  rw [delete_split]
  rfl

end UserEngine

/-! ## Sessions -/

namespace SessionEngine

variable {σ : Type} (e : SessionEngine σ)

def observed : SessionEngine (σ × List Exchange) := ⟨e.backend.observed, e.statements, e.bridge⟩

theorem insert_observed (x : Session) (s : σ) (log : List Exchange) :
    e.observed.insert x (s, log) =
      let r := e.backend.execute e.statements.insert (parameters e.bridge x) s
      (doneAnswer (insertError e.bridge x) (r.1.map Outcome.rowsAffected), r.2,
        log ++ [.execute e.statements.insert (parameters e.bridge x) r.1]) := by
  rw [insert_split]
  rfl

theorem get_observed (key : String) (s : σ) (log : List Exchange) :
    e.observed.get key (s, log) =
      let r := e.backend.queryRow e.statements.byKey [.text key] (scanKinds e.bridge) s
      (getAnswer e.bridge key r.1, r.2,
        log ++ [.queryRow e.statements.byKey [.text key] (scanKinds e.bridge) r.1]) := by
  rw [get_split]
  rfl

theorem delete_observed (key : String) (s : σ) (log : List Exchange) :
    e.observed.delete key (s, log) =
      let r := e.backend.execute e.statements.delete [.text key] s
      (doneAnswer .driver (r.1.map Outcome.rowsAffected), r.2,
        log ++ [.execute e.statements.delete [.text key] r.1]) := by
  rw [delete_split]
  rfl

theorem remove_observed (statement : String) (value : SqlValue) (s : σ) (log : List Exchange) :
    e.observed.remove statement value (s, log) =
      let r := e.backend.execute statement [value] s
      (removeAnswer (r.1.map Outcome.rowsAffected), r.2,
        log ++ [.execute statement [value] r.1]) := by
  rw [remove_split]
  rfl

end SessionEngine

end AccountStore
