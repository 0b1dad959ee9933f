/-
# AccountStore.Proofs.Engine.Surfacing -- what an engine makes of its backend's replies

Every operation but the preparation of a table makes one call of the backend, and its
error is decided by the reply.  What an operation has to say is its `Discipline`: a word
for a row that is not there, a word for what the bridge takes for a duplicate, and a
number that the reply must not leave out.  What it has no word for is passed on as it
came.  `Governs` is the law, the same for all; `step_rules` says that each operation
keeps it, on users and on sessions.
-/
import AccountStore.Engine.Scripted
import AccountStore.Proofs.Engine.Exchanges
import AccountStore.Proofs.Engine.RowDecoding

namespace AccountStore

set_option autoImplicit false

/-- The bridge refuses a value by its type, as every bridge should. -/
def Bridge.RefusesByType (b : Bridge) : Prop :=
  ∀ v e, b.decode v = .error e → ∃ expected found, e = .typeMismatch expected found

/-! ## Disciplines -/

/-- A number that an operation cannot do without. -/
inductive Needed where
  | generatedId
  | affectedCount
  deriving DecidableEq, Repr

namespace Needed

def name : Needed → String
  | .generatedId => "last insert id"
  | .affectedCount => "affected row count"

def missing : Needed → Outcome → Bool
  | .generatedId, o => o.lastInsertId.isNone
  | .affectedCount, o => o.rowsAffected.isNone

end Needed

/-- What an operation has to say of the reply to its call. -/
structure Discipline where
  /-- Of a row that is not there. -/
  absent? : Option StoreError := none
  /-- Of an error that the bridge takes for a duplicate. -/
  duplicate? : DriverError → Option StoreError := fun _ => none
  needed? : Option Needed := none
  /-- What a row that was found is read as. -/
  columns : List ColumnKind := []

namespace Discipline

/-- The one way in which an error of the driver surfaces. -/
def surfaced (d : Discipline) (err : DriverError) : StoreError :=
  match err, d.absent? with
  | .noRows, some absent => absent
  | _, _ => (d.duplicate? err).getD (.driver err)

/-- What is said of a statement that worked but left a number out. -/
def lack? (d : Discipline) (o : Outcome) : Option StoreError :=
  match d.needed? with
  | some needed => if needed.missing o then some (.unsupported needed.name) else none
  | none => none

/-- An error, or none, is what an exchange comes to.  A failure surfaces, a statement
may lack a number, and of a row the first column with a fault decides. -/
def Governs (d : Discipline) (b : Bridge) : Exchange → Option StoreError → Prop
  | .execute _ _ (.error err), error? => error? = some (d.surfaced err)
  | .queryRow _ _ _ (.error err), error? => error? = some (d.surfaced err)
  | .execute _ _ (.ok o), error? => error? = d.lack? o
  | .queryRow _ _ _ (.ok r), error? => ∀ e, error? = some e ↔ r.FirstFault b 0 d.columns e
  | .batch _ _, _ => False

/-- A statement worked, and what was needed of it is missing. -/
def Lacks (d : Discipline) (operation : String) : Exchange → Prop
  | .execute _ _ (.ok o) => ∃ needed, d.needed? = some needed ∧ needed.missing o = true ∧
      operation = needed.name
  | _ => False

/-- No word of the operation is that something is unsupported. -/
structure Worded (d : Discipline) : Prop where
  absent : ∀ w, d.absent? = some w → ∀ operation, w ≠ .unsupported operation
  duplicate : ∀ err w, d.duplicate? err = some w → ∀ operation, w ≠ .unsupported operation

/-- An operation that makes one call, errs as the reply to it demands, and is unsupported
only for a number that the reply left out. -/
def Rules {σ α : Type} (d : Discipline) (b : Bridge) (error? : α → Option StoreError)
    (alone : σ → α × σ) (watched : σ × List Exchange → α × σ × List Exchange) : Prop :=
  ∀ s log, ∃ x : Exchange,
    watched (s, log) = ((alone s).1, (alone s).2, log ++ [x]) ∧
      d.Governs b x (error? (alone s).1) ∧
        (b.RefusesByType → ∀ operation, error? (alone s).1 = some (.unsupported operation) →
          d.Lacks operation x)

end Discipline

theorem Row.FirstFault.typeMismatch {b : Bridge} (typed : b.RefusesByType) {r : Row} {i : Nat}
    {ks : List ColumnKind} {e : StoreError} (fault : r.FirstFault b i ks e) :
    ∃ expected found, e = .typeMismatch expected found := by
  obtain ⟨j, k, -, ⟨-, rfl⟩ | ⟨v, -, refused⟩, -⟩ := fault
  · exact ⟨_, _, rfl⟩
  · cases k with
    | integer => exact ⟨_, _, refused.2⟩
    | text => exact ⟨_, _, refused.2⟩
    | flag => exact ⟨_, _, refused.2⟩
    | instant => exact typed v e refused

namespace Discipline

variable {d : Discipline} {b : Bridge} {x : Exchange} {error? : Option StoreError}

theorem surfaced_of_no_absent (wordless : d.absent? = none) (err : DriverError) :
    d.surfaced err = (d.duplicate? err).getD (.driver err) := by
  unfold surfaced
  rw [wordless]
  cases err <;> rfl

theorem Worded.surfaced_ne (worded : d.Worded) (err : DriverError) (operation : String) :
    d.surfaced err ≠ .unsupported operation := by
  have passed : (d.duplicate? err).getD (.driver err) ≠ .unsupported operation := by
    cases named : d.duplicate? err with
    | none => exact nofun
    | some w => exact worded.duplicate err w named operation
  unfold surfaced
  split
  · next w named => exact worded.absent w named operation
  · exact passed

/-- With words that say otherwise and a bridge that refuses by type, only a number that
was left out makes an operation unsupported. -/
theorem Governs.lacks (governs : d.Governs b x error?) (worded : d.Worded)
    (typed : b.RefusesByType) {operation : String}
    (said : error? = some (.unsupported operation)) : d.Lacks operation x := by
  have failed : ∀ err, error? ≠ some (d.surfaced err) := by
    intro err surfaced
    rw [said] at surfaced
    exact worded.surfaced_ne err operation (Option.some.inj surfaced).symm
  cases x with
  | batch statements reply => exact governs.elim
  | execute statement parameters reply =>
      cases reply with
      | error err => exact absurd governs (failed err)
      | ok o =>
          have lack : d.lack? o = some (.unsupported operation) := governs.symm.trans said
          unfold lack? at lack
          cases named : d.needed? with
          | none => simp [named] at lack
          | some needed =>
              by_cases missing : needed.missing o = true
              · simp only [named, missing, if_true, Option.some.injEq,
                  StoreError.unsupported.injEq] at lack
                exact ⟨needed, named, missing, lack.symm⟩
              · simp [named, missing] at lack
  | queryRow statement parameters kinds reply =>
      cases reply with
      | error err => exact absurd governs (failed err)
      | ok r =>
          obtain ⟨expected, found, mismatch⟩ :=
            ((governs (.unsupported operation)).mp said).typeMismatch typed
          cases mismatch

section Rules

variable {σ α β : Type} {errs : α → Option StoreError} {alone : σ → α × σ}
  {watched : σ × List Exchange → α × σ × List Exchange}

/-- An operation that runs one statement and reads its answer off the reply. -/
theorem Rules.of_execute {e : Backend σ} {statement : String} {values : List SqlValue}
    {f : Except DriverError Outcome → α} (worded : d.Worded)
    (unwatched : ∀ s, alone s =
      let r := e.execute statement values s
      (f r.1, r.2))
    (once : ∀ s log, watched (s, log) =
      let r := e.execute statement values s
      (f r.1, r.2, log ++ [.execute statement values r.1]))
    (failed : ∀ err, errs (f (.error err)) = some (d.surfaced err))
    (done : ∀ o, errs (f (.ok o)) = d.lack? o) : d.Rules b errs alone watched := by
  intro s log
  have governs : d.Governs b (.execute statement values (e.execute statement values s).1)
      (errs (alone s).1) := by
    rw [unwatched]
    simp only
    cases (e.execute statement values s).1 with
    | error err => exact failed err
    | ok o => exact done o
  refine ⟨_, ?_, governs, fun typed _ said => governs.lacks worded typed said⟩
  rw [once, unwatched]

/-- An operation that asks for one row and reads it. -/
theorem Rules.of_queryRow {e : Backend σ} {statement : String} {values : List SqlValue}
    {kinds : List ScanKind} {f : Except DriverError Row → α} (worded : d.Worded)
    (unwatched : ∀ s, alone s =
      let r := e.queryRow statement values kinds s
      (f r.1, r.2))
    (once : ∀ s log, watched (s, log) =
      let r := e.queryRow statement values kinds s
      (f r.1, r.2, log ++ [.queryRow statement values kinds r.1]))
    (failed : ∀ err, errs (f (.error err)) = some (d.surfaced err))
    (read : ∀ r err, errs (f (.ok r)) = some err ↔ r.FirstFault b 0 d.columns err) :
    d.Rules b errs alone watched := by
  intro s log
  have governs : d.Governs b
      (.queryRow statement values kinds (e.queryRow statement values kinds s).1)
      (errs (alone s).1) := by
    rw [unwatched]
    simp only
    cases (e.queryRow statement values kinds s).1 with
    | error err => exact failed err
    | ok r => exact read r
  refine ⟨_, ?_, governs, fun typed _ said => governs.lacks worded typed said⟩
  rw [once, unwatched]

/-- An answer may be put in another form. -/
theorem Rules.map (rules : d.Rules b errs alone watched) {errs' : β → Option StoreError}
    {f : α → β} (same : ∀ a, errs' (f a) = errs a) :
    d.Rules b errs' (fun s => (alone s).map f id) (fun s => (watched s).map f id) := by
  intro s log
  obtain ⟨x, once, governs, lacks⟩ := rules s log
  refine ⟨x, ?_, ?_, ?_⟩
  · simp only [once]
    rfl
  · rw [Prod.map_fst, same]
    exact governs
  · rw [Prod.map_fst, same]
    exact lacks

end Rules

/-! ### The disciplines of a store -/

/-- A lookup has a word for a row that is not there. -/
def lookup (absent : StoreError) (columns : List ColumnKind) : Discipline where
  absent? := some absent
  columns := columns

/-- A write that may find its row taken has a word for that. -/
def write (isDuplicate : DriverError → Bool) (taken : DriverError → StoreError)
    (needed? : Option Needed := none) : Discipline where
  duplicate? err := if isDuplicate err then some (taken err) else none
  needed? := needed?

/-- A removal has no word of its own. -/
def removal (needed? : Option Needed := none) : Discipline where
  needed? := needed?

theorem lookup_worded {absent : StoreError} (other : ∀ operation, absent ≠ .unsupported operation)
    (columns : List ColumnKind) : (lookup absent columns).Worded where
  absent w word operation := by
    cases word
    exact other operation
  duplicate _ _ word := by cases word

theorem write_worded {taken : DriverError → StoreError} (isDuplicate : DriverError → Bool)
    (other : ∀ err operation, taken err ≠ .unsupported operation) (needed? : Option Needed) :
    (write isDuplicate taken needed?).Worded where
  absent _ word := by cases word
  duplicate err w word operation := by
    by_cases duplicate : isDuplicate err = true
    · simp only [write, duplicate, if_true, Option.some.injEq] at word
      rw [← word]
      exact other err operation
    · simp [write, duplicate] at word

theorem removal_worded (needed? : Option Needed) : (removal needed?).Worded where
  absent _ word := by cases word
  duplicate _ _ word := by cases word

theorem write_surfaced (isDuplicate : DriverError → Bool) (taken : DriverError → StoreError)
    (needed? : Option Needed) (err : DriverError) :
    (write isDuplicate taken needed?).surfaced err =
      if isDuplicate err then taken err else .driver err := by
  rw [surfaced_of_no_absent rfl]
  cases duplicate : isDuplicate err <;> simp [write, duplicate]

end Discipline

/-- The error of a result, if it is one. -/
def errorOf {α : Type} : Except StoreError α → Option StoreError
  | .ok _ => none
  | .error e => some e

/-- The errors of a reader whose columns decide are the faults of a row. -/
theorem Row.DecidedFrom.errorOf_iff {α : Type} {b : Bridge} {r : Row} {i : Nat}
    {ks : List ColumnKind} {m : Except StoreError α} (decided : r.DecidedFrom b i ks m)
    (e : StoreError) : errorOf m = some e ↔ r.FirstFault b i ks e := by
  rw [← decided.error_iff e]
  cases m with
  | ok a => exact iff_of_false nofun nofun
  | error e' => simp [errorOf]

/-! ## Users -/

namespace UserStep

/-- The step is an operation on the table: it does not prepare it, and its fields are
known. -/
def Asks : UserStep → Prop
  | .init => False
  | .updateByNames _ _ names => ∃ fields, UserField.parseList names = .ok fields
  | _ => True

/-- What each operation on users has to say. -/
def discipline (b : Bridge) : UserStep → Discipline
  | .get id => .lookup (.noSuchUser (.byId id)) UserEngine.columnKinds
  | .getByName name => .lookup (.noSuchUser (.byUsername name)) UserEngine.columnKinds
  | .getByEmail address => .lookup (.noSuchUser (.byEmail address)) UserEngine.columnKinds
  | .insert _ u =>
      .write b.isDuplicateInsert (fun err => .userExists
        s!"username `{u.username}` or email `{u.email}`: {err.message}") (some .generatedId)
  | .update id _ _ | .updateByNames id _ _ =>
      .write b.isDuplicateUpdate (fun err => .ambiguousUpdate
        s!"update of user {id.value} collides with another user: {err.message}")
  | .init | .delete _ => .removal

end UserStep

def UserAnswer.error? : UserAnswer → Option StoreError
  | .done result => errorOf result
  | .found result => errorOf result
  | .inserted result _ => errorOf result

namespace UserEngine

variable {σ : Type} (e : UserEngine σ)

theorem fetch_rules (statement : String) (key : SqlValue) (lookup : UserLookup) :
    (Discipline.lookup (.noSuchUser lookup) columnKinds).Rules e.bridge errorOf
      (e.fetch statement key lookup) (e.observed.fetch statement key lookup) := by
  refine .of_queryRow (Discipline.lookup_worded (by simp) _) (e.fetch_split statement key lookup)
    (e.fetch_observed statement key lookup) (fun err => ?_) (fun row => ?_)
  · cases err <;> rfl
  · exact (readUser_decided e.bridge row).errorOf_iff

theorem insert_rules (now : Instant) (u : User) :
    ((UserStep.insert now u).discipline e.bridge).Rules e.bridge (fun a => errorOf a.1)
      (e.insert now u) (e.observed.insert now u) := by
  refine .of_execute (Discipline.write_worded _ (by simp) _) (e.insert_split now u)
    (e.insert_observed now u) (fun err => ?_) (fun outcome => ?_)
  · rw [UserStep.discipline, Discipline.write_surfaced]
    rfl
  · obtain ⟨affected, id⟩ := outcome
    cases id <;> rfl

theorem update_rules (id : UserId) (u : User) (fields : List UserField) :
    ((UserStep.update id u fields).discipline e.bridge).Rules e.bridge errorOf
      (e.update id u fields) (e.observed.update id u fields) := by
  refine .of_execute (f := fun r => doneAnswer (updateError e.bridge id) (r.map _))
    (Discipline.write_worded _ (by simp) _) (e.update_split id u fields)
    (e.update_observed id u fields) (fun err => ?_) (fun outcome => rfl)
  rw [UserStep.discipline, Discipline.write_surfaced]
  rfl

theorem delete_rules (id : UserId) :
    Discipline.removal.Rules e.bridge errorOf (e.delete id) (e.observed.delete id) := by
  refine .of_execute (f := fun r => doneAnswer .driver (r.map _)) (Discipline.removal_worded _)
    (e.delete_split id) (e.delete_observed id) (fun err => ?_) (fun outcome => rfl)
  cases err <;> rfl

/-- **Every operation on users keeps to its discipline.** -/
theorem step_rules {step : UserStep} (asks : step.Asks) :
    (step.discipline e.bridge).Rules e.bridge UserAnswer.error? (e.store.step step)
      (e.observed.store.step step) := by
  cases step with
  | init => exact asks.elim
  | get id => exact (e.fetch_rules _ _ _).map fun _ => rfl
  | getByName name => exact (e.fetch_rules _ _ _).map fun _ => rfl
  | getByEmail address => exact (e.fetch_rules _ _ _).map fun _ => rfl
  | insert now u =>
      exact (e.insert_rules now u).map (f := fun a => UserAnswer.inserted a.1 a.2) fun _ => rfl
  | update id u fields => exact (e.update_rules id u fields).map fun _ => rfl
  | updateByNames id u names =>
      obtain ⟨fields, named⟩ := asks
      have listed : ∀ {τ : Type} (store : UserStore τ),
          store.step (.updateByNames id u names) = store.step (.update id u fields) := by
        intro τ store
        funext s
        simp only [UserStore.step, UserStore.updateByNames, named]
      rw [listed, listed]
      exact (e.update_rules id u fields).map fun _ => rfl
  | delete id => exact (e.delete_rules id).map fun _ => rfl

end UserEngine

/-! ## Sessions -/

namespace SessionStep

/-- The step is an operation on the table: it does not prepare it, and it is not an
insert that is tried again and again. -/
def Asks : SessionStep → Prop
  | .init | .insertWithRetry _ _ _ => False
  | _ => True

/-- What each operation on sessions has to say. -/
def discipline (b : Bridge) : SessionStep → Discipline
  | .insert x => .write b.isDuplicateInsert fun _ => .sessionExists x.key
  | .get key => .lookup (.noSuchSession key) SessionEngine.columnKinds
  | .cleanUp _ | .deleteForUser _ => .removal (some .affectedCount)
  | .init | .delete _ | .insertWithRetry _ _ _ => .removal

end SessionStep

def SessionAnswer.error? : SessionAnswer → Option StoreError
  | .done result => errorOf result
  | .found result => errorOf result
  | .counted result => errorOf result
  | .retried result _ _ => errorOf result

namespace SessionEngine

variable {σ : Type} (e : SessionEngine σ)

theorem insert_rules (x : Session) :
    ((SessionStep.insert x).discipline e.bridge).Rules e.bridge errorOf (e.insert x)
      (e.observed.insert x) := by
  refine .of_execute (f := fun r => doneAnswer (insertError e.bridge x) (r.map _))
    (Discipline.write_worded _ (by simp) _) (e.insert_split x) (e.insert_observed x)
    (fun err => ?_) (fun outcome => rfl)
  rw [SessionStep.discipline, Discipline.write_surfaced]
  rfl

theorem get_rules (key : String) :
    (Discipline.lookup (.noSuchSession key) columnKinds).Rules e.bridge errorOf (e.get key)
      (e.observed.get key) := by
  refine .of_queryRow (Discipline.lookup_worded (by simp) _) (e.get_split key)
    (e.get_observed key) (fun err => ?_) (fun row => ?_)
  · cases err <;> rfl
  · exact (readSession_decided e.bridge row).errorOf_iff

theorem delete_rules (key : String) :
    Discipline.removal.Rules e.bridge errorOf (e.delete key) (e.observed.delete key) := by
  refine .of_execute (f := fun r => doneAnswer .driver (r.map _)) (Discipline.removal_worded _)
    (e.delete_split key) (e.delete_observed key) (fun err => ?_) (fun outcome => rfl)
  cases err <;> rfl

theorem remove_rules (statement : String) (value : SqlValue) :
    (Discipline.removal (some .affectedCount)).Rules e.bridge errorOf (e.remove statement value)
      (e.observed.remove statement value) := by
  refine .of_execute (f := fun r => removeAnswer (r.map _)) (Discipline.removal_worded _)
    (e.remove_split statement value) (e.remove_observed statement value) (fun err => ?_)
    (fun outcome => ?_)
  · cases err <;> rfl
  · obtain ⟨affected, id⟩ := outcome
    cases affected <;> rfl

/-- **Every operation on sessions keeps to its discipline.** -/
theorem step_rules {step : SessionStep} (asks : step.Asks) :
    (step.discipline e.bridge).Rules e.bridge SessionAnswer.error? (e.store.step step)
      (e.observed.store.step step) := by
  cases step with
  | init => exact asks.elim
  | insert x => exact (e.insert_rules x).map fun _ => rfl
  | get key => exact (e.get_rules key).map fun _ => rfl
  | delete key => exact (e.delete_rules key).map fun _ => rfl
  | cleanUp reference => exact (e.remove_rules _ _).map fun _ => rfl
  | deleteForUser user => exact (e.remove_rules _ _).map fun _ => rfl
  | insertWithRetry attempts x source => exact asks.elim

end SessionEngine

/-! ## The law of both -/

namespace Bridge

theorem textual_refusesByType : Bridge.textual.RefusesByType := by
  intro v e refused
  simp only [textual, decodeText] at refused
  split at refused
  · split at refused
    · cases refused
    · cases refused
      exact ⟨_, _, rfl⟩
  · cases refused
  · cases refused
    exact ⟨_, _, rfl⟩

theorem native_refusesByType : Bridge.native.RefusesByType := by
  intro v e refused
  simp only [native, decodeNative] at refused
  split at refused
  · cases refused
  · cases refused
    exact ⟨_, _, rfl⟩

end Bridge

/-- **A failure of the driver surfaces in one way.**  Over any backend, with any
statements and any bridge, every operation but the preparation of a table makes one call.
A lookup that finds no row names its own key; an error that the bridge takes for a
duplicate becomes the word that the write has for it, with what was submitted; any other
error is passed on as it came.  An operation is unsupported only if its statement worked
and left out the number that it needs; the bridge must not say so of a value that it
refuses, and those that come with the store do not. -/
theorem driver_failures_surface_once :
    (∀ {σ : Type} (e : UserEngine σ) (step : UserStep), step.Asks →
        (step.discipline e.bridge).Rules e.bridge UserAnswer.error? (e.store.step step)
          (e.observed.store.step step)) ∧
      (∀ {σ : Type} (e : SessionEngine σ) (step : SessionStep), step.Asks →
        (step.discipline e.bridge).Rules e.bridge SessionAnswer.error? (e.store.step step)
          (e.observed.store.step step)) ∧
        Bridge.textual.RefusesByType ∧ Bridge.native.RefusesByType :=
  ⟨fun e _ asks => e.step_rules asks, fun e _ asks => e.step_rules asks,
    Bridge.textual_refusesByType, Bridge.native_refusesByType⟩

/-- A user whose name is taken, a user who is not there, a row of whatever values, and a
sweep whose count is not known. -/
theorem driver_failures_surface_once_in_a_script :
    let users : UserEngine Script :=
      ⟨Script.backend, UserStatements.ofColumns Template.defaults {}, Bridge.native⟩
    let sessions : SessionEngine Script :=
      ⟨Script.backend, SessionStatements.ofTemplate Template.defaults, Bridge.native⟩
    (users.store.step (.insert Instant.epoch (User.new "ada" "a@b"))
        { executions := [.error (.failure (.duplicate "taken"))] }).1.error? =
          some (.userExists "username `ada` or email `a@b`: taken") ∧
      (users.store.step (.get ⟨7⟩) { rows := [.error .noRows] }).1.error? =
          some (.noSuchUser (.byId ⟨7⟩)) ∧
      (∀ (row : Row) (operation : String),
        (users.store.step (.get ⟨7⟩) { rows := [.ok row] }).1.error? ≠
          some (.unsupported operation)) ∧
      (sessions.store.step (.cleanUp Instant.epoch)
        { executions := [.ok ⟨none, some 1⟩] }).1.error? =
          some (.unsupported "affected row count") := by
  intro users sessions
  obtain ⟨ofUsers, ofSessions, -, typed⟩ := driver_failures_surface_once
  refine ⟨?_, ?_, fun row operation said => ?_, ?_⟩
  · obtain ⟨x, once, governs, -⟩ := ofUsers users (.insert Instant.epoch (User.new "ada" "a@b"))
      trivial { executions := [.error (.failure (.duplicate "taken"))] } []
    obtain rfl : _ = x := List.singleton_inj.mp (congrArg (fun p => p.2.2) once)
    exact governs.trans (congrArg (some ∘ StoreError.userExists) (by decide))
  · obtain ⟨x, once, governs, -⟩ := ofUsers users (.get ⟨7⟩) trivial
      { rows := [.error .noRows] } []
    obtain rfl : _ = x := List.singleton_inj.mp (congrArg (fun p => p.2.2) once)
    exact governs
  · obtain ⟨x, once, -, lacks⟩ := ofUsers users (.get ⟨7⟩) trivial { rows := [.ok row] } []
    obtain rfl : _ = x := List.singleton_inj.mp (congrArg (fun p => p.2.2) once)
    exact lacks typed operation said
  · obtain ⟨x, once, governs, -⟩ := ofSessions sessions (.cleanUp Instant.epoch) trivial
      { executions := [.ok ⟨none, some 1⟩] } []
    obtain rfl : _ = x := List.singleton_inj.mp (congrArg (fun p => p.2.2) once)
    exact governs

end AccountStore
