/-
# AccountStore.Proofs.Storage.Visits -- handles opened one after the other

A visit opens a handle, makes calls on it and lets go of it, which leaves the
database on the disk for the next visit.  What a visit does to the disk and what
it answers come down to its steps on one connection (`Visit.exists_of_start`):
the connection starts from what the file held, with the tables prepared, and what
it holds in the end is what the file holds afterwards.
-/
import AccountStore.Proofs.Database.Opening
import AccountStore.Proofs.Storage.Calls

namespace AccountStore

set_option autoImplicit false

open Database

/-! ## Opening a handle -/

namespace Storage

/-- A handle that was opened is open on what its file held, the tables being
prepared. -/
theorem exists_of_start {s : Storage} (closed : s.opened = none) (ok : s.start.1 = .ok ()) :
    ∃ tpl c d k, Template.ofSettings s.settings = .ok tpl ∧
      s.disk.openDatabase s.settings.databasePath = (.ok c, d) ∧
      prepare tpl s.columns (.opened c) = (.ok (), k) ∧
      s.start.2 = { s with disk := d }.onto tpl k := by
  unfold start at ok ⊢
  simp only [closed] at ok ⊢
  cases taken : Template.ofSettings s.settings with
  | error e =>
      simp only [taken] at ok
      cases ok
  | ok tpl =>
      simp only [taken] at ok ⊢
      rcases opened : s.disk.openDatabase s.settings.databasePath with ⟨found, d⟩
      cases found with
      | error e =>
          simp only [opened] at ok
          cases ok
      | ok c =>
          simp only [opened] at ok ⊢
          rcases prepared : prepare tpl s.columns (.opened c) with ⟨made, k⟩
          cases made with
          | error e =>
              simp only [prepared] at ok
              cases ok
          | ok u =>
              exact ⟨tpl, c, d, k, rfl, rfl, prepared, rfl⟩

theorem start_of_prepare {s : Storage} (closed : s.opened = none) {tpl : Template} {c : Contents}
    {d : Disk} {k : Connection} (taken : Template.ofSettings s.settings = .ok tpl)
    (opened : s.disk.openDatabase s.settings.databasePath = (.ok c, d))
    (prepared : prepare tpl s.columns (.opened c) = (.ok (), k)) :
    s.start = (.ok (), { s with disk := d }.onto tpl k) := by
  simp only [start, closed, taken, opened, prepared]
  rfl

end Storage

/-! ## Visits -/

/-- A step on a connection under settings for sessions. -/
def stepUnder (tpl : Template) (p : SessionSettings × AccountStep) :
    Connection → AccountAnswer × Connection :=
  accountStep tpl p.1.keyRetryAttempts p.2

/-- A handle with default columns, from its opening until it is let go. -/
structure Visit where
  settings : StorageSettings
  session : SessionSettings := {}
  calls : List StorageCall := []
  deriving DecidableEq, Repr

namespace Visit

/-- The handle on a disk, before it is opened. -/
def handle (v : Visit) (d : Disk) : Storage :=
  { settings := v.settings, session := v.session, disk := d }

def opened (v : Visit) (d : Disk) : Except StoreError Unit × Storage := (v.handle d).start

/-- The answers to the calls on users and sessions. -/
def answers (v : Visit) (d : Disk) : List AccountAnswer :=
  ((trace Storage.call v.calls (v.opened d).2).map Prod.fst).filterMap StorageAnswer.answer?

/-- The disk that the handle leaves. -/
def leaves (v : Visit) (d : Disk) : Disk := (after Storage.call v.calls (v.opened d).2).drop

/-- The calls on users and sessions, with the settings that sessions are created
under. -/
def steps (v : Visit) : List (SessionSettings × AccountStep) :=
  (v.calls.filterMap StorageCall.step?).map (v.session, ·)

/-- The place of the file. -/
def place (v : Visit) : Place := Disk.place v.settings.databasePath

/-- The names that the handle takes up. -/
def names (v : Visit) : List String := accountNames v.settings.usersTable v.settings.sessionsTable

/-- The handle uses these tables. -/
def uses (users sessions : String) (v : Visit) : Bool :=
  v.settings.usersTable == users && v.settings.sessionsTable == sessions

/-- What becomes of a file in a visit: it held `c`, and with the tables prepared
this was `k`. -/
structure OpensOn (v : Visit) (d : Disk) (tpl : Template) (c : Contents) (k : Connection) : Prop where
  taken : Template.ofSettings v.settings = .ok tpl
  usable : UsableAccounts v.settings tpl
  opened : ∃ d', d.openDatabase v.settings.databasePath = (.ok c, d')
  prepared : Storage.prepare tpl {} (.opened c) = (.ok (), k)
  answers : v.answers d = (trace (stepUnder tpl) v.steps k).map Prod.fst
  left : (v.leaves d).contentsAt? v.place = some (after (stepUnder tpl) v.steps k).contents
  keeps : Disk.Keeps d (v.leaves d)

/-- **A visit is its steps on the connection that it opens.** -/
theorem exists_of_start {v : Visit} {d : Disk} (ok : (v.opened d).1 = .ok ()) :
    ∃ tpl c k, v.OpensOn d tpl c k := by
  obtain ⟨tpl, c, d', k, taken, found, prepared, handle⟩ :=
    Storage.exists_of_start (s := v.handle d) rfl ok
  obtain ⟨answers, ends⟩ :=
    Storage.calls_onto { v.handle d with disk := d' } tpl rfl v.calls k
  rw [← handle] at answers ends
  have left : v.leaves d =
      d'.put v.settings.databasePath (.database (after (stepUnder tpl) v.steps k).contents) := by
    rw [leaves, opened, ends, steps, ← after_map]
    rfl
  refine ⟨tpl, c, k, taken, UsableAccounts.of_prepare taken rfl prepared, ⟨d', found⟩, prepared,
    ?_, ?_, ?_⟩
  · rw [Visit.answers, opened, answers, steps, ← trace_map]
    rfl
  · rw [left]
    exact Disk.contentsAt?_put d' _ _
  · rw [left]
    exact (Disk.openDatabase_keeps found).trans (.put d' _ nofun)

section Opening

variable {v : Visit} {d d' : Disk} {tpl : Template} {c : Contents}

theorem opened_of_prepare {k : Connection} (taken : Template.ofSettings v.settings = .ok tpl)
    (found : d.openDatabase v.settings.databasePath = (.ok c, d'))
    (prepared : Storage.prepare tpl {} (.opened c) = (.ok (), k)) : (v.opened d).1 = .ok () := by
  rw [opened, Storage.start_of_prepare (s := v.handle d) rfl taken found prepared]

/-- A handle opens on a file in which nothing has its names. -/
theorem opened_of_vacant (taken : Template.ofSettings v.settings = .ok tpl)
    (usable : UsableAccounts v.settings tpl) (distinct : Distinct v.names)
    (found : d.openDatabase v.settings.databasePath = (.ok c, d')) (vacant : c.Vacant v.names) :
    (v.opened d).1 = .ok () := by
  obtain ⟨k, prepared⟩ := usable.prepare_vacant (k := .opened c) distinct rfl vacant
  exact opened_of_prepare taken found prepared

/-- A handle opens on a file that has its tables. -/
theorem opened_of_holds (taken : Template.ofSettings v.settings = .ok tpl)
    (usable : UsableAccounts v.settings tpl)
    (found : d.openDatabase v.settings.databasePath = (.ok c, d')) {tU tS : Table}
    (held : HoldsAccounts v.settings.usersTable v.settings.sessionsTable tU tS (.opened c)) :
    (v.opened d).1 = .ok () :=
  opened_of_prepare taken found (usable.prepare_again held)

end Opening

namespace OpensOn

variable {v : Visit} {d : Disk} {tpl : Template} {c : Contents} {k : Connection}

theorem held (h : v.OpensOn d tpl c k) : d.contentsAt? v.place = some c := by
  obtain ⟨d', found⟩ := h.opened
  exact Disk.held_of_openDatabase found

/-- A visit opens on what its file holds. -/
theorem exists_of_held (ok : (v.opened d).1 = .ok ()) (held : d.contentsAt? v.place = some c) :
    ∃ tpl k, v.OpensOn d tpl c k := by
  obtain ⟨tpl, c₀, k, opens⟩ := exists_of_start ok
  obtain rfl : c₀ = c := Option.some.inj (opens.held.symm.trans held)
  exact ⟨tpl, k, opens⟩

/-- A visit touches nothing that has none of its names. -/
theorem spares (h : v.OpensOn d tpl c k) :
    ∃ c', (v.leaves d).contentsAt? v.place = some c' ∧ Spares v.names c c' := by
  obtain ⟨settled, prepared⟩ := h.usable.prepare_spares (k := .opened c) rfl h.prepared
  let Inv : Connection → Prop := fun k' =>
    k'.transaction = none ∧ Spares v.names c k'.contents
  have preserved : ∀ p k', Inv k' → Inv (stepUnder tpl p k').2 := by
    rintro p k' ⟨settled', spares⟩
    obtain ⟨settled'', more⟩ := h.usable.step_spares settled' p.1.keyRetryAttempts p.2
    exact ⟨settled'', spares.trans more⟩
  exact ⟨_, h.left, (holds_after preserved v.steps ⟨settled, prepared⟩).2⟩

end OpensOn

end Visit

/-! ## Runs of visits -/

/-- Every handle of a run is opened. -/
def AllOpen : List Visit → Disk → Prop
  | [], _ => True
  | v :: rest, d => (v.opened d).1 = .ok () ∧ AllOpen rest (v.leaves d)

/-- The disk that a run of visits leaves. -/
def leftBy (visits : List Visit) (d : Disk) : Disk := visits.foldl (fun d v => v.leaves d) d

/-- The answers in those visits of a run that are asked for. -/
def answersOf (own : Visit → Bool) : List Visit → Disk → List AccountAnswer
  | [], _ => []
  | v :: rest, d => (if own v then v.answers d else []) ++ answersOf own rest (v.leaves d)

/-- The steps in those visits. -/
def stepsOf (own : Visit → Bool) (visits : List Visit) : List (SessionSettings × AccountStep) :=
  (visits.filter own).flatMap Visit.steps

/-- A step through a handle that takes over other settings for sessions. -/
def Storage.stepUnder (p : SessionSettings × AccountStep) (s : Storage) : AccountAnswer × Storage :=
  { s with session := p.1 }.step p.2

/-- Every visit is to the same file, and no two names clash: not those of the
tables and the index of `users` and `sessions`, nor one of these with a name of a
visit that uses other tables. -/
structure OneFile (users sessions : String) (file : Place) (visits : List Visit) : Prop where
  path : ∀ v ∈ visits, v.place = file
  distinct : Distinct (accountNames users sessions)
  apart : ∀ v ∈ visits, v.uses users sessions = false →
    Apart v.names (accountNames users sessions)

end AccountStore
