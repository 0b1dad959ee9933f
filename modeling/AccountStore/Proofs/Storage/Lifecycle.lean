/-
# AccountStore.Proofs.Storage.Lifecycle -- closed, opened once, open from then on

A handle is made closed.  In a run, calls on it and changes that others make to the
disk follow each other in any order, and opening may fail as often as it likes:
for the name of a table, for the file, for the users or for the sessions.  What one
event does to a handle is said once, for a closed handle (`event_of_closed`) and for
an open one (`event_onto`), and from it follows by induction that a handle is open
exactly when some start in the run has succeeded (`state_after`).

So much decides every answer (`answers_by_whether_started`).
-/
import Mathlib.Data.List.Induction
import AccountStore.Proofs.Engine.Errors
import AccountStore.Proofs.Storage.Visits

namespace AccountStore

set_option autoImplicit false

open Database

/-! ## Calls and runs -/

/-- A call on a handle.  Users and sessions are asked for first; what is handed out
is then called as often as one likes. -/
inductive HandleCall where
  | start
  | users (steps : List UserStep)
  | sessions (steps : List SessionStep)
  | create (user : UserId) (expires : Instant) (source : Entropy)
  | health
  | close
  deriving DecidableEq, Repr

inductive HandleAnswer where
  | done (result : Except StoreError Unit)
  | users (result : Except StoreError (List UserAnswer))
  | sessions (result : Except StoreError (List SessionAnswer))
  /-- The bytes that are left come with the session. -/
  | created (result : Except StoreError Session) (source : Entropy)

/-- Nothing in the answer says that the handle is closed. -/
def HandleAnswer.Reached : HandleAnswer → Prop
  | .done result => AccountStore.Reached result
  | .users result => AccountStore.Reached result ∧ ∀ answers, result = .ok answers →
      ∀ a ∈ answers, a.Reached
  | .sessions result => AccountStore.Reached result ∧ ∀ answers, result = .ok answers →
      ∀ a ∈ answers, a.Reached
  | .created result _ => AccountStore.Reached result

/-- The answer of a closed handle; no bytes are drawn for it. -/
def HandleCall.refusal : HandleCall → HandleAnswer
  | .start | .health | .close => .done (.error .notInitialized)
  | .users _ => .users (.error .notInitialized)
  | .sessions _ => .sessions (.error .notInitialized)
  | .create _ _ source => .created (.error .notInitialized) source

/-- What happens around a handle: a call on it, or a change of the disk by others. -/
inductive HandleEvent where
  | call (c : HandleCall)
  | outside (change : Disk → Disk)

namespace Storage

def answer : HandleCall → Storage → HandleAnswer × Storage
  | .start, s => s.start.map .done id
  | .users steps, s =>
      match s.access users with
      | .error e => (.users (.error e), s)
      | .ok store =>
          (.users (.ok ((trace store.step steps s).map Prod.fst)), after store.step steps s)
  | .sessions steps, s =>
      match s.access sessions with
      | .error e => (.sessions (.error e), s)
      | .ok store =>
          (.sessions (.ok ((trace store.step steps s).map Prod.fst)), after store.step steps s)
  | .create user expires source, s =>
      let r := s.createSession user expires source
      (.created r.1 r.2.1, r.2.2)
  | .health, s => s.health.map .done id
  | .close, s => s.close.map .done id

def event : HandleEvent → Storage → Option HandleAnswer × Storage
  | .call c, s => (answer c s).map some id
  | .outside change, s => (none, { s with disk := change s.disk })

/-- Some start in this run from `s` succeeded. -/
def StartedIn (s : Storage) (events : List HandleEvent) : Prop :=
  ∃ before rest, events = before ++ .call .start :: rest ∧
    (after event before s).start.1 = .ok ()

variable {s h : Storage}

/-! ## A closed handle -/

theorem answer_of_closed (closed : h.opened = none) {c : HandleCall} (other : c ≠ .start) :
    answer c h = (c.refusal, h) := by
  cases c with
  | start => exact absurd rfl other
  | users steps => simp only [answer, access, closed, HandleCall.refusal]
  | sessions steps => simp only [answer, access, closed, HandleCall.refusal]
  | create user expires source => simp only [answer, createSession, closed, HandleCall.refusal]
  | health => simp only [answer, health, onConnection, closed, HandleCall.refusal, Prod.map, id_eq]
  | close => simp only [answer, close, onConnection, closed, HandleCall.refusal, Prod.map, id_eq]

/-- A file that cannot be opened ends the start. -/
theorem start_of_openDatabase (closed : h.opened = none) {tpl : Template} {e : Failure} {d : Disk}
    (taken : Template.ofSettings h.settings = .ok tpl)
    (refused : h.disk.openDatabase h.settings.databasePath = (.error e, d)) :
    h.start = (.error (.driver (.failure e)), { h with disk := d }) := by
  simp only [start, closed, taken, refused]

/-- A start that fails, wherever it fails, has touched nothing but the disk. -/
theorem start_of_error (closed : h.opened = none) {e : StoreError} (failed : h.start.1 = .error e) :
    ∃ d, h.start.2 = { h with disk := d } := by
  obtain ⟨settings, session, columns, disk, opened⟩ := h
  obtain rfl : opened = none := closed
  unfold start at failed ⊢
  simp only at failed ⊢
  split
  · exact ⟨disk, rfl⟩
  next tpl taken =>
    simp only [taken] at failed
    split
    next e d found => exact ⟨d, rfl⟩
    next c d found =>
      simp only [found] at failed ⊢
      split
      next e k prepared => exact ⟨_, rfl⟩
      next k prepared =>
        simp only [prepared] at failed
        cases failed

/-- **An event opens a closed handle or leaves it as it is but for the disk.** -/
theorem event_of_closed (closed : h.opened = none) (e : HandleEvent) :
    (e = .call .start ∧ h.start.1 = .ok () ∧ ∃ d tpl k,
        (event e h).2 = { h with disk := d }.onto tpl k) ∨
      ¬ (e = .call .start ∧ h.start.1 = .ok ()) ∧ ∃ d, (event e h).2 = { h with disk := d } := by
  cases e with
  | outside change => exact .inr ⟨nofun, change h.disk, rfl⟩
  | call c =>
      by_cases starting : c = .start
      · subst starting
        cases result : h.start.1 with
        | error e =>
            exact .inr ⟨(fun both => nomatch both.2), start_of_error closed result⟩
        | ok u =>
            obtain ⟨tpl, c, d, k, -, -, -, handle⟩ := exists_of_start closed result
            exact .inl ⟨rfl, rfl, d, tpl, k, handle⟩
      · refine .inr ⟨fun both => starting (HandleEvent.call.inj both.1), h.disk, ?_⟩
        rw [event, answer_of_closed closed starting]
        rfl

/-! ## An open handle -/

section Open

variable (h) (tpl : Template) (k : Connection)

theorem start_onto : (h.onto tpl k).start = (.error .alreadyInitialized, h.onto tpl k) := rfl

/-- **An open handle answers, and stays open.** -/
theorem answer_onto (c : HandleCall) :
    (answer c (h.onto tpl k)).1.Reached ∧ ∃ k', (answer c (h.onto tpl k)).2 = h.onto tpl k' := by
  cases c with
  | start => exact ⟨reached_error (by simp), k, rfl⟩
  | users steps =>
      obtain ⟨answers, ends⟩ := run_within (fun step k => users_step_onto h tpl k step) steps k
      refine ⟨⟨reached_ok _, ?_⟩, _, ends⟩
      rintro _ ⟨⟩
      rw [answers]
      exact forall_answers (UserEngine.step_reached Bridge.decodeText_reached) steps k
  | sessions steps =>
      obtain ⟨answers, ends⟩ := run_within (fun step k => sessions_step_onto h tpl k step) steps k
      refine ⟨⟨reached_ok _, ?_⟩, _, ends⟩
      rintro _ ⟨⟩
      rw [answers]
      exact forall_answers (SessionEngine.step_reached Bridge.decodeText_reached) steps k
  | create user expires source =>
      rw [answer, createSession_onto]
      exact ⟨SessionStore.create_reached (SessionEngine.insert_reached _) _ _ _ _ _, _, rfl⟩
  | health => exact ⟨reached_driver k.ping.1, _, rfl⟩
  | close =>
      simp only [answer, close, onConnection_onto]
      split
      · exact ⟨reached_driver k.checkpoint.1, _, rfl⟩
      · exact ⟨reached_ok _, _, rfl⟩

theorem event_onto (e : HandleEvent) :
    ∃ d k', (event e (h.onto tpl k)).2 = { h with disk := d }.onto tpl k' := by
  cases e with
  | outside change => exact ⟨change h.disk, k, rfl⟩
  | call c =>
      obtain ⟨-, k', ends⟩ := answer_onto h tpl k c
      exact ⟨h.disk, k', ends⟩

end Open

/-! ## Runs -/

theorem startedIn_nil : ¬ s.StartedIn [] := by
  rintro ⟨before, rest, split, -⟩
  simp at split

theorem startedIn_append_single {events : List HandleEvent} {e : HandleEvent} :
    s.StartedIn (events ++ [e]) ↔
      s.StartedIn events ∨ e = .call .start ∧ (after event events s).start.1 = .ok () := by
  constructor
  · rintro ⟨before, rest, split, ok⟩
    rcases List.eq_nil_or_concat rest with rfl | ⟨rest, last, rfl⟩
    · obtain ⟨rfl, same⟩ := List.append_inj' split rfl
      exact .inr ⟨List.head_eq_of_cons_eq same, ok⟩
    · rw [List.concat_eq_append, ← List.cons_append, ← List.append_assoc] at split
      exact .inl ⟨before, rest, (List.append_inj' split rfl).1, ok⟩
  · rintro (⟨before, rest, rfl, ok⟩ | ⟨rfl, ok⟩)
    · exact ⟨before, rest ++ [e], by simp, ok⟩
    · exact ⟨events, [], rfl, ok⟩

/-- **A run opens a handle with a start that succeeds, and with nothing else.**
Until then there is only the disk to tell the handle from what it was. -/
theorem state_after (fresh : s.opened = none) (events : List HandleEvent) :
    (s.StartedIn events ∧ ∃ d tpl k, after event events s = { s with disk := d }.onto tpl k) ∨
      ¬ s.StartedIn events ∧ ∃ d, after event events s = { s with disk := d } := by
  induction events using List.reverseRecOn with
  | nil => exact .inr ⟨startedIn_nil, s.disk, rfl⟩
  | append_singleton events e ih =>
      rw [startedIn_append_single, after_append]
      rcases ih with ⟨started, d, tpl, k, opened⟩ | ⟨closed, d, same⟩
      · obtain ⟨d', k', next⟩ := event_onto { s with disk := d } tpl k e
        refine .inl ⟨.inl started, d', tpl, k', ?_⟩
        rw [opened]
        exact next
      · rw [same]
        rcases event_of_closed (h := { s with disk := d }) fresh e with
          ⟨starting, ok, d', tpl, k, next⟩ | ⟨idle, d', next⟩
        · exact .inl ⟨.inr ⟨starting, ok⟩, d', tpl, k, next⟩
        · exact .inr ⟨not_or.mpr ⟨closed, idle⟩, d', next⟩

theorem not_reached_refusal (c : HandleCall) : ¬ c.refusal.Reached := by
  cases c with
  | users steps => exact fun reached => reached.1 rfl
  | sessions steps => exact fun reached => reached.1 rfl
  | _ => exact fun reached => reached rfl

/-- **What a handle answers is decided by whether a start has succeeded.**  In any
run: before that, every other call is refused and changes nothing, and a start that
fails leaves a handle that opens wherever a new one would.  After it, no answer says
that the handle is closed, and another start is refused and changes nothing. -/
theorem answers_by_whether_started (fresh : s.opened = none) (events : List HandleEvent) :
    let h := after event events s
    (∀ c, c ≠ .start → (answer c h = (c.refusal, h) ↔ ¬ s.StartedIn events) ∧
        ((answer c h).1.Reached ↔ s.StartedIn events)) ∧
      (¬ s.StartedIn events → ∀ e, h.start.1 = .error e → h.start.2.opened = none ∧
        ∀ d, { h.start.2 with disk := d }.start = { s with disk := d }.start) ∧
      (s.StartedIn events → h.start = (.error .alreadyInitialized, h)) := by
  intro h
  rcases state_after fresh events with ⟨started, d, tpl, k, opened⟩ | ⟨closed, d, same⟩
  · rw [show h = { s with disk := d }.onto tpl k from opened]
    refine ⟨fun c _ => ?_, fun none => absurd started none, fun _ => start_onto _ tpl k⟩
    have reached := (answer_onto { s with disk := d } tpl k c).1
    refine ⟨iff_of_false (fun refused => ?_) (not_not_intro started), iff_of_true reached started⟩
    rw [refused] at reached
    exact not_reached_refusal c reached
  · rw [show h = { s with disk := d } from same]
    refine ⟨fun c other => ?_, fun _ e failed => ?_, fun started => absurd started closed⟩
    · have refused := answer_of_closed (h := { s with disk := d }) fresh other
      rw [refused]
      exact ⟨iff_of_true rfl closed, iff_of_false (not_reached_refusal c) closed⟩
    · obtain ⟨d', left⟩ := start_of_error (h := { s with disk := d }) fresh failed
      rw [left]
      exact ⟨fresh, fun _ => rfl⟩

/-- A file that is no database is in the way of the first start; when it is gone, the
second one succeeds, and the third is refused. -/
theorem answers_after_a_failed_start :
    let s : Storage :=
      { settings := { databasePath := "db" }, disk := Disk.put {} "db" (.plain "text") }
    let early : List HandleEvent := [.call .start]
    let late : List HandleEvent := [.call .start, .outside (fun _ => {}), .call .start]
    s.start.1 = .error (.driver (.failure Disk.notADatabase)) ∧
      answer .health (after event early s) = (.done (.error .notInitialized), after event early s) ∧
      (after event [.call .start, .outside (fun _ => {})] s).start.1 = .ok () ∧
      (after event late s).start = (.error .alreadyInitialized, after event late s) := by
  intro s early late
  have flat : Disk.parentSteps "db" = [] := Disk.parentSteps_of_free (by decide)
  obtain ⟨tpl, taken⟩ := Template.exists_ofSettings (s := s.settings) (by decide) (by decide)
  -- the first start
  have inTheWay : s.disk.openDatabase "db" = (.error Disk.notADatabase, s.disk) := by
    have there : s.disk.entry? "db" = some (.plain "text") := Disk.entryAt?_putAt_self _ _ _
    simp only [Disk.openDatabase, flat, Disk.makeDirectories, there]
    rfl
  have failed : s.start = (.error (.driver (.failure Disk.notADatabase)), s) :=
    start_of_openDatabase rfl taken inTheWay
  have closed : ¬ s.StartedIn early := by
    intro (started : s.StartedIn ([] ++ [.call .start]))
    rcases startedIn_append_single.mp started with none | ⟨-, ok⟩
    · exact startedIn_nil none
    · rw [show (after event [] s).start = _ from failed] at ok
      cases ok
  have unchanged : after event early s = s := congrArg Prod.snd failed
  -- the second one, on an empty disk
  have usable := UsableAccounts.of_settings taken (by decide) (by decide) (by decide +kernel)
  obtain ⟨k, prepared⟩ := usable.prepare_vacant (k := .opened .empty) (by decide +kernel) rfl
    fun _ _ => ⟨rfl, rfl⟩
  obtain ⟨d, found⟩ := Disk.openDatabase_of_held (d := {}) (c := .empty) flat rfl
  have second : (after event [.call .start, .outside (fun _ => {})] s).start.1 = .ok () := by
    have before : after event [.call .start, .outside (fun _ => {})] s = { s with disk := {} } :=
      congrArg (fun h : Storage => { h with disk := {} }) unchanged
    rw [before, start_of_prepare (s := { s with disk := {} }) rfl taken found prepared]
  have started : s.StartedIn late := ⟨_, [], rfl, second⟩
  obtain ⟨others, -, -⟩ := answers_by_whether_started (s := s) rfl early
  obtain ⟨-, -, again⟩ := answers_by_whether_started (s := s) rfl late
  exact ⟨congrArg Prod.fst failed, (others .health (by simp)).1.mpr closed, second, again started⟩

end Storage

end AccountStore
