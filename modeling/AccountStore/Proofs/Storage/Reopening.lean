/-
# AccountStore.Proofs.Storage.Reopening -- accounts outlive their handles

Handles are opened on one file one after the other.  Some use the tables `users`
and `sessions`, others use tables of other names, and each may be closed, opened
again, checked or let go of at any time.  For the accounts in the two tables none
of this matters (`reopened_as_one`): the steps that are made through the handles
on these tables answer as they would on one handle that is opened once, under the
settings of the first of them, and the tables are what they would be there, with
their rows, their last number and their unique keys.  So opening again loses no
user and no session, never starts numbering again, and does not change what must
be unique in a table that is there already.

The proof runs the two side by side.  Up to the first own handle the file is alike
under the three names of the accounts (`Before`); from then on the file and the one
handle share the accounts, own visits keep step with the handle and the others
touch other names (`shared_from`).
-/
import AccountStore.Proofs.Storage.Visits

namespace AccountStore

set_option autoImplicit false

open Database

/-- The table that a file on a disk has under a name. -/
def Database.Disk.table? (d : Disk) (file : Place) (name : String) : Option Table :=
  (d.contentsAt? file).bind fun c => c.findTable? name

/-- A handle whose settings for sessions are replaced step by step. -/
theorem Storage.stepsUnder_onto (tpl : Template) :
    ∀ (ps : List (SessionSettings × AccountStep)) {s : Storage} {k : Connection}, s.columns = {} →
      (trace Storage.stepUnder ps (s.onto tpl k)).map Prod.fst =
          (trace (AccountStore.stepUnder tpl) ps k).map Prod.fst ∧
        ∃ session, after Storage.stepUnder ps (s.onto tpl k) =
          { s with session := session }.onto tpl (after (AccountStore.stepUnder tpl) ps k)
  | [], s, _, _ => ⟨rfl, s.session, rfl⟩
  | p :: ps, s, k, default => by
      have made : Storage.stepUnder p (s.onto tpl k) =
          ((AccountStore.stepUnder tpl p k).1,
            { s with session := p.1 }.onto tpl (AccountStore.stepUnder tpl p k).2) :=
        Storage.step_onto { s with session := p.1 } tpl k default p.2
      obtain ⟨answers, session, ends⟩ := Storage.stepsUnder_onto tpl ps
        (s := { s with session := p.1 }) (k := (AccountStore.stepUnder tpl p k).2) default
      rw [trace, trace, List.map_cons, List.map_cons, made, answers, after, after, List.foldl_cons,
        List.foldl_cons, made]
      exact ⟨rfl, session, ends⟩

namespace Visit.OpensOn

variable {v : Visit} {d : Disk} {tpl tpl' : Template} {c : Contents} {k k' : Connection}
  {s : StorageSettings}

/-- The steps of a visit keep step with a connection that shares its accounts. -/
theorem shared (h : v.OpensOn d tpl c k) (usable : UsableAccounts s tpl')
    (users : v.settings.usersTable = s.usersTable)
    (sessions : v.settings.sessionsTable = s.sessionsTable)
    (distinct : Distinct (accountNames s.usersTable s.sessionsTable))
    (start : SharesAccounts s.usersTable s.sessionsTable k k') :
    v.answers d = (trace (stepUnder tpl') v.steps k').map Prod.fst ∧
      ∃ c', (v.leaves d).contentsAt? v.place = some c' ∧
        SharesAccounts s.usersTable s.sessionsTable (.opened c')
          (after (stepUnder tpl') v.steps k') := by
  have agree : ∀ p k k', True → SharesAccounts s.usersTable s.sessionsTable k k' →
      (stepUnder tpl p k).1 = (stepUnder tpl' p k').1 ∧
        SharesAccounts s.usersTable s.sessionsTable (stepUnder tpl p k).2 (stepUnder tpl' p k').2 := by
    intro p k k' _ shared
    rw [← users, ← sessions] at distinct shared ⊢
    exact h.usable.step_shared usable users sessions distinct shared p.1.keyRetryAttempts p.2
  have ends := related_after (fun p k k' shared => (agree p k k' trivial shared).2) v.steps start
  have untouched : Apart [] (accountNames s.usersTable s.sessionsTable) := nofun
  refine ⟨?_, _, h.left, ends.spared untouched rfl (.refl _ _)⟩
  rw [h.answers]
  exact trace_map_eq agree (fun _ _ => trivial) start

/-- A visit leaves the accounts in the file. -/
theorem holds (h : v.OpensOn d tpl c k) (distinct : Distinct v.names) :
    ∃ c' tU tS, (v.leaves d).contentsAt? v.place = some c' ∧
      HoldsAccounts v.settings.usersTable v.settings.sessionsTable tU tS (.opened c') := by
  obtain ⟨k₁, -, start⟩ := h.usable.prepare_agrees (.opened c) (.opened c) distinct rfl rfl
    (fun _ _ => ⟨rfl, rfl⟩) h.prepared
  obtain ⟨-, c', left, tU, tS, held, -⟩ := h.shared h.usable rfl rfl distinct start
  exact ⟨c', tU, tS, left, held⟩

end Visit.OpensOn

/-! ## The two runs side by side -/

theorem OneFile.of_cons {users sessions : String} {file : Place} {v : Visit} {rest : List Visit}
    (h : OneFile users sessions file (v :: rest)) : OneFile users sessions file rest where
  path w member := h.path w (List.mem_cons_of_mem v member)
  distinct := h.distinct
  apart w member := h.apart w (List.mem_cons_of_mem v member)

theorem Visit.uses_iff {users sessions : String} {v : Visit} :
    v.uses users sessions = true ↔
      v.settings.usersTable = users ∧ v.settings.sessionsTable = sessions := by
  simp [uses]

section Own

variable {own : Visit → Bool} {v : Visit} {rest : List Visit} {d : Disk} {tpl : Template}
  {k : Connection}

theorem stepsOf_cons_own (ours : own v = true) :
    stepsOf own (v :: rest) = v.steps ++ stepsOf own rest := by
  rw [stepsOf, List.filter_cons, ours, if_pos rfl, List.flatMap_cons, stepsOf]

theorem stepsOf_cons_other (others : own v = false) :
    stepsOf own (v :: rest) = stepsOf own rest := by
  rw [stepsOf, List.filter_cons, others, if_neg Bool.false_ne_true, stepsOf]

/-- The answers of an own visit come before those of the rest. -/
theorem answersOf_cons_own (ours : own v = true)
    (first : v.answers d = (trace (stepUnder tpl) v.steps k).map Prod.fst)
    (later : answersOf own rest (v.leaves d) =
      (trace (stepUnder tpl) (stepsOf own rest) (after (stepUnder tpl) v.steps k)).map Prod.fst) :
    answersOf own (v :: rest) d =
      (trace (stepUnder tpl) (stepsOf own (v :: rest)) k).map Prod.fst := by
  rw [answersOf, ours, if_pos rfl, first, later, stepsOf_cons_own ours, trace_append,
    List.map_append]

theorem answersOf_cons_other (others : own v = false) :
    answersOf own (v :: rest) d = answersOf own rest (v.leaves d) := by
  rw [answersOf, others, if_neg Bool.false_ne_true, List.nil_append]

end Own

section SideBySide

variable {s : StorageSettings} {tpl : Template} {file : Place}

/-- **Once the file and one handle share the accounts, they go on to share them**,
whatever visits there are. -/
theorem shared_from (usable : UsableAccounts s tpl) :
    ∀ {visits : List Visit} {d : Disk} {c : Contents} {k : Connection},
      OneFile s.usersTable s.sessionsTable file visits → AllOpen visits d →
      d.contentsAt? file = some c → SharesAccounts s.usersTable s.sessionsTable (.opened c) k →
      let own := Visit.uses s.usersTable s.sessionsTable
      answersOf own visits d = (trace (stepUnder tpl) (stepsOf own visits) k).map Prod.fst ∧
        ∃ c', (leftBy visits d).contentsAt? file = some c' ∧
          SharesAccounts s.usersTable s.sessionsTable (.opened c')
            (after (stepUnder tpl) (stepsOf own visits) k)
  | [], _, c, _, _, _, held, shared => ⟨rfl, c, held, shared⟩
  | v :: rest, d, c, k, oneFile, ⟨ok, later⟩, held, shared => by
      intro own
      have there : v.place = file := oneFile.path v List.mem_cons_self
      obtain ⟨tplV, kV, opens⟩ := Visit.OpensOn.exists_of_held ok (there ▸ held)
      cases ours : own v with
      | true =>
          obtain ⟨users, sessions⟩ := Visit.uses_iff.mp ours
          obtain ⟨tU, tS, holds, -⟩ := id shared
          have again := opens.usable.prepare_again (users.symm ▸ sessions.symm ▸ holds)
          obtain rfl : kV = .opened c := by
            rw [opens.prepared] at again
            exact congrArg Prod.snd again
          obtain ⟨answers, c', left, shared'⟩ :=
            opens.shared usable users sessions oneFile.distinct shared
          rw [there] at left
          obtain ⟨more, ends⟩ := shared_from usable oneFile.of_cons later left shared'
          refine ⟨answersOf_cons_own ours answers more, ?_⟩
          rw [stepsOf_cons_own ours, after_append]
          exact ends
      | false =>
          obtain ⟨c', left, spares⟩ := opens.spares
          rw [there] at left
          have apart := oneFile.apart v List.mem_cons_self ours
          have shared' : SharesAccounts s.usersTable s.sessionsTable (.opened c') k :=
            shared.spared apart rfl spares
          have later' := shared_from usable oneFile.of_cons later left shared'
          rw [answersOf_cons_other ours, stepsOf_cons_other ours]
          exact later'

/-- A file before the first own visit: nothing tells it apart from what it was at
the start under the three names of the accounts, and its disk has no fewer files. -/
structure Before (users sessions : String) (file : Place) (d₀ d : Disk) (c₀ c : Contents) :
    Prop where
  keeps : Disk.Keeps d₀ d
  held₀ : d₀.contentsAt? file = some c₀
  held : d.contentsAt? file = some c
  agree : ∀ name ∈ accountNames users sessions, AgreeAt name c c₀

/-- **The first own visit could have been the first of all.**  Its handle opens on
the disk as it was at the start, and from there the two runs go side by side. -/
theorem shared_from_first {first : Visit} {d₀ : Disk} {c₀ : Contents} :
    ∀ {visits : List Visit} {d : Disk} {c : Contents},
      let users := first.settings.usersTable
      let sessions := first.settings.sessionsTable
      let own := Visit.uses users sessions
      OneFile users sessions file visits → AllOpen visits d → visits.find? own = some first →
      Before users sessions file d₀ d c₀ c →
      ∃ tpl d₁ k, first.opened d₀ = (.ok (), { first.handle d₀ with disk := d₁ }.onto tpl k) ∧
        answersOf own visits d = (trace (stepUnder tpl) (stepsOf own visits) k).map Prod.fst ∧
          ∃ c', (leftBy visits d).contentsAt? file = some c' ∧
            SharesAccounts users sessions (.opened c')
              (after (stepUnder tpl) (stepsOf own visits) k)
  | [], _, _ => by
      intro users sessions own oneFile allOpen found
      cases found
  | v :: rest, d, c => by
      intro users sessions own oneFile allOpen found before
      obtain ⟨ok, later⟩ := allOpen
      have there : v.place = file := oneFile.path v List.mem_cons_self
      obtain ⟨tpl, k, opens⟩ := Visit.OpensOn.exists_of_held ok (there ▸ before.held)
      cases ours : own v with
      | true =>
          obtain rfl : v = first := by
            rw [List.find?_cons_of_pos ours] at found
            exact Option.some.inj found
          obtain ⟨d', found'⟩ := opens.opened
          obtain ⟨d₁, opened⟩ := Disk.openDatabase_earlier before.keeps found' (there ▸ before.held₀)
          obtain ⟨k₁, prepared, shared⟩ := opens.usable.prepare_agrees (.opened c)
            (.opened c₀) oneFile.distinct rfl rfl before.agree opens.prepared
          have started := Storage.start_of_prepare (s := v.handle d₀) rfl opens.taken opened prepared
          obtain ⟨answers, c', left, shared'⟩ :=
            opens.shared opens.usable rfl rfl oneFile.distinct shared
          rw [there] at left
          obtain ⟨more, ends⟩ := shared_from opens.usable oneFile.of_cons later left shared'
          refine ⟨tpl, d₁, k₁, started, answersOf_cons_own ours answers more, ?_⟩
          rw [stepsOf_cons_own ours, after_append]
          exact ends
      | false =>
          obtain ⟨c', left, spares⟩ := opens.spares
          rw [there] at left
          have apart := oneFile.apart v List.mem_cons_self ours
          have before' : Before users sessions file d₀ (v.leaves d) c₀ c' := by
            refine ⟨before.keeps.trans opens.keeps, before.held₀, left, fun name member => ?_⟩
            have moved := spares name fun other touched => apart other touched name member
            exact (before.agree name member).moved moved ⟨rfl, rfl⟩
          rw [List.find?_cons_of_neg (by simp [ours])] at found
          rw [answersOf_cons_other ours, stepsOf_cons_other ours]
          exact shared_from_first oneFile.of_cons later found before'

end SideBySide

/-! ## One handle -/

/-- **Accounts are what they would be on one handle.**  On handles that are opened
one after the other on one file, with whatever other tables in it and whatever is
called in between, the calls on the accounts in two tables answer as they would on
one handle, opened once and with the settings of the first, and leave the tables
that they would leave there. -/
theorem reopened_as_one {visits : List Visit} {d : Disk} {users sessions : String} {file : Place}
    {first : Visit} (oneFile : OneFile users sessions file visits) (allOpen : AllOpen visits d)
    (found : visits.find? (Visit.uses users sessions) = some first) :
    let own := Visit.uses users sessions
    let one := first.opened d
    one.1 = .ok () ∧
      answersOf own visits d = (trace Storage.stepUnder (stepsOf own visits) one.2).map Prod.fst ∧
        ∀ name ∈ [users, sessions], ∃ t, (leftBy visits d).table? file name = some t ∧
          (after Storage.stepUnder (stepsOf own visits) one.2).drop.table? file name = some t := by
  intro own one
  have ours : own first = true := List.find?_some found
  obtain ⟨rfl, rfl⟩ := Visit.uses_iff.mp ours
  have there : first.place = file := oneFile.path first (List.mem_of_find?_eq_some found)
  obtain ⟨c, held⟩ : ∃ c, d.contentsAt? file = some c := by
    cases visits with
    | nil => cases found
    | cons v rest =>
        obtain ⟨tpl, c, k, opens⟩ := Visit.exists_of_start allOpen.1
        exact ⟨c, oneFile.path v List.mem_cons_self ▸ opens.held⟩
  have before : Before first.settings.usersTable first.settings.sessionsTable file d d c c :=
    ⟨.refl d, held, held, fun _ _ => ⟨rfl, rfl⟩⟩
  obtain ⟨tpl, d₁, k, started, answers, c', left, tU, tS, holds, holds'⟩ :=
    shared_from_first oneFile allOpen found before
  obtain ⟨sameAnswers, session, ends⟩ := Storage.stepsUnder_onto tpl (stepsOf own visits)
    (s := { first.handle d with disk := d₁ }) (k := k) rfl
  have dropped : (after Storage.stepUnder (stepsOf own visits) one.2).drop.contentsAt? file =
      some (after (stepUnder tpl) (stepsOf own visits) k).contents := by
    rw [show one.2 = { first.handle d with disk := d₁ }.onto tpl k from congrArg Prod.snd started,
      ends, ← there]
    exact Disk.contentsAt?_put d₁ _ _
  refine ⟨congrArg Prod.fst started, ?_, ?_⟩
  · rw [show one.2 = { first.handle d with disk := d₁ }.onto tpl k from congrArg Prod.snd started,
      sameAnswers]
    exact answers
  · simp only [Disk.table?, left, dropped, Option.bind_some, List.forall_mem_cons]
    exact ⟨⟨tU, holds.ofUsers.found, holds'.ofUsers.found⟩,
      ⟨tS, holds.ofSessions.found, holds'.ofSessions.found⟩, nofun⟩

/-- The second handle prepares tables of other names, and the third would not have
addresses unique. -/
theorem reopened_as_one_beside_another :
    let ours : StorageSettings := { databasePath := "db" }
    let theirs : StorageSettings :=
      { ours with usersTable := "staff", sessionsTable := "staff_session" }
    let laxer : StorageSettings := { ours with emailUnique := false, walMode := false }
    let insert : StorageCall :=
      .account (.user (.insert Instant.epoch (User.new "ada" "ada@example.org")))
    let visits : List Visit := [⟨ours, {}, [insert, .close]⟩, ⟨theirs, {}, [insert]⟩,
      ⟨laxer, ⟨1⟩, [.start, insert, .account (.create ⟨1⟩ Instant.epoch [[1, 2, 3]])]⟩]
    let own := Visit.uses "auth_user" "auth_session"
    let one := Visit.opened ⟨ours, {}, [insert, .close]⟩ {}
    OneFile "auth_user" "auth_session" (Disk.place "db") visits ∧ AllOpen visits {} ∧
      one.1 = .ok () ∧
        answersOf own visits {} =
          (trace Storage.stepUnder (stepsOf own visits) one.2).map Prod.fst := by
  intro ours theirs laxer insert visits own one
  have distinct : Distinct (accountNames "auth_user" "auth_session") := by decide +kernel
  have distinct' : Distinct (accountNames "staff" "staff_session") := by decide +kernel
  have apart : Apart (accountNames "staff" "staff_session")
      (accountNames "auth_user" "auth_session") := by
    unfold Apart
    decide +kernel
  have oneFile : OneFile "auth_user" "auth_session" (Disk.place "db") visits := by
    refine ⟨?_, distinct, ?_⟩
    · simp only [visits, List.forall_mem_cons]
      exact ⟨rfl, rfl, rfl, nofun⟩
    · simp only [visits, List.forall_mem_cons]
      exact ⟨nofun, fun _ => apart, nofun, nofun⟩
  obtain ⟨tpl, taken⟩ := Template.exists_ofSettings (s := ours) (by decide) (by decide)
  obtain ⟨tpl', taken'⟩ := Template.exists_ofSettings (s := theirs) (by decide) (by decide)
  obtain ⟨tpl'', taken''⟩ := Template.exists_ofSettings (s := laxer) (by decide) (by decide)
  have usable := UsableAccounts.of_settings taken (by decide) (by decide) (by decide +kernel)
  have usable' := UsableAccounts.of_settings taken' (by decide) (by decide) (by decide +kernel)
  have usable'' := UsableAccounts.of_settings taken'' (by decide) (by decide) (by decide +kernel)
  have flat : Disk.parentSteps "db" = [] := Disk.parentSteps_of_free (by decide)
  -- the first handle finds an empty file, the second one without its names
  obtain ⟨d₁, found₁⟩ := Disk.openDatabase_of_held (d := {}) (c := .empty) flat rfl
  have open₁ : (Visit.opened ⟨ours, {}, [insert, .close]⟩ {}).1 = .ok () :=
    Visit.opened_of_vacant taken usable distinct found₁ fun _ _ => ⟨rfl, rfl⟩
  obtain ⟨_, _, opens₁⟩ := Visit.OpensOn.exists_of_held (c := .empty) open₁ rfl
  obtain ⟨c₁, left₁, spares₁⟩ := opens₁.spares
  obtain ⟨d₂, found₂⟩ := Disk.openDatabase_of_held flat left₁
  have vacant : c₁.Vacant (accountNames "staff" "staff_session") := by
    intro name member
    have kept := spares₁ name fun other touched => (sameName_comm _ _).trans (apart _ member _ touched)
    exact ⟨kept.table.trans rfl, kept.index.trans rfl⟩
  have open₂ := Visit.opened_of_vacant (v := ⟨theirs, {}, [insert]⟩) taken' usable' distinct' found₂
    vacant
  -- the third finds the accounts that the first left
  obtain ⟨c₁', tU, tS, left₁', holds⟩ := opens₁.holds distinct
  obtain rfl : c₁' = c₁ := Option.some.inj (left₁'.symm.trans left₁)
  obtain ⟨_, _, opens₂⟩ := Visit.OpensOn.exists_of_held open₂ left₁
  obtain ⟨c₂, left₂, spares₂⟩ := opens₂.spares
  obtain ⟨d₃, found₃⟩ := Disk.openDatabase_of_held flat left₂
  have open₃ := Visit.opened_of_holds
    (v := ⟨laxer, ⟨1⟩, [.start, insert, .account (.create ⟨1⟩ Instant.epoch [[1, 2, 3]])]⟩) taken''
    usable'' found₃ (holds.spared apart rfl spares₂)
  have allOpen : AllOpen visits {} := ⟨open₁, open₂, open₃, trivial⟩
  obtain ⟨opens, answers, -⟩ := reopened_as_one oneFile allOpen rfl
  exact ⟨oneFile, allOpen, opens, answers⟩

end AccountStore
