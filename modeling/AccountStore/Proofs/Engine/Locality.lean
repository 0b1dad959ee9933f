/-
# AccountStore.Proofs.Engine.Locality -- each engine works on its own table

Every call of the user engine but the one that prepares its table works on the
table of users (`UsableUsers.step_worksOn`), and every call of the session engine
on the table of sessions (`UsableSessions.step_worksOn`), a retried insert with
all its attempts included.  Preparing a table adds its own names and nothing else
(`init_spares`).  None of this asks anything of the instants that are passed.
-/
import AccountStore.Proofs.Database.Locality
import AccountStore.Proofs.Engine.Sessions
import AccountStore.Proofs.Engine.Users
import AccountStore.Proofs.Store.Run

namespace AccountStore

set_option autoImplicit false

open Database

/-! ## Declarations -/

namespace Database

/-- A text is read everywhere as one statement, or refused everywhere alike. -/
theorem Reads.parse_cases {text : String} {ts : List Token} {s : Statement} (h : Reads text ts s) :
    (∀ k : Connection, k.parse text = .ok s) ∨ ∃ e, ∀ k : Connection, k.parse text = .error e := by
  cases excess : s.excess? ts with
  | none => exact .inl (h.parse excess)
  | some message => exact .inr ⟨_, h.parse_of_excess excess⟩

theorem Table.ofDefinitions_name {name : String} {columns : List ColumnDefinition} {t : Table}
    (made : Table.ofDefinitions name columns = .ok t) : t.name = name := by
  unfold Table.ofDefinitions at made
  split at made
  · cases made
  · cases made
    rfl

namespace Contents

theorem spares_withTable (c : Contents) (t : Table) : Spares [t.name] c (c.withTable t) := by
  intro other apart
  exact ⟨findTable?_withTable_ne c (apart t.name List.mem_cons_self), rfl⟩

theorem createTable_spares {c c' : Contents} {d : Declaration} (h : c.createTable d = .ok c') :
    Spares [d.name] c c' := by
  obtain ⟨-, ⟨t, -, -, rfl⟩ | ⟨t, -, -, made, rfl⟩⟩ := createTable_cases h
  · exact .refl _ _
  · rw [← Table.ofDefinitions_name made]
    exact spares_withTable c t

theorem createIndex_spares {c c' : Contents} {ifNotExists : Bool} {name table : String}
    {columns : List String} (h : c.createIndex ifNotExists name table columns = .ok c') :
    Spares [name] c c' := by
  obtain ⟨t, -, -, -, ⟨i, -, -, rfl⟩ | ⟨is, -, -, rfl⟩⟩ := createIndex_cases h
  · exact .refl _ _
  · intro other apart
    have ne : sameName name other = false := apart name List.mem_cons_self
    exact ⟨rfl, by simp [findIndex?, withIndex, List.find?_append, ne]⟩

end Contents

theorem declareAll_spares {names : List String} : ∀ {fs : List Change} {c c' : Contents},
    (∀ f ∈ fs, ∀ c c', f c = .ok c' → Spares names c c') → declareAll fs c = .ok c' →
      Spares names c c'
  | [], _, _, _, done => by
      cases done
      exact .refl _ _
  | f :: rest, c, c', spares, done => by
      obtain ⟨first, later⟩ := List.forall_mem_cons.mp spares
      rw [declareAll] at done
      split at done
      · next c'' made => exact (first c c'' made).trans (declareAll_spares later done)
      · cases done

end Database

/-- What a call says that only tells whether its statement worked. -/
def doneAnswer {α : Type} (onError : DriverError → StoreError) :
    Except DriverError α → Except StoreError Unit
  | .ok _ => .ok ()
  | .error err => .error (onError err)

/-! ## Users -/

namespace UserEngine

variable {σ : Type} (e : UserEngine σ)

/-- The answer to a lookup by the answer of the backend. -/
def fetchAnswer (b : Bridge) (lookup : UserLookup) : Except DriverError Row → Except StoreError User
  | .ok row => readUser b row
  | .error .noRows => .error (.noSuchUser lookup)
  | .error err => .error (.driver err)

/-- The answer to an insert, and the caller's user after it. -/
def insertAnswer (b : Bridge) (u : User) :
    Except DriverError Outcome → Except StoreError UserId × User
  | .ok outcome =>
      match outcome.lastInsertId with
      | some id => (.ok ⟨id⟩, { u with id := ⟨id⟩ })
      | none => (.error (.unsupported "last insert id"), u)
  | .error err => (.error (insertError b u err), u)

theorem fetch_split (statement : String) (key : SqlValue) (lookup : UserLookup) (s : σ) :
    e.fetch statement key lookup s =
      (fetchAnswer e.bridge lookup (e.backend.queryRow statement [key] (scanKinds e.bridge) s).1,
        (e.backend.queryRow statement [key] (scanKinds e.bridge) s).2) := by
  rw [fetch]
  split
  · next answer => rw [answer, fetchAnswer]
  · next answer => rw [answer, fetchAnswer]
  · next other answer =>
      rw [answer, fetchAnswer]
      exact other

theorem insert_split (now : Instant) (u : User) (s : σ) :
    e.insert now u s =
      let r := e.backend.execute e.statements.insert
        (parameters e.bridge (u.prepared now) UserField.all) s
      (insertAnswer e.bridge (u.prepared now) r.1, r.2) := by
  simp only [insert]
  split
  · next outcome s' answer =>
      rw [answer, insertAnswer]
      cases outcome.lastInsertId <;> rfl
  · next answer => rw [answer, insertAnswer]

theorem update_split (id : UserId) (u : User) (fields : List UserField) (s : σ) :
    e.update id u fields s =
      let r := e.backend.execute (e.statements.update (e.updateList fields))
        (parameters e.bridge u ((e.updateList fields).getD UserField.all) ++ [.integer id.value]) s
      (doneAnswer (updateError e.bridge id) (r.1.map Outcome.rowsAffected), r.2) := by
  simp only [update]
  split
  · next answer => rw [answer, Except.map, doneAnswer]
  · next answer => rw [answer, Except.map, doneAnswer]

theorem delete_split (id : UserId) (s : σ) :
    e.delete id s =
      let r := e.backend.execute e.statements.delete [.integer id.value] s
      (doneAnswer .driver (r.1.map Outcome.rowsAffected), r.2) := by
  simp only [delete]
  split
  · next answer => rw [answer, Except.map, doneAnswer]
  · next answer => rw [answer, Except.map, doneAnswer]

end UserEngine

namespace UsableUsers

variable {s : StorageSettings} {tpl : Template} {k : Connection}

/-- Settings under which a table was prepared are usable. -/
theorem of_init_ok (taken : Template.ofSettings s = .ok tpl) (settled : k.transaction = none)
    {k₀ : Connection} (made : (Storage.defaultUsers tpl).store.init k = (.ok (), k₀)) :
    UsableUsers s tpl := by
  have settings := Template.ofSettings_eq_ok taken
  obtain ⟨c, created, -⟩ := exists_of_init settings settled made
  obtain ⟨checked, -⟩ := Contents.createTable_cases created
  exact ⟨settings, free_of_init settings made, checked⟩

theorem init_spares (h : UsableUsers s tpl) (settled : k.transaction = none) :
    ((Storage.defaultUsers tpl).store.init k).2.transaction = none ∧
      Spares [s.usersTable] k.contents ((Storage.defaultUsers tpl).store.init k).2.contents := by
  rw [init_of_taken h.settings h.free settled]
  cases created : k.contents.createTable (UserStatements.declaration s.usersTable s.emailUnique) with
  | ok c => exact ⟨settled, Contents.createTable_spares created⟩
  | error e => exact ⟨settled, .refl _ _⟩

/-! ### Calls -/

theorem fetch_worksOn (h : UsableUsers s tpl) {key : String} (hk : PlainName key) (v : SqlValue)
    (lookup : UserLookup) :
    WorksOn s.usersTable ((Storage.defaultUsers tpl).fetch
      (UserStatements.selectText s.usersTable {} key) v lookup) := by
  have asked := Connection.queryRow_worksOn
    (fun k => UserStatements.parse_select k UserColumns.default_plain h.plain hk) [v]
    (UserEngine.scanKinds Bridge.textual)
  exact (asked.map (UserEngine.fetchAnswer Bridge.textual lookup)).of_eq fun k =>
    (Storage.defaultUsers tpl).fetch_split _ v lookup k

theorem insert_worksOn (h : UsableUsers s tpl) (now : Instant) (u : User) :
    WorksOn s.usersTable ((Storage.defaultUsers tpl).insert now u) := by
  have ran := Connection.execute_worksOn_of_adds
    (fun k => UserStatements.parse_insert k UserColumns.default_plain h.plain) rfl rfl
    (UserEngine.parameters Bridge.textual (u.prepared now) UserField.all)
  rw [← h.statements_eq.2.2.2.1] at ran
  exact (ran.map (UserEngine.insertAnswer Bridge.textual (u.prepared now))).of_eq fun k =>
    (Storage.defaultUsers tpl).insert_split now u k

theorem touched_ne_nil : ∀ listed : Option (List UserField), UserStatements.touched listed ≠ []
  | none | some [] | some (_ :: _) => List.cons_ne_nil _ _

theorem update_worksOn (h : UsableUsers s tpl) (id : UserId) (u : User) (fields : List UserField) :
    WorksOn s.usersTable ((Storage.defaultUsers tpl).update id u fields) := by
  let listed := (Storage.defaultUsers tpl).updateList fields
  let values := UserEngine.parameters Bridge.textual u (listed.getD UserField.all) ++
    [.integer id.value]
  have some : UserStatements.touched listed ≠ [] := touched_ne_nil listed
  have counted : WorksOn s.usersTable fun k =>
      ((k.execute (UserStatements.updateText s.usersTable {} (UserStatements.touched listed))
        values).1.map Outcome.rowsAffected, (k.execute (UserStatements.updateText s.usersTable {}
          (UserStatements.touched listed)) values).2) := by
    rcases (UserStatements.reads_update UserColumns.default_plain h.plain some).parse_cases with
      parsed | ⟨e, unread⟩
    · exact Connection.execute_worksOn parsed rfl values
    · exact (Connection.execute_worksOn_of_error unread s.usersTable values).map _
  rw [← h.statements_eq.2.2.2.2.1] at counted
  exact (counted.map (doneAnswer (UserEngine.updateError Bridge.textual id))).of_eq fun k =>
    (Storage.defaultUsers tpl).update_split id u fields k

theorem delete_worksOn (h : UsableUsers s tpl) (id : UserId) :
    WorksOn s.usersTable ((Storage.defaultUsers tpl).delete id) := by
  have counted := Connection.execute_worksOn
    (fun k => UserStatements.parse_delete k UserColumns.default_plain h.plain) rfl
    [.integer id.value]
  rw [← h.statements_eq.2.2.2.2.2] at counted
  exact (counted.map (doneAnswer .driver)).of_eq fun k =>
    (Storage.defaultUsers tpl).delete_split id k

/-- **Every call but the one that prepares the table works on the table of users.** -/
theorem step_worksOn (h : UsableUsers s tpl) {step : UserStep} (acts : step ≠ .init) :
    WorksOn s.usersTable ((Storage.defaultUsers tpl).store.step step) := by
  obtain ⟨byId, byUsername, byEmail, -, -, -⟩ := h.statements_eq
  cases step with
  | init => exact absurd rfl acts
  | get id =>
      have found := h.fetch_worksOn (by decide : PlainName "id") (.integer id.value) (.byId id)
      rw [← byId] at found
      exact found.map UserAnswer.found
  | getByName name =>
      have found := h.fetch_worksOn (by decide : PlainName "username") (.text name) (.byUsername name)
      rw [← byUsername] at found
      exact found.map UserAnswer.found
  | getByEmail address =>
      have found := h.fetch_worksOn (by decide : PlainName "email") (.text address)
        (.byEmail address)
      rw [← byEmail] at found
      exact found.map UserAnswer.found
  | insert now u => exact (h.insert_worksOn now u).map fun a => UserAnswer.inserted a.1 a.2
  | update id u fields => exact (h.update_worksOn id u fields).map UserAnswer.done
  | updateByNames id u names =>
      have named : WorksOn s.usersTable
          ((Storage.defaultUsers tpl).store.updateByNames id u names) := by
        unfold UserStore.updateByNames
        cases UserField.parseList names with
        | ok fields => exact h.update_worksOn id u fields
        | error e => exact .pure _ _
      exact named.map UserAnswer.done
  | delete id => exact (h.delete_worksOn id).map UserAnswer.done

/-- No call touches what is not named like the table of users. -/
theorem step_spares (h : UsableUsers s tpl) (step : UserStep) (settled : k.transaction = none) :
    ((Storage.defaultUsers tpl).store.step step k).2.transaction = none ∧
      Spares [s.usersTable] k.contents
        ((Storage.defaultUsers tpl).store.step step k).2.contents := by
  cases step with
  | init => exact h.init_spares settled
  | _ => exact (h.step_worksOn (by simp)).frame k settled

end UsableUsers

/-! ## Sessions -/

namespace SessionEngine

variable {σ : Type} (e : SessionEngine σ)

/-- The answer to a lookup by the answer of the backend. -/
def getAnswer (b : Bridge) (key : String) : Except DriverError Row → Except StoreError Session
  | .ok row => readSession b row
  | .error .noRows => .error (.noSuchSession key)
  | .error err => .error (.driver err)

/-- The answer to a removal by the count of rows. -/
def removeAnswer : Except DriverError (Option Nat) → Except StoreError Nat
  | .ok (some n) => .ok n
  | .ok none => .error (.unsupported "affected row count")
  | .error err => .error (.driver err)

theorem insert_split (x : Session) (s : σ) :
    e.insert x s =
      let r := e.backend.execute e.statements.insert (parameters e.bridge x) s
      (doneAnswer (insertError e.bridge x) (r.1.map Outcome.rowsAffected), r.2) := by
  simp only [insert]
  split
  · next answer => rw [answer, Except.map, doneAnswer]
  · next answer => rw [answer, Except.map, doneAnswer]

theorem get_split (key : String) (s : σ) :
    e.get key s =
      let r := e.backend.queryRow e.statements.byKey [.text key] (scanKinds e.bridge) s
      (getAnswer e.bridge key r.1, r.2) := by
  simp only [get]
  split
  · next answer => rw [answer, getAnswer]
  · next answer => rw [answer, getAnswer]
  · next other answer =>
      rw [answer, getAnswer]
      exact other

theorem delete_split (key : String) (s : σ) :
    e.delete key s =
      let r := e.backend.execute e.statements.delete [.text key] s
      (doneAnswer .driver (r.1.map Outcome.rowsAffected), r.2) := by
  simp only [delete]
  split
  · next answer => rw [answer, Except.map, doneAnswer]
  · next answer => rw [answer, Except.map, doneAnswer]

theorem remove_split (statement : String) (value : SqlValue) (s : σ) :
    e.remove statement value s =
      let r := e.backend.execute statement [value] s
      (removeAnswer (r.1.map Outcome.rowsAffected), r.2) := by
  simp only [remove]
  split
  · next outcome s' answer =>
      rw [answer, Except.map]
      cases outcome.rowsAffected <;> rfl
  · next answer => rw [answer, Except.map, removeAnswer]

end SessionEngine

/-- All attempts of an insert work on the table that one attempt works on. -/
theorem SessionStore.insertWithRetry_worksOn (store : SessionStore Connection) {name : String}
    (inserts : ∀ x, WorksOn name (store.insert x)) (attempts : Nat) (x : Session)
    (source : Entropy) :
    WorksOn name fun k =>
      let r := store.insertWithRetry attempts x source k
      ((r.result, r.session, r.source), r.store) where
  frame k settled := by
    let Inv : Connection → Prop := fun k' =>
      k'.transaction = none ∧ Spares [name] k.contents k'.contents
    have preserved : ∀ x k', Inv k' → Inv (store.insert x k').2 := by
      rintro x k' ⟨settled', spares⟩
      obtain ⟨settled'', spares'⟩ := (inserts x).frame k' settled'
      exact ⟨settled'', spares.trans spares'⟩
    exact SessionStore.insertAfter_preserves preserved attempts [] x source k ⟨settled, .refl _ _⟩
  determined k k' shared := by
    have agree : ∀ y k k', True → SharesTable name k k' →
        (store.insert y k).1 = (store.insert y k').1 ∧
          SharesTable name (store.insert y k).2 (store.insert y k').2 :=
      fun y k k' _ => (inserts y).determined k k'
    obtain ⟨result, session, rest, shared'⟩ :=
      @SessionStore.insertAfter_agrees _ _ store store (SharesTable name) (fun _ => True) agree
        attempts [] x source k k' trivial shared
    exact ⟨Prod.ext result (Prod.ext session rest), shared'⟩

/-- A session that is created works on that table as well. -/
theorem SessionStore.create_worksOn (store : SessionStore Connection) {name : String}
    (inserts : ∀ x, WorksOn name (store.insert x)) (attempts : Nat) (user : UserId)
    (expires : Instant) (source : Entropy) :
    WorksOn name fun k =>
      let r := store.create attempts user expires source k
      ((r.1, r.2.1), r.2.2) := by
  unfold create
  cases Session.withNewKey source user expires with
  | mk drawn rest =>
      cases drawn with
      | error e => exact .pure name (Except.error e, rest)
      | ok x =>
          exact (insertWithRetry_worksOn store inserts attempts x rest).map fun a =>
            (a.1.map fun _ => a.2.1, a.2.2)

/-- The index of a table of sessions is there. -/
structure SessionStatements.Indexed (table : String) (c : Contents) : Prop where
  unnamed : c.findTable? (indexName table) = none
  indexed : (c.findIndex? (indexName table)).isSome = true

namespace UsableSessions

open SessionStatements (Indexed)

variable {s : StorageSettings} {tpl : Template} {k : Connection}

/-- Settings under which a table was prepared are usable. -/
theorem of_init_ok (taken : Template.ofSettings s = .ok tpl) (settled : k.transaction = none)
    {k₀ : Connection} (made : (Storage.sessionEngine tpl).store.init k = (.ok (), k₀)) :
    UsableSessions s tpl := by
  have settings := Template.ofSettings_eq_ok taken
  obtain ⟨c, c₀, created, indexed, -⟩ := exists_of_init settings settled made
  obtain ⟨checked, -⟩ := Contents.createTable_cases created
  exact ⟨settings, free_of_init settings made, checked, (Contents.createIndex_made indexed).1⟩

theorem init_of_indexed (h : UsableSessions s tpl) {t : Table} (held : Holds k s.sessionsTable t)
    (indexed : Indexed s.sessionsTable k.contents) :
    (Storage.sessionEngine tpl).store.init k = (.ok (), k) :=
  h.init_of_found held indexed.unnamed indexed.indexed

theorem init_spares (h : UsableSessions s tpl) (settled : k.transaction = none) :
    ((Storage.sessionEngine tpl).store.init k).2.transaction = none ∧
      Spares [s.sessionsTable, SessionStatements.indexName s.sessionsTable] k.contents
        ((Storage.sessionEngine tpl).store.init k).2.contents := by
  rw [init_of_taken h.settings h.free settled]
  cases declared : declareAll ((declarations s tpl).map Prod.snd) k.contents with
  | error e => exact ⟨settled, .refl _ _⟩
  | ok c =>
      refine ⟨settled, declareAll_spares ?_ declared⟩
      simp only [declarations, List.map_cons, List.map_nil, List.forall_mem_cons]
      refine ⟨fun c c' made => ?_, fun c c' made => ?_, List.forall_mem_nil _⟩
      · have spares : Spares [s.sessionsTable] c c' := Contents.createTable_spares made
        exact spares.mono (by simp)
      · exact (Contents.createIndex_spares made).mono (by simp)

/-! ### Calls -/

theorem insert_worksOn (h : UsableSessions s tpl) (x : Session) :
    WorksOn s.sessionsTable ((Storage.sessionEngine tpl).insert x) := by
  have counted := Connection.execute_worksOn
    (fun k => SessionStatements.parse_insert h.settings h.free k) rfl
    (SessionEngine.parameters Bridge.textual x)
  exact (counted.map (doneAnswer (SessionEngine.insertError Bridge.textual x))).of_eq fun k =>
    (Storage.sessionEngine tpl).insert_split x k

theorem get_worksOn (h : UsableSessions s tpl) (key : String) :
    WorksOn s.sessionsTable ((Storage.sessionEngine tpl).get key) := by
  have asked := Connection.queryRow_worksOn
    (fun k => SessionStatements.parse_select h.settings h.free k) [.text key]
    (SessionEngine.scanKinds Bridge.textual)
  exact (asked.map (SessionEngine.getAnswer Bridge.textual key)).of_eq fun k =>
    (Storage.sessionEngine tpl).get_split key k

theorem delete_worksOn (h : UsableSessions s tpl) (key : String) :
    WorksOn s.sessionsTable ((Storage.sessionEngine tpl).delete key) := by
  have counted := Connection.execute_worksOn
    (fun k => SessionStatements.parse_delete h.settings h.free k) rfl [.text key]
  exact (counted.map (doneAnswer .driver)).of_eq fun k =>
    (Storage.sessionEngine tpl).delete_split key k

theorem remove_worksOn (tpl : Template) {text column : String} {comparison : Comparison}
    (parsed : ∀ k : Connection, k.parse text =
      .ok (SessionStatements.deleteStatement s.sessionsTable column comparison))
    (value : SqlValue) :
    WorksOn s.sessionsTable ((Storage.sessionEngine tpl).remove text value) := by
  have counted := Connection.execute_worksOn parsed rfl [value]
  exact (counted.map SessionEngine.removeAnswer).of_eq fun k =>
    (Storage.sessionEngine tpl).remove_split text value k

/-- **Every call but the one that prepares the table works on the table of sessions.** -/
theorem step_worksOn (h : UsableSessions s tpl) {step : SessionStep} (acts : step ≠ .init) :
    WorksOn s.sessionsTable ((Storage.sessionEngine tpl).store.step step) := by
  cases step with
  | init => exact absurd rfl acts
  | insert x => exact (h.insert_worksOn x).map SessionAnswer.done
  | get key => exact (h.get_worksOn key).map SessionAnswer.found
  | delete key => exact (h.delete_worksOn key).map SessionAnswer.done
  | cleanUp reference =>
      have swept := remove_worksOn tpl
        (fun k => SessionStatements.parse_deleteExpired h.settings h.free k)
        (Bridge.textual.encode reference)
      exact swept.map SessionAnswer.counted
  | deleteForUser user =>
      have removed := remove_worksOn tpl
        (fun k => SessionStatements.parse_deleteForUser h.settings h.free k) (.integer user.value)
      exact removed.map SessionAnswer.counted
  | insertWithRetry attempts x source =>
      have tried := SessionStore.insertWithRetry_worksOn (Storage.sessionEngine tpl).store
        h.insert_worksOn attempts x source
      exact tried.map fun a => SessionAnswer.retried a.1 a.2.1 a.2.2

/-- No call touches what is not named like the table of sessions or its index. -/
theorem step_spares (h : UsableSessions s tpl) (step : SessionStep)
    (settled : k.transaction = none) :
    ((Storage.sessionEngine tpl).store.step step k).2.transaction = none ∧
      Spares [s.sessionsTable, SessionStatements.indexName s.sessionsTable] k.contents
        ((Storage.sessionEngine tpl).store.step step k).2.contents := by
  cases step with
  | init => exact h.init_spares settled
  | _ => exact (h.step_worksOn (by simp)).spares List.mem_cons_self settled

end UsableSessions

end AccountStore
