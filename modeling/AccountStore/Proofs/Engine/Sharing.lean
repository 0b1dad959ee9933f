/-
# AccountStore.Proofs.Engine.Sharing -- connections that share their accounts

Two connections share their accounts when both have the same table of users and
the same table of sessions with its index.  Each call then answers alike on both
and leaves them sharing (`step_shared`), whatever else the two databases hold and
under whatever settings with these names.  Preparing the tables brings two
connections to share their accounts when nothing that has one of the names tells
them apart (`prepare_agrees`), and changes nothing where they are there already
(`prepare_again`).
-/
import AccountStore.Proofs.Engine.Locality

namespace AccountStore

set_option autoImplicit false

open Database
open SessionStatements (indexName Indexed)

/-! ## Steps -/

/-- One call on the users or the sessions behind an open handle. -/
inductive AccountStep where
  | user (step : UserStep)
  | session (step : SessionStep)
  /-- The bytes for the keys come from `source`. -/
  | create (user : UserId) (expires : Instant) (source : Entropy)
  deriving DecidableEq, Repr

inductive AccountAnswer where
  | user (answer : UserAnswer)
  | session (answer : SessionAnswer)
  /-- The bytes that are left come with the session. -/
  | created (result : Except StoreError Session) (source : Entropy)

/-- A call on a connection; a created session has as many attempts as are given. -/
def accountStep (tpl : Template) (attempts : Nat) :
    AccountStep → Connection → AccountAnswer × Connection
  | .user step, k => ((Storage.defaultUsers tpl).store.step step k).map .user id
  | .session step, k => ((Storage.sessionEngine tpl).store.step step k).map .session id
  | .create user expires source, k =>
      let r := (Storage.sessionEngine tpl).store.create attempts user expires source k
      (.created r.1 r.2.1, r.2.2)

/-! ## Names -/

/-- The names that the accounts of these tables take up. -/
def accountNames (users sessions : String) : List String := [users, sessions, indexName sessions]

/-- No name of the one list is one of the other. -/
def Apart (names names' : List String) : Prop :=
  ∀ a ∈ names, ∀ b ∈ names', sameName a b = false

/-- All names of a list are different. -/
abbrev Distinct (names : List String) : Prop := names.Pairwise fun a b => sameName a b = false

/-! ## Accounts -/

/-- The connection has these two tables and the index. -/
structure HoldsAccounts (users sessions : String) (tU tS : Table) (k : Connection) : Prop where
  ofUsers : Holds k users tU
  ofSessions : Holds k sessions tS
  index : Indexed sessions k.contents

/-- Two connections have the same two tables. -/
def SharesAccounts (users sessions : String) (k k' : Connection) : Prop :=
  ∃ tU tS, HoldsAccounts users sessions tU tS k ∧ HoldsAccounts users sessions tU tS k'

section Sharing

variable {users sessions : String} {tU tS : Table} {k k' : Connection}

theorem SessionStatements.Indexed.spared {c c' : Contents} (h : Indexed sessions c)
    (agree : AgreeAt (indexName sessions) c c') : Indexed sessions c' where
  unnamed := agree.table.trans h.unnamed
  indexed := agree.index ▸ h.indexed

/-- What does not touch the three names leaves the accounts. -/
theorem HoldsAccounts.spared (held : HoldsAccounts users sessions tU tS k) {names : List String}
    (apart : Apart names (accountNames users sessions)) (settled : k'.transaction = none)
    (spares : Spares names k.contents k'.contents) :
    HoldsAccounts users sessions tU tS k' := by
  have agree : ∀ name ∈ accountNames users sessions, AgreeAt name k.contents k'.contents :=
    fun name member => spares name fun other touched => apart other touched name member
  simp only [accountNames, List.forall_mem_cons] at agree
  obtain ⟨atUsers, atSessions, atIndex, -⟩ := agree
  exact ⟨⟨settled, atUsers.table.trans held.ofUsers.found⟩,
    ⟨settled, atSessions.table.trans held.ofSessions.found⟩, held.index.spared atIndex⟩

namespace SharesAccounts

variable {α : Type} {op : Connection → α × Connection}

theorem spared (shared : SharesAccounts users sessions k k') {names : List String}
    (apart : Apart names (accountNames users sessions)) {k₁ : Connection}
    (settled : k₁.transaction = none) (spares : Spares names k.contents k₁.contents) :
    SharesAccounts users sessions k₁ k' := by
  obtain ⟨tU, tS, held, held'⟩ := shared
  exact ⟨tU, tS, held.spared apart settled spares, held'⟩

/-- Work on the table of users. -/
theorem users_op (distinct : Distinct (accountNames users sessions)) (works : WorksOn users op)
    (shared : SharesAccounts users sessions k k') :
    (op k).1 = (op k').1 ∧ SharesAccounts users sessions (op k).2 (op k').2 := by
  obtain ⟨tU, tS, held, held'⟩ := shared
  obtain ⟨same, tU', users₁, users₂⟩ := works.determined k k' ⟨tU, held.ofUsers, held'.ofUsers⟩
  simp only [Distinct, accountNames, List.pairwise_cons, List.forall_mem_cons] at distinct
  obtain ⟨⟨atSessions, atIndex, -⟩, -⟩ := distinct
  have after : ∀ k, HoldsAccounts users sessions tU tS k → Holds (op k).2 users tU' →
      HoldsAccounts users sessions tU' tS (op k).2 := by
    intro k held written
    obtain ⟨settled, spares⟩ := works.frame k held.ofUsers.settled
    have table := (spares.agreeAt atSessions).table
    exact ⟨written, ⟨settled, table.trans held.ofSessions.found⟩,
      held.index.spared (spares.agreeAt atIndex)⟩
  exact ⟨same, tU', tS, after k held users₁, after k' held' users₂⟩

/-- Work on the table of sessions. -/
theorem sessions_op (distinct : Distinct (accountNames users sessions))
    (works : WorksOn sessions op) (shared : SharesAccounts users sessions k k') :
    (op k).1 = (op k').1 ∧ SharesAccounts users sessions (op k).2 (op k').2 := by
  obtain ⟨tU, tS, held, held'⟩ := shared
  obtain ⟨same, tS', sessions₁, sessions₂⟩ :=
    works.determined k k' ⟨tS, held.ofSessions, held'.ofSessions⟩
  simp only [Distinct, accountNames, List.pairwise_cons, List.forall_mem_cons] at distinct
  obtain ⟨⟨atUsers, -, -⟩, ⟨atIndex, -⟩, -⟩ := distinct
  have after : ∀ k, HoldsAccounts users sessions tU tS k → Holds (op k).2 sessions tS' →
      HoldsAccounts users sessions tU tS' (op k).2 := by
    intro k held written
    obtain ⟨settled, spares⟩ := works.frame k held.ofSessions.settled
    have table := (spares.agreeAt ((sameName_comm sessions users).trans atUsers)).table
    exact ⟨⟨settled, table.trans held.ofUsers.found⟩, written,
      held.index.spared (spares.agreeAt atIndex)⟩
  exact ⟨same, tU, tS', after k held sessions₁, after k' held' sessions₂⟩

end SharesAccounts

end Sharing

/-! ## Declarations that agree -/

namespace Database

variable {c c' c₁ c₁' : Contents}

theorem AgreeAt.moved {name : String} (h : AgreeAt name c c') (left : AgreeAt name c c₁)
    (right : AgreeAt name c' c₁') : AgreeAt name c₁ c₁' where
  table := right.table.trans (h.table.trans left.table.symm)
  index := right.index.trans (h.index.trans left.index.symm)

namespace Contents

/-- What is alike under a name lets the same table be made under it. -/
theorem createTable_agrees {d : Declaration} (agree : AgreeAt d.name c c')
    (made : c.createTable d = .ok c₁) :
    ∃ c₁' t, c'.createTable d = .ok c₁' ∧ c₁.findTable? d.name = some t ∧
      c₁'.findTable? d.name = some t := by
  obtain ⟨checked, ⟨t, found, lenient, rfl⟩ | ⟨t, fresh, unindexed, defined, rfl⟩⟩ :=
    createTable_cases made
  · have found' := agree.table.trans found
    exact ⟨c', t, createTable_of_findTable? checked found' lenient, found, found'⟩
  · have fresh' := agree.table.trans fresh
    have named : sameName t.name d.name = true := by
      rw [Table.ofDefinitions_name defined]
      exact sameName_refl d.name
    exact ⟨_, t, createTable_eq checked fresh' (agree.index.trans unindexed) defined,
      findTable?_withTable fresh named, findTable?_withTable fresh' named⟩

theorem createIndex_agrees {name table : String} {columns : List String} {t : Table}
    (found : c.findTable? table = some t) (found' : c'.findTable? table = some t)
    (agree : AgreeAt name c c') (made : c.createIndex true name table columns = .ok c₁) :
    ∃ c₁', c'.createIndex true name table columns = .ok c₁' := by
  obtain ⟨t', found₀, checked, unnamed, indexes⟩ := createIndex_cases made
  obtain rfl : t = t' := Option.some.inj (found.symm.trans found₀)
  have unnamed' := agree.table.trans unnamed
  rcases indexes with ⟨i, indexed, -, -⟩ | ⟨is, unindexed, known, -⟩
  · have there : (c'.findIndex? name).isSome = true := by
      rw [agree.index, indexed, Option.isSome_some]
    exact ⟨c', createIndex_of_findIndex? found' checked unnamed' there columns⟩
  · exact ⟨_, createIndex_eq found' checked unnamed' (agree.index.trans unindexed) known⟩

end Contents

end Database

namespace UsableUsers

variable {s : StorageSettings} {tpl : Template} {k k' k₁ : Connection}

theorem init_agrees (h : UsableUsers s tpl) (settled : k.transaction = none)
    (settled' : k'.transaction = none) (agree : AgreeAt s.usersTable k.contents k'.contents)
    (made : (Storage.defaultUsers tpl).store.init k = (.ok (), k₁)) :
    ∃ k₁', (Storage.defaultUsers tpl).store.init k' = (.ok (), k₁') ∧
      SharesTable s.usersTable k₁ k₁' := by
  obtain ⟨c, created, rfl⟩ := exists_of_init h.settings settled made
  obtain ⟨c', t, created', found, found'⟩ := Contents.createTable_agrees
    (d := UserStatements.declaration s.usersTable s.emailUnique) agree created
  rw [init_of_taken h.settings h.free settled', created']
  exact ⟨_, rfl, t, ⟨settled, found⟩, settled', found'⟩

end UsableUsers

namespace UsableSessions

variable {s : StorageSettings} {tpl : Template} {k k' k₁ : Connection}

theorem init_agrees (h : UsableSessions s tpl) (settled : k.transaction = none)
    (settled' : k'.transaction = none) (agree : AgreeAt s.sessionsTable k.contents k'.contents)
    (agreeIndex : AgreeAt (indexName s.sessionsTable) k.contents k'.contents)
    (made : (Storage.sessionEngine tpl).store.init k = (.ok (), k₁)) :
    ∃ k₁', (Storage.sessionEngine tpl).store.init k' = (.ok (), k₁') ∧
      SharesTable s.sessionsTable k₁ k₁' ∧ Indexed s.sessionsTable k₁.contents ∧
        Indexed s.sessionsTable k₁'.contents := by
  obtain ⟨c, c₁, created, indexed, rfl⟩ := exists_of_init h.settings settled made
  obtain ⟨c', t, created', found, found'⟩ := Contents.createTable_agrees
    (d := SessionStatements.declaration s.sessionsTable) agree created
  have apart : sameName (SessionStatements.declaration s.sessionsTable).name
      (indexName s.sessionsTable) = false :=
    SessionStatements.sameName_indexName s.sessionsTable
  have moved : AgreeAt (indexName s.sessionsTable) c c' :=
    agreeIndex.moved ((Contents.createTable_spares created).agreeAt apart)
      ((Contents.createTable_spares created').agreeAt apart)
  obtain ⟨c₁', indexed'⟩ : ∃ c₁', c'.createIndex true (indexName s.sessionsTable)
      s.sessionsTable ["expire_date"] = .ok c₁' :=
    Contents.createIndex_agrees found found' moved indexed
  have table := Contents.createIndex_findTable? indexed
  have table' := Contents.createIndex_findTable? indexed'
  obtain ⟨-, unnamed, there, -⟩ := Contents.createIndex_made indexed
  obtain ⟨-, unnamed', there', -⟩ := Contents.createIndex_made indexed'
  exact ⟨_, init_of_made h.settings h.free settled' created' indexed',
    ⟨t, ⟨settled, (table _).trans found⟩, settled', (table' _).trans found'⟩,
    ⟨(table _).trans unnamed, there⟩, (table' _).trans unnamed', there'⟩

end UsableSessions

/-! ## Calls -/

/-- Settings under which both tables can be made. -/
structure UsableAccounts (s : StorageSettings) (tpl : Template) : Prop where
  users : UsableUsers s tpl
  sessions : UsableSessions s tpl

section Engine

variable {σ : Type}

/-- Calls do not read the texts that prepare the table. -/
theorem UserEngine.step_congr {backend : Backend σ} {bridge : Bridge} {a b : UserStatements}
    (same : a = { b with init := a.init }) {step : UserStep} (acts : step ≠ .init) :
    (UserEngine.mk backend a bridge).store.step step =
      (UserEngine.mk backend b bridge).store.step step := by
  rw [same]
  cases step with
  | init => exact absurd rfl acts
  | _ => rfl

theorem SessionEngine.insert_congr {backend : Backend σ} {bridge : Bridge}
    {a b : SessionStatements} (same : a = { b with init := a.init }) :
    (SessionEngine.mk backend a bridge).store.insert =
      (SessionEngine.mk backend b bridge).store.insert := by
  rw [same]
  rfl

theorem SessionEngine.step_congr {backend : Backend σ} {bridge : Bridge} {a b : SessionStatements}
    (same : a = { b with init := a.init }) {step : SessionStep} (acts : step ≠ .init) :
    (SessionEngine.mk backend a bridge).store.step step =
      (SessionEngine.mk backend b bridge).store.step step := by
  cases step with
  | init => exact absurd rfl acts
  | insertWithRetry attempts x source =>
      funext k
      simp only [SessionStore.step, SessionStore.insertWithRetry,
        SessionStore.insertAfter_congr (SessionEngine.insert_congr same)]
  | _ =>
      rw [same]
      rfl

theorem SessionEngine.create_congr {backend : Backend σ} {bridge : Bridge}
    {a b : SessionStatements} (same : a = { b with init := a.init }) :
    (SessionEngine.mk backend a bridge).store.create =
      (SessionEngine.mk backend b bridge).store.create := by
  funext attempts user expires source k
  simp only [SessionStore.create, SessionStore.insertWithRetry,
    SessionStore.insertAfter_congr (SessionEngine.insert_congr same)]

end Engine

/-- Apart from the text that prepares the table, the statements depend on its name. -/
theorem UsableUsers.ofColumns_congr {s s' : StorageSettings} {tpl tpl' : Template}
    (h : UsableUsers s tpl) (h' : UsableUsers s' tpl') (same : s.usersTable = s'.usersTable) :
    UserStatements.ofColumns tpl {} =
      { UserStatements.ofColumns tpl' {} with init := (UserStatements.ofColumns tpl {}).init } := by
  have table : UserStatements.tableName tpl = UserStatements.tableName tpl' := by
    rw [h.tableName_eq, h'.tableName_eq, same]
  simp only [UserStatements.ofColumns, table]

/-- Names that are neither reserved words nor the database's own are usable. -/
theorem UsableAccounts.of_settings {s : StorageSettings} {tpl : Template}
    (taken : Template.ofSettings s = .ok tpl) (users : Statement.Free s.usersTable)
    (sessions : Statement.Free s.sessionsTable)
    (unreserved : ∀ name ∈ accountNames s.usersTable s.sessionsTable,
      Contents.isReservedName name = false) : UsableAccounts s tpl := by
  have checked : ∀ name ∈ accountNames s.usersTable s.sessionsTable,
      Contents.checkName name = .ok () := by
    intro name member
    rw [Contents.checkName, unreserved name member, if_neg Bool.false_ne_true]
  simp only [accountNames, List.forall_mem_cons] at checked
  have settings := Template.ofSettings_eq_ok taken
  exact ⟨⟨settings, users, checked.1⟩, ⟨settings, sessions, checked.2.1, checked.2.2.1⟩⟩

namespace UsableAccounts

variable {s s' : StorageSettings} {tpl tpl' : Template} {k k' : Connection}

theorem userStep_shared (h : UsableAccounts s tpl) (h' : UsableAccounts s' tpl')
    (users : s.usersTable = s'.usersTable)
    (distinct : Distinct (accountNames s.usersTable s.sessionsTable))
    (shared : SharesAccounts s.usersTable s.sessionsTable k k') (step : UserStep) :
    ((Storage.defaultUsers tpl).store.step step k).1 =
        ((Storage.defaultUsers tpl').store.step step k').1 ∧
      SharesAccounts s.usersTable s.sessionsTable ((Storage.defaultUsers tpl).store.step step k).2
        ((Storage.defaultUsers tpl').store.step step k').2 := by
  by_cases acts : step = .init
  · obtain ⟨tU, tS, held, held'⟩ := id shared
    subst acts
    simp only [UserStore.step, h.users.init_of_found held.ofUsers,
      h'.users.init_of_found (users ▸ held'.ofUsers)]
    exact ⟨rfl, shared⟩
  · have alike : (Storage.defaultUsers tpl).store.step step =
        (Storage.defaultUsers tpl').store.step step :=
      UserEngine.step_congr (h.users.ofColumns_congr h'.users users) acts
    rw [← alike]
    exact shared.users_op distinct (h.users.step_worksOn acts)

theorem sessionStep_shared (h : UsableAccounts s tpl) (h' : UsableAccounts s' tpl')
    (sessions : s.sessionsTable = s'.sessionsTable)
    (distinct : Distinct (accountNames s.usersTable s.sessionsTable))
    (shared : SharesAccounts s.usersTable s.sessionsTable k k') (step : SessionStep) :
    ((Storage.sessionEngine tpl).store.step step k).1 =
        ((Storage.sessionEngine tpl').store.step step k').1 ∧
      SharesAccounts s.usersTable s.sessionsTable ((Storage.sessionEngine tpl).store.step step k).2
        ((Storage.sessionEngine tpl').store.step step k').2 := by
  by_cases acts : step = .init
  · obtain ⟨tU, tS, held, held'⟩ := id shared
    subst acts
    simp only [SessionStore.step, h.sessions.init_of_indexed held.ofSessions held.index,
      h'.sessions.init_of_indexed (sessions ▸ held'.ofSessions) (sessions ▸ held'.index)]
    exact ⟨rfl, shared⟩
  · have alike : (Storage.sessionEngine tpl).store.step step =
        (Storage.sessionEngine tpl').store.step step :=
      SessionEngine.step_congr (SessionStatements.ofTemplate_congr h.sessions.settings
        h'.sessions.settings sessions) acts
    rw [← alike]
    exact shared.sessions_op distinct (h.sessions.step_worksOn acts)

/-- **A call answers alike on connections that share their accounts, and they
share them afterwards**, also when only the names of the tables are common to
the settings of the two sides. -/
theorem step_shared (h : UsableAccounts s tpl) (h' : UsableAccounts s' tpl')
    (users : s.usersTable = s'.usersTable) (sessions : s.sessionsTable = s'.sessionsTable)
    (distinct : Distinct (accountNames s.usersTable s.sessionsTable))
    (shared : SharesAccounts s.usersTable s.sessionsTable k k') (attempts : Nat)
    (step : AccountStep) :
    (accountStep tpl attempts step k).1 = (accountStep tpl' attempts step k').1 ∧
      SharesAccounts s.usersTable s.sessionsTable (accountStep tpl attempts step k).2
        (accountStep tpl' attempts step k').2 := by
  cases step with
  | user step =>
      obtain ⟨same, left⟩ := h.userStep_shared h' users distinct shared step
      exact ⟨congrArg AccountAnswer.user same, left⟩
  | session step =>
      obtain ⟨same, left⟩ := h.sessionStep_shared h' sessions distinct shared step
      exact ⟨congrArg AccountAnswer.session same, left⟩
  | create user expires source =>
      have works := (SessionStore.create_worksOn (Storage.sessionEngine tpl).store
        h.sessions.insert_worksOn attempts user expires source).map
          fun a => AccountAnswer.created a.1 a.2
      have alike : (Storage.sessionEngine tpl).store.create =
          (Storage.sessionEngine tpl').store.create :=
        SessionEngine.create_congr (SessionStatements.ofTemplate_congr h.sessions.settings
          h'.sessions.settings sessions)
      simp only [accountStep, ← alike]
      exact shared.sessions_op distinct works

/-- No call touches what has none of the names. -/
theorem step_spares (h : UsableAccounts s tpl) (settled : k.transaction = none) (attempts : Nat)
    (step : AccountStep) :
    (accountStep tpl attempts step k).2.transaction = none ∧
      Spares (accountNames s.usersTable s.sessionsTable) k.contents
        (accountStep tpl attempts step k).2.contents := by
  cases step with
  | user step =>
      obtain ⟨settled', spares⟩ := h.users.step_spares step settled
      exact ⟨settled', spares.mono (by simp [accountNames])⟩
  | session step =>
      obtain ⟨settled', spares⟩ := h.sessions.step_spares step settled
      exact ⟨settled', spares.mono (by simp [accountNames])⟩
  | create user expires source =>
      have works := SessionStore.create_worksOn (Storage.sessionEngine tpl).store
        h.sessions.insert_worksOn attempts user expires source
      exact works.spares (by simp [accountNames]) settled

/-! ### Preparing -/

theorem exists_of_prepare {k₁ : Connection} (made : Storage.prepare tpl {} k = (.ok (), k₁)) :
    ∃ k₀, (Storage.defaultUsers tpl).store.init k = (.ok (), k₀) ∧
      (Storage.sessionEngine tpl).store.init k₀ = (.ok (), k₁) := by
  unfold Storage.prepare at made
  split at made
  · cases made
  · next k₀ first => exact ⟨k₀, first, made⟩

theorem prepare_of_init {k₀ : Connection}
    (first : (Storage.defaultUsers tpl).store.init k = (.ok (), k₀)) :
    Storage.prepare tpl {} k = (Storage.sessionEngine tpl).store.init k₀ := by
  unfold Storage.prepare
  rw [show (Storage.userEngine tpl {}).store.init k = (.ok (), k₀) from first]

/-- Settings under which both tables were prepared are usable. -/
theorem of_prepare (taken : Template.ofSettings s = .ok tpl) (settled : k.transaction = none)
    {k₁ : Connection} (made : Storage.prepare tpl {} k = (.ok (), k₁)) : UsableAccounts s tpl := by
  obtain ⟨k₀, first, second⟩ := exists_of_prepare made
  have users := UsableUsers.of_init_ok taken settled first
  have settled₀ := (users.init_spares settled).1
  rw [first] at settled₀
  exact ⟨users, UsableSessions.of_init_ok taken settled₀ second⟩

/-- Preparing touches no other names. -/
theorem prepare_spares (h : UsableAccounts s tpl) (settled : k.transaction = none)
    {k₁ : Connection} (made : Storage.prepare tpl {} k = (.ok (), k₁)) :
    k₁.transaction = none ∧
      Spares (accountNames s.usersTable s.sessionsTable) k.contents k₁.contents := by
  obtain ⟨k₀, first, second⟩ := exists_of_prepare made
  obtain ⟨settled₀, spares₀⟩ := h.users.init_spares settled
  rw [first] at settled₀ spares₀
  obtain ⟨settled₁, spares₁⟩ := h.sessions.init_spares settled₀
  rw [second] at settled₁ spares₁
  exact ⟨settled₁, (spares₀.mono (by simp [accountNames])).trans
    (spares₁.mono (by simp [accountNames]))⟩

/-- With names that nothing has yet the tables are made. -/
theorem prepare_vacant (h : UsableAccounts s tpl)
    (distinct : Distinct (accountNames s.usersTable s.sessionsTable))
    (settled : k.transaction = none)
    (vacant : k.contents.Vacant (accountNames s.usersTable s.sessionsTable)) :
    ∃ k₁, Storage.prepare tpl {} k = (.ok (), k₁) := by
  simp only [Distinct, accountNames, List.pairwise_cons, List.forall_mem_cons] at distinct
  obtain ⟨⟨sessionsApart, indexApart, -⟩, -⟩ := distinct
  have fresh := vacant s.usersTable (by simp [accountNames])
  have first := h.users.init_fresh settled fresh.1 fresh.2
  obtain ⟨settled₀, spares⟩ := h.users.init_spares settled
  rw [first] at settled₀ spares
  have later : ∀ name ∈ [s.sessionsTable, indexName s.sessionsTable],
      sameName s.usersTable name = false := by
    simp only [List.forall_mem_cons]
    exact ⟨sessionsApart, indexApart, nofun⟩
  rw [prepare_of_init first]
  refine h.sessions.init_vacant settled₀ fun name member => ?_
  have agree := spares.agreeAt (later name member)
  have nothing := vacant name (List.mem_cons_of_mem _ member)
  exact ⟨agree.table.trans nothing.1, agree.index.trans nothing.2⟩

/-- Where the tables are there already nothing changes. -/
theorem prepare_again (h : UsableAccounts s tpl) {tU tS : Table}
    (held : HoldsAccounts s.usersTable s.sessionsTable tU tS k) :
    Storage.prepare tpl {} k = (.ok (), k) := by
  rw [prepare_of_init (h.users.init_of_found held.ofUsers)]
  exact h.sessions.init_of_indexed held.ofSessions held.index

/-- **Preparing depends on the three names alone.**  What is alike under them
lets the tables be made on both sides or on neither, and they are the same. -/
theorem prepare_agrees (h : UsableAccounts s tpl) (k k' : Connection)
    (distinct : Distinct (accountNames s.usersTable s.sessionsTable))
    (settled : k.transaction = none) (settled' : k'.transaction = none)
    (agree : ∀ name ∈ accountNames s.usersTable s.sessionsTable,
      AgreeAt name k.contents k'.contents)
    {k₁ : Connection} (made : Storage.prepare tpl {} k = (.ok (), k₁)) :
    ∃ k₁', Storage.prepare tpl {} k' = (.ok (), k₁') ∧
      SharesAccounts s.usersTable s.sessionsTable k₁ k₁' := by
  obtain ⟨k₀, first, second⟩ := exists_of_prepare made
  simp only [accountNames, List.forall_mem_cons] at agree
  obtain ⟨atUsers, atSessions, atIndex, -⟩ := agree
  simp only [Distinct, accountNames, List.pairwise_cons, List.forall_mem_cons] at distinct
  obtain ⟨⟨sessionsApart, indexApart, -⟩, -⟩ := distinct
  obtain ⟨k₀', first', tU, users, users'⟩ := h.users.init_agrees settled settled' atUsers first
  -- what the users' part touches has none of the names of the sessions' part
  obtain ⟨-, spares⟩ := h.users.init_spares settled
  obtain ⟨-, spares'⟩ := h.users.init_spares settled'
  rw [first] at spares
  rw [first'] at spares'
  have atSessions₀ : AgreeAt s.sessionsTable k₀.contents k₀'.contents :=
    atSessions.moved (spares.agreeAt sessionsApart) (spares'.agreeAt sessionsApart)
  have atIndex₀ : AgreeAt (indexName s.sessionsTable) k₀.contents k₀'.contents :=
    atIndex.moved (spares.agreeAt indexApart) (spares'.agreeAt indexApart)
  obtain ⟨k₁', second', ⟨tS, sessions, sessions'⟩, index, index'⟩ :=
    h.sessions.init_agrees users.settled users'.settled atSessions₀ atIndex₀ second
  obtain ⟨-, later⟩ := h.sessions.init_spares users.settled
  obtain ⟨-, later'⟩ := h.sessions.init_spares users'.settled
  rw [second] at later
  rw [second'] at later'
  have apart : ∀ name ∈ [s.sessionsTable, indexName s.sessionsTable],
      sameName name s.usersTable = false := by
    simp only [List.forall_mem_cons, sameName_comm _ s.usersTable]
    exact ⟨sessionsApart, indexApart, nofun⟩
  refine ⟨k₁', (prepare_of_init first').trans second', tU, tS, ⟨⟨sessions.settled, ?_⟩, sessions,
    index⟩, ⟨sessions'.settled, ?_⟩, sessions', index'⟩
  · exact (later _ apart).table.trans users.found
  · exact (later' _ apart).table.trans users'.found

end UsableAccounts

end AccountStore
