/-
# AccountStore.Proofs.Storage.Names -- the names of the three objects

Settings name two tables, and the second one names an index.  The database tells
names apart without regard to letter case, while settings are checked letter by
letter and for the tables alone (`violations_eq_nil_iff`).  So settings in order can
have names that clash, in two ways (`accepted_names_clash_iff`).  What becomes of them
when the tables are prepared on a database that has none of the names is settled in
each way: with one table for both, the index misses its column, and with the users
where the index belongs, there is no index.
-/
import AccountStore.Config.Validate
import AccountStore.Proofs.Engine.Sharing

namespace AccountStore

set_option autoImplicit false

open Database
open SessionStatements (indexName)

/-! ## Settings in order -/

namespace Config

theorem violatedIf_eq_nil_iff {broken : Bool} {v : Violation} :
    violatedIf broken v = [] ↔ broken = false := by
  cases broken <;> simp [violatedIf]

/-- What the rules ask for. -/
theorem violations_eq_nil_iff {cfg : Settings} :
    violations cfg = [] ↔
      Text.allBlank cfg.storage.databasePath.toList = false ∧
        isTableIdentifier cfg.storage.usersTable = true ∧
        isTableIdentifier cfg.storage.sessionsTable = true ∧
        cfg.storage.usersTable ≠ cfg.storage.sessionsTable ∧
        cfg.session.keyRetryAttempts ≠ 0 ∧
        asciiLowerText cfg.logging.level ∈ levels := by
  simp only [violations, List.append_eq_nil_iff, violatedIf_eq_nil_iff, Bool.not_eq_false',
    beq_eq_false_iff_ne, List.contains_iff_mem, and_assoc]

end Config

/-- The names of a table and of its index never clash, so the users' table decides. -/
theorem distinct_accountNames_iff {users sessions : String} :
    Distinct (accountNames users sessions) ↔
      sameName users sessions = false ∧ sameName users (indexName sessions) = false := by
  simp [Distinct, accountNames, SessionStatements.sameName_indexName]

/-! ## Preparing under names that clash -/

namespace UsableAccounts

variable {s : StorageSettings} {tpl : Template} {k : Connection}

/-- Names that are distinct and not taken become two tables and an index. -/
theorem prepare_distinct (h : UsableAccounts s tpl)
    (distinct : Distinct (accountNames s.usersTable s.sessionsTable))
    (settled : k.transaction = none)
    (vacant : k.contents.Vacant (accountNames s.usersTable s.sessionsTable)) :
    ∃ k₁ tU tS, Storage.prepare tpl {} k = (.ok (), k₁) ∧
      HoldsAccounts s.usersTable s.sessionsTable tU tS k₁ := by
  obtain ⟨k₁, made⟩ := h.prepare_vacant distinct settled vacant
  obtain ⟨k₁', again, tU, tS, held, -⟩ :=
    h.prepare_agrees k k distinct settled settled (fun _ _ => ⟨rfl, rfl⟩) made
  exact ⟨k₁, tU, tS, made, held⟩

/-- The users' table is made, and then the sessions' objects are asked for. -/
theorem prepare_after_users (h : UsableAccounts s tpl) (settled : k.transaction = none)
    (vacant : k.contents.Vacant (accountNames s.usersTable s.sessionsTable)) :
    Storage.prepare tpl {} k =
      match declareAll ((UsableSessions.declarations s tpl).map Prod.snd)
          (k.contents.withTable (usersTable s.usersTable s.emailUnique 0 [])) with
      | .ok c => (.ok (), { k with contents := c })
      | .error e => (.error (.driver (.failure e)),
          { k with contents :=
            k.contents.withTable (usersTable s.usersTable s.emailUnique 0 []) }) := by
  obtain ⟨fresh, unindexed⟩ := vacant s.usersTable List.mem_cons_self
  have first := h.users.init_fresh settled fresh unindexed
  rw [prepare_of_init first]
  exact UsableSessions.init_of_taken h.sessions.settings h.sessions.free settled

/-- With one name for both tables the index finds the users, who do not expire. -/
theorem prepare_one_table (h : UsableAccounts s tpl)
    (clash : sameName s.usersTable s.sessionsTable = true) (settled : k.transaction = none)
    (vacant : k.contents.Vacant (accountNames s.usersTable s.sessionsTable)) :
    (Storage.prepare tpl {} k).1 =
      .error (.driver (.failure (sqlFailure "no such column: expire_date"))) := by
  rw [h.prepare_after_users settled vacant]
  simp only [Contents.Vacant, accountNames, List.forall_mem_cons] at vacant
  obtain ⟨-, ⟨freshSessions, -⟩, ⟨freshIndex, unindexed⟩, -⟩ := vacant
  generalize made : usersTable s.usersTable s.emailUnique 0 [] = users
  have named : users.name = s.usersTable := made ▸ rfl
  have found : (k.contents.withTable users).findTable? s.sessionsTable = some users :=
    Contents.findTable?_withTable freshSessions (named ▸ clash)
  have unnamed : (k.contents.withTable users).findTable? (indexName s.sessionsTable) = none := by
    refine (Contents.findTable?_withTable_ne k.contents ?_).trans freshIndex
    rw [named, sameName_congr clash]
    exact SessionStatements.sameName_indexName s.sessionsTable
  have kept := Contents.createTable_of_findTable?
    (d := SessionStatements.declaration s.sessionsTable) h.sessions.checked found rfl
  have missing : Contents.columnsOf users ["expire_date"] =
      .error (sqlFailure "no such column: expire_date") := made ▸ rfl
  have refused : (k.contents.withTable users).createIndex true (indexName s.sessionsTable)
      s.sessionsTable ["expire_date"] = .error (sqlFailure "no such column: expire_date") := by
    have unindexed' : (k.contents.withTable users).findIndex? (indexName s.sessionsTable) = none :=
      unindexed
    simp only [Contents.createIndex, found, h.sessions.indexChecked, unnamed, unindexed', missing]
  simp only [UsableSessions.declarations, List.map_cons, List.map_nil, declareAll, kept, refused]

/-- Where the users have the name of the index, there is no index. -/
theorem prepare_users_for_index (h : UsableAccounts s tpl)
    (clash : sameName s.usersTable (indexName s.sessionsTable) = true)
    (settled : k.transaction = none)
    (vacant : k.contents.Vacant (accountNames s.usersTable s.sessionsTable)) :
    (Storage.prepare tpl {} k).1 = .error (.driver (.failure
      (sqlFailure s!"there is already a table named {indexName s.sessionsTable}"))) := by
  rw [h.prepare_after_users settled vacant]
  simp only [Contents.Vacant, accountNames, List.forall_mem_cons] at vacant
  obtain ⟨-, ⟨freshSessions, unindexed⟩, ⟨freshIndex, -⟩, -⟩ := vacant
  generalize made : usersTable s.usersTable s.emailUnique 0 [] = users
  have named : users.name = s.usersTable := made ▸ rfl
  have ofDefinitions := sessionsTable.ofDefinitions s.sessionsTable
  generalize made' : sessionsTable s.sessionsTable 0 [] = sessions at ofDefinitions
  have named' : sessions.name = s.sessionsTable := made' ▸ rfl
  have fresh : (k.contents.withTable users).findTable? s.sessionsTable = none := by
    refine (Contents.findTable?_withTable_ne k.contents ?_).trans freshSessions
    rw [named, sameName_congr clash, sameName_comm]
    exact SessionStatements.sameName_indexName s.sessionsTable
  have created : (k.contents.withTable users).createTable
      (SessionStatements.declaration s.sessionsTable) =
        .ok ((k.contents.withTable users).withTable sessions) :=
    Contents.createTable_eq h.sessions.checked fresh unindexed ofDefinitions
  have found : ((k.contents.withTable users).withTable sessions).findTable? s.sessionsTable =
      some sessions := Contents.findTable?_withTable fresh (named' ▸ sameName_refl _)
  have taken : ((k.contents.withTable users).withTable sessions).findTable?
      (indexName s.sessionsTable) = some users := by
    have apart : sameName sessions.name (indexName s.sessionsTable) = false :=
      named' ▸ SessionStatements.sameName_indexName s.sessionsTable
    rw [Contents.findTable?_withTable_ne _ apart]
    exact Contents.findTable?_withTable freshIndex (named ▸ clash)
  have refused : ((k.contents.withTable users).withTable sessions).createIndex true
      (indexName s.sessionsTable) s.sessionsTable ["expire_date"] =
        .error (sqlFailure s!"there is already a table named {indexName s.sessionsTable}") := by
    simp only [Contents.createIndex, found, h.sessions.indexChecked, taken]
  simp only [UsableSessions.declarations, List.map_cons, List.map_nil, declareAll, created, refused]

end UsableAccounts

/-- **Settings in order can have names that clash, and then they prepare nothing.**
The rules leave two ways: the tables' names differ in letter case alone, or the users
have the name of the sessions' index.  On a database in which nothing has the names,
the first attempt to prepare the tables ends in the error of its way; names that do
not clash become two tables and an index. -/
theorem accepted_names_clash_iff {cfg : Settings} (accepted : Config.violations cfg = []) :
    let s := cfg.storage
    let names := accountNames s.usersTable s.sessionsTable
    let oneTable := s.usersTable ≠ s.sessionsTable ∧ sameName s.usersTable s.sessionsTable = true
    let usersForIndex := sameName s.usersTable (indexName s.sessionsTable) = true
    ∃ tpl, Template.ofSettings s = .ok tpl ∧ (¬ Distinct names ↔ oneTable ∨ usersForIndex) ∧
      (UsableAccounts s tpl → ∀ k : Connection, k.transaction = none → k.contents.Vacant names →
        (Distinct names → ∃ k₁ tU tS, Storage.prepare tpl {} k = (.ok (), k₁) ∧
          HoldsAccounts s.usersTable s.sessionsTable tU tS k₁) ∧
        (oneTable → (Storage.prepare tpl {} k).1 =
          .error (.driver (.failure (sqlFailure "no such column: expire_date")))) ∧
        (usersForIndex → (Storage.prepare tpl {} k).1 = .error (.driver (.failure
          (sqlFailure s!"there is already a table named {indexName s.sessionsTable}"))))) := by
  intro s names oneTable usersForIndex
  obtain ⟨-, users, sessions, differ, -, -⟩ := Config.violations_eq_nil_iff.mp accepted
  obtain ⟨tpl, taken⟩ := Template.exists_ofSettings (s := s) users sessions
  refine ⟨tpl, taken, ?_, fun usable k settled vacant => ⟨?_, ?_, ?_⟩⟩
  · rw [distinct_accountNames_iff, Classical.not_and_iff_not_or_not, Bool.not_eq_false,
      Bool.not_eq_false]
    exact or_congr_left (and_iff_right differ).symm
  · exact fun distinct => usable.prepare_distinct distinct settled vacant
  · exact fun clash => usable.prepare_one_table clash.2 settled vacant
  · exact fun clash => usable.prepare_users_for_index clash settled vacant

/-- Both ways are open to names that only need a capital letter or an ending. -/
theorem accepted_names_clash_in_both_ways :
    let capital : Settings :=
      { storage := { databasePath := "db", usersTable := "Auth_Session" } }
    let ending : Settings :=
      { storage := { databasePath := "db", usersTable := "auth_session_expire_date_idx" } }
    (Config.violations capital = [] ∧ ∃ tpl, Template.ofSettings capital.storage = .ok tpl ∧
        ¬ Distinct (accountNames capital.storage.usersTable capital.storage.sessionsTable) ∧
        (Storage.prepare tpl {} (.opened .empty)).1 =
          .error (.driver (.failure (sqlFailure "no such column: expire_date")))) ∧
      Config.violations ending = [] ∧ ∃ tpl, Template.ofSettings ending.storage = .ok tpl ∧
        ¬ Distinct (accountNames ending.storage.usersTable ending.storage.sessionsTable) ∧
        (Storage.prepare tpl {} (.opened .empty)).1 = .error (.driver (.failure
          (sqlFailure "there is already a table named auth_session_expire_date_idx"))) := by
  intro capital ending
  have inOrder : Config.violations capital = [] := by decide +kernel
  have inOrder' : Config.violations ending = [] := by decide +kernel
  obtain ⟨tpl, taken, clash, prepares⟩ := accepted_names_clash_iff inOrder
  obtain ⟨tpl', taken', clash', prepares'⟩ := accepted_names_clash_iff inOrder'
  have oneTable : capital.storage.usersTable ≠ capital.storage.sessionsTable ∧
      sameName capital.storage.usersTable capital.storage.sessionsTable = true := by decide +kernel
  have usersForIndex : sameName ending.storage.usersTable
      (indexName ending.storage.sessionsTable) = true := by decide +kernel
  have usable := UsableAccounts.of_settings taken (by decide) (by decide) (by decide +kernel)
  have usable' := UsableAccounts.of_settings taken' (by decide) (by decide) (by decide +kernel)
  obtain ⟨-, fails, -⟩ := prepares usable (.opened .empty) rfl fun _ _ => ⟨rfl, rfl⟩
  obtain ⟨-, -, fails'⟩ := prepares' usable' (.opened .empty) rfl fun _ _ => ⟨rfl, rfl⟩
  exact ⟨⟨inOrder, tpl, taken, clash.mpr (.inl oneTable), fails oneTable⟩, inOrder', tpl', taken',
    clash'.mpr (.inr usersForIndex), fails' usersForIndex⟩

end AccountStore
