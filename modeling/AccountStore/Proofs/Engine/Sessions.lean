/-
# AccountStore.Proofs.Engine.Sessions -- calls of the session engine as operations on its rows

While a connection holds the sessions `xs`, an insert appends to them unless the
key is there, a lookup finds what a search through them finds and reads its
expiry, and a removal leaves out those for which its condition holds and counts
them.  Nothing is asked of any instant on the way in.  The index on the expiry
changes no answer; it has to be there for a table to be prepared again.
-/
import AccountStore.Storage
import AccountStore.Proofs.Engine.SessionRows

namespace AccountStore

set_option autoImplicit false

open Database

namespace SessionEngine

variable {σ : Type} (e : SessionEngine σ) {state state' : σ}

theorem insert_ok {x : Session} {outcome : Outcome}
    (answer : e.backend.execute e.statements.insert (parameters e.bridge x) state =
      (.ok outcome, state')) : e.insert x state = (.ok (), state') := by
  simp only [insert, answer]

theorem insert_error {x : Session} {err : DriverError}
    (answer : e.backend.execute e.statements.insert (parameters e.bridge x) state =
      (.error err, state')) :
    e.insert x state = (.error (insertError e.bridge x err), state') := by
  simp only [insert, answer]

theorem get_ok {key : String} {row : Row}
    (answer : e.backend.queryRow e.statements.byKey [.text key] (scanKinds e.bridge) state =
      (.ok row, state')) : e.get key state = (readSession e.bridge row, state') := by
  simp only [get, answer]

theorem get_noRows {key : String}
    (answer : e.backend.queryRow e.statements.byKey [.text key] (scanKinds e.bridge) state =
      (.error .noRows, state')) : e.get key state = (.error (.noSuchSession key), state') := by
  simp only [get, answer]

theorem delete_ok {key : String} {outcome : Outcome}
    (answer : e.backend.execute e.statements.delete [.text key] state = (.ok outcome, state')) :
    e.delete key state = (.ok (), state') := by
  simp only [delete, answer]

theorem remove_ok {statement : String} {value : SqlValue} {outcome : Outcome} {n : Nat}
    (answer : e.backend.execute statement [value] state = (.ok outcome, state'))
    (counted : outcome.rowsAffected = some n) :
    e.remove statement value state = (.ok n, state') := by
  simp only [remove, answer, counted]

end SessionEngine

/-- Settings under which a table of sessions and its index can be made. -/
structure UsableSessions (s : StorageSettings) (tpl : Template) : Prop where
  settings : Template.OfSettings s tpl
  free : Statement.Free s.sessionsTable
  checked : Contents.checkName s.sessionsTable = .ok ()
  indexChecked : Contents.checkName (SessionStatements.indexName s.sessionsTable) = .ok ()

/-- The connection holds these sessions, in their order. -/
structure HoldsSessions (s : StorageSettings) (k : Connection) (xs : List Session) : Prop where
  table : ∃ last numbered,
    Holds k s.sessionsTable (sessionsTable s.sessionsTable last numbered) ∧
      numbered.map Prod.snd = xs
  unnamed : k.contents.findTable? (SessionStatements.indexName s.sessionsTable) = none
  indexed : (k.contents.findIndex? (SessionStatements.indexName s.sessionsTable)).isSome = true

/-- A table and its index have different names. -/
theorem SessionStatements.sameName_indexName (table : String) :
    sameName table (indexName table) = false := by
  rw [sameName, beq_eq_false_iff_ne]
  intro same
  have lengths := congrArg (fun n : String => n.toList.length) same
  simp [asciiLowerText, indexName, indexSuffix] at lengths

variable {s : StorageSettings} {tpl : Template} {k : Connection} {xs : List Session}

/-- A write of other sessions leaves those. -/
theorem HoldsSessions.wrote (held : HoldsSessions s k xs) (last : Int)
    (numbered : List (Int × Session)) (w : Written) :
    HoldsSessions s (k.wrote (sessionsTable s.sessionsTable last numbered) w)
      (numbered.map Prod.snd) := by
  obtain ⟨last', numbered', table, -⟩ := held.table
  have same : (sessionsTable s.sessionsTable last numbered).name =
      (sessionsTable s.sessionsTable last' numbered').name := rfl
  have apart : sameName (sessionsTable s.sessionsTable last numbered).name
      (SessionStatements.indexName s.sessionsTable) = false :=
    SessionStatements.sameName_indexName s.sessionsTable
  have unnamed := Contents.findTable?_setTable_ne k.contents apart
  exact ⟨⟨last, numbered, Holds.wrote table same w, rfl⟩, unnamed.trans held.unnamed, held.indexed⟩

namespace UsableSessions

/-! ## Preparing -/

/-- The two declarations of the session table. -/
def declarations (s : StorageSettings) (tpl : Template) : List (String × Change) :=
  [(tpl.apply SessionStatements.createText, fun c =>
      c.createTable (SessionStatements.declaration s.sessionsTable)),
    (tpl.apply SessionStatements.indexText, fun c =>
      c.createIndex true (SessionStatements.indexName s.sessionsTable) s.sessionsTable
        ["expire_date"])]

theorem init_of_taken (taken : Template.OfSettings s tpl) (free : Statement.Free s.sessionsTable)
    (settled : k.transaction = none) :
    (Storage.sessionEngine tpl).store.init k =
      match declareAll ((declarations s tpl).map Prod.snd) k.contents with
      | .ok c => (.ok (), { k with contents := c })
      | .error e => (.error (.driver (.failure e)), k) := by
  have declares : ∀ d ∈ declarations s tpl, Declares d.1 d.2 := by
    simp only [declarations, List.forall_mem_cons]
    exact ⟨SessionStatements.declares_create taken free,
      SessionStatements.declares_index taken free, nofun⟩
  exact Connection.setUp_declares settled declares

/-- A name under which a table was prepared is not a reserved word. -/
theorem free_of_init (taken : Template.OfSettings s tpl) {k₀ : Connection}
    (made : (Storage.sessionEngine tpl).store.init k = (.ok (), k₀)) :
    Statement.Free s.sessionsTable := by
  cases reserved : Statement.isReserved s.sessionsTable with
  | false => exact reserved
  | true =>
      have unread := Connection.setUp_unread (k := k) (SessionStatements.solid_createText taken)
        (SessionStatements.ofText_createText taken)
        (Statement.ofTokens_createTable_reserved reserved _)
        [tpl.apply SessionStatements.indexText]
      exact absurd (congrArg Prod.fst made) unread

/-- Preparing makes the table and then its index. -/
theorem exists_of_init (taken : Template.OfSettings s tpl) (settled : k.transaction = none)
    {k₀ : Connection} (made : (Storage.sessionEngine tpl).store.init k = (.ok (), k₀)) :
    ∃ c c₀, k.contents.createTable (SessionStatements.declaration s.sessionsTable) = .ok c ∧
      c.createIndex true (SessionStatements.indexName s.sessionsTable) s.sessionsTable
        ["expire_date"] = .ok c₀ ∧ k₀ = { k with contents := c₀ } := by
  rw [init_of_taken taken (free_of_init taken made) settled] at made
  simp only [declarations, List.map_cons, List.map_nil, declareAll] at made
  cases created : k.contents.createTable (SessionStatements.declaration s.sessionsTable) with
  | error e =>
      rw [created] at made
      cases made
  | ok c =>
      rw [created] at made
      simp only at made
      cases indexed : c.createIndex true (SessionStatements.indexName s.sessionsTable)
          s.sessionsTable ["expire_date"] with
      | error e =>
          rw [indexed] at made
          cases made
      | ok c₀ =>
          rw [indexed] at made
          cases made
          exact ⟨c, c₀, rfl, indexed, rfl⟩

theorem init_of_made (taken : Template.OfSettings s tpl) (free : Statement.Free s.sessionsTable)
    (settled : k.transaction = none) {c c₀ : Contents}
    (created : k.contents.createTable (SessionStatements.declaration s.sessionsTable) = .ok c)
    (indexed : c.createIndex true (SessionStatements.indexName s.sessionsTable) s.sessionsTable
      ["expire_date"] = .ok c₀) :
    (Storage.sessionEngine tpl).store.init k = (.ok (), { k with contents := c₀ }) := by
  rw [init_of_taken taken free settled]
  simp only [declarations, List.map_cons, List.map_nil, declareAll, created, indexed]

/-- Where there is no table yet, one without sessions is made, or none is. -/
theorem of_init (taken : Template.ofSettings s = .ok tpl) (settled : k.transaction = none)
    (fresh : k.contents.findTable? s.sessionsTable = none) {k₀ : Connection}
    (made : (Storage.sessionEngine tpl).store.init k = (.ok (), k₀)) :
    UsableSessions s tpl ∧ HoldsSessions s k₀ [] := by
  have settings := Template.ofSettings_eq_ok taken
  obtain ⟨c, c₀, created, indexed, rfl⟩ := exists_of_init settings settled made
  obtain ⟨checked, rfl⟩ := Contents.createTable_fresh created fresh
    (sessionsTable.ofDefinitions s.sessionsTable)
  obtain ⟨indexChecked, unnamed, found, -⟩ := Contents.createIndex_made indexed
  have same := Contents.createIndex_findTable? indexed
  refine ⟨⟨settings, free_of_init settings made, checked, indexChecked⟩,
    ⟨0, [], ⟨settled, ?_⟩, rfl⟩, (same _).trans unnamed, found⟩
  exact (same _).trans (Contents.findTable?_withTable fresh (sameName_refl _))

/-- Where a table of the name is there already with its index, preparing changes nothing. -/
theorem init_of_found (h : UsableSessions s tpl) {t : Table} (held : Holds k s.sessionsTable t)
    (unnamed : k.contents.findTable? (SessionStatements.indexName s.sessionsTable) = none)
    (indexed : (k.contents.findIndex? (SessionStatements.indexName s.sessionsTable)).isSome = true) :
    (Storage.sessionEngine tpl).store.init k = (.ok (), k) := by
  have created : k.contents.createTable (SessionStatements.declaration s.sessionsTable) =
      .ok k.contents :=
    Contents.createTable_of_findTable? h.checked held.found rfl
  have kept := Contents.createIndex_of_findIndex? held.found h.indexChecked unnamed indexed
    ["expire_date"]
  exact init_of_made h.settings h.free held.settled created kept

/-- Preparing again changes nothing. -/
theorem init_again (h : UsableSessions s tpl) (held : HoldsSessions s k xs) :
    (Storage.sessionEngine tpl).store.init k = (.ok (), k) := by
  obtain ⟨last, numbered, table, -⟩ := held.table
  exact h.init_of_found table held.unnamed held.indexed

/-- With names that nothing has yet a table without sessions is made. -/
theorem init_vacant (h : UsableSessions s tpl) (settled : k.transaction = none)
    (vacant : k.contents.Vacant
      [s.sessionsTable, SessionStatements.indexName s.sessionsTable]) :
    ∃ k₀, (Storage.sessionEngine tpl).store.init k = (.ok (), k₀) := by
  simp only [Contents.Vacant, List.forall_mem_cons] at vacant
  obtain ⟨⟨fresh, unindexed⟩, ⟨unnamed, indexFree⟩, -⟩ := vacant
  have created : k.contents.createTable (SessionStatements.declaration s.sessionsTable) =
      .ok (k.contents.withTable (sessionsTable s.sessionsTable 0 [])) :=
    Contents.createTable_eq h.checked fresh unindexed
      (sessionsTable.ofDefinitions s.sessionsTable)
  have found : (k.contents.withTable (sessionsTable s.sessionsTable 0 [])).findTable?
      s.sessionsTable = some (sessionsTable s.sessionsTable 0 []) :=
    Contents.findTable?_withTable fresh (sameName_refl _)
  have apart : sameName (sessionsTable s.sessionsTable 0 []).name
      (SessionStatements.indexName s.sessionsTable) = false :=
    SessionStatements.sameName_indexName s.sessionsTable
  have unnamed' := (Contents.findTable?_withTable_ne k.contents apart).trans unnamed
  have known : Contents.columnsOf (sessionsTable s.sessionsTable 0 []) ["expire_date"] =
      .ok [2] := rfl
  have indexed := Contents.createIndex_eq found h.indexChecked unnamed' indexFree known
  exact ⟨_, init_of_made h.settings h.free settled created indexed⟩

theorem init_fresh (h : UsableSessions s tpl) (settled : k.transaction = none)
    (empty : k.contents = {}) :
    ∃ k₀, (Storage.sessionEngine tpl).store.init k = (.ok (), k₀) :=
  h.init_vacant settled (empty ▸ fun _ _ => ⟨rfl, rfl⟩)

/-! ## Inserting -/

/-- What an insert sends is what the row will have. -/
theorem run_insert {last : Int} {numbered : List (Int × Session)}
    (table : Holds k s.sessionsTable (sessionsTable s.sessionsTable last numbered)) (x : Session) :
    k.run (SessionEngine.parameters Bridge.textual x)
        (SessionStatements.insertStatement s.sessionsTable) =
      match (sessionsTable s.sessionsTable last numbered).insert ([0, 1, 2].zip x.storedValues) with
      | .error e => .error e
      | .ok t' => .ok (k.wrote t' ⟨1, some t'.lastNumber⟩) :=
  table.run_insert (sessionsTable.insertedColumns_all s.sessionsTable) rfl

theorem insert_refused (h : UsableSessions s tpl) (held : HoldsSessions s k xs) {x : Session}
    (taken : xs.any (fun y => y.key == x.key) = true) :
    (Storage.sessionEngine tpl).insert x k = (.error (.sessionExists x.key), k) := by
  obtain ⟨last, numbered, table, rfl⟩ := held.table
  obtain ⟨message, number, inserted⟩ := @sessionsTable.insert_eq s.sessionsTable last numbered x
  rw [List.any_map] at taken
  rw [sessionsTable.taken, show numbered.any (fun p => p.2.key == x.key) = true from taken,
    if_pos rfl] at inserted
  have refused := run_insert table x
  rw [inserted] at refused
  have answer := table.execute_error (SessionStatements.parse_insert h.settings h.free k) refused
  exact SessionEngine.insert_error (Storage.sessionEngine tpl) answer

theorem insert_accepted (h : UsableSessions s tpl) (held : HoldsSessions s k xs) {x : Session}
    (free : xs.any (fun y => y.key == x.key) = false) :
    ∃ k', (Storage.sessionEngine tpl).insert x k = (.ok (), k') ∧
      HoldsSessions s k' (xs ++ [x]) := by
  obtain ⟨last, numbered, table, rfl⟩ := held.table
  obtain ⟨message, number, inserted⟩ := @sessionsTable.insert_eq s.sessionsTable last numbered x
  rw [List.any_map] at free
  rw [sessionsTable.taken, show numbered.any (fun p => p.2.key == x.key) = false from free,
    if_neg Bool.false_ne_true] at inserted
  have ran := run_insert table x
  rw [inserted] at ran
  have answer := table.execute_write (SessionStatements.parse_insert h.settings h.free k) ran
  refine ⟨_, SessionEngine.insert_ok (Storage.sessionEngine tpl) answer, ?_⟩
  have wrote := held.wrote number (numbered ++ [(number, x)]) ⟨1, some number⟩
  rw [List.map_append] at wrote
  exact wrote

/-! ## Looking up -/

/-- The answer to a lookup by what was found, whose expiry is then read. -/
def answer (key : String) : Option Session → Except StoreError Session
  | some x => (Bridge.textual.decode (.text x.expires.storedText)).map (⟨x.key, x.user, ·⟩)
  | none => .error (.noSuchSession key)

theorem get_eq (h : UsableSessions s tpl) (held : HoldsSessions s k xs) (key : String) :
    (Storage.sessionEngine tpl).get key k = (answer key (xs.find? fun y => y.key == key), k) := by
  obtain ⟨last, numbered, table, rfl⟩ := held.table
  have columns : Contents.columnsOf (sessionsTable s.sessionsTable last numbered)
      ((Session.columnNames.map fun c => (c, (none : Option String))).map Prod.fst) =
        .ok [0, 1, 2] := rfl
  have parsed := SessionStatements.parse_select h.settings h.free k
  have filtered := @sessionsTable.filter_key s.sessionsTable last numbered key
  have searched : (numbered.map Prod.snd).find? (fun y => y.key == key) =
      (numbered.find? fun p => p.2.key == key).map Prod.snd := List.find?_map
  have found := @sessionsTable.find?_eq s.sessionsTable last numbered key
  rw [searched]
  cases hit : numbered.find? fun p => p.2.key == key with
  | none =>
      rw [hit] at found
      exact SessionEngine.get_noRows _ (table.queryRow_missed _ parsed columns filtered found)
  | some p =>
      rw [hit] at found
      have scanned := table.queryRow_hit parsed columns filtered found
        (p.2.readColumns_row p.1)
      refine (SessionEngine.get_ok _ scanned).trans ?_
      exact congrArg (·, k) p.2.readSession_eq

/-! ## Removing -/

/-- A removal leaves out the sessions for which its condition holds. -/
theorem execute_delete (held : HoldsSessions s k xs) {text column : String}
    {comparison : Comparison} {value : SqlValue} {f : Table.Filter} {condition : Session → Bool}
    (parsed : k.parse text =
      .ok (SessionStatements.deleteStatement s.sessionsTable column comparison))
    (filtered : ∀ last numbered, (sessionsTable s.sessionsTable last numbered).filter [value]
      (SessionStatements.compared column comparison) = .ok f)
    (holds : ∀ x number, f.holds (Session.row x number) = condition x) :
    ∃ k' row, k.execute text [value] = (.ok ⟨some (xs.countP condition), row⟩, k') ∧
      HoldsSessions s k' (xs.filter fun x => !condition x) := by
  obtain ⟨last, numbered, table, rfl⟩ := held.table
  have ran := table.run_delete (filtered last numbered)
  rw [sessionsTable.delete_eq holds] at ran
  have answer := table.execute_write parsed ran
  have kept : (numbered.map Prod.snd).filter (fun x => !condition x) =
      (numbered.filter fun p => !condition p.2).map Prod.snd := List.filter_map
  have counted : (numbered.map Prod.snd).countP condition =
      numbered.countP fun p => condition p.2 := List.countP_map
  rw [kept, counted]
  exact ⟨_, _, answer, held.wrote last _ _⟩

theorem delete_eq (h : UsableSessions s tpl) (held : HoldsSessions s k xs) (key : String) :
    ∃ k', (Storage.sessionEngine tpl).delete key k = (.ok (), k') ∧
      HoldsSessions s k' (xs.filter fun x => !(x.key == key)) := by
  obtain ⟨k', row, executed, held'⟩ := execute_delete held
    (SessionStatements.parse_delete h.settings h.free k) (fun _ _ => sessionsTable.filter_key key)
    (sessionsTable.holds_keyFilter key)
  exact ⟨k', SessionEngine.delete_ok (Storage.sessionEngine tpl) executed, held'⟩

/-- The sweep goes by the texts of instants. -/
theorem cleanUp_eq (h : UsableSessions s tpl) (held : HoldsSessions s k xs) (reference : Instant) :
    ∃ k', (Storage.sessionEngine tpl).store.cleanUp reference k =
        (.ok (xs.countP (sessionsTable.sweeps reference)), k') ∧
      HoldsSessions s k' (xs.filter fun x => !sessionsTable.sweeps reference x) := by
  obtain ⟨k', row, executed, held'⟩ := execute_delete held
    (SessionStatements.parse_deleteExpired h.settings h.free k)
    (fun _ _ => sessionsTable.filter_expired reference)
    (sessionsTable.holds_expiredFilter reference)
  exact ⟨k', SessionEngine.remove_ok (Storage.sessionEngine tpl) executed rfl, held'⟩

theorem deleteForUser_eq (h : UsableSessions s tpl) (held : HoldsSessions s k xs) (user : UserId) :
    ∃ k', (Storage.sessionEngine tpl).store.deleteForUser user k =
        (.ok (xs.countP fun x => x.user == user), k') ∧
      HoldsSessions s k' (xs.filter fun x => !(x.user == user)) := by
  obtain ⟨k', row, executed, held'⟩ := execute_delete held
    (SessionStatements.parse_deleteForUser h.settings h.free k)
    (fun _ _ => sessionsTable.filter_user user)
    (sessionsTable.holds_userFilter user)
  exact ⟨k', SessionEngine.remove_ok (Storage.sessionEngine tpl) executed rfl, held'⟩

end UsableSessions

end AccountStore
