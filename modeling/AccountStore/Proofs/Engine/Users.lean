/-
# AccountStore.Proofs.Engine.Users -- calls of the user engine as operations on its rows

The engine's table has the name that the settings give it.  While a connection
holds the users `us` in it, a lookup finds what a search through `us` finds, an
insert appends, an update replaces one user and a delete leaves one out, and
each refusal is the collision of two users.  The one thing that the rows do not
explain is a list of more fields than a statement may set.
-/
import AccountStore.Storage
import AccountStore.Proofs.Database.Preparing
import AccountStore.Proofs.Engine.UserRows
import AccountStore.Proofs.Statements.Bindings

namespace AccountStore

set_option autoImplicit false

open Database

namespace UserEngine

variable {σ : Type} (e : UserEngine σ) {statement : String} {state state' : σ}

theorem fetch_ok {key : SqlValue} {row : Row}
    (answer : e.backend.queryRow statement [key] (scanKinds e.bridge) state = (.ok row, state'))
    (lookup : UserLookup) :
    e.fetch statement key lookup state = (readUser e.bridge row, state') := by
  simp only [fetch, answer]

theorem fetch_noRows {key : SqlValue}
    (answer : e.backend.queryRow statement [key] (scanKinds e.bridge) state =
      (.error .noRows, state')) (lookup : UserLookup) :
    e.fetch statement key lookup state = (.error (.noSuchUser lookup), state') := by
  simp only [fetch, answer]

theorem insert_ok {now : Instant} {u : User} {outcome : Outcome} {id : Int}
    (answer : e.backend.execute e.statements.insert
      (parameters e.bridge (u.prepared now) UserField.all) state = (.ok outcome, state'))
    (added : outcome.lastInsertId = some id) :
    e.insert now u state = ((.ok ⟨id⟩, { u.prepared now with id := ⟨id⟩ }), state') := by
  simp only [insert, answer, added]

theorem insert_error {now : Instant} {u : User} {err : DriverError}
    (answer : e.backend.execute e.statements.insert
      (parameters e.bridge (u.prepared now) UserField.all) state = (.error err, state')) :
    e.insert now u state =
      ((.error (insertError e.bridge (u.prepared now) err), u.prepared now), state') := by
  simp only [insert, answer]

/-- The fields that an update sends. -/
theorem touched_updateList (fields : List UserField) (supported : e.statements.supportsFields = true) :
    (e.updateList fields).getD UserField.all = UserTable.touched fields ∧
      UserStatements.touched (e.updateList fields) = UserTable.touched fields := by
  cases fields <;> simp [updateList, supported, UserTable.touched, UserStatements.touched]

theorem update_ok {id : UserId} {u : User} {fields : List UserField} {outcome : Outcome}
    (answer : e.backend.execute (e.statements.update (e.updateList fields))
      (parameters e.bridge u ((e.updateList fields).getD UserField.all) ++ [.integer id.value])
      state = (.ok outcome, state')) :
    e.update id u fields state = (.ok (), state') := by
  simp only [update, answer]

theorem update_error {id : UserId} {u : User} {fields : List UserField} {err : DriverError}
    (answer : e.backend.execute (e.statements.update (e.updateList fields))
      (parameters e.bridge u ((e.updateList fields).getD UserField.all) ++ [.integer id.value])
      state = (.error err, state')) :
    e.update id u fields state = (.error (updateError e.bridge id err), state') := by
  simp only [update, answer]

theorem delete_ok {id : UserId} {outcome : Outcome}
    (answer : e.backend.execute e.statements.delete [.integer id.value] state =
      (.ok outcome, state')) : e.delete id state = (.ok (), state') := by
  simp only [delete, answer]

end UserEngine

/-- Settings under which a table of users can be made. -/
structure UsableUsers (s : StorageSettings) (tpl : Template) : Prop where
  settings : Template.OfSettings s tpl
  free : Statement.Free s.usersTable
  checked : Contents.checkName s.usersTable = .ok ()

/-- What the engine works with, its columns having their default names. -/
def Storage.defaultUsers (tpl : Template) : UserEngine Connection := Storage.userEngine tpl {}

/-- The answer to a lookup by what was found. -/
def UserLookup.answer (lookup : UserLookup) : Option User → Except StoreError User
  | some u => .ok u
  | none => .error (.noSuchUser lookup)

/-- The connection holds these users, the ids up to `last` being used up. -/
abbrev HoldsUsers (s : StorageSettings) (k : Connection) (last : Int) (us : List User) : Prop :=
  Holds k s.usersTable (usersTable s.usersTable s.emailUnique last us)

variable {s : StorageSettings} {tpl : Template} {k : Connection} {last : Int} {us : List User}

/-- A write of other users leaves those. -/
theorem HoldsUsers.wrote (held : HoldsUsers s k last us) (last' : Int) (us' : List User)
    (w : Written) :
    HoldsUsers s (k.wrote (usersTable s.usersTable s.emailUnique last' us') w) last' us' := by
  have same : (usersTable s.usersTable s.emailUnique last' us').name =
      (usersTable s.usersTable s.emailUnique last us).name := rfl
  exact Holds.wrote held same w

namespace UsableUsers

theorem tableName_eq (h : UsableUsers s tpl) : UserStatements.tableName tpl = s.usersTable := by
  have whole := h.settings.run_usersTable []
  rw [List.append_nil, Substitution.run_nil, List.append_nil] at whole
  rw [← String.toList_inj, UserStatements.tableName, Template.apply_toList, whole]

theorem plain (h : UsableUsers s tpl) : PlainName s.usersTable :=
  ⟨isName_of_isTableIdentifier h.settings.users, h.free⟩

/-- The statements are those for the name in the settings. -/
theorem statements_eq (h : UsableUsers s tpl) :
    let statements := (Storage.defaultUsers tpl).statements
    statements.byId = UserStatements.selectText s.usersTable {} "id" ∧
      statements.byUsername = UserStatements.selectText s.usersTable {} "username" ∧
      statements.byEmail = UserStatements.selectText s.usersTable {} "email" ∧
      statements.insert = UserStatements.insertText s.usersTable {} ∧
      (∀ fields, statements.update fields =
        UserStatements.updateText s.usersTable {} (UserStatements.touched fields)) ∧
      statements.delete = UserStatements.deleteText s.usersTable {} := by
  rw [← h.tableName_eq]
  exact ⟨rfl, rfl, rfl, rfl, fun _ => rfl, rfl⟩

/-! ## Preparing -/

theorem init_of_taken (taken : Template.OfSettings s tpl) (free : Statement.Free s.usersTable)
    (settled : k.transaction = none) :
    (Storage.defaultUsers tpl).store.init k =
      match k.contents.createTable (UserStatements.declaration s.usersTable s.emailUnique) with
      | .ok c => (.ok (), { k with contents := c })
      | .error e => (.error (.driver (.failure e)), k) := by
  let change : Change := fun c =>
    c.createTable (UserStatements.declaration s.usersTable s.emailUnique)
  have declares : ∀ d ∈ [(tpl.apply (UserStatements.createText {}), change)],
      Declares d.1 d.2 := by
    simpa using UserStatements.declares_create taken free
  refine (Connection.setUp_declares settled declares).trans ?_
  simp only [List.map_cons, List.map_nil, declareAll, change]
  cases k.contents.createTable (UserStatements.declaration s.usersTable s.emailUnique) <;> rfl

/-- With a name that nothing has yet a table without users is made. -/
theorem init_fresh (h : UsableUsers s tpl) (settled : k.transaction = none)
    (fresh : k.contents.findTable? s.usersTable = none)
    (unindexed : k.contents.findIndex? s.usersTable = none) :
    (Storage.defaultUsers tpl).store.init k =
      (.ok (), { k with contents := k.contents.withTable (usersTable s.usersTable s.emailUnique 0 []) })
    := by
  have created : k.contents.createTable (UserStatements.declaration s.usersTable s.emailUnique) =
      .ok (k.contents.withTable (usersTable s.usersTable s.emailUnique 0 [])) :=
    Contents.createTable_eq h.checked fresh unindexed
      (usersTable.ofDefinitions s.usersTable s.emailUnique)
  rw [init_of_taken h.settings h.free settled, created]

/-- A name under which a table was prepared is not a reserved word. -/
theorem free_of_init (taken : Template.OfSettings s tpl) {k₀ : Connection}
    (made : (Storage.defaultUsers tpl).store.init k = (.ok (), k₀)) :
    Statement.Free s.usersTable := by
  cases reserved : Statement.isReserved s.usersTable with
  | false => exact reserved
  | true =>
      have unread := Connection.setUp_unread (k := k) (UserStatements.solid_createText taken)
        (UserStatements.ofText_createText taken)
        (Statement.ofTokens_createTable_reserved reserved _) []
      exact absurd (congrArg Prod.fst made) unread

theorem exists_of_init (taken : Template.OfSettings s tpl) (settled : k.transaction = none)
    {k₀ : Connection} (made : (Storage.defaultUsers tpl).store.init k = (.ok (), k₀)) :
    ∃ c, k.contents.createTable (UserStatements.declaration s.usersTable s.emailUnique) = .ok c ∧
      k₀ = { k with contents := c } := by
  rw [init_of_taken taken (free_of_init taken made) settled] at made
  split at made
  · next c created =>
      cases made
      exact ⟨c, created, rfl⟩
  · cases made

/-- Where there is no table yet, one without users is made, or none is. -/
theorem of_init (taken : Template.ofSettings s = .ok tpl) (settled : k.transaction = none)
    (fresh : k.contents.findTable? s.usersTable = none) {k₀ : Connection}
    (made : (Storage.defaultUsers tpl).store.init k = (.ok (), k₀)) :
    UsableUsers s tpl ∧ HoldsUsers s k₀ 0 [] := by
  have settings := Template.ofSettings_eq_ok taken
  obtain ⟨c, created, rfl⟩ := exists_of_init settings settled made
  obtain ⟨checked, rfl⟩ := Contents.createTable_fresh created fresh
    (usersTable.ofDefinitions s.usersTable s.emailUnique)
  exact ⟨⟨settings, free_of_init settings made, checked⟩, settled,
    Contents.findTable?_withTable fresh (sameName_refl _)⟩

/-- Where a table of the name is there already, preparing changes nothing. -/
theorem init_of_found (h : UsableUsers s tpl) {t : Table} (held : Holds k s.usersTable t) :
    (Storage.defaultUsers tpl).store.init k = (.ok (), k) := by
  have kept : k.contents.createTable (UserStatements.declaration s.usersTable s.emailUnique) =
      .ok k.contents :=
    Contents.createTable_of_findTable? h.checked held.found rfl
  rw [init_of_taken h.settings h.free held.settled, kept]

/-! ## Looking up -/

theorem fetch_eq (h : UsableUsers s tpl) (held : HoldsUsers s k last us)
    (readable : ∀ u ∈ us, u.Readable) {key : String} (hk : PlainName key) {i : Nat}
    (place : (usersTable s.usersTable s.emailUnique last us).column key = .ok i) (v : SqlValue)
    (lookup : UserLookup) :
    (Storage.defaultUsers tpl).fetch (UserStatements.selectText s.usersTable {} key) v lookup k =
      (lookup.answer (us.find? fun u =>
        Table.equalValues (Table.rowValue u.row i) (Table.stored v)), k) := by
  have found : Contents.columnsOf (usersTable s.usersTable s.emailUnique last us)
      (((UserColumns.selected {}).map fun c => (c, (none : Option String))).map Prod.fst) =
        .ok (List.range 11) := rfl
  have filtered : (usersTable s.usersTable s.emailUnique last us).filter [v]
      (UserStatements.equals key 1) = .ok ⟨i, .equal, Table.stored v⟩ := by
    simp only [Table.filter, UserStatements.equals, place]
    rfl
  have parsed := UserStatements.parse_select k UserColumns.default_plain h.plain hk
  have searched : (usersTable s.usersTable s.emailUnique last us).find?
      ⟨i, .equal, Table.stored v⟩ = (us.find? fun u =>
        Table.equalValues (Table.rowValue u.row i) (Table.stored v)).map User.row :=
    usersTable.find?_eq _
  cases hit : us.find? (fun u => Table.equalValues (Table.rowValue u.row i) (Table.stored v)) with
  | none =>
      rw [hit] at searched
      exact UserEngine.fetch_noRows _ (held.queryRow_missed _ parsed found filtered searched) lookup
  | some u =>
      rw [hit] at searched
      have read := User.readUser_scanned (readable u (List.mem_of_find?_eq_some hit))
      have scanned := held.queryRow_hit parsed found filtered searched u.readColumns_row
      refine (UserEngine.fetch_ok _ scanned lookup).trans ?_
      exact congrArg (·, k) read

/-! ## Inserting -/

/-- What an insert sends is what the row will have. -/
theorem run_insert (held : HoldsUsers s k last us) (u : User) :
    k.run (UserEngine.parameters Bridge.textual u UserField.all)
        (UserStatements.insertStatement s.usersTable {}) =
      match (usersTable s.usersTable s.emailUnique last us).insert (usersTable.given u) with
      | .error e => .error e
      | .ok t' => .ok (k.wrote t' ⟨1, some t'.lastNumber⟩) :=
  held.run_insert (usersTable.insertedColumns_fields s.usersTable UserField.all) rfl

theorem insert_refused (h : UsableUsers s tpl) (held : HoldsUsers s k last us) (nonneg : 0 ≤ last)
    (largest : ∀ u ∈ us, u.id.value ≤ last) (now : Instant) (u : User)
    (collision : us.any (fun o => UserTable.collides s.emailUnique o (u.prepared now)) = true) :
    ∃ detail, (Storage.defaultUsers tpl).insert now u k =
      ((.error (.userExists detail), u.prepared now), k) := by
  obtain ⟨message, inserted⟩ := @usersTable.insert_eq s.usersTable s.emailUnique last us nonneg
    largest (u.prepared now)
  rw [collision, if_pos rfl] at inserted
  have refused := run_insert held (u.prepared now)
  rw [inserted] at refused
  have answer := held.execute_error
    (UserStatements.parse_insert k UserColumns.default_plain h.plain) refused
  rw [← h.statements_eq.2.2.2.1] at answer
  exact ⟨_, UserEngine.insert_error (Storage.defaultUsers tpl) answer⟩

theorem insert_accepted (h : UsableUsers s tpl) (held : HoldsUsers s k last us) (nonneg : 0 ≤ last)
    (largest : ∀ u ∈ us, u.id.value ≤ last) (now : Instant) (u : User)
    (free : us.any (fun o => UserTable.collides s.emailUnique o (u.prepared now)) = false) :
    ∃ k', (Storage.defaultUsers tpl).insert now u k =
        ((.ok ⟨last + 1⟩, { u.prepared now with id := ⟨last + 1⟩ }), k') ∧
      HoldsUsers s k' (last + 1) (us ++ [{ u.prepared now with id := ⟨last + 1⟩ }]) := by
  obtain ⟨message, inserted⟩ := @usersTable.insert_eq s.usersTable s.emailUnique last us nonneg
    largest (u.prepared now)
  rw [free, if_neg Bool.false_ne_true] at inserted
  have ran := run_insert held (u.prepared now)
  rw [inserted] at ran
  have answer := held.execute_write
    (UserStatements.parse_insert k UserColumns.default_plain h.plain) ran
  rw [← h.statements_eq.2.2.2.1] at answer
  exact ⟨_, UserEngine.insert_ok (Storage.defaultUsers tpl) answer rfl, HoldsUsers.wrote held _ _ _⟩

/-! ## Updating -/

/-- The parameters of an update, in their order. -/
def updateParameters (u : User) (fields : List UserField) (id : UserId) : List SqlValue :=
  UserEngine.parameters Bridge.textual u fields ++ [.integer id.value]

/-- The parameter of a number is the value of the field at this place. -/
theorem operands_assignments (u : User) (fields : List UserField) (id : UserId) :
    ((UserStatements.assignments {} fields).map fun a => (a.1, Operand.parameter a.2)).map
        (fun a => Table.operand (updateParameters u fields id) a.2) =
      fields.map fun f => f.storedValue u := by
  have numbered := congrArg (List.map Prod.snd)
    (Table.operands_numbered fields (fun f => Bridge.textual.parameter (f.value u))
      [.integer id.value])
  simpa only [UserStatements.assignments, updateParameters, UserEngine.parameters, List.map_map,
    Function.comp_def, UserField.storedValue] using numbered

theorem filter_id (u : User) (fields : List UserField) (id : UserId) :
    (usersTable s.usersTable s.emailUnique last us).filter (updateParameters u fields id)
        (UserStatements.equals "id" (fields.length + 1)) = .ok (usersTable.idFilter id) := by
  have sent : (updateParameters u fields id)[fields.length]? = some (.integer id.value) := by
    simp [updateParameters, UserEngine.parameters]
  simp only [Table.filter, UserStatements.equals, usersTable.column_id, Table.operand,
    Nat.add_sub_cancel, sent]
  rfl

theorem run_update (held : HoldsUsers s k last us) (u : User) (fields : List UserField)
    (id : UserId) :
    k.run (updateParameters u fields id)
        (UserStatements.updateStatement s.usersTable {} fields) =
      match (usersTable s.usersTable s.emailUnique last us).update (usersTable.idFilter id)
          (usersTable.assigned fields u) with
      | .error e => .error e
      | .ok (t', n) => .ok (k.wrote t' ⟨n, none⟩) := by
  have found : Contents.columnsOf (usersTable s.usersTable s.emailUnique last us)
      (((UserStatements.assignments {} fields).map
        fun a => (a.1, Operand.parameter a.2)).map Prod.fst) =
        .ok (fields.map UserField.position) := by
    have columns : ((UserStatements.assignments {} fields).map
        fun a => (a.1, Operand.parameter a.2)).map Prod.fst = fields.map UserField.column := by
      apply List.ext_getElem
      · simp [UserStatements.assignments]
      · intro i _ _
        simp [UserStatements.assignments]
    rw [columns, usersTable.columnsOf_fields]
  have ran := held.run_update found (filter_id u fields id)
  rw [operands_assignments] at ran
  exact ran

/-- An update of a list that is not too long is what the table does with it. -/
theorem execute_update (h : UsableUsers s tpl) (held : HoldsUsers s k last us) (id : UserId)
    (u : User) {fields : List UserField} (few : fields.length ≤ Statement.columnLimit) :
    let e := Storage.defaultUsers tpl
    e.backend.execute (e.statements.update (e.updateList fields))
        (UserEngine.parameters e.bridge u ((e.updateList fields).getD UserField.all) ++
          [.integer id.value]) k =
      match (usersTable s.usersTable s.emailUnique last us).update (usersTable.idFilter id)
          (usersTable.assigned (UserTable.touched fields) u) with
      | .error err => (.error (.failure err), k)
      | .ok (t', n) => (.ok ⟨some n, some k.lastRow⟩, k.wrote t' ⟨n, none⟩) := by
  intro e
  obtain ⟨listed, touched⟩ := UserEngine.touched_updateList e fields rfl
  have some : UserTable.touched fields ≠ [] := by
    cases fields <;> simp [UserTable.touched, UserField.all]
  have few' : (UserTable.touched fields).length ≤ Statement.columnLimit := by
    cases fields with
    | nil => decide
    | cons f rest => exact few
  have parsed := UserStatements.parse_update k UserColumns.default_plain h.plain some few'
  rw [h.statements_eq.2.2.2.2.1, touched, listed]
  have ran := run_update held u (UserTable.touched fields) id
  cases updated : (usersTable s.usersTable s.emailUnique last us).update (usersTable.idFilter id)
      (usersTable.assigned (UserTable.touched fields) u) with
  | error err =>
      rw [updated] at ran
      exact held.execute_error parsed ran
  | ok result =>
      rw [updated] at ran
      exact held.execute_write parsed ran

theorem update_absent (h : UsableUsers s tpl) (held : HoldsUsers s k last us) {id : UserId}
    (absent : ∀ o ∈ us, o.id ≠ id) (u : User) {fields : List UserField}
    (few : fields.length ≤ Statement.columnLimit) :
    ∃ k', (Storage.defaultUsers tpl).update id u fields k = (.ok (), k') ∧
      HoldsUsers s k' last us := by
  have executed := h.execute_update held id u few
  rw [usersTable.update_absent absent] at executed
  exact ⟨_, UserEngine.update_ok _ executed, HoldsUsers.wrote held _ _ _⟩

theorem update_refused (h : UsableUsers s tpl) {id : UserId} {pre post : List User}
    {current : User} (held : HoldsUsers s k last (pre ++ current :: post)) (own : current.id = id)
    (others : ∀ o ∈ pre ++ post, o.id ≠ id) (u : User) {fields : List UserField}
    (few : fields.length ≤ Statement.columnLimit)
    (collision : (pre ++ post).any (fun o => UserTable.collides s.emailUnique o
      (UserField.copyAll (UserTable.touched fields) u current)) = true) :
    ∃ detail, (Storage.defaultUsers tpl).update id u fields k =
      (.error (.ambiguousUpdate detail), k) := by
  have executed := h.execute_update held id u few
  obtain ⟨message, updated⟩ := @usersTable.update_present s.usersTable s.emailUnique last id pre
    post current own others (UserTable.touched fields) u
  rw [collision, if_pos rfl] at updated
  rw [updated] at executed
  exact ⟨_, UserEngine.update_error _ executed⟩

theorem update_accepted (h : UsableUsers s tpl) {id : UserId} {pre post : List User}
    {current : User} (held : HoldsUsers s k last (pre ++ current :: post)) (own : current.id = id)
    (others : ∀ o ∈ pre ++ post, o.id ≠ id) (u : User) {fields : List UserField}
    (few : fields.length ≤ Statement.columnLimit)
    (free : (pre ++ post).any (fun o => UserTable.collides s.emailUnique o
      (UserField.copyAll (UserTable.touched fields) u current)) = false) :
    ∃ k', (Storage.defaultUsers tpl).update id u fields k = (.ok (), k') ∧
      HoldsUsers s k' last
        (pre ++ UserField.copyAll (UserTable.touched fields) u current :: post) := by
  have executed := h.execute_update held id u few
  obtain ⟨message, updated⟩ := @usersTable.update_present s.usersTable s.emailUnique last id pre
    post current own others (UserTable.touched fields) u
  rw [free, if_neg Bool.false_ne_true] at updated
  rw [updated] at executed
  exact ⟨_, UserEngine.update_ok _ executed, HoldsUsers.wrote held _ _ _⟩

/-- A list that is too long is refused whatever it would have done. -/
theorem update_too_long (h : UsableUsers s tpl) (id : UserId) (u : User) {fields : List UserField}
    (many : Statement.columnLimit < fields.length) :
    ∃ message, (Storage.defaultUsers tpl).update id u fields k =
      (.error (.driver (.failure (sqlFailure message))), k) := by
  have same : UserTable.touched fields = fields := by
    cases fields with
    | nil => cases many
    | cons f rest => rfl
  obtain ⟨message, parsed⟩ :=
    UserStatements.parse_update_of_lt k UserColumns.default_plain h.plain many
  obtain ⟨-, touched⟩ := UserEngine.touched_updateList (Storage.defaultUsers tpl) fields rfl
  have executed : ∀ ps, k.execute (UserStatements.updateText s.usersTable {} fields) ps =
      (.error (.failure (sqlFailure message)), k) := by
    intro ps
    simp only [Connection.execute, parsed]
  rw [← same, ← touched, ← h.statements_eq.2.2.2.2.1] at executed
  exact ⟨message, UserEngine.update_error (Storage.defaultUsers tpl) (executed _)⟩

/-! ## Deleting -/

theorem delete_eq (h : UsableUsers s tpl) (held : HoldsUsers s k last us) (id : UserId) :
    ∃ k', (Storage.defaultUsers tpl).delete id k = (.ok (), k') ∧
      HoldsUsers s k' last (us.filter (fun u => u.id != id)) := by
  have filtered : (usersTable s.usersTable s.emailUnique last us).filter [.integer id.value]
      (UserStatements.equals "id" 1) = .ok (usersTable.idFilter id) := rfl
  have ran := held.run_delete filtered
  rw [usersTable.delete_eq] at ran
  have answer := held.execute_write
    (UserStatements.parse_delete k UserColumns.default_plain h.plain) ran
  rw [← h.statements_eq.2.2.2.2.2] at answer
  exact ⟨_, UserEngine.delete_ok (Storage.defaultUsers tpl) answer, HoldsUsers.wrote held _ _ _⟩

end UsableUsers

end AccountStore
