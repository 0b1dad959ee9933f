/-
# AccountStore.Proofs.Engine.UserRows -- users as rows

A user is stored as its id and its ten fields, each field at its place.  The
table of users is these rows under the declared columns.  Writing a field's
column copies the field, two rows violate a unique key exactly when their users
collide, and a row reads back as its user when both instants are written so
that they can be read.
-/
import AccountStore.Engine.User
import AccountStore.Memory.User
import AccountStore.Proofs.Database.Rows
import AccountStore.Proofs.Engine.UserCodec
import AccountStore.Proofs.Instant.Stored
import AccountStore.Proofs.Statements.Creation
import AccountStore.Proofs.Statements.Users

namespace AccountStore

set_option autoImplicit false

open Database

namespace UserField

/-- The place of a field in a row; the id stands before all fields. -/
def position (f : UserField) : Nat := all.idxOf f + 1

/-- What a row has for a field. -/
def storedValue (f : UserField) (u : User) : SqlValue :=
  Table.stored (Bridge.textual.parameter (f.value u))

end UserField

namespace User

def row (u : User) : StoredRow :=
  ⟨u.id.value, .integer u.id.value :: UserField.all.map fun f => f.storedValue u⟩

theorem rowValue_id (u : User) : Table.rowValue u.row 0 = .integer u.id.value := rfl

theorem rowValue_position (f : UserField) (u : User) :
    Table.rowValue u.row f.position = f.storedValue u := by
  cases f <;> rfl

/-- Setting the column of a field is copying the field. -/
theorem row_copy (f : UserField) (source target : User) :
    (f.copy source target).row =
      { target.row with values := target.row.values.set f.position (f.storedValue source) } := by
  cases f <;> rfl

theorem row_copyAll (fields : List UserField) (source target : User) :
    (UserField.copyAll fields source target).row =
      Table.changed target.row
        ((fields.map UserField.position).zip (fields.map fun f => f.storedValue source)) := by
  induction fields generalizing target with
  | nil => rfl
  | cons f rest ih =>
      have step := ih (f.copy source target)
      rw [row_copy] at step
      exact step

end User

/-! ## The table -/

/-- The table of users, in the order of their ids. -/
def usersTable (name : String) (emailUnique : Bool) (last : Int) (us : List User) : Table where
  name := name
  columns := ⟨"id", false⟩ :: UserField.all.map fun f => ⟨f.column, true⟩
  numberColumn := some 0
  autoIncrement := true
  uniqueKeys :=
    (if emailUnique then [⟨UserField.email.position, Failure.uniqueViolation⟩] else []) ++
      [⟨UserField.username.position, Failure.uniqueViolation⟩]
  lastNumber := last
  rows := us.map User.row

namespace usersTable

variable {name : String} {emailUnique : Bool} {last : Int} {us : List User}

theorem rows_eq : (usersTable name emailUnique last us).rows = us.map User.row := rfl

/-- Before the first insert. -/
theorem ofDefinitions (name : String) (emailUnique : Bool) :
    Table.ofDefinitions name (UserStatements.columnDefinitions emailUnique) =
      .ok (usersTable name emailUnique 0 []) := by
  cases emailUnique <;> rfl

theorem columnIndex?_column (f : UserField) :
    (usersTable name emailUnique last us).columnIndex? f.column = some f.position := by
  cases f <;> rfl

theorem column_field (f : UserField) :
    (usersTable name emailUnique last us).column f.column = .ok f.position := by
  rw [Table.column, columnIndex?_column]

theorem column_id : (usersTable name emailUnique last us).column "id" = .ok 0 := rfl

theorem columnsOf_fields (fields : List UserField) :
    Contents.columnsOf (usersTable name emailUnique last us) (fields.map UserField.column) =
      .ok (fields.map UserField.position) := by
  induction fields with
  | nil => rfl
  | cons f rest ih =>
      simp only [List.map_cons, Contents.columnsOf, column_field, ih]

theorem insertedColumns_fields (table : String) (fields : List UserField) :
    Contents.insertedColumns (usersTable name emailUnique last us) table
      (fields.map UserField.column) = .ok (fields.map UserField.position) := by
  induction fields with
  | nil => rfl
  | cons f rest ih =>
      simp only [List.map_cons, Contents.insertedColumns, columnIndex?_column, ih]

/-- No column of a stored user is empty. -/
theorem emptyColumn?_row (u : User) :
    (usersTable name emailUnique last us).emptyColumn? u.row = none := rfl

theorem any_username (others : List User) (u : User) :
    (others.map User.row).any (fun o => Table.equalValues
        (Table.rowValue o UserField.username.position)
        (Table.rowValue u.row UserField.username.position)) =
      others.any (fun o => o.username == u.username) := by
  simp only [List.any_map, Function.comp_def, User.rowValue_position]
  exact congrArg (List.any others) (funext fun o => Table.equalValues_text _ _)

theorem any_email (others : List User) (u : User) :
    (others.map User.row).any (fun o => Table.equalValues
        (Table.rowValue o UserField.email.position)
        (Table.rowValue u.row UserField.email.position)) =
      others.any (fun o => o.email == u.email) := by
  simp only [List.any_map, Function.comp_def, User.rowValue_position]
  exact congrArg (List.any others) (funext fun o => Table.equalValues_text _ _)

theorem any_collides (others : List User) (u : User) :
    others.any (fun o => UserTable.collides emailUnique o u) =
      (others.any (fun o => o.username == u.username) ||
        emailUnique && others.any (fun o => o.email == u.email)) := by
  induction others with
  | nil => simp
  | cons o rest ih =>
      rw [List.any_cons, List.any_cons, List.any_cons, ih, UserTable.collides]
      cases emailUnique <;> cases o.username == u.username <;> cases o.email == u.email <;> simp

variable (name emailUnique last us) in
/-- Some key is violated exactly when some user collides. -/
theorem violatedKey?_row (others : List User) (u : User) :
    match (usersTable name emailUnique last us).violatedKey? (others.map User.row) u.row with
    | some k => others.any (fun o => UserTable.collides emailUnique o u) = true ∧
        k.code = Failure.uniqueViolation
    | none => others.any (fun o => UserTable.collides emailUnique o u) = false := by
  rw [any_collides, Table.violatedKey?, usersTable]
  cases emailUnique with
  | true =>
      simp only [if_true, List.singleton_append, List.find?_cons, any_email, any_username,
        List.find?_nil]
      cases others.any (fun o => o.email == u.email) <;>
        cases others.any (fun o => o.username == u.username) <;> simp
  | false =>
      simp only [Bool.false_eq_true, if_false, List.nil_append, List.find?_cons, any_username,
        List.find?_nil]
      cases others.any (fun o => o.username == u.username) <;> simp

variable (name emailUnique last us) in
/-- **A user may not stand beside others exactly when it collides with one.** -/
theorem checkRow_row (others : List User) (u : User) :
    ∃ message, (usersTable name emailUnique last us).checkRow (others.map User.row) u.row =
      if others.any (fun o => UserTable.collides emailUnique o u) then
        .error (.engine Failure.uniqueViolation (some message))
      else .ok () := by
  have violated := violatedKey?_row name emailUnique last us others u
  rw [Table.checkRow_of_full (emptyColumn?_row u)]
  cases found : (usersTable name emailUnique last us).violatedKey? (others.map User.row) u.row with
  | some k =>
      rw [found] at violated
      obtain ⟨collision, code⟩ := violated
      rw [collision, ← code]
      exact ⟨_, rfl⟩
  | none =>
      rw [found] at violated
      have apart : others.any (fun o => UserTable.collides emailUnique o u) = false := violated
      rw [apart]
      exact ⟨"", rfl⟩

/-! ## Writing -/

/-- The columns that an insert lists, with its values. -/
def given (u : User) : List (Nat × SqlValue) :=
  (UserField.all.map UserField.position).zip (UserField.all.map fun f => f.storedValue u)

/-- Numbers go on from the largest one ever given. -/
theorem nextNumber_eq (nonneg : 0 ≤ last) (largest : ∀ u ∈ us, u.id.value ≤ last) :
    (usersTable name emailUnique last us).nextNumber = last + 1 := by
  have most : ((us.map User.row).getLast?.map StoredRow.number).getD 0 ≤ last := by
    rw [List.getLast?_map, Option.map_map]
    cases found : us.getLast? with
    | none => exact nonneg
    | some u => exact largest u (List.mem_of_getLast? found)
  simp only [Table.nextNumber, usersTable, if_true]
  omega

theorem insert_eq (nonneg : 0 ≤ last) (largest : ∀ u ∈ us, u.id.value ≤ last) (u : User) :
    ∃ message, (usersTable name emailUnique last us).insert (given u) =
      if us.any (fun o => UserTable.collides emailUnique o u) then
        .error (.engine Failure.uniqueViolation (some message))
      else
        .ok (usersTable name emailUnique (last + 1) (us ++ [{ u with id := ⟨last + 1⟩ }])) := by
  obtain ⟨message, checked⟩ := checkRow_row name emailUnique last us us
    { u with id := ⟨last + 1⟩ }
  refine ⟨message, ?_⟩
  have row : (⟨last + 1, (usersTable name emailUnique last us).newValues (last + 1) (given u)⟩ :
      StoredRow) = ({ u with id := ⟨last + 1⟩ } : User).row := rfl
  have collisions : us.any (fun o => UserTable.collides emailUnique o { u with id := ⟨last + 1⟩ }) =
      us.any (fun o => UserTable.collides emailUnique o u) := rfl
  rw [collisions] at checked
  rw [Table.insert, nextNumber_eq nonneg largest, row]
  rw [rows_eq, checked]
  cases us.any (fun o => UserTable.collides emailUnique o u) with
  | true => rfl
  | false => simp [usersTable, User.row]

/-- The row with an id. -/
def idFilter (id : UserId) : Table.Filter := ⟨0, .equal, .integer id.value⟩

theorem holds_idFilter (id : UserId) (u : User) : (idFilter id).holds u.row = (u.id == id) := by
  have ids : u.id = id ↔ u.id.value = id.value := by
    cases u.id
    cases id
    simp
  rw [Table.Filter.holds, idFilter, Table.compare, User.rowValue_id, Table.equalValues_integer,
    Bool.eq_iff_iff, beq_iff_eq, beq_iff_eq, ids]

/-- What an update of a list of fields assigns. -/
def assigned (fields : List UserField) (u : User) : List (Nat × SqlValue) :=
  (fields.map UserField.position).zip (fields.map fun f => f.storedValue u)

theorem update_absent {id : UserId} (absent : ∀ o ∈ us, o.id ≠ id) (fields : List UserField)
    (u : User) :
    (usersTable name emailUnique last us).update (idFilter id) (assigned fields u) =
      .ok (usersTable name emailUnique last us, 0) := by
  have missed : ∀ r ∈ us.map User.row, (idFilter id).holds r = false := by
    simp only [List.forall_mem_map, holds_idFilter, beq_eq_false_iff_ne]
    exact absent
  rw [Table.update, rows_eq,
    Table.updateRows_none [] missed]
  rfl

theorem update_present {id : UserId} {pre post : List User} {current : User}
    (own : current.id = id) (others : ∀ o ∈ pre ++ post, o.id ≠ id) (fields : List UserField)
    (u : User) :
    let updated := UserField.copyAll fields u current
    ∃ message, (usersTable name emailUnique last (pre ++ current :: post)).update (idFilter id)
        (assigned fields u) =
      if (pre ++ post).any (fun o => UserTable.collides emailUnique o updated) then
        .error (.engine Failure.uniqueViolation (some message))
      else .ok (usersTable name emailUnique last (pre ++ updated :: post), 1) := by
  intro updated
  obtain ⟨message, checked⟩ := checkRow_row name emailUnique last (pre ++ current :: post)
    (pre ++ post) updated
  refine ⟨message, ?_⟩
  have missed : ∀ r ∈ (pre ++ post).map User.row, (idFilter id).holds r = false := by
    simp only [List.forall_mem_map, holds_idFilter, beq_eq_false_iff_ne]
    exact others
  rw [List.map_append, List.forall_mem_append] at missed
  have hit : (idFilter id).holds current.row = true := by
    rw [holds_idFilter, own, beq_self_eq_true]
  have row : Table.changed current.row (assigned fields u) = updated.row :=
    (User.row_copyAll fields u current).symm
  rw [Table.update, rows_eq, List.map_append, List.map_cons,
    Table.updateRows_one hit missed.2 [] missed.1, row, List.nil_append, ← List.map_append, checked]
  cases (pre ++ post).any (fun o => UserTable.collides emailUnique o updated) with
  | true => rfl
  | false => simp [usersTable]

theorem delete_eq (id : UserId) :
    (usersTable name emailUnique last us).delete (idFilter id) =
      (usersTable name emailUnique last (us.filter (fun u => u.id != id)),
        (us.map User.row).countP (idFilter id).holds) := by
  have kept : (us.map User.row).filter (fun r => !(idFilter id).holds r) =
      (us.filter (fun u => u.id != id)).map User.row := by
    rw [List.filter_map]
    simp only [Function.comp_def, holds_idFilter]
    rfl
  rw [Table.delete, rows_eq, kept]
  rfl

/-! ## Reading -/

theorem find?_eq (f : Table.Filter) :
    (usersTable name emailUnique last us).find? f =
      (us.find? (fun u => f.holds u.row)).map User.row := by
  rw [Table.find?, rows_eq,
    List.find?_map]
  rfl

end usersTable

namespace User

/-- Both instants of a user are stored so that they read back. -/
structure Readable (u : User) : Prop where
  dateJoined : u.dateJoined.IsStorable
  lastLogin : u.lastLogin.IsStorable

/-- The names under which a lookup answers. -/
def columnNames : List String := UserColumns.selected {}

/-- A row as the driver hands it out. -/
def scanned (u : User) : List SqlValue :=
  [.integer u.id.value, .text u.username, .text u.password, .text u.email, .text u.firstName,
    .text u.lastName, .bool u.isSuperuser, .bool u.isStaff, .bool u.isActive,
    .text u.dateJoined.storedText, .text u.lastLogin.storedText]

theorem readColumns_row (u : User) :
    Connection.readColumns 0 (UserEngine.scanKinds Bridge.textual)
      (columnNames.zip ((List.range 11).map (Table.rowValue u.row))) = .ok u.scanned := by
  have truth : ∀ b : Bool, ((if b then 1 else 0 : Int) != 0) = b := by decide
  have read : Connection.readColumns 0 (UserEngine.scanKinds Bridge.textual)
      (columnNames.zip ((List.range 11).map (Table.rowValue u.row))) =
    .ok [.integer u.id.value, .text u.username, .text u.password, .text u.email, .text u.firstName,
      .text u.lastName, .bool ((if u.isSuperuser then 1 else 0 : Int) != 0),
      .bool ((if u.isStaff then 1 else 0 : Int) != 0),
      .bool ((if u.isActive then 1 else 0 : Int) != 0),
      .text u.dateJoined.storedText, .text u.lastLogin.storedText] := rfl
  rw [read, truth, truth, truth]
  rfl

theorem readUser_scanned {u : User} (h : u.Readable) :
    UserEngine.readUser Bridge.textual ⟨u.scanned⟩ = .ok u :=
  UserEngine.readUser_carriedRow (Bridge.decode_storedText h.dateJoined)
    (Bridge.decode_storedText h.lastLogin) (fun _ => false) u.id.value

end User

end AccountStore
