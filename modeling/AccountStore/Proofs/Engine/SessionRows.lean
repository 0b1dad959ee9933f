/-
# AccountStore.Proofs.Engine.SessionRows -- sessions as rows

A session is stored as its key, its user and the text of its expiry, under a
number that nothing refers to.  The table of sessions is such rows.  A second
row under a key is refused, a removal asks each row the same question of one of
its columns, and a row reads back as its session when its expiry can be read.
-/
import AccountStore.Engine.Session
import AccountStore.Proofs.Database.Rows
import AccountStore.Proofs.Instant.Stored
import AccountStore.Proofs.Statements.Sessions

namespace AccountStore

set_option autoImplicit false

open Database

namespace Session

/-- The values of a session's columns. -/
def storedValues (x : Session) : List SqlValue :=
  [.text x.key, .integer x.user.value, .text x.expires.storedText]

def row (x : Session) (number : Int) : StoredRow := ⟨number, x.storedValues⟩

end Session

/-- The table of sessions, each with the number of its row. -/
def sessionsTable (name : String) (last : Int) (numbered : List (Int × Session)) : Table where
  name := name
  columns := [⟨"session_key", true⟩, ⟨"user_id", true⟩, ⟨"expire_date", true⟩]
  numberColumn := none
  autoIncrement := false
  uniqueKeys := [⟨0, Failure.primaryKeyViolation⟩]
  lastNumber := last
  rows := numbered.map fun p => p.2.row p.1

namespace sessionsTable

variable {name : String} {last : Int} {numbered : List (Int × Session)}

theorem rows_eq :
    (sessionsTable name last numbered).rows = numbered.map fun p => p.2.row p.1 := rfl

/-- Before the first insert. -/
theorem ofDefinitions (name : String) :
    Table.ofDefinitions name SessionStatements.columnDefinitions =
      .ok (sessionsTable name 0 []) := rfl

theorem insertedColumns_all (table : String) :
    Contents.insertedColumns (sessionsTable name last numbered) table
      ["session_key", "user_id", "expire_date"] = .ok [0, 1, 2] := rfl

/-! ## Writing -/

/-- Whether a session has the key. -/
def taken (numbered : List (Int × Session)) (key : String) : Bool :=
  numbered.any fun p => p.2.key == key

/-- A row may stand beside the others when its key is free. -/
theorem checkRow_row (x : Session) (number : Int) :
    ∃ message, (sessionsTable name last numbered).checkRow
        (sessionsTable name last numbered).rows (x.row number) =
      if taken numbered x.key then
        .error (.engine Failure.primaryKeyViolation (some message))
      else .ok () := by
  have full : (sessionsTable name last numbered).emptyColumn? (x.row number) = none := rfl
  have hits : (sessionsTable name last numbered).rows.any (fun o =>
      Table.equalValues (Table.rowValue o 0) (Table.rowValue (x.row number) 0)) =
      taken numbered x.key := by
    rw [rows_eq, List.any_map, taken]
    exact congrArg (List.any numbered) (funext fun p => Table.equalValues_text p.2.key x.key)
  have violated : (sessionsTable name last numbered).violatedKey?
      (sessionsTable name last numbered).rows (x.row number) =
      if taken numbered x.key then some ⟨0, Failure.primaryKeyViolation⟩ else none := by
    rw [Table.violatedKey?, show (sessionsTable name last numbered).uniqueKeys =
      [⟨0, Failure.primaryKeyViolation⟩] from rfl, List.find?_cons, hits]
    cases taken numbered x.key <;> rfl
  rw [Table.checkRow_of_full full, violated]
  cases taken numbered x.key with
  | true => exact ⟨_, rfl⟩
  | false => exact ⟨"", rfl⟩

theorem insert_eq (x : Session) :
    ∃ message number, (sessionsTable name last numbered).insert ([0, 1, 2].zip x.storedValues) =
      if taken numbered x.key then
        .error (.engine Failure.primaryKeyViolation (some message))
      else .ok (sessionsTable name number (numbered ++ [(number, x)])) := by
  obtain ⟨message, checked⟩ := @checkRow_row name last numbered x
    (sessionsTable name last numbered).nextNumber
  refine ⟨message, (sessionsTable name last numbered).nextNumber, ?_⟩
  have row : (⟨(sessionsTable name last numbered).nextNumber,
      (sessionsTable name last numbered).newValues (sessionsTable name last numbered).nextNumber
        ([0, 1, 2].zip x.storedValues)⟩ : StoredRow) =
      x.row (sessionsTable name last numbered).nextNumber := rfl
  rw [Table.insert, row, checked]
  cases taken numbered x.key with
  | true => rfl
  | false => simp [sessionsTable, Session.row]

/-- A removal goes by what its condition says of the sessions. -/
theorem delete_eq {f : Table.Filter} {condition : Session → Bool}
    (holds : ∀ x number, f.holds (Session.row x number) = condition x) :
    (sessionsTable name last numbered).delete f =
      (sessionsTable name last (numbered.filter fun p => !condition p.2),
        numbered.countP fun p => condition p.2) := by
  have kept : (numbered.map fun p => p.2.row p.1).filter (fun r => !f.holds r) =
      (numbered.filter fun p => !condition p.2).map fun p => p.2.row p.1 := by
    rw [List.filter_map]
    simp only [Function.comp_def, holds]
  have counted : (numbered.map fun p => p.2.row p.1).countP f.holds =
      numbered.countP fun p => condition p.2 := by
    rw [List.countP_map]
    simp only [Function.comp_def, holds]
  rw [Table.delete, rows_eq, kept, counted]
  rfl

/-! ## Reading -/

/-- The row of a key. -/
def keyFilter (key : String) : Table.Filter := ⟨0, .equal, .text key⟩

theorem filter_key (key : String) :
    (sessionsTable name last numbered).filter [.text key]
      (SessionStatements.compared "session_key" .equal) = .ok (keyFilter key) := rfl

theorem holds_keyFilter (key : String) (x : Session) (number : Int) :
    (keyFilter key).holds (x.row number) = (x.key == key) :=
  Table.equalValues_text x.key key

/-- The rows of a user. -/
def userFilter (user : UserId) : Table.Filter := ⟨1, .equal, .integer user.value⟩

theorem filter_user (user : UserId) :
    (sessionsTable name last numbered).filter [.integer user.value]
      (SessionStatements.compared "user_id" .equal) = .ok (userFilter user) := rfl

theorem holds_userFilter (user : UserId) (x : Session) (number : Int) :
    (userFilter user).holds (x.row number) = (x.user == user) := by
  have ids : x.user = user ↔ x.user.value = user.value := by
    cases x.user
    cases user
    simp
  have held : (userFilter user).holds (x.row number) =
      Table.equalValues (.integer x.user.value) (.integer user.value) := rfl
  rw [held, Table.equalValues_integer, Bool.eq_iff_iff, beq_iff_eq, beq_iff_eq, ids]

/-- The rows whose expiry is written before an instant or as it. -/
def expiredFilter (reference : Instant) : Table.Filter := ⟨2, .atMost, .text reference.storedText⟩

/-- What the sweep takes for expired: texts are compared and not instants. -/
def sweeps (reference : Instant) (x : Session) : Bool :=
  decide (x.expires.storedText ≤ reference.storedText)

theorem filter_expired (reference : Instant) :
    (sessionsTable name last numbered).filter [.text reference.storedText]
      (SessionStatements.compared "expire_date" .atMost) = .ok (expiredFilter reference) := rfl

theorem holds_expiredFilter (reference : Instant) (x : Session) (number : Int) :
    (expiredFilter reference).holds (x.row number) = sweeps reference x := rfl

theorem find?_eq (key : String) :
    (sessionsTable name last numbered).find? (keyFilter key) =
      (numbered.find? fun p => p.2.key == key).map fun p => p.2.row p.1 := by
  rw [Table.find?, rows_eq, List.find?_map]
  refine congrArg (Option.map _) (congrArg (List.find? · numbered) (funext fun p => ?_))
  exact holds_keyFilter key p.2 p.1

end sessionsTable

namespace Session

/-- The names under which a lookup answers. -/
def columnNames : List String := ["session_key", "user_id", "expire_date"]

theorem readColumns_row (x : Session) (number : Int) :
    Connection.readColumns 0 (SessionEngine.scanKinds Bridge.textual)
      (columnNames.zip ([0, 1, 2].map (Table.rowValue (x.row number)))) = .ok x.storedValues := rfl

/-- A session is read with whatever its expiry reads as. -/
theorem readSession_eq (x : Session) :
    SessionEngine.readSession Bridge.textual ⟨x.storedValues⟩ =
      (Bridge.textual.decode (.text x.expires.storedText)).map (⟨x.key, x.user, ·⟩) := by
  have taken : UserEngine.takeInstant Bridge.textual ⟨x.storedValues⟩ 2 =
      Bridge.textual.decode (.text x.expires.storedText) := rfl
  rw [SessionEngine.readSession, taken]
  cases Bridge.textual.decode (.text x.expires.storedText) <;> rfl

end Session

end AccountStore
