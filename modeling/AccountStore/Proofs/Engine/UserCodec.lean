/-
# AccountStore.Proofs.Engine.UserCodec -- a user as a row, through any driver

A user is written as the parameters of its ten fields and read from eleven columns
by their places.  What comes between is the driver's: the bridge encodes instants as
it likes, and a driver without booleans has zero or one for them, for each column as
it likes (`carriedRow`).  Every place is then a column of the field that was written
there, in the kind in which that field is asked for (`kinds_eq`), and the row reads
back as the user (`readUser_carriedRow`).
-/
import Mathlib.Data.List.Forall2
import AccountStore.Engine.User
import AccountStore.Proofs.Instant.Stored

namespace AccountStore

set_option autoImplicit false

/-! ## What a driver carries -/

/-- The kind that a value has; a null has none. -/
def SqlValue.kind? : SqlValue → Option ScanKind
  | .null => none
  | .integer _ => some .integer
  | .real _ => some .real
  | .bool _ => some .bool
  | .text _ => some .text
  | .blob _ => some .blob
  | .timestamp _ => some .timestamp

/-- A value is asked for in its own kind, or zero or one as a truth value. -/
def ScanKind.Fits (k : ScanKind) (v : SqlValue) : Prop :=
  v.kind? = some k ∨ k = .bool ∧ (v = .integer 0 ∨ v = .integer 1)

namespace Bridge

/-- The kind in which a field with this value is asked for. -/
def kindOf? (b : Bridge) : FieldValue → Option ScanKind
  | .plain v => v.kind?
  | .timestamp _ => some b.timestampKind

/-- What a driver carries of a field's value; `counted` when it has zero or one for a
boolean. -/
def carried (b : Bridge) (counted : Bool) : FieldValue → SqlValue
  | .plain (.bool t) => if counted then .integer (if t then 1 else 0) else .bool t
  | v => b.parameter v

end Bridge

namespace UserEngine

variable {b : Bridge} {r : Row} {index : Nat}

/-- The row of a user under an id; `counted` says for which fields the driver has zero
or one for a boolean. -/
def carriedRow (b : Bridge) (counted : UserField → Bool) (id : Int) (u : User) : Row :=
  ⟨.integer id :: UserField.all.map fun f => b.carried (counted f) (f.value u)⟩

/-- A driver with booleans carries the parameters as they are. -/
theorem carriedRow_parameters (b : Bridge) (id : Int) (u : User) :
    carriedRow b (fun _ => false) id u = ⟨.integer id :: parameters b u UserField.all⟩ := rfl

/-! ## Taking what was carried -/

theorem takeBool_carried (counted : Bool) {t : Bool}
    (h : r.values[index]? = some (b.carried counted (.plain (.bool t)))) :
    (r.takeBool index).1 = .ok t := by
  simp only [Row.takeBool, Row.takeWith, Row.take, h, Bridge.carried]
  cases counted <;> cases t <;> rfl

theorem takeInstant_eq {v : SqlValue} (h : r.values[index]? = some v) :
    takeInstant b r index = b.decode v := by
  simp only [takeInstant, Row.take, h]

/-- **The row of a user reads back as the user**, if its instants do. -/
theorem readUser_carriedRow {u : User}
    (joined : b.decode (b.encode u.dateJoined) = .ok u.dateJoined)
    (login : b.decode (b.encode u.lastLogin) = .ok u.lastLogin) (counted : UserField → Bool)
    (id : Int) : readUser b (carriedRow b counted id u) = .ok { u with id := ⟨id⟩ } := by
  have isSuperuser : ((carriedRow b counted id u).takeBool 6).1 = .ok u.isSuperuser :=
    takeBool_carried (counted .isSuperuser) rfl
  have isStaff : ((carriedRow b counted id u).takeBool 7).1 = .ok u.isStaff :=
    takeBool_carried (counted .isStaff) rfl
  have isActive : ((carriedRow b counted id u).takeBool 8).1 = .ok u.isActive :=
    takeBool_carried (counted .isActive) rfl
  have dateJoined : takeInstant b (carriedRow b counted id u) 9 = .ok u.dateJoined := by
    rw [takeInstant_eq (v := b.encode u.dateJoined) rfl, joined]
  have lastLogin : takeInstant b (carriedRow b counted id u) 10 = .ok u.lastLogin := by
    rw [takeInstant_eq (v := b.encode u.lastLogin) rfl, login]
  rw [readUser, isSuperuser, isStaff, isActive, dateJoined, lastLogin]
  rfl

/-! ## Kinds -/

/-- The columns are asked for in the kinds of the fields that stand there. -/
theorem kinds_eq (b : Bridge) (id : Int) (u : User) :
    (scanKinds b).map some =
      (FieldValue.plain (.integer id) :: UserField.all.map fun f => f.value u).map b.kindOf? := rfl

/-- A field is carried in its kind, if the bridge writes instants in the kind in which
it asks for them. -/
theorem fits_carried {v : FieldValue} {k : ScanKind} (asked : b.kindOf? v = some k)
    (own : ∀ t, v = .timestamp t → (b.encode t).kind? = some b.timestampKind) (counted : Bool) :
    k.Fits (b.carried counted v) := by
  cases v with
  | timestamp t => exact .inl ((own t rfl).trans asked)
  | plain w =>
      cases w with
      | bool t =>
          cases counted with
          | false => exact .inl asked
          | true =>
              obtain rfl : ScanKind.bool = k := Option.some.inj asked
              cases t with
              | false => exact .inr ⟨rfl, .inl rfl⟩
              | true => exact .inr ⟨rfl, .inr rfl⟩
      | _ => exact .inl asked

theorem forall₂_fits {u : User} (counted : UserField → Bool) {fields : List UserField}
    (own : ∀ f ∈ fields, ∀ t, f.value u = .timestamp t → (b.encode t).kind? = some b.timestampKind) :
    ∀ {kinds : List ScanKind}, kinds.map some = fields.map (fun f => b.kindOf? (f.value u)) →
      List.Forall₂ ScanKind.Fits kinds (fields.map fun f => b.carried (counted f) (f.value u)) := by
  induction fields with
  | nil =>
      intro kinds aligned
      rw [List.map_eq_nil_iff.mp aligned]
      exact .nil
  | cons f rest ih =>
      intro kinds aligned
      obtain ⟨first, later⟩ := List.forall_mem_cons.mp own
      cases kinds with
      | nil => cases aligned
      | cons k kinds =>
          obtain ⟨here, there⟩ := List.cons.inj aligned
          exact .cons (fits_carried here.symm first (counted f)) (ih later there)

/-- **Places decide nothing else than fields do.**  Let a bridge read back what it
writes for the two instants of a user.  The row of an id and the parameters of all
fields, each boolean kept or counted as the driver likes, is read as the user under
that id; and the eleven columns are asked for in the kinds of what was written there,
in which the values come if the bridge keeps to its own kind. -/
theorem user_row_reads_back {b : Bridge} {u : User}
    (joined : b.decode (b.encode u.dateJoined) = .ok u.dateJoined)
    (login : b.decode (b.encode u.lastLogin) = .ok u.lastLogin) (id : Int)
    (counted : UserField → Bool) :
    carriedRow b (fun _ => false) id u = ⟨.integer id :: parameters b u UserField.all⟩ ∧
      readUser b (carriedRow b counted id u) = .ok { u with id := ⟨id⟩ } ∧
      (scanKinds b).map some =
        (FieldValue.plain (.integer id) :: UserField.all.map fun f => f.value u).map b.kindOf? ∧
      ((b.encode u.dateJoined).kind? = some b.timestampKind →
        (b.encode u.lastLogin).kind? = some b.timestampKind →
          List.Forall₂ ScanKind.Fits (scanKinds b) (carriedRow b counted id u).values) := by
  refine ⟨carriedRow_parameters b id u, readUser_carriedRow joined login counted id,
    kinds_eq b id u, fun ownJoined ownLogin => .cons (.inl rfl) (forall₂_fits counted ?_ ?_)⟩
  · intro f _ t instant
    cases f with
    | dateJoined =>
        cases instant
        exact ownJoined
    | lastLogin =>
        cases instant
        exact ownLogin
    | _ => cases instant
  · exact (List.cons.inj (kinds_eq b id u)).2

/-- Text for instants, a leap second among them, and zero or one for two of the three
booleans. -/
theorem user_row_reads_back_from_text :
    let u : User :=
      { username := "ada", password := "a", email := "ada@example.org", firstName := "Ada",
        lastName := "Lovelace", isSuperuser := true, isActive := true,
        dateJoined := ⟨1483228799, 1999999999⟩, lastLogin := Instant.epoch }
    let counted : UserField → Bool := fun f => f == .isSuperuser || f == .isStaff
    let b := Bridge.textual
    b.decode (b.encode u.dateJoined) = .ok u.dateJoined ∧
      b.decode (b.encode u.lastLogin) = .ok u.lastLogin ∧
      readUser b (carriedRow b counted 7 u) = .ok { u with id := ⟨7⟩ } ∧
      List.Forall₂ ScanKind.Fits (scanKinds b) (carriedRow b counted 7 u).values := by
  intro u counted b
  have joined : b.decode (b.encode u.dateJoined) = .ok u.dateJoined :=
    Bridge.decode_storedText ⟨by decide, by decide⟩
  have login : b.decode (b.encode u.lastLogin) = .ok u.lastLogin :=
    Bridge.decode_storedText ⟨by decide, by decide⟩
  obtain ⟨-, back, -, fits⟩ := user_row_reads_back joined login 7 counted
  exact ⟨joined, login, back, fits rfl rfl⟩

end UserEngine

end AccountStore
