/-
# AccountStore.User -- user accounts and their fields

A user has an id and ten fields.  The fields are values of `UserField`, so
that lists of them say which part of a user an update touches; each has a name
for callers, a default column, and a value.  `copy` moves one field from one
user to another and leaves the rest alone.
-/
import AccountStore.Value
import AccountStore.Decimal.Reader

namespace AccountStore

set_option autoImplicit false

structure UserId where
  value : Int
  deriving DecidableEq, Repr

namespace UserId

/-- The id of a user that was never stored. -/
def invalid : UserId := ⟨-1⟩

def isValid (id : UserId) : Bool := id != invalid

def text (id : UserId) : String := toString id.value

end UserId

structure User where
  id : UserId := UserId.invalid
  firstName : String := ""
  lastName : String := ""
  username : String := ""
  email : String := ""
  password : String := ""
  isActive : Bool := false
  isSuperuser : Bool := false
  isStaff : Bool := false
  dateJoined : Instant := Instant.epoch
  lastLogin : Instant := Instant.epoch
  deriving DecidableEq, Repr

namespace User

/-- A fresh account that was never stored and never used. -/
def new (username email : String) : User :=
  { username := username, email := email }

def hasLoggedIn (u : User) : Bool := u.lastLogin != Instant.epoch

end User

inductive UserField where
  | username
  | password
  | email
  | firstName
  | lastName
  | isSuperuser
  | isStaff
  | isActive
  | dateJoined
  | lastLogin
  deriving DecidableEq, Repr

/-- A field's value: an instant still waits for its encoding. -/
inductive FieldValue where
  | plain (v : SqlValue)
  | timestamp (t : Instant)
  deriving DecidableEq, Repr

namespace UserField

/-- The fields in the order of rows and statements. -/
def all : List UserField :=
  [.username, .password, .email, .firstName, .lastName, .isSuperuser, .isStaff, .isActive,
    .dateJoined, .lastLogin]

theorem mem_all (f : UserField) : f ∈ all := by cases f <;> decide

def name : UserField → String
  | .username => "Username"
  | .password => "Password"
  | .email => "EMail"
  | .firstName => "FirstName"
  | .lastName => "LastName"
  | .isSuperuser => "IsSuperUser"
  | .isStaff => "IsStaff"
  | .isActive => "IsActive"
  | .dateJoined => "DateJoined"
  | .lastLogin => "LastLogin"

/-- The column of the field unless the caller chose another. -/
def column : UserField → String
  | .username => "username"
  | .password => "password"
  | .email => "email"
  | .firstName => "first_name"
  | .lastName => "last_name"
  | .isSuperuser => "is_superuser"
  | .isStaff => "is_staff"
  | .isActive => "is_active"
  | .dateJoined => "date_joined"
  | .lastLogin => "last_login"

def isTimestamp : UserField → Bool
  | .dateJoined | .lastLogin => true
  | _ => false

/-- The field of a name, in any case of ASCII letters. -/
def ofName? (s : String) : Option UserField :=
  all.find? (fun f => asciiLowerText f.name == asciiLowerText s)

def value (f : UserField) (u : User) : FieldValue :=
  match f with
  | .username => .plain (.text u.username)
  | .password => .plain (.text u.password)
  | .email => .plain (.text u.email)
  | .firstName => .plain (.text u.firstName)
  | .lastName => .plain (.text u.lastName)
  | .isSuperuser => .plain (.bool u.isSuperuser)
  | .isStaff => .plain (.bool u.isStaff)
  | .isActive => .plain (.bool u.isActive)
  | .dateJoined => .timestamp u.dateJoined
  | .lastLogin => .timestamp u.lastLogin

/-- `target` with this one field taken from `source`. -/
def copy (f : UserField) (source target : User) : User :=
  match f with
  | .username => { target with username := source.username }
  | .password => { target with password := source.password }
  | .email => { target with email := source.email }
  | .firstName => { target with firstName := source.firstName }
  | .lastName => { target with lastName := source.lastName }
  | .isSuperuser => { target with isSuperuser := source.isSuperuser }
  | .isStaff => { target with isStaff := source.isStaff }
  | .isActive => { target with isActive := source.isActive }
  | .dateJoined => { target with dateJoined := source.dateJoined }
  | .lastLogin => { target with lastLogin := source.lastLogin }

theorem value_copy_self (f : UserField) (source target : User) :
    f.value (f.copy source target) = f.value source := by cases f <;> rfl

theorem value_copy_of_ne {f g : UserField} (h : g ≠ f) (source target : User) :
    g.value (f.copy source target) = g.value target := by
  cases f <;> cases g <;> first | exact absurd rfl h | rfl

theorem id_copy (f : UserField) (source target : User) :
    (f.copy source target).id = target.id := by cases f <;> rfl

/-- The fields of a list, one after the other. -/
def copyAll (fields : List UserField) (source target : User) : User :=
  fields.foldl (fun t f => f.copy source t) target

end UserField

/-- The columns that hold users. -/
structure UserColumns where
  id : String := "id"
  column : UserField → String := UserField.column

namespace UserColumns

def default : UserColumns := {}

/-- The same columns but for one field. -/
def withColumn (c : UserColumns) (f : UserField) (name : String) : UserColumns :=
  { c with column := fun g => if g = f then name else c.column g }

/-- The field columns in canonical order. -/
def names (c : UserColumns) : List String := UserField.all.map c.column

/-- Every column has its default name. -/
def isDefault (c : UserColumns) : Bool :=
  c.id == default.id && UserField.all.all (fun f => c.column f == default.column f)

end UserColumns

end AccountStore
