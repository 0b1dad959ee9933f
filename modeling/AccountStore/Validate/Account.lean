/-
# AccountStore.Validate.Account -- checks on an account before it is stored

A verifier accepts a user or names the one fault that it looks for.  A list of
verifiers accepts when each does, and the first refusal decides.  Lengths
count characters.
-/
import AccountStore.Validate.Grammar
import AccountStore.Session
import AccountStore.Text.Blank

namespace AccountStore

set_option autoImplicit false

inductive ValidationError where
  | emptyUsername
  | emptyEmail
  | emptyPassword
  | invalidEmailSyntax
  | invalidUsernameSyntax
  | invalidFirstNameSyntax
  | invalidLastNameSyntax
  | tooLong (field : String) (max : Nat)
  deriving DecidableEq, Repr

def ValidationError.message : ValidationError → String
  | .emptyUsername => "no username given"
  | .emptyEmail => "no email given"
  | .emptyPassword => "no password set"
  | .invalidEmailSyntax => "invalid syntax in email"
  | .invalidUsernameSyntax => "invalid username syntax"
  | .invalidFirstNameSyntax => "invalid first name"
  | .invalidLastNameSyntax => "invalid last name"
  | .tooLong field max => s!"{field} is longer than {max} characters"

namespace Validate

abbrev Verdict := Except ValidationError Unit

abbrev Verifier := User → Verdict

/-- Accepts, or refuses with the given fault. -/
def accept (ok : Bool) (fault : ValidationError) : Verdict := if ok then .ok () else .error fault

def usernameMaxLength : Nat := 150
def passwordMaxLength : Nat := 270
def emailMaxLength : Nat := 254
def firstNameMaxLength : Nat := 50
def lastNameMaxLength : Nat := 150

def isPresent (s : String) : Bool := !Text.allBlank s.toList

def emailSyntax (s : String) : Verdict := accept (isEmail s.toList) .invalidEmailSyntax

def usernameSyntax (s : String) : Verdict := accept (isUsername s.toList) .invalidUsernameSyntax

def firstNameSyntax (s : String) : Verdict := accept (isName s.toList) .invalidFirstNameSyntax

def lastNameSyntax (s : String) : Verdict := accept (isName s.toList) .invalidLastNameSyntax

def maxLength (field : String) (max : Nat) (s : String) : Verdict :=
  accept (decide (s.toList.length ≤ max)) (.tooLong field max)

def usernameLength : String → Verdict := maxLength "username" usernameMaxLength

def passwordLength : String → Verdict := maxLength "password" passwordMaxLength

def emailLength : String → Verdict := maxLength "email" emailMaxLength

def firstNameLength : String → Verdict := maxLength "first name" firstNameMaxLength

def lastNameLength : String → Verdict := maxLength "last name" lastNameMaxLength

def usernamePresent : Verifier := fun u => accept (isPresent u.username) .emptyUsername

def emailPresent : Verifier := fun u => accept (isPresent u.email) .emptyEmail

def passwordPresent : Verifier := fun u => accept (isPresent u.password) .emptyPassword

def emailWellFormed : Verifier := fun u => emailSyntax u.email

/-- Every verifier accepts; the first refusal decides. -/
def all : List Verifier → Verifier
  | [], _ => .ok ()
  | v :: rest, u =>
      match v u with
      | .ok () => all rest u
      | .error e => .error e

/-- The five length limits, in the order username, password, email, first name, last name. -/
def standardLengths : Verifier :=
  all [fun u => usernameLength u.username, fun u => passwordLength u.password,
    fun u => emailLength u.email, fun u => firstNameLength u.firstName,
    fun u => lastNameLength u.lastName]

theorem accept_eq_ok_iff (b : Bool) (e : ValidationError) : accept b e = .ok () ↔ b = true := by
  cases b <;> simp [accept]

end Validate

end AccountStore
