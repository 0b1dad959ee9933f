/-
# AccountStore.Interchange.Account -- users and sessions as JSON
-/
import AccountStore.Interchange.Record
import AccountStore.Session

namespace AccountStore

set_option autoImplicit false

namespace Interchange

variable {ρ : Type}

/-- A member with a reader for its value, a change and a view. -/
def Member.of {α : Type} (name : String) (read : List Char → Read α) (write : α → List Char)
    (set : α → ρ → ρ) (get : ρ → α) : Member ρ where
  name := name
  read s := (read s).map (fun p => (set p.1, p.2))
  write record := write (get record)

def integerMember (name : String) : (Int → ρ → ρ) → (ρ → Int) → Member ρ :=
  Member.of name readInteger writeInteger

def textMember (name : String) : (String → ρ → ρ) → (ρ → String) → Member ρ :=
  Member.of name readString writeString

def flagMember (name : String) : (Bool → ρ → ρ) → (ρ → Bool) → Member ρ :=
  Member.of name readFlag writeFlag

def instantMember (name : String) : (Instant → ρ → ρ) → (ρ → Instant) → Member ρ :=
  Member.of name readInstant writeInstant

end Interchange

open Interchange

def User.format : RecordFormat User where
  title := "UserModel"
  members :=
    [integerMember "id" (fun n u => { u with id := ⟨n⟩ }) (fun u => u.id.value),
      textMember "first_name" (fun s u => { u with firstName := s }) User.firstName,
      textMember "last_name" (fun s u => { u with lastName := s }) User.lastName,
      textMember "username" (fun s u => { u with username := s }) User.username,
      textMember "email" (fun s u => { u with email := s }) User.email,
      textMember "password" (fun s u => { u with password := s }) User.password,
      flagMember "is_active" (fun b u => { u with isActive := b }) User.isActive,
      flagMember "is_superuser" (fun b u => { u with isSuperuser := b }) User.isSuperuser,
      flagMember "is_staff" (fun b u => { u with isStaff := b }) User.isStaff,
      instantMember "date_joined" (fun t u => { u with dateJoined := t }) User.dateJoined,
      instantMember "last_login" (fun t u => { u with lastLogin := t }) User.lastLogin]
  blank := {}

def Session.format : RecordFormat Session where
  title := "SessionEntry"
  members :=
    [textMember "key" (fun k s => { s with key := k }) Session.key,
      integerMember "user" (fun n s => { s with user := ⟨n⟩ }) (fun s => s.user.value),
      instantMember "expire_date" (fun t s => { s with expires := t }) Session.expires]
  blank := ⟨"", UserId.invalid, Instant.epoch⟩

end AccountStore
