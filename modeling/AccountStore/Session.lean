/-
# AccountStore.Session -- login sessions

A session belongs to a user and holds until its expiry, not including it.
-/
import AccountStore.User

namespace AccountStore

set_option autoImplicit false

structure Session where
  key : String
  user : UserId
  expires : Instant
  deriving DecidableEq, Repr

/-- The session still holds at an instant. -/
def Session.isValid (s : Session) (at' : Instant) : Bool := Instant.lt at' s.expires

end AccountStore
