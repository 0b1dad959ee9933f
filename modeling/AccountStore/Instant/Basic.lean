/-
# AccountStore.Instant.Basic -- points in time

An instant is a number of seconds from the start of 1970 in UTC and a number
of nanoseconds past that second.  The nanoseconds of a leap second run on from
one to two thousand million, so the leap second follows every nanosecond of
the second that it extends and precedes the next second.  Instants are ordered
by seconds, then by nanoseconds.
-/
import AccountStore.Instant.Calendar

namespace AccountStore

set_option autoImplicit false

structure Instant where
  seconds : Int
  nanos : Nat
  deriving DecidableEq, Repr, Inhabited

def nanosPerSecond : Nat := 1000000000

namespace Instant

def epoch : Instant := ⟨0, 0⟩

def lt (a b : Instant) : Bool :=
  a.seconds < b.seconds || (a.seconds == b.seconds && a.nanos < b.nanos)

instance : LT Instant := ⟨fun a b => lt a b = true⟩

instance (a b : Instant) : Decidable (a < b) := inferInstanceAs (Decidable (lt a b = true))

/-- What a clock and a calendar show for an instant in UTC; a leap second is
second 60. -/
structure Reading where
  date : Date
  hour : Nat
  minute : Nat
  second : Nat
  nanos : Nat
  deriving DecidableEq, Repr

def secondsPerDay : Int := 86400

def reading (t : Instant) : Reading :=
  let day := t.seconds.fdiv secondsPerDay
  let s := (t.seconds - day * secondsPerDay).toNat
  let leap := decide (nanosPerSecond ≤ t.nanos)
  { date := Date.ofDayNumber day, hour := s / 3600, minute := s / 60 % 60,
    second := s % 60 + (if leap then 1 else 0),
    nanos := if leap then t.nanos - nanosPerSecond else t.nanos }

/-- The instant that a reading shows. -/
def ofReading (r : Reading) : Instant :=
  let leap := r.second == 60
  let second : Int := if leap then 59 else r.second
  { seconds := r.date.dayNumber * secondsPerDay + r.hour * 3600 + r.minute * 60 + second,
    nanos := r.nanos + (if leap then nanosPerSecond else 0) }

end Instant

end AccountStore
