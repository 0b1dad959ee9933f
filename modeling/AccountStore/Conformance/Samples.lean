/-
# AccountStore.Conformance.Samples -- the users and sessions of the checks
-/
import AccountStore.Session
import AccountStore.SessionKey

namespace AccountStore.Conformance

set_option autoImplicit false

/-- Three users that go into an empty store one after the other. -/
def sampleUsers : List User :=
  [{ User.new "user1" "user1@foo.com" with firstName := "Foo", isActive := true },
    { User.new "user2" "user2@bar.com" with isActive := true, isSuperuser := true, isStaff := true },
    { User.new "user-three" "user3@something.org" with isActive := true, isSuperuser := true }]

/-- Shares the username of the first sample. -/
def duplicateUsername : User := User.new "user1" "something@something.com"

/-- Shares the email address of the third sample and nothing else. -/
def duplicateEmail : User := User.new "user5" "user3@something.org"

/-- Midnight of a day in September 2019. -/
def day (d : Nat) : Instant := Instant.ofReading ⟨⟨2019, 9, d⟩, 0, 0, 0, 0⟩

/-- A key of one repeated character. -/
def keyOf (c : Char) : String := String.ofList (List.replicate SessionKey.length c)

def sampleSessions : List Session :=
  [⟨keyOf 'A', ⟨1⟩, day 9⟩, ⟨keyOf 'B', ⟨2⟩, day 10⟩, ⟨keyOf 'C', ⟨3⟩, day 12⟩]

/-- Between the expiry of the second sample and of the third. -/
def sweepReference : Instant := day 11

def missingKeys : List String := [keyOf 'X', keyOf 'Y', keyOf 'Z']

/-- Nanoseconds from the start of 1970. -/
def nanoseconds (t : Instant) : Int := t.seconds * nanosPerSecond + t.nanos

/-- An instant some nanoseconds later, or earlier. -/
def shift (t : Instant) (nanos : Int) : Instant :=
  let n := nanoseconds t + nanos
  ⟨n.fdiv nanosPerSecond, (n.fmod nanosPerSecond).toNat⟩

/-- At most one second lies between two instants. -/
def closeInTime (a b : Instant) : Bool :=
  decide ((nanoseconds a - nanoseconds b).natAbs ≤ nanosPerSecond)

/-- Two users agree in every field, in instants up to a second. -/
def sameUser (want got : User) : Bool :=
  UserField.all.all (fun f =>
    match f.value want, f.value got with
    | .plain a, .plain b => a == b
    | .timestamp a, .timestamp b => closeInTime a b
    | _, _ => false)

def sameSession (want got : Session) : Bool :=
  want.key == got.key && want.user == got.user && closeInTime want.expires got.expires

end AccountStore.Conformance
