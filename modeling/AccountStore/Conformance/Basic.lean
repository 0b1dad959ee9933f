/-
# AccountStore.Conformance.Basic -- checks on a store and what they find

A check runs a store through a scene and stops at the first thing that is not
as it should be.  A finding says what was claimed and what was seen instead.
-/
import AccountStore.Store.Retry
import AccountStore.Text.Quoted

namespace AccountStore

set_option autoImplicit false

/-! ## How errors are shown -/

def UserId.shown (id : UserId) : String := s!"UserId({id.value})"

def UserLookup.shown : UserLookup → String
  | .byId id => s!"Id({id.shown})"
  | .byUsername name => s!"Username({Text.quoted name})"
  | .byEmail address => s!"Email({Text.quoted address})"

def DriverError.shown : DriverError → String
  | .noRows => "NoRows"
  | .failure cause => s!"Failure({Text.quoted cause.message})"

mutual

/-- An error by its constructor and data. -/
def StoreError.shown : StoreError → String
  | .noSuchUser lookup => s!"NoSuchUser({lookup.shown})"
  | .noSuchSession key => s!"NoSuchSession \x7b key: {Text.quoted key} \x7d"
  | .userExists detail => s!"UserExists({Text.quoted detail})"
  | .sessionExists key => s!"SessionExists \x7b key: {Text.quoted key} \x7d"
  | .ambiguousUpdate detail => s!"AmbiguousUpdate({Text.quoted detail})"
  | .unsupported operation => s!"Unsupported({Text.quoted operation})"
  | .rollback initial undoing =>
      s!"Rollback \x7b initial: {shown initial}, rollback: {shown undoing} \x7d"
  | .retryExhausted collisions =>
      "RetryExhausted \x7b collisions: [" ++ ", ".intercalate (shownList collisions) ++ "] \x7d"
  | .unknownField name => s!"UnknownField({Text.quoted name})"
  | .typeMismatch expected found =>
      s!"TypeMismatch \x7b expected: {Text.quoted expected}, found: {Text.quoted found} \x7d"
  | .keyGeneration detail => s!"KeyGeneration({Text.quoted detail})"
  | .invalidTableName name => s!"InvalidTableName({Text.quoted name})"
  | .notInitialized => "NotInitialized"
  | .alreadyInitialized => "AlreadyInitialized"
  | .commit cause => s!"Commit({cause.shown})"
  | .template .emptyKey => "Template(EmptyKey)"
  | .driver cause => s!"Driver({cause.shown})"

def StoreError.shownList : List StoreError → List String
  | [] => []
  | e :: rest => shown e :: shownList rest

end

namespace Conformance

/-- A value that a check did not expect to get. -/
inductive Seen where
  | nothing
  | userId (id : UserId)
  /-- A user or a session; it is not shown. -/
  | record
  deriving DecidableEq, Repr

inductive Finding where
  /-- A call failed that must succeed. -/
  | failed (claim : String) (cause : StoreError)
  /-- The same, where the claim goes without saying. -/
  | failedPlainly (cause : StoreError)
  /-- An insert failed. -/
  | insertFailed (username : String) (cause : StoreError)
  /-- A call succeeded that must fail. -/
  | succeeded (claim : String) (value : Seen)
  /-- A call failed with another error than it should. -/
  | wrongError (cause : StoreError)
  | wrongErrorFor (expected : String) (cause : StoreError)
  /-- Two values differ. -/
  | unequal (claim : Option String)
  /-- Two values agree that must differ. -/
  | agreed
  | untrue (condition : String)
  | refuted (claim : String)
  deriving Repr

def Seen.suffix : Seen → String
  | .nothing => ": ()"
  | .userId id => s!": {id.shown}"
  | .record => ""

/-- A claim and the error that refutes it; a missing session is not shown. -/
def withCause (claim : String) : StoreError → String
  | .noSuchSession _ => claim
  | e => s!"{claim}: {e.shown}"

def Finding.message : Finding → String
  | .failed claim cause => withCause claim cause
  | .failedPlainly cause => withCause "called `Result::unwrap()` on an `Err` value" cause
  | .insertFailed username cause => s!"insert of {username} failed: {cause.message}"
  | .succeeded claim value => claim ++ value.suffix
  | .wrongError cause => s!"got {cause.shown}"
  | .wrongErrorFor expected cause => s!"expected {expected}, got {cause.shown}"
  | .unequal none => "assertion `left == right` failed"
  | .unequal (some claim) => s!"assertion `left == right` failed: {claim}"
  | .agreed => "assertion `left != right` failed"
  | .untrue condition => s!"assertion failed: {condition}"
  | .refuted claim => claim

/-- A check over stores with states `σ`. -/
abbrev Check (σ α : Type) := ExceptT Finding (StateM σ) α

variable {σ α : Type}

/-- One call of the store. -/
def call (f : σ → Except StoreError α × σ) : Check σ (Except StoreError α) :=
  ExceptT.mk (fun s => (.ok (f s).1, (f s).2))

def find (f : Finding) : Check σ α := ExceptT.mk (fun s => (.error f, s))

def require (holds : Bool) (f : Finding) : Check σ Unit := if holds then pure () else find f

/-- The value of a call that must succeed. -/
def succeeds (claim : String) (f : σ → Except StoreError α × σ) : Check σ α := do
  match ← call f with
  | .ok a => pure a
  | .error e => find (.failed claim e)

def succeedsPlainly (f : σ → Except StoreError α × σ) : Check σ α := do
  match ← call f with
  | .ok a => pure a
  | .error e => find (.failedPlainly e)

/-- The error of a call that must fail. -/
def fails (claim : String) (seen : α → Seen) (f : σ → Except StoreError α × σ) :
    Check σ StoreError := do
  match ← call f with
  | .ok a => find (.succeeded claim (seen a))
  | .error e => pure e

/-- A check over every member of a list. -/
def each {β : Type} (f : β → Check σ Unit) : List β → Check σ Unit
  | [] => pure ()
  | b :: rest => do
      f b
      each f rest

/-- What a check finds in a fresh store, if anything. -/
def run (c : Check σ Unit) (s : σ) : Option Finding :=
  match ((c.run).run s).1 with
  | .ok () => none
  | .error f => some f

end Conformance

end AccountStore
