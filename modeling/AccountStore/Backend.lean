/-
# AccountStore.Backend -- a database connection as state and three operations

A backend over states `σ` runs a batch of statements in one transaction, runs
one statement for its effect, or asks for one row.  Every operation returns its
answer and the state after it, also when it fails.
-/
import AccountStore.Row

namespace AccountStore

set_option autoImplicit false

/-- What a statement reports; a driver may know neither number. -/
structure Outcome where
  rowsAffected : Option Nat
  lastInsertId : Option Int
  deriving DecidableEq, Repr

/-- Why a batch did not commit. -/
inductive BatchFailure where
  /-- The transaction could not be started. -/
  | start (cause : DriverError)
  /-- A statement failed and all before it was undone. -/
  | statement (cause : DriverError)
  /-- A statement failed and undoing failed as well. -/
  | rollback (initial undoing : DriverError)
  /-- Every statement ran but the last step failed. -/
  | commit (cause : DriverError)
  deriving DecidableEq, Repr

def BatchFailure.message : BatchFailure → String
  | .start cause => s!"begin failed: {cause.message}"
  | .statement cause => cause.message
  | .rollback initial undoing =>
      s!"statement failed: {initial.message}, unable to rollback: {undoing.message}"
  | .commit cause => s!"commit failed: {cause.message}"

structure Backend (σ : Type) where
  runBatch : List String → σ → Except BatchFailure Unit × σ
  execute : String → List SqlValue → σ → Except DriverError Outcome × σ
  queryRow : String → List SqlValue → List ScanKind → σ → Except DriverError Row × σ

namespace Backend

variable {σ : Type}

def isBlank (statement : String) : Bool := Text.allBlank statement.toList

/-- What a caller of `setUp` sees of a failed batch. -/
def batchError : BatchFailure → StoreError
  | .start cause => .driver cause
  | .statement cause => .driver cause
  | .rollback initial undoing => .rollback (.driver initial) (.driver undoing)
  | .commit cause => .commit cause

/-- Runs the statements that are not blank as one batch. -/
def setUp (b : Backend σ) (statements : List String) (s : σ) : Except StoreError Unit × σ :=
  match b.runBatch (statements.filter (fun t => !isBlank t)) s with
  | (.ok (), s) => (.ok (), s)
  | (.error e, s) => (.error (batchError e), s)

end Backend

end AccountStore
