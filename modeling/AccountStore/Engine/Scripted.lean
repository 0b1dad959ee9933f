/-
# AccountStore.Engine.Scripted -- a backend that answers from a script

Three queues hold the answers to come, one queue per operation.  An empty queue
lets a batch or a statement succeed and a lookup find nothing.  Every call is
recorded with its statement, its parameters and the kinds it asks for.
-/
import AccountStore.Backend

namespace AccountStore

set_option autoImplicit false

structure Call where
  statement : String
  parameters : List SqlValue
  kinds : List ScanKind
  deriving DecidableEq, Repr

structure Script where
  batches : List (Except BatchFailure Unit) := []
  executions : List (Except DriverError Outcome) := []
  rows : List (Except DriverError Row) := []
  /-- The calls so far, the last one first. -/
  calls : List Call := []

namespace Script

def log (s : Script) (calls : List Call) : Script := { s with calls := calls.reverse ++ s.calls }

/-- What a statement reports when the script is silent. -/
def defaultOutcome : Outcome := ⟨some 1, some 1⟩

def runBatch (statements : List String) (s : Script) : Except BatchFailure Unit × Script :=
  let s := s.log (statements.map (fun t => ⟨t, [], []⟩))
  match s.batches with
  | [] => (.ok (), s)
  | r :: rest => (r, { s with batches := rest })

def execute (statement : String) (parameters : List SqlValue) (s : Script) :
    Except DriverError Outcome × Script :=
  let s := s.log [⟨statement, parameters, []⟩]
  match s.executions with
  | [] => (.ok defaultOutcome, s)
  | r :: rest => (r, { s with executions := rest })

def queryRow (statement : String) (parameters : List SqlValue) (kinds : List ScanKind)
    (s : Script) : Except DriverError Row × Script :=
  let s := s.log [⟨statement, parameters, kinds⟩]
  match s.rows with
  | [] => (.error .noRows, s)
  | r :: rest => (r, { s with rows := rest })

def backend : Backend Script where
  runBatch := runBatch
  execute := execute
  queryRow := queryRow

end Script

end AccountStore
