/-
# AccountStore.Value -- values on their way to and from a database

A value carries its kind.  A row hands out its values one column at a time,
and a value can be taken only once: taking leaves a null behind, also when the
value turns out to have the wrong kind.
-/
import AccountStore.Decimal.Binary64
import AccountStore.Instant.Basic

namespace AccountStore

set_option autoImplicit false

/-- The kind in which a column is asked for. -/
inductive ScanKind where
  | integer
  | real
  | bool
  | text
  | blob
  | timestamp
  deriving DecidableEq, Repr

def ScanKind.name : ScanKind → String
  | .integer => "integer"
  | .real => "real"
  | .bool => "bool"
  | .text => "text"
  | .blob => "blob"
  | .timestamp => "timestamp"

inductive SqlValue where
  | null
  | integer (n : Int)
  | real (x : Binary64)
  | bool (b : Bool)
  | text (s : String)
  | blob (bytes : List UInt8)
  | timestamp (t : Instant)
  deriving DecidableEq, Repr

namespace SqlValue

def typeName : SqlValue → String
  | .null => "null"
  | .integer _ => "integer"
  | .real _ => "real"
  | .bool _ => "bool"
  | .text _ => "text"
  | .blob _ => "blob"
  | .timestamp _ => "timestamp"

end SqlValue

end AccountStore
