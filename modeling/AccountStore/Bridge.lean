/-
# AccountStore.Bridge -- how instants travel, and what a duplicate looks like

Drivers disagree on two things: the value that stands for an instant, and the
error that reports a second row under a unique key.  A bridge settles both.
With `textual`, instants are fixed-width text and duplicates are result codes
of the engine; with `native`, both are what the driver says they are.
-/
import AccountStore.Error
import AccountStore.Value
import AccountStore.Instant.Written
import AccountStore.Instant.Reader

namespace AccountStore

set_option autoImplicit false

structure Bridge where
  /-- The kind in which columns of instants are asked for. -/
  timestampKind : ScanKind
  decode : SqlValue → Except StoreError Instant
  encode : Instant → SqlValue
  isDuplicateInsert : DriverError → Bool
  isDuplicateUpdate : DriverError → Bool

namespace Bridge

/-- Reads an instant from text in the strict interchange form. -/
def decodeText : SqlValue → Except StoreError Instant
  | .text s =>
      match Instant.parseStrict s.toList with
      | .ok t => .ok t
      | .error e => .error (.typeMismatch "RFC 3339 timestamp" s!"`{s}` ({e.message})")
  | .timestamp t => .ok t
  | other => .error (.typeMismatch "text" other.typeName)

/-- The engine refused a second row under a unique key or a primary key. -/
def isKeyViolation : DriverError → Bool
  | .failure (.engine code _) => code == Failure.uniqueViolation || code == Failure.primaryKeyViolation
  | _ => false

def textual : Bridge where
  timestampKind := .text
  decode := decodeText
  encode t := .text t.storedText
  isDuplicateInsert := isKeyViolation
  isDuplicateUpdate := isKeyViolation

def decodeNative : SqlValue → Except StoreError Instant
  | .timestamp t => .ok t
  | other => .error (.typeMismatch "timestamp" other.typeName)

def isDuplicateReport : DriverError → Bool
  | .failure (.duplicate _) => true
  | _ => false

def native : Bridge where
  timestampKind := .timestamp
  decode := decodeNative
  encode := .timestamp
  isDuplicateInsert := isDuplicateReport
  isDuplicateUpdate := isDuplicateReport

/-- The value of a user's field as a statement parameter. -/
def parameter (b : Bridge) : FieldValue → SqlValue
  | .plain v => v
  | .timestamp t => b.encode t

end Bridge

end AccountStore
