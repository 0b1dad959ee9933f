/-
# AccountStore.Row -- one answer of a query

Columns are taken by position.  Whatever the answer, the position holds a null
afterwards; a position past the end is refused and changes nothing.
-/
import AccountStore.Error

namespace AccountStore

set_option autoImplicit false

structure Row where
  values : List SqlValue
  deriving DecidableEq, Repr

namespace Row

def size (r : Row) : Nat := r.values.length

def take (r : Row) (index : Nat) : Except StoreError SqlValue × Row :=
  match r.values[index]? with
  | some v => (.ok v, ⟨r.values.set index .null⟩)
  | none => (.error (.typeMismatch "column" s!"row with {r.size} columns"), r)

/-- Takes a value and reads it with `read`, which fails with a type name. -/
def takeWith {α : Type} (expected : String) (read : SqlValue → Option α) (r : Row) (index : Nat) :
    Except StoreError α × Row :=
  match r.take index with
  | (.error e, r) => (.error e, r)
  | (.ok v, r) =>
      match read v with
      | some a => (.ok a, r)
      | none => (.error (.typeMismatch expected v.typeName), r)

def readInteger : SqlValue → Option Int
  | .integer n => some n
  | _ => none

def readText : SqlValue → Option String
  | .text s => some s
  | _ => none

/-- A boolean, or an integer that counts as true unless it is zero. -/
def readBool : SqlValue → Option Bool
  | .bool b => some b
  | .integer n => some (n != 0)
  | _ => none

def takeInteger : Row → Nat → Except StoreError Int × Row := takeWith "integer" readInteger

def takeText : Row → Nat → Except StoreError String × Row := takeWith "text" readText

def takeBool : Row → Nat → Except StoreError Bool × Row := takeWith "bool" readBool

theorem size_take (r : Row) (index : Nat) : (r.take index).2.size = r.size := by
  unfold take
  split <;> simp [size]

end Row

end AccountStore
