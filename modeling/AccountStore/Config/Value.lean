/-
# AccountStore.Config.Value -- what a layer of the configuration says

A layer is a table of values.  Tables keep their keys in order, so that a
reader meets them sorted.  When layers lie on one another their tables merge
key by key; where only one of two values is a table, or neither is, the later
value stands.  Each merged value still knows where it was written.
-/
import AccountStore.Decimal.Layout
import AccountStore.Text.Quoted

namespace AccountStore.Config

set_option autoImplicit false

/-! Tables. -/

/-- Values under distinct keys in rising order. -/
abbrev Entries (α : Type) := List (String × α)

namespace Entries

variable {α : Type}

def get? : Entries α → String → Option α
  | [], _ => none
  | (k, v) :: rest, key => if k = key then some v else get? rest key

/-- The value stands under the key afterwards, whatever stood there. -/
def put : Entries α → String → α → Entries α
  | [], key, v => [(key, v)]
  | (k, w) :: rest, key, v =>
      if key = k then (key, v) :: rest
      else if key < k then (key, v) :: (k, w) :: rest
      else (k, w) :: put rest key v

theorem get?_put_self (t : Entries α) (key : String) (v : α) :
    (t.put key v).get? key = some v := by
  induction t with
  | nil => simp [put, get?]
  | cons p rest ih =>
      obtain ⟨k, w⟩ := p
      unfold put
      split
      · simp [get?]
      · rename_i h
        split
        · simp [get?]
        · simpa [get?, Ne.symm h] using ih

theorem get?_put_ne (t : Entries α) {key other : String} (v : α) (h : other ≠ key) :
    (t.put key v).get? other = t.get? other := by
  induction t with
  | nil => simp [put, get?, h.symm]
  | cons p rest ih =>
      obtain ⟨k, w⟩ := p
      unfold put
      split
      · rename_i e
        subst e
        simp [get?, h.symm]
      · split
        · simp [get?, h.symm]
        · simp [get?, ih]

end Entries

/-! Values. -/

inductive Value where
  | text (s : String)
  | truth (b : Bool)
  | signed (n : Int)
  | unsigned (n : Nat)
  | real (x : Binary64)
  | list (items : List Value)
  | table (entries : List (String × Value))

namespace Value

/-- How messages name a value that is not of the kind they expect. -/
def describe : Value → String
  | .text s => s!"string {Text.quoted s}"
  | .truth b => s!"bool {b}"
  | .signed n => s!"signed int `{n}`"
  | .unsigned n => s!"unsigned int `{n}`"
  | .real x => s!"float `{DecimalLayout.plain.write x}`"
  | .list _ => "sequence"
  | .table _ => "map"

end Value

/-! Merged values. -/

/-- Where a value was written. -/
inductive Source where
  /-- A text that was handed over. -/
  | given
  | file (path : String)
  | environment
  deriving DecidableEq, Repr

/-- A value with its source; the entries of a table may have sources of their
own.  A leaf is no table. -/
inductive Setting where
  | leaf (source : Source) (value : Value)
  | table (source : Source) (entries : List (String × Setting))

namespace Setting

def source : Setting → Source
  | .leaf s _ => s
  | .table s _ => s

mutual

/-- A value all of whose parts have one source. -/
def ofValue (s : Source) : Value → Setting
  | .table entries => .table s (ofEntries s entries)
  | v => .leaf s v

def ofEntries (s : Source) : List (String × Value) → Entries Setting
  | [] => []
  | (k, v) :: rest => (k, ofValue s v) :: ofEntries s rest

end

mutual

/-- A later value over an earlier one. -/
def overlay (old : Setting) : Setting → Setting
  | .leaf s v => .leaf s v
  | .table s new =>
      match old with
      | .leaf _ _ => .table s new
      | .table _ entries => .table s (overlayEntries entries new)

/-- Later entries over earlier ones. -/
def overlayEntries (old : Entries Setting) : List (String × Setting) → Entries Setting
  | [] => old
  | (k, v) :: rest =>
      overlayEntries (old.put k (match old.get? k with | none => v | some w => overlay w v)) rest

end

end Setting

end AccountStore.Config
