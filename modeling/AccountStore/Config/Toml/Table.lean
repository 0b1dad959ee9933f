/-
# AccountStore.Config.Toml.Table -- how assignments and headers build tables

A dotted key makes the tables on its way, and a header makes the tables above
its own.  No key is given twice, and no table is opened twice: a header may
open a table that only stood above others so far, and dotted keys may add to a
table that dotted keys have made.  A header in double brackets adds a table to
a list; a path that leads through the list means the last table of it.
-/
import AccountStore.Config.Value

namespace AccountStore.Config.Toml

set_option autoImplicit false

/-- What made a table. -/
inductive Origin where
  | header
  /-- It stands above the table of a header. -/
  | above
  | dottedKey
  deriving DecidableEq, Repr

inductive Item where
  | value (v : Value)
  | table (origin : Origin) (entries : List (String × Item))
  /-- The tables of headers in double brackets. -/
  | tables (elements : List (List (String × Item)))

abbrev Items := Entries Item

/-- A key's path and its value. -/
abbrev Assignment := List String × Value

/-- Changes the last element, if there is one. -/
def changeLast {α : Type} (f : α → Option α) : List α → Option (List α)
  | [] => none
  | [x] => (f x).map (fun y => [y])
  | x :: rest => (changeLast f rest).map (x :: ·)

/-- Gives the value to the key at the end of the path. -/
def assign : List String → Value → Items → Option Items
  | [], _, _ => none
  | [key], v, t => if (t.get? key).isSome then none else some (t.put key (.value v))
  | key :: rest, v, t =>
      match t.get? key with
      | none => (assign rest v []).map (fun u => t.put key (.table .dottedKey u))
      | some (.value _) => none
      | some (.table origin u) =>
          if origin = .header || (origin = .above && rest.length == 1) then none
          else (assign rest v u).map (fun u => t.put key (.table origin u))
      | some (.tables elements) =>
          if rest.length == 1 then none
          else (changeLast (assign rest v) elements).map (fun es => t.put key (.tables es))

def assignAll (assignments : List Assignment) (t : Items) : Option Items :=
  assignments.foldlM (fun t a => assign a.1 a.2 t) t

/-- Changes the table that a path leads to, making the tables on the way. -/
def changeAt (f : Items → Option Items) : List String → Items → Option Items
  | [], t => f t
  | key :: rest, t =>
      match t.get? key with
      | none => (changeAt f rest []).map (fun u => t.put key (.table .above u))
      | some (.value _) => none
      | some (.table origin u) => (changeAt f rest u).map (fun u => t.put key (.table origin u))
      | some (.tables elements) =>
          (changeLast (changeAt f rest) elements).map (fun es => t.put key (.tables es))

/-- A header with the assignments below it. -/
structure Block where
  path : List String
  /-- The header stands in double brackets. -/
  repeated : Bool
  assignments : List Assignment

namespace Block

/-- Opens the table `key` in the table above it. -/
def openIn (b : Block) (key : String) (t : Items) : Option Items :=
  if b.repeated then
    match t.get? key with
    | none => (assignAll b.assignments []).map (fun u => t.put key (.tables [u]))
    | some (.tables es) =>
        (assignAll b.assignments []).map (fun u => t.put key (.tables (es ++ [u])))
    | some _ => none
  else
    match t.get? key with
    | none => (assignAll b.assignments []).map (fun u => t.put key (.table .header u))
    | some (.table .above u) =>
        (assignAll b.assignments u).map (fun u => t.put key (.table .header u))
    | some _ => none

def addTo (b : Block) (t : Items) : Option Items :=
  match b.path.getLast? with
  | none => none
  | some key => changeAt (b.openIn key) b.path.dropLast t

end Block

mutual

def Item.toValue : Item → Value
  | .value v => v
  | .table _ entries => .table (toEntries entries)
  | .tables elements => .list (toTables elements)

def toEntries : List (String × Item) → Entries Value
  | [] => []
  | (k, i) :: rest => (k, i.toValue) :: toEntries rest

def toTables : List (List (String × Item)) → List Value
  | [] => []
  | t :: rest => .table (toEntries t) :: toTables rest

end

end AccountStore.Config.Toml
