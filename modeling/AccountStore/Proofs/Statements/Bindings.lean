/-
# AccountStore.Proofs.Statements.Bindings -- which placeholder stands for which column

A statement for users is put together from words of its own, from names that were given,
and from placeholders (`Fragment`).  A name may be anything, so a question mark in one is not
a placeholder.  Every placeholder of an update stands behind the name of its column
(`bound_updateFragments`): the listed columns in their order, then the id.  An insert names
all columns and has as many placeholders.  Where the names are plain, the database gives
each column the value that was bound at its place (`operands_numbered`).
-/
import AccountStore.Database.Table
import AccountStore.Proofs.Statements.Users

namespace AccountStore

set_option autoImplicit false

open Database

/-- A part of a statement: words of the statement itself, a name, or a placeholder. -/
inductive Fragment where
  | words (s : String)
  | name (s : String)
  | hole
  deriving DecidableEq, Repr

namespace Fragment

def written : Fragment → String
  | .words s => s
  | .name s => s
  | .hole => "?"

def text : List Fragment → String
  | [] => ""
  | p :: ps => p.written ++ text ps

def holes : List Fragment → Nat
  | [] => 0
  | .hole :: ps => holes ps + 1
  | _ :: ps => holes ps

def names : List Fragment → List String
  | [] => []
  | .name s :: ps => s :: names ps
  | _ :: ps => names ps

/-- For each placeholder the name that stands before it. -/
def bound (last : String) : List Fragment → List String
  | [] => []
  | .words _ :: ps => bound last ps
  | .name s :: ps => bound s ps
  | .hole :: ps => last :: bound last ps

@[simp] theorem text_nil : text [] = "" := rfl

@[simp] theorem text_words (s : String) (ps : List Fragment) :
    text (.words s :: ps) = s ++ text ps := rfl

@[simp] theorem text_name (s : String) (ps : List Fragment) :
    text (.name s :: ps) = s ++ text ps := rfl

@[simp] theorem text_hole (ps : List Fragment) : text (.hole :: ps) = "?" ++ text ps := rfl

@[simp] theorem holes_nil : holes [] = 0 := rfl

@[simp] theorem holes_words (s : String) (ps : List Fragment) :
    holes (.words s :: ps) = holes ps := rfl

@[simp] theorem holes_name (s : String) (ps : List Fragment) :
    holes (.name s :: ps) = holes ps := rfl

@[simp] theorem holes_hole (ps : List Fragment) : holes (.hole :: ps) = holes ps + 1 := rfl

@[simp] theorem names_nil : names [] = [] := rfl

@[simp] theorem names_words (s : String) (ps : List Fragment) :
    names (.words s :: ps) = names ps := rfl

@[simp] theorem names_name (s : String) (ps : List Fragment) :
    names (.name s :: ps) = s :: names ps := rfl

@[simp] theorem names_hole (ps : List Fragment) : names (.hole :: ps) = names ps := rfl

theorem text_append : ∀ ps qs : List Fragment, text (ps ++ qs) = text ps ++ text qs
  | [], qs => by simp [text]
  | p :: ps, qs => by
      rw [List.cons_append, text, text, text_append ps qs, String.append_assoc]

theorem holes_append : ∀ ps qs : List Fragment, holes (ps ++ qs) = holes ps + holes qs
  | [], qs => by simp [holes]
  | .hole :: ps, qs => by
      rw [List.cons_append, holes_hole, holes_hole, holes_append ps qs]
      omega
  | .words _ :: ps, qs => holes_append ps qs
  | .name _ :: ps, qs => holes_append ps qs

theorem names_append : ∀ ps qs : List Fragment, names (ps ++ qs) = names ps ++ names qs
  | [], _ => rfl
  | .name s :: ps, qs => congrArg (s :: ·) (names_append ps qs)
  | .words _ :: ps, qs => names_append ps qs
  | .hole :: ps, qs => names_append ps qs

/-- Every placeholder has one name. -/
theorem length_bound : ∀ (last : String) (ps : List Fragment), (bound last ps).length = holes ps
  | _, [] => rfl
  | last, .words _ :: ps => length_bound last ps
  | _, .name s :: ps => length_bound s ps
  | last, .hole :: ps => congrArg (· + 1) (length_bound last ps)

/-! ### Lists with commas -/

/-- The fragments of a list, a comma between two. -/
def listed {α : Type} (f : α → List Fragment) (xs : List α) : List Fragment :=
  [.words ", "].intercalate (xs.map f)

section Listed

variable {α : Type} {f : α → List Fragment}

theorem listed_cons_cons (x y : α) (rest : List α) :
    listed f (x :: y :: rest) = f x ++ .words ", " :: listed f (y :: rest) := by
  simp [listed, List.intercalate_cons_cons]

theorem text_listed : ∀ xs : List α,
    text (listed f xs) = ", ".intercalate (xs.map fun x => text (f x))
  | [] => rfl
  | [x] => by simp [listed]
  | x :: y :: rest => by
      have later := text_listed (y :: rest)
      rw [List.map_cons, String.intercalate_cons_of_ne_nil (by simp), ← later, listed_cons_cons,
        text_append, text_words, String.append_assoc]

/-- A list in which every item adds the same to a count. -/
theorem holes_listed {n : Nat} (each : ∀ x, holes (f x) = n) : ∀ xs : List α,
    holes (listed f xs) = xs.length * n
  | [] => by simp [listed]
  | [x] => by simp [listed, each]
  | x :: y :: rest => by
      have later := holes_listed each (y :: rest)
      rw [listed_cons_cons, holes_append, holes_words, later, each, Nat.add_comm, ← Nat.succ_mul]
      rfl

theorem names_listed : ∀ xs : List α, names (listed f xs) = xs.flatMap fun x => names (f x)
  | [] => rfl
  | [x] => by simp [listed]
  | x :: y :: rest => by
      have later := names_listed (y :: rest)
      rw [listed_cons_cons, names_append, names_words, later]
      rfl

end Listed

end Fragment

namespace UserStatements

open Fragment

variable (table : String) (c : UserColumns)

/-! ## Updates -/

/-- `column = ?` -/
def equation (column : String) : List Fragment := [.name column, .words " = ", .hole]

def updateFragments (fields : List UserField) : List Fragment :=
  .words "UPDATE " :: .name table :: .words " SET " ::
    (listed (fun f => equation (c.column f)) fields ++ .words " WHERE " :: equation c.id)

theorem text_updateFragments (fields : List UserField) :
    text (updateFragments table c fields) = updateText table c fields := by
  have said : ∀ column : String, text (equation column) = column ++ " = ?" := by
    intro column
    exact congrArg (column ++ ·) (by decide : " = " ++ ("?" ++ "") = " = ?")
  have assigned : text (listed (fun f => equation (c.column f)) fields) =
      ", ".intercalate (fields.map fun f => c.column f ++ " = ?") := by
    simp only [text_listed, said]
  have whole : updateText table c fields = "UPDATE " ++ table ++ " SET " ++
      ", ".intercalate (fields.map fun f => c.column f ++ " = ?") ++ " WHERE " ++ c.id ++ " = ?" :=
    rfl
  rw [updateFragments, text_words, text_name, text_words, text_append, text_words, assigned, said,
    whole]
  simp only [String.append_assoc]

/-- **Every placeholder of an update stands behind its column**: the listed ones in their
order, and the id in the end. -/
theorem bound_updateFragments (fields : List UserField) :
    bound "" (updateFragments table c fields) = fields.map c.column ++ [c.id] := by
  have assigned : ∀ (fields : List UserField) (last : String),
      bound last (listed (fun f => equation (c.column f)) fields ++
        .words " WHERE " :: equation c.id) = fields.map c.column ++ [c.id] := by
    intro fields
    induction fields with
    | nil =>
        intro last
        rfl
    | cons f rest ih =>
        intro last
        cases rest with
        | nil => rfl
        | cons g rest =>
            rw [listed_cons_cons]
            exact congrArg (c.column f :: ·) (ih (c.column f))
  exact assigned fields table

/-! ## Inserts -/

def insertFragments : List Fragment :=
  .words "INSERT INTO " :: .name table :: .words " (" ::
    (listed (fun s => [.name s]) c.names ++ .words ") VALUES (" ::
      (listed (fun _ => [.hole]) c.names ++ [.words ")"]))

theorem text_insertFragments : text (insertFragments table c) = insertText table c := by
  have columns : text (listed (fun s => [.name s]) c.names) = ", ".intercalate c.names := by
    simp only [text_listed, text_name, text_nil, String.append_empty, List.map_id']
  have holders : text (listed (fun _ => [.hole]) c.names) =
      ", ".intercalate (c.names.map fun _ => "?") :=
    text_listed c.names
  have last : text [.words ")"] = ")" := rfl
  have whole : insertText table c = "INSERT INTO " ++ table ++ " (" ++
      ", ".intercalate c.names ++ ") VALUES (" ++
        ", ".intercalate (c.names.map fun _ => "?") ++ ")" :=
    rfl
  rw [insertFragments, text_words, text_name, text_words, text_append, columns, text_words,
    text_append, holders, last, whole]
  simp only [String.append_assoc]

theorem names_insertFragments : names (insertFragments table c) = table :: c.names := by
  simp [insertFragments, names, names_append, names_listed, List.flatMap_singleton']

theorem holes_insertFragments : holes (insertFragments table c) = c.names.length := by
  have named := holes_listed (f := fun s => [Fragment.name s]) (n := 0) (fun _ => rfl) c.names
  have held := holes_listed (f := fun _ => [Fragment.hole]) (n := 1) (fun _ => rfl) c.names
  simp only [insertFragments, holes_words, holes_name, holes_append, holes_nil, named, held]
  omega

end UserStatements

/-- The parameters that are numbered along a list have the values that were bound in its
order; what was bound behind them does not count. -/
theorem Database.Table.operands_numbered {α : Type} (xs : List α) (value : α → SqlValue)
    (rest : List SqlValue) :
    ((xs.zipIdx 1).map fun p =>
        (p.1, Table.operand (xs.map value ++ rest) (.parameter p.2))) =
      xs.map fun x => (x, Table.stored (value x)) := by
  apply List.ext_getElem
  · simp
  · intro i hi hi'
    have inside : i < (xs.map value).length := by simpa using hi'
    have sent : (xs.map value ++ rest)[i]? = some (xs.map value)[i] := by
      rw [List.getElem?_append_left inside, List.getElem?_eq_getElem inside]
    simp [Table.operand, sent]

end AccountStore
