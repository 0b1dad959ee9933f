/-
# AccountStore.Template -- placeholders in statement texts

A template holds pairs of a placeholder and its text, and a compiled copy of
them that `apply` uses.  Substitution goes from left to right in one pass: at
each position the longest placeholder that starts there is replaced, and what
was put in is not looked at again.  An empty placeholder is refused; the pairs
before it in the same call stay in the table, but the compiled copy keeps its
old state until a later change succeeds.
-/
import AccountStore.Error

namespace AccountStore

set_option autoImplicit false

/-- Placeholders and their texts, each placeholder at most once. -/
abbrev Placeholders := List (String × String)

namespace Placeholders

def insert (ps : Placeholders) (key value : String) : Placeholders :=
  match ps with
  | [] => [(key, value)]
  | (k, v) :: rest => if k = key then (k, value) :: rest else (k, v) :: insert rest key value

def erase (ps : Placeholders) (key : String) : Placeholders := ps.filter (fun p => p.1 != key)

def get? (ps : Placeholders) (key : String) : Option String := ps.lookup key

end Placeholders

namespace Substitution

/-- The longest nonempty key that the text starts with, and what it becomes. -/
def longestMatch : Placeholders → List Char → Option (String × String)
  | [], _ => none
  | (k, v) :: rest, s =>
      let best := longestMatch rest s
      if k.toList.isPrefixOf s && k != "" then
        match best with
        | some (k', v') =>
            if k.toList.length < k'.toList.length then some (k', v') else some (k, v)
        | none => some (k, v)
      else best

/-- Replaces the placeholders of a text in one pass. -/
def run (ps : Placeholders) : List Char → List Char
  | [] => []
  | c :: r =>
      match longestMatch ps (c :: r) with
      | some (k, v) => v.toList ++ run ps (r.drop (k.toList.length - 1))
      | none => c :: run ps r
termination_by s => s.length
decreasing_by
  · simp only [List.length_drop, List.length_cons]
    omega
  · simp

theorem run_nil (ps : Placeholders) : run ps [] = [] := by simp [run]

end Substitution

structure Template where
  entries : Placeholders := []
  compiled : Placeholders := []
  deriving DecidableEq, Repr

namespace Template

/-- The placeholders of the statements of this library. -/
def usersTable : String := "$USERS_TABLE_NAME$"
def sessionsTable : String := "$SESSIONS_TABLE_NAME$"
def emailUnique : String := "$EMAIL_UNIQUE$"

def empty : Template := {}

/-- A table whose compiled copy is up to date. -/
def ofEntries (ps : Placeholders) : Template := ⟨ps, ps⟩

/-- The default table names, with unique email addresses. -/
def defaults : Template :=
  ofEntries [(usersTable, "auth_user"), (sessionsTable, "auth_session"), (emailUnique, "UNIQUE")]

/-- Inserts pairs up to the first empty placeholder; `false` when there is one. -/
def insertUntilEmpty : Placeholders → List (String × String) → Placeholders × Bool
  | ps, [] => (ps, true)
  | ps, (k, v) :: rest =>
      if k = "" then (ps, false) else insertUntilEmpty (ps.insert k v) rest

def setMany (t : Template) (pairs : List (String × String)) :
    Except TemplateError Unit × Template :=
  match insertUntilEmpty t.entries pairs with
  | (ps, true) => (.ok (), ofEntries ps)
  | (ps, false) => (.error .emptyKey, { t with entries := ps })

def set (t : Template) (key value : String) : Except TemplateError Unit × Template :=
  t.setMany [(key, value)]

/-- Takes over the entries of another table. -/
def merge (t other : Template) : Except TemplateError Unit × Template := t.setMany other.entries

def deleteMany (t : Template) (keys : List String) : Template :=
  ofEntries (keys.foldl Placeholders.erase t.entries)

def delete (t : Template) (key : String) : Template := t.deleteMany [key]

def get? (t : Template) (key : String) : Option String := t.entries.get? key

def hasKey (t : Template) (key : String) : Bool := t.entries.any (fun p => p.1 == key)

def size (t : Template) : Nat := t.entries.length

def apply (t : Template) (text : String) : String :=
  String.ofList (Substitution.run t.compiled text.toList)

end Template

end AccountStore
