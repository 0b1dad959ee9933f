/-
# AccountStore.Config.Location -- where configuration and data are kept

A user's data and configuration stand in directories that environment variables
name; a variable counts only when it holds an absolute path, and otherwise the
places in the home directory do.  A file without a directory is looked for in
the working directory and then in the ones above it.
-/
import AccountStore.Config.Environment

namespace AccountStore.Config

set_option autoImplicit false

/-- Files by their absolute paths. -/
abbrev Files := List (String × String)

/-- What surrounds a run of the program. -/
structure Surroundings where
  environment : Environment := []
  /-- The working directory, an absolute path. -/
  directory : String := "/"
  files : Files := []

namespace Location

def isAbsolute (path : String) : Bool := path.toList.head? == some '/'

/-- A path below a directory. -/
def join (directory path : String) : String :=
  if isAbsolute path || directory.isEmpty then path
  else if directory.toList.getLast? == some '/' then directory ++ path
  else directory ++ "/" ++ path

/-- The directory that `variable` names, or else the one below the home
directory. -/
def directory? (e : Environment) (variableName below : String) : Option String :=
  let home :=
    match e.get? "HOME" with
    | some h => if h.isEmpty then none else some (join h below)
    | none => none
  match e.get? variableName with
  | some d => if isAbsolute d then some d else home
  | none => home

def data? (e : Environment) : Option String := directory? e "XDG_DATA_HOME" ".local/share"

def config? (e : Environment) : Option String := directory? e "XDG_CONFIG_HOME" ".config"

/-- The database of a user who chooses no other. -/
def defaultDatabase (e : Environment) : String :=
  match data? e with
  | some d => join (join d "keyward") "keyward.db"
  | none => "keyward.db"

/-- The configuration file of all users. -/
def systemFile : String := "/etc/keyward/keyward.toml"

def userFile? (e : Environment) : Option String :=
  (config? e).map (fun d => join (join d "keyward") "keyward.toml")

/-- The configuration file of a working directory. -/
def localName : String := "keyward.toml"

/-- The names on an absolute path. -/
def names (path : String) : List String :=
  ((splitAt '/' path.toList).filter (fun n => !n.isEmpty)).map String.ofList

def ofNames (names : List String) : String := "/" ++ "/".intercalate names

/-- A list and what is left of it after each of its elements. -/
def tails : List String → List (List String)
  | [] => [[]]
  | n :: rest => (n :: rest) :: tails rest

/-- A directory and the ones above it, nearest first. -/
def upward (directory : String) : List String :=
  (tails (names directory).reverse).map (fun ns => ofNames ns.reverse)

/-- The nearest file of a name, in the directory or above it. -/
def nearest? (files : Files) (directory name : String) : Option String :=
  ((upward directory).map (fun d => join d name)).find? (fun p => files.any (fun f => f.1 == p))

def content? (files : Files) (path : String) : Option String :=
  (files.find? (fun f => f.1 == path)).map (fun f => f.2)

/-- How many names two paths have in common at their beginning. -/
def common : List String → List String → Nat
  | a :: as, b :: bs => if a = b then common as bs + 1 else 0
  | _, _ => 0

/-- A path as it is seen from a directory. -/
def seenFrom (directory path : String) : String :=
  let ds := names directory
  let ps := names path
  let n := common ds ps
  "/".intercalate (List.replicate (ds.length - n) ".." ++ ps.drop n)

end Location

end AccountStore.Config
