/-
# AccountStore.Database.Disk -- files that hold databases

A disk maps paths to directories, plain files and databases.  A path is taken
apart at its slashes; empty steps and `.` stay where they are and `..` goes
back.  Opening a database creates the directories above it and, if there is no
such file, the file.
-/
import AccountStore.Database.Contents

namespace AccountStore.Database

set_option autoImplicit false

inductive Entry where
  | directory
  | plain (text : String)
  | database (contents : Contents)
  deriving DecidableEq, Repr

/-- The steps of a path, the last one first. -/
abbrev Place := List String

structure Disk where
  entries : List (Place × Entry) := []
  deriving DecidableEq, Repr

namespace Disk

/-- The place that one step leads to. -/
def step (p : Place) (name : String) : Place :=
  if name = "" || name = "." then p
  else if name = ".." then p.tail
  else name :: p

/-- The steps of a path as they are written. -/
def steps (path : String) : List String := (path.splitOn "/")

def place (path : String) : Place := (steps path).foldl step []

def entryAt? (d : Disk) (p : Place) : Option Entry := d.entries.lookup p

def entry? (d : Disk) (path : String) : Option Entry := d.entryAt? (place path)

def putAt (d : Disk) (p : Place) (e : Entry) : Disk :=
  ⟨(p, e) :: d.entries.filter (fun q => q.1 != p)⟩

def put (d : Disk) (path : String) (e : Entry) : Disk := d.putAt (place path) e

def fileExists : Failure := .system "File exists (os error 17)"
def notADirectory : Failure := .system "Not a directory (os error 20)"

/-- Creates the directories along the steps from a place. -/
def makeDirectories (d : Disk) (p : Place) : List String → Except Failure Disk
  | [] => .ok d
  | name :: rest =>
      let q := step p name
      match d.entryAt? q with
      | some .directory => makeDirectories d q rest
      | some _ => .error (if rest.isEmpty then fileExists else notADirectory)
      | none => makeDirectories (if q = [] then d else d.putAt q .directory) q rest

/-- The steps above the last one that leads anywhere. -/
def parentSteps (path : String) : List String :=
  (((steps path).reverse.dropWhile (fun s => s = "" || s = ".")).drop 1).reverse

def cannotOpen (path : String) : Failure :=
  .engine 14 (some s!"unable to open database file: {path}")

def notADatabase : Failure := .engine 26 (some "file is not a database")

/-- Opens the database at a path.  An empty file is an empty database.  The path is meant
to name a file: the empty path, `:memory:` and a path that starts with `file:`, for which
the engine makes a database of another kind, are read as names like any other. -/
def openDatabase (d : Disk) (path : String) : Except Failure Contents × Disk :=
  match d.makeDirectories [] (parentSteps path) with
  | .error e => (.error e, d)
  | .ok d =>
      match d.entry? path with
      | some .directory => (.error (cannotOpen path), d)
      | some (.plain "") => (.ok Contents.empty, d.put path (.database Contents.empty))
      | some (.plain _) => (.error notADatabase, d)
      | some (.database c) => (.ok c, d)
      | none => (.ok Contents.empty, d.put path (.database Contents.empty))

/-- Creates a plain file and the directories above it. -/
def writeFile (d : Disk) (path text : String) : Disk :=
  match d.makeDirectories [] (parentSteps path) with
  | .ok d => d.put path (.plain text)
  | .error _ => d

def exists? (d : Disk) (path : String) : Bool := (d.entry? path).isSome

end Disk

end AccountStore.Database
