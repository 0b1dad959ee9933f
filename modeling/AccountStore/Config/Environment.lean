/-
# AccountStore.Config.Environment -- environment variables as settings

The name of a variable starts with `KEYWARD_`, in letters of any case.  What
follows is the name of a setting: the section, an underscore and the key, where
only the underscore after a section's name separates.  Points in a name
separate as well.
-/
import AccountStore.Config.Variable

namespace AccountStore.Config

set_option autoImplicit false

/-- Variables and their values in the order in which they were first set. -/
abbrev Environment := List (String × String)

namespace Environment

def get? (e : Environment) (name : String) : Option String :=
  (e.find? (fun p => p.1 == name)).map (fun p => p.2)

def set : Environment → String → String → Environment
  | [], name, value => [(name, value)]
  | (n, v) :: rest, name, value =>
      if n = name then (name, value) :: rest else (n, v) :: set rest name value

def unset (e : Environment) (name : String) : Environment := e.filter (fun p => p.1 != name)

end Environment

/-- The sections of the configuration. -/
def sectionNames : List String := ["storage", "session", "logging"]

/-- What follows `section_` in a name. -/
def keyInSection? (name sectionName : List Char) : Option (List Char) :=
  if (sectionName ++ ['_']).isPrefixOf name then some (name.drop (sectionName.length + 1)) else none

/-- The dotted name of the setting that a variable sets; the variable's own name
comes without the common beginning. -/
def settingName (name : String) : String :=
  let lower := name.toList.map asciiLower
  let named := sectionNames.findSome? fun s =>
    (keyInSection? lower s.toList).map (fun key => s.toList ++ '.' :: key)
  String.ofList (named.getD lower)

/-- How the names of the variables start, as messages write it. -/
def variablePrefix : String := "KEYWARD_"

def trimmed (s : List Char) : List Char := Text.trim s

/-- The parts of a text between the separators. -/
def splitAt (separator : Char) : List Char → List (List Char)
  | [] => [[]]
  | c :: r =>
      if c = separator then [] :: splitAt separator r
      else
        match splitAt separator r with
        | [] => [[c]]
        | part :: rest => (c :: part) :: rest

/-- Where the value of a variable belongs, if it is a setting. -/
def settingPath? (variableName : String) : Option (List String) :=
  let name := trimmed variableName.toList
  let start := variablePrefix.toList.map asciiLower
  if start.isPrefixOf (name.map asciiLower) then
    let dotted := settingName (String.ofList (name.drop start.length))
    let parts := splitAt '.' (trimmed dotted.toList)
    if parts.any List.isEmpty then none else some (parts.map String.ofList)
  else none

/-- A value inside a table for each part of the path. -/
def nested (path : List String) (v : Value) : Value := path.foldr (fun k v => .table [(k, v)]) v

/-- The settings that the variables give; of two for one setting the later
variable counts. -/
def Environment.settings (e : Environment) : Setting :=
  e.foldl
    (fun settings p =>
      match settingPath? p.1 with
      | none => settings
      | some path => settings.overlay (.ofValue .environment (nested path (Variable.read p.2))))
    (.table .environment [])

end AccountStore.Config
