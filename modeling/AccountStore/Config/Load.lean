/-
# AccountStore.Config.Load -- loading the configuration

A configuration is a stack of layers, later ones over earlier ones: the
defaults, the configuration files of the system, the user and the working
directory, and the environment variables.  It may also be read from a single
file under the environment, or from a single text.  Loading a stack does not hold
the settings against the rules; `standard` and `fromText` then do.

If a document is not TOML, nothing else is looked at, and every such document
is told of, the last one first.
-/
import AccountStore.Config.Diagnostic
import AccountStore.Config.Toml.Document

namespace AccountStore.Config

set_option autoImplicit false

/-- A source and what it says; nothing, if it is no TOML document. -/
structure Layer where
  source : Source
  content : Option Setting

namespace Layer

def ofText (source : Source) (text : String) : Layer :=
  ⟨source, (Toml.read? text).map (fun entries => .ofValue source (.table entries))⟩

/-- The layer of a file; a file that is not there says nothing. -/
def ofFile? (files : Files) (path : Option String) : List Layer :=
  match path with
  | none => []
  | some p =>
      match Location.content? files p with
      | none => []
      | some text => [ofText (.file p) text]

def ofEnvironment (e : Environment) : Layer := ⟨.environment, some e.settings⟩

end Layer

/-- What the layers say together. -/
def merged (layers : List Layer) : Entries Setting :=
  let all := layers.filterMap Layer.content
  match all.foldl Setting.overlay (.table .given []) with
  | .table _ entries => entries
  | .leaf _ _ => []

/-- The layers over the given defaults. -/
def load (defaults : Settings) (layers : List Layer) : Except (List Fault) Settings :=
  match layers.filter (fun l => l.content.isNone) with
  | [] =>
      match decode defaults (merged layers) with
      | .ok s => .ok s
      | .error e => .error [e]
  | unreadable => .error (unreadable.reverse.map (fun l => .unreadable l.source))

def defaultsIn (e : Environment) : Settings := .default (Location.defaultDatabase e)

/-- The settings, if no rule is violated. -/
def checked (s : Settings) : Except (List Diagnostic) Settings :=
  match violations s with
  | [] => .ok s
  | vs => .error (vs.map .violation)

/-- Settings that were read, if they obey the rules. -/
def validated (documents : List Document) (directory : String) :
    Except (List Fault) Settings → Except (List Diagnostic) Settings
  | .ok s => checked s
  | .error es => .error (es.map (Fault.diagnostic documents directory))

/-- The settings in a single text; no rule is checked. -/
def loadText (e : Environment) (text : String) : Except (List Fault) Settings :=
  load (defaultsIn e) [.ofText .given text]

/-- The configuration in a single text. -/
def fromText (e : Environment) (text : String) : Except (List Diagnostic) Settings :=
  validated [⟨"<inline>", text⟩] "" (loadText e text)

/-- The files and the variables of a run, in rising order of weight. -/
def standardLayers (w : Surroundings) : List Layer :=
  Layer.ofFile? w.files (some Location.systemFile) ++
    Layer.ofFile? w.files (Location.userFile? w.environment) ++
    Layer.ofFile? w.files (Location.nearest? w.files w.directory Location.localName) ++
    [.ofEnvironment w.environment]

def documentOf? (files : Files) (path : Option String) : List Document :=
  match path with
  | none => []
  | some p => match Location.content? files p with | none => [] | some text => [⟨p, text⟩]

/-- The documents that diagnostics may point into: of the files in directories
above the working directory, none. -/
def standardDocuments (w : Surroundings) : List Document :=
  documentOf? w.files (some (Location.join w.directory Location.localName)) ++
    documentOf? w.files (Location.userFile? w.environment) ++
    documentOf? w.files (some Location.systemFile)

/-- The settings of a run; no rule is checked. -/
def loadStandard (w : Surroundings) : Except (List Fault) Settings :=
  load (defaultsIn w.environment) (standardLayers w)

/-- The configuration of a run. -/
def standard (w : Surroundings) : Except (List Diagnostic) Settings :=
  validated (standardDocuments w) w.directory (loadStandard w)

/-- The settings in a single file under the variables; no rule is checked. -/
def fromFile (w : Surroundings) (path : String) : Except (List Fault) Settings :=
  load (defaultsIn w.environment)
    (Layer.ofFile? w.files (some path) ++ [.ofEnvironment w.environment])

end AccountStore.Config
