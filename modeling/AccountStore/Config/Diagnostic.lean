/-
# AccountStore.Config.Diagnostic -- what users are told about a configuration

Faults of reading and violated rules become diagnostics.  A diagnostic about an
unknown key suggests the valid key that is most like it, if one is like it at
all, and points to the place in the document if that can be found: in the
document that the key's value came from or, when the value came from no file,
in the only document there is.
-/
import AccountStore.Config.Decode
import AccountStore.Config.KeyOffset
import AccountStore.Config.Location
import AccountStore.Config.Validate
import AccountStore.Text.Similarity

namespace AccountStore.Config

set_option autoImplicit false

/-- A name and what stands under it. -/
structure Document where
  name : String
  content : String
  deriving DecidableEq, Repr

/-- A place in a document, in bytes. -/
structure Label where
  document : Document
  offset : Nat
  length : Nat
  deriving DecidableEq, Repr

inductive Diagnostic where
  | unknownKey (key : String) (suggestion : Option String) (valid : List String)
      (label : Option Label)
  | invalidType (key found expected : String)
  | missingKey (key : String)
  | violation (v : Violation)
  /-- A document that is not TOML. -/
  | unreadable
  /-- A negative number where only others will do: the key as its source spells
  it, and the source's name. -/
  | negative (n : Int) (expected key place : String)
  deriving DecidableEq, Repr

/-- How much alike a key and its suggestion must be. -/
def suggestionThreshold : Binary64 := Binary64.nearest false 3 4

def suggest? (unknown : String) (valid : List String) : Option String :=
  Text.Similarity.closest? suggestionThreshold unknown valid

namespace Diagnostic

def message : Diagnostic → String
  | .unknownKey key _ _ _ => s!"unknown configuration key `{key}`"
  | .invalidType key found expected =>
      s!"invalid type for key `{key}`: found {found}, expected {expected}"
  | .missingKey key => s!"missing required key `{key}`"
  | .violation v => s!"invalid configuration: {v.message}"
  | .unreadable => "TOML parse error"
  | .negative n expected key place =>
      s!"configuration error: invalid value signed int `{n}`, expected {expected} for key " ++
        s!"{Text.quoted key} in {place}"

def code : Diagnostic → String
  | .unknownKey _ _ _ _ => "keyward::config::unknown_key"
  | .invalidType _ _ _ => "keyward::config::invalid_type"
  | .missingKey _ => "keyward::config::missing_key"
  | .violation _ => "keyward::config::validation"
  | .unreadable => "keyward::config::other"
  | .negative _ _ _ _ => "keyward::config::other"

/-- What the user may do about it. -/
def help? : Diagnostic → Option String
  | .unknownKey _ suggestion valid _ =>
      let keys := ", ".intercalate valid
      match suggestion with
      | some s => some s!"did you mean `{s}`? Valid keys: {keys}"
      | none => some s!"valid keys: {keys}"
  | .invalidType _ _ expected => some s!"expected {expected}"
  | .missingKey key => some s!"set `{key}` in keyward.toml"
  | _ => none

def label? : Diagnostic → Option Label
  | .unknownKey _ _ _ label => label
  | _ => none

end Diagnostic

/-- The document that a value came from. -/
def sourceDocument? (documents : List Document) : Source → Option Document
  | .file path => documents.find? (fun d => d.name == path)
  | _ => match documents with | [d] => some d | _ => none

/-- Where an unknown key stands. -/
def labelOf? (documents : List Document) (source : Source) (path : List String) (key : String) :
    Option Label :=
  match sourceDocument? documents source with
  | none => none
  | some d =>
      (keyOffset? d.content path key).map fun n => ⟨d, n, Instant.byteLength key.toList⟩

/-- A key as the source of its value spells it. -/
def keyIn (path : List String) : Source → String
  | .environment => ".".intercalate (path.map (fun p => String.ofList (p.toList.map Char.toUpper)))
  | _ => ".".intercalate ("default" :: path)

/-- What messages call a source; files are seen from the working directory. -/
def placeOf (directory : String) : Source → String
  | .given => "TOML source string"
  | .file path => Location.seenFrom directory path ++ " TOML file"
  | .environment => s!"`{variablePrefix}` environment variable(s)"

/-- What a fault tells the user, given the documents to point into. -/
def Fault.diagnostic (documents : List Document) (directory : String) : Fault → Diagnostic
  | .unreadable _ => .unreadable
  | .unknownKey path key valid source =>
      .unknownKey key (suggest? key valid) valid (labelOf? documents source path key)
  | .wrongKind path found expected => .invalidType (".".intercalate path) found expected
  | .negative path n expected source =>
      .negative n expected (keyIn path source) (placeOf directory source)

end AccountStore.Config
