/-
# AccountStore.Interchange.Fault -- why a JSON text is no record

The faults of the text come first, in the order in which a reader meets them;
then those of a record whose text is sound.
-/
import AccountStore.Instant.Reader
import AccountStore.Text.Quoted

namespace AccountStore.Interchange

set_option autoImplicit false

inductive Fault where
  | listNotEnded
  | objectNotEnded
  | textNotEnded
  | valueNotEnded
  | colonExpected
  | listEndExpected
  | objectEndExpected
  | wordExpected
  | valueExpected
  | invalidEscape
  | invalidNumber
  | numberTooLarge
  | controlCharacter
  | keyNotText
  | loneSurrogate
  | surrogateNotEnded
  | trailingComma
  | trailingCharacters
  | invalidType (found expected : String)
  | invalidValue (found expected : String)
  | invalidLength (found : Nat) (title : String) (expected : Nat)
  | missingField (name : String)
  | duplicateField (name : String)
  | instant (cause : Instant.ReadError)
  deriving DecidableEq, Repr

def Fault.message : Fault → String
  | .listNotEnded => "EOF while parsing a list"
  | .objectNotEnded => "EOF while parsing an object"
  | .textNotEnded => "EOF while parsing a string"
  | .valueNotEnded => "EOF while parsing a value"
  | .colonExpected => "expected `:`"
  | .listEndExpected => "expected `,` or `]`"
  | .objectEndExpected => "expected `,` or `\x7d`"
  | .wordExpected => "expected ident"
  | .valueExpected => "expected value"
  | .invalidEscape => "invalid escape"
  | .invalidNumber => "invalid number"
  | .numberTooLarge => "number out of range"
  | .controlCharacter => "control character (\\u0000-\\u001F) found while parsing a string"
  | .keyNotText => "key must be a string"
  | .loneSurrogate => "lone leading surrogate in hex escape"
  | .surrogateNotEnded => "unexpected end of hex escape"
  | .trailingComma => "trailing comma"
  | .trailingCharacters => "trailing characters"
  | .invalidType found expected => s!"invalid type: {found}, expected {expected}"
  | .invalidValue found expected => s!"invalid value: {found}, expected {expected}"
  | .invalidLength found title expected =>
      s!"invalid length {found}, expected struct {title} with {expected} elements"
  | .missingField name => s!"missing field `{name}`"
  | .duplicateField name => s!"duplicate field `{name}`"
  | .instant cause => cause.message

/-- What a reader says of the front of a text, and the rest of it. -/
abbrev Read (α : Type) := Except Fault (α × List Char)

def isSpace (c : Char) : Bool := c == ' ' || c == '\n' || c == '\t' || c == '\r'

def skipSpace (s : List Char) : List Char := s.dropWhile isSpace

end AccountStore.Interchange
