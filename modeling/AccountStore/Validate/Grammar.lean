/-
# AccountStore.Validate.Grammar -- the shapes of identifiers, usernames, emails and names

An identifier is an ASCII letter or underscore followed by ASCII letters,
digits and underscores.  A username is an ASCII letter followed by letters,
digits, and single dots and underscores that a letter or digit follows.  An
email address has a nonempty local part, an `@`, a nonempty label, a dot and a
nonempty rest, each of its own ASCII characters.  A name is any sequence of
letters of any script, the empty one included.
-/
import AccountStore.Text.Letter
import AccountStore.Decimal.Reader

namespace AccountStore.Validate

set_option autoImplicit false

def isAsciiUpper (c : Char) : Bool := 'A' ≤ c && c ≤ 'Z'

def isAsciiLower (c : Char) : Bool := 'a' ≤ c && c ≤ 'z'

def isAsciiLetter (c : Char) : Bool := isAsciiUpper c || isAsciiLower c

def isAlphanumeric (c : Char) : Bool := isAsciiLetter c || isDigit c

def isWordChar (c : Char) : Bool := isAlphanumeric c || c == '_'

def isIdentifier : List Char → Bool
  | [] => false
  | c :: r => (isAsciiLetter c || c == '_') && r.all isWordChar

/-- What may follow the first letter of a username. -/
def isUsernameTail : List Char → Bool
  | [] => true
  | c :: r =>
      if isAlphanumeric c then isUsernameTail r
      else if c == '_' || c == '.' then
        match r with
        | [] => false
        | d :: s => isAlphanumeric d && isUsernameTail s
      else false

def isUsername : List Char → Bool
  | [] => false
  | c :: r => isAsciiLetter c && isUsernameTail r

def isLocalChar (c : Char) : Bool := isAlphanumeric c || c == '_' || c == '.' || c == '+' || c == '-'

def isLabelChar (c : Char) : Bool := isAlphanumeric c || c == '-'

def isDomainChar (c : Char) : Bool := isLabelChar c || c == '.'

/-- A label, a dot, and at least one further character. -/
def isDomain (s : List Char) : Bool :=
  !(s.takeWhile isLabelChar).isEmpty &&
    match s.dropWhile isLabelChar with
    | '.' :: rest => !rest.isEmpty && rest.all isDomainChar
    | _ => false

def isEmail (s : List Char) : Bool :=
  !(s.takeWhile isLocalChar).isEmpty &&
    match s.dropWhile isLocalChar with
    | '@' :: rest => isDomain rest
    | _ => false

def isName (s : List Char) : Bool := s.all Text.isLetter

end AccountStore.Validate
