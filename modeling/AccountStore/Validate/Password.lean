/-
# AccountStore.Validate.Password -- password policies

A policy bounds the number of characters and asks for classes of characters; a
class that it lists twice is asked for twice, which one character satisfies
both times.  The classes are ASCII.
-/
import AccountStore.Validate.Grammar

namespace AccountStore

set_option autoImplicit false

inductive CharClass where
  | lower
  | upper
  | digit
  | special
  deriving DecidableEq, Repr

namespace CharClass

/-- The special characters. -/
def specials : List Char :=
  ['~', '!', '@', '#', '$', '%', '^', '&', '*', '(', ')', '+', '=', '_', '-', '\x7b', '\x7d', '[',
    ']', '\\', '|', ':', ';', '?', '/', '<', '>', ',']

def contains : CharClass → Char → Bool
  | .lower, c => Validate.isAsciiLower c
  | .upper, c => Validate.isAsciiUpper c
  | .digit, c => isDigit c
  | .special, c => specials.contains c

/-- How many entries of the list have a character in the text. -/
def countPresent (classes : List CharClass) (s : List Char) : Nat :=
  classes.countP (fun k => s.any k.contains)

end CharClass

structure PasswordPolicy where
  minLength : Option Nat := none
  maxLength : Option Nat := none
  required : List CharClass := []
  deriving DecidableEq, Repr

namespace PasswordPolicy

/-- Bounds the number of characters and asks for no class. -/
def ofLength (minLength maxLength : Option Nat) : PasswordPolicy :=
  { minLength := minLength, maxLength := maxLength }

/-- Asks for further classes. -/
def requiring (p : PasswordPolicy) (classes : List CharClass) : PasswordPolicy :=
  { p with required := p.required ++ classes }

def accepts (p : PasswordPolicy) (password : String) : Bool :=
  let s := password.toList
  (match p.minLength with | none => true | some m => decide (m ≤ s.length)) &&
    (match p.maxLength with | none => true | some m => decide (s.length ≤ m)) &&
    CharClass.countPresent p.required s == p.required.length

theorem required_requiring (p : PasswordPolicy) (classes : List CharClass) :
    (p.requiring classes).required = p.required ++ classes := rfl

end PasswordPolicy

end AccountStore
