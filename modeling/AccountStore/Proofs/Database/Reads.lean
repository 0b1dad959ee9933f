/-
# AccountStore.Proofs.Database.Reads -- from the text of a statement to what it says

A text `Reads` as a statement when it scans to the tokens of one statement and
these are read as it.  A connection takes such a text for the statement unless
there is too much in it, which no fixed text of this library has: its parameters
and columns are few.  Names that are single words and not reserved may stand in
any text.
-/
import AccountStore.Database.Connection
import AccountStore.Proofs.Database.Scan
import AccountStore.Proofs.Database.Grammar

namespace AccountStore.Database

set_option autoImplicit false

/-- A name that stands in a statement as one word and is not reserved. -/
structure PlainName (s : String) : Prop where
  word : Lexeme.isName s = true
  free : Statement.Free s

instance (s : String) : Decidable (PlainName s) :=
  decidable_of_iff (Lexeme.isName s = true ∧ Statement.isReserved s = false)
    ⟨fun h => ⟨h.1, h.2⟩, fun h => ⟨h.word, h.free⟩⟩

structure Reads (text : String) (ts : List Token) (s : Statement) : Prop where
  scans : Token.ofText text = [ts]
  read : Statement.ofTokens ts = .ok s

namespace Reads

open Statement

variable {text : String} {ts : List Token} {s : Statement}

theorem parse (h : Reads text ts s) (few : s.excess? ts = none) (k : Connection) :
    k.parse text = .ok s := by
  simp only [Connection.parse, h.scans, Connection.readTokens, h.read, few]

theorem parse_of_excess (h : Reads text ts s) {message : String} (much : s.excess? ts = some message)
    (k : Connection) : k.parse text = .error (sqlFailure message) := by
  simp only [Connection.parse, h.scans, Connection.readTokens, h.read, much]

theorem runText (h : Reads text ts s) (few : s.excess? ts = none) (k : Connection) :
    k.runText text =
      match k.run [] s with
      | .ok k' => (.ok (), k'.touch s)
      | .error e => (.error e, k.touchFailed s e) := by
  simp only [Connection.runText, h.scans, Connection.runTokens, Connection.readTokens, h.read, few]
  cases k.run [] s <;> rfl

end Reads

namespace Statement

/-- A parameter has no number that is too large. -/
def InLimit : Token → Prop
  | .parameter _ n => n ≤ parameterLimit
  | _ => True

theorem excess?_eq {ts : List Token} (few : ∀ t ∈ ts, InLimit t) (s : Statement) :
    s.excess? ts = s.columnExcess? := by
  have none : ts.findSome? parameterExcess? = none := by
    rw [List.findSome?_eq_none_iff]
    intro t ht
    cases t with
    | parameter w n => exact if_pos (few _ ht)
    | _ => rfl
  rw [excess?, none, Option.none_or]

theorem exists_excess (ts : List Token) {s : Statement} {message : String}
    (much : s.columnExcess? = some message) : ∃ message, s.excess? ts = some message := by
  rw [excess?, much]
  cases ts.findSome? parameterExcess? with
  | none => exact ⟨message, rfl⟩
  | some other => exact ⟨other, rfl⟩

end Statement

end AccountStore.Database
