/-
# AccountStore.Proofs.Text.Case -- texts that differ in the case of letters alone

Two characters are the same letter when they are equal or the capital and the small
form of one letter of the alphabet.  Lowering capitals makes two texts equal exactly
if they are of the same letters throughout (`asciiLowerText_eq_iff`); no letter beyond
the alphabet is another's case.
-/
import AccountStore.Decimal.Reader
import Mathlib.Data.List.Forall2

namespace AccountStore

set_option autoImplicit false

/-- The capital and the small form of one letter of the alphabet. -/
def CaseOf (capital small : Char) : Prop :=
  ∃ i < 26, capital.toNat = 'A'.toNat + i ∧ small.toNat = 'a'.toNat + i

def SameLetter (c d : Char) : Prop := c = d ∨ CaseOf c d ∨ CaseOf d c

/-- Two texts are equal but for the case of letters. -/
def SameIgnoringCase (s t : String) : Prop := List.Forall₂ SameLetter s.toList t.toList

theorem toNat_asciiLower (c : Char) :
    (asciiLower c).toNat = if 65 ≤ c.toNat ∧ c.toNat ≤ 90 then c.toNat + 32 else c.toNat := by
  have capital : ('A' ≤ c && c ≤ 'Z') = decide (65 ≤ c.toNat ∧ c.toNat ≤ 90) := by
    rw [Bool.decide_and]
    rfl
  rw [asciiLower, capital]
  by_cases h : 65 ≤ c.toNat ∧ c.toNat ≤ 90
  · have valid : (c.toNat + 32).isValidChar := .inl (by omega)
    rw [if_pos (decide_eq_true h), if_pos h, Char.ofNat, dif_pos valid]
    exact UInt32.toNat_ofNatLT
  · rw [if_neg (by simpa using h), if_neg h]

theorem asciiLower_eq_iff (c d : Char) : asciiLower c = asciiLower d ↔ SameLetter c d := by
  have capital : 'A'.toNat = 65 := rfl
  have small : 'a'.toNat = 97 := rfl
  rw [← Char.toNat_inj, toNat_asciiLower, toNat_asciiLower, SameLetter, CaseOf, CaseOf,
    ← Char.toNat_inj, capital, small]
  generalize c.toNat = m
  generalize d.toNat = n
  constructor
  · intro same
    split at same
    · split at same
      · exact .inl (by omega)
      · exact .inr (.inl ⟨m - 65, by omega, by omega, by omega⟩)
    · split at same
      · exact .inr (.inr ⟨n - 65, by omega, by omega, by omega⟩)
      · exact .inl same
  · rintro (rfl | ⟨i, below, rfl, rfl⟩ | ⟨i, below, rfl, rfl⟩)
    · rfl
    · rw [if_pos (by omega), if_neg (by omega)]
      omega
    · rw [if_neg (by omega), if_pos (by omega)]
      omega

/-- No capital is left where capitals were lowered. -/
theorem asciiLower_asciiLower (c : Char) : asciiLower (asciiLower c) = asciiLower c := by
  rw [← Char.toNat_inj, toNat_asciiLower (asciiLower c), toNat_asciiLower c]
  split
  · rw [if_neg (by omega)]
  · rfl

theorem asciiLowerText_asciiLowerText (s : String) :
    asciiLowerText (asciiLowerText s) = asciiLowerText s := by
  rw [asciiLowerText, asciiLowerText, String.toList_ofList, List.map_map]
  exact congrArg String.ofList (List.map_congr_left fun c _ => asciiLower_asciiLower c)

theorem asciiLowerText_append (s t : String) :
    asciiLowerText (s ++ t) = asciiLowerText s ++ asciiLowerText t := by
  rw [asciiLowerText, String.toList_append, List.map_append, String.ofList_append,
    asciiLowerText, asciiLowerText]

/-- **Lowering capitals tells texts apart that differ in more than case.** -/
theorem asciiLowerText_eq_iff (s t : String) :
    asciiLowerText s = asciiLowerText t ↔ SameIgnoringCase s t := by
  have letters : ∀ x y : List Char, x.map asciiLower = y.map asciiLower ↔
      List.Forall₂ SameLetter x y := by
    intro x y
    rw [← List.forall₂_eq_eq_eq, List.forall₂_map_left_iff, List.forall₂_map_right_iff]
    simp only [asciiLower_eq_iff]
  rw [asciiLowerText, asciiLowerText, String.ofList_inj, letters, SameIgnoringCase]

end AccountStore
