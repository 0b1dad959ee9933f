/-
# AccountStore.Proofs.Text.Span -- where a text is cut

A text is cut at its first character outside a class, and what is before the cut and
behind it are found by that alone (`span_eq_iff`).  So a text is put together in one
way from a word of the class and what follows it (`word_append_inj`), as it is from a
given beginning and the rest (`after_beginning_iff`).  Trimming cuts at blanks.  A
character that is not blank keeps what follows it from a trim at the start and what is
before it from a trim at the end, and changing the case of letters makes no blank and
removes none.
-/
import AccountStore.Text.Blank
import AccountStore.Proofs.Text.Case

namespace AccountStore.Text

set_option autoImplicit false

/-! ## Words -/

section Words

variable {p : Char → Bool} {c d : Char} {s t a b : List Char}

/-- A text is cut at a character outside the class exactly when nothing before it is. -/
theorem span_eq_iff (outside : p c = false) :
    s.takeWhile p = a ∧ s.dropWhile p = c :: b ↔ s = a ++ c :: b ∧ ∀ d ∈ a, p d = true := by
  constructor
  · rintro ⟨rfl, rest⟩
    exact ⟨by rw [← rest, List.takeWhile_append_dropWhile], List.all_eq_true.mp List.all_takeWhile⟩
  · rintro ⟨rfl, inside⟩
    rw [List.takeWhile_append_of_pos inside, List.dropWhile_append_of_pos inside,
      List.takeWhile_cons_of_neg (by simp [outside]), List.dropWhile_cons_of_neg (by simp [outside]),
      List.append_nil]
    exact ⟨rfl, rfl⟩

/-- Words of the class are told from what follows them. -/
theorem word_append_inj (hs : ∀ x ∈ s, p x = true) (ht : ∀ x ∈ t, p x = true)
    (hc : p c = false) (hd : p d = false) (same : s ++ c :: a = t ++ d :: b) :
    s = t ∧ c = d ∧ a = b := by
  obtain ⟨before, behind⟩ := (span_eq_iff hc).mpr ⟨same.symm, hs⟩
  obtain ⟨before', behind'⟩ := (span_eq_iff hd).mpr ⟨rfl, ht⟩
  exact ⟨before.symm.trans before', List.cons.inj (behind.symm.trans behind')⟩

end Words

/-- What is cut off behind a beginning makes the text with it. -/
theorem after_beginning_iff {start s r : List Char} :
    (if start.isPrefixOf s then some (s.drop start.length) else none) = some r ↔
      s = start ++ r := by
  constructor
  · intro found
    split at found
    · next starts =>
        obtain ⟨t, rfl⟩ := List.isPrefixOf_iff_prefix.mp starts
        rw [List.drop_left, Option.some.injEq] at found
        rw [found]
    · cases found
  · rintro rfl
    rw [if_pos (List.isPrefixOf_iff_prefix.mpr (List.prefix_append start r)), List.drop_left]

/-! ## Trimming -/

theorem trimLeft_append_of_blank {a : List Char} (blank : allBlank a = true) (b : List Char) :
    trimLeft (a ++ b) = trimLeft b := by
  rw [trimLeft, List.dropWhile_append_of_pos (List.all_eq_true.mp blank)]
  rfl

theorem not_blank_of_trimLeft {s r : List Char} {c : Char} (h : trimLeft s = c :: r) :
    isBlank c = false := by
  have head := List.head?_dropWhile_not isBlank s
  rw [← trimLeft, h] at head
  simpa using head

theorem trimLeft_append_of_solid {s : List Char} (solid : trimLeft s ≠ []) (r : List Char) :
    trimLeft (s ++ r) = trimLeft s ++ r := by
  rw [trimLeft, List.dropWhile_append, if_neg]
  · rfl
  · simpa [trimLeft] using solid

/-- What is before a character that is not blank stays. -/
theorem trimRight_append_cons {c : Char} (solid : isBlank c = false) (s r : List Char) :
    trimRight (s ++ c :: r) = s ++ c :: trimRight r := by
  have reversed : (s ++ c :: r).reverse = r.reverse ++ c :: s.reverse := by simp
  rw [trimRight, trimRight, reversed, List.dropWhile_append]
  split
  · next blank =>
      have gone : r.reverse.dropWhile isBlank = [] := List.isEmpty_iff.mp blank
      rw [gone, List.dropWhile_cons_of_neg (by simp [solid])]
      simp
  · simp

theorem trim_append_cons {c : Char} (solid : isBlank c = false) {s : List Char}
    (word : ∀ d ∈ s, isBlank d = false) (r : List Char) :
    trim (s ++ c :: r) = s ++ c :: trimRight r := by
  have started : trimLeft (s ++ c :: r) = s ++ c :: r := by
    cases s with
    | nil => exact trimLeft_cons solid r
    | cons d s => exact trimLeft_cons (word d List.mem_cons_self) _
  rw [trim, started, trimRight_append_cons solid]

/-! ## The case of letters -/

theorem isBlank_asciiLower (c : Char) : isBlank (asciiLower c) = isBlank c := by
  have lowered := toNat_asciiLower c
  by_cases capital : 65 ≤ c.toNat ∧ c.toNat ≤ 90
  · rw [if_pos capital] at lowered
    rw [isBlank_of_visible (by omega) (by omega), isBlank_of_visible (by omega) (by omega)]
  · rw [if_neg capital] at lowered
    rw [Char.toNat_inj.mp lowered]

theorem trimLeft_map_asciiLower (s : List Char) :
    trimLeft (s.map asciiLower) = (trimLeft s).map asciiLower := by
  rw [trimLeft, List.dropWhile_map]
  have same : isBlank ∘ asciiLower = isBlank := funext isBlank_asciiLower
  rw [same, trimLeft]

theorem trimRight_map_asciiLower (s : List Char) :
    trimRight (s.map asciiLower) = (trimRight s).map asciiLower := by
  rw [trimRight, ← List.map_reverse, ← trimLeft, trimLeft_map_asciiLower, ← List.map_reverse, trimLeft,
    trimRight]

theorem trim_map_asciiLower (s : List Char) :
    trim (s.map asciiLower) = (trim s).map asciiLower := by
  rw [trim, trimLeft_map_asciiLower, trimRight_map_asciiLower, trim]

end AccountStore.Text
