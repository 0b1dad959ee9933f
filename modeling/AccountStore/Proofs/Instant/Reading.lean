/-
# AccountStore.Proofs.Instant.Reading -- what the strict reader answers with

Whatever text is read, a fraction is less than one second and an offset is whole
minutes, so the nanoseconds go past a second only in the last second of a
minute: a clock can show what the reader answers with (`ofLocal_isShown`).  An
instant that no clock shows is therefore never read back, and a stored text
stands for its instant exactly when that is proper and its year is plain.
-/
import AccountStore.Proofs.Instant.Stored

namespace AccountStore.Instant

set_option autoImplicit false

/-! ## Parts of a text -/

theorem foldl_digits_lt {ds : List Char} (digits : ∀ c ∈ ds, isDigit c = true) (n : Nat) :
    ds.foldl (fun m c => m * 10 + digitValue c) n < (n + 1) * 10 ^ ds.length := by
  induction ds generalizing n with
  | nil => simp
  | cons c rest ih =>
      obtain ⟨digit, later⟩ := List.forall_mem_cons.mp digits
      have small : digitValue c ≤ 9 := digitValue_le digit
      have grown : (n * 10 + digitValue c + 1) * 10 ^ rest.length ≤
          (n + 1) * 10 * 10 ^ rest.length :=
        Nat.mul_le_mul_right _ (by omega)
      rw [List.foldl_cons, List.length_cons, Nat.pow_succ', ← Nat.mul_assoc]
      exact Nat.lt_of_lt_of_le (ih later _) grown

theorem digitsValue_lt {ds : List Char} (digits : ∀ c ∈ ds, isDigit c = true) :
    digitsValue ds < 10 ^ ds.length := by
  have bound := foldl_digits_lt digits 0
  rwa [Nat.zero_add, Nat.one_mul] at bound

/-- A fraction is less than one second. -/
theorem readOptionalFraction_lt {s rest : List Char} {n : Nat}
    (h : readOptionalFraction s = .ok (n, rest)) : n < nanosPerSecond := by
  unfold readOptionalFraction at h
  split at h
  · next r =>
      unfold readFraction at h
      split at h
      · cases h
      · next c r =>
          split at h
          · cases h
            have few : (((c :: r).takeWhile isDigit).take 9).length ≤ 9 := List.length_take_le _ _
            have digits : ∀ d ∈ ((c :: r).takeWhile isDigit).take 9, isDigit d = true := by
              intro d hd
              exact List.all_eq_true.mp List.all_takeWhile d (List.mem_of_mem_take hd)
            have value := digitsValue_lt digits
            have power : nanosPerSecond = 10 ^ (((c :: r).takeWhile isDigit).take 9).length *
                10 ^ (9 - (((c :: r).takeWhile isDigit).take 9).length) := by
              rw [← Nat.pow_add, Nat.add_sub_cancel' few]
              rfl
            rw [power]
            exact Nat.mul_lt_mul_of_pos_right value (Nat.pow_pos (by decide))
          · cases h
  · cases h
    decide

theorem bind_eq_ok {ε α β : Type} {x : Except ε α} {f : α → Except ε β} {b : β}
    (h : x >>= f = .ok b) : ∃ a, x = .ok a ∧ f a = .ok b := by
  cases x with
  | error e => cases h
  | ok a => exact ⟨a, rfl, h⟩

/-- An offset is whole minutes. -/
theorem readOffset_minutes {separator : Step Unit} {s rest : List Char} {offset : Int}
    (h : readOffset separator s = .ok (offset, rest)) : offset % 60 = 0 := by
  unfold readOffset at h
  split at h
  · cases h
    rfl
  · cases h
    rfl
  · obtain ⟨⟨negative, s₁⟩, -, h⟩ := bind_eq_ok h
    obtain ⟨⟨hours, s₂⟩, -, h⟩ := bind_eq_ok h
    obtain ⟨⟨_, s₃⟩, -, h⟩ := bind_eq_ok h
    obtain ⟨⟨minutes, s₄⟩, -, h⟩ := bind_eq_ok h
    dsimp only at h
    cases h
    split <;> omega

/-! ## The instant of a reading -/

/-- A shift by whole minutes leaves a leap second at the end of a minute. -/
theorem ofLocal_isShown {r : Reading} {offset : Int} {t : Instant}
    (nanos : r.nanos < nanosPerSecond) (minutes : offset % 60 = 0)
    (shown : ofLocal r offset = .ok t) : t.IsShown := by
  unfold ofLocal at shown
  dsimp only at shown
  split at shown
  case isFalse => cases shown
  case isTrue calendar =>
    cases shown
    refine ⟨?_, by simpa [HasCalendarYear, year] using calendar⟩
    simp only [IsProper, ofReading, beq_iff_eq, secondsPerDay]
    unfold nanosPerSecond at nanos ⊢
    by_cases leap : r.second = 60
    · simp only [leap, if_true]
      omega
    · simp only [leap, if_false]
      omega

/-! ## The whole text -/

/-- What a text that is read consists of. -/
theorem parseStrict_reading {s : List Char} {t : Instant} (h : parseStrict s = .ok t) :
    ∃ r offset, (∃ u v, readOptionalFraction u = .ok (r.nanos, v)) ∧
      isTimeValid r.hour r.minute r.second = true ∧
      (∃ u v, readOffset (readChar ':') u = .ok (offset, v)) ∧ ofLocal r offset = .ok t := by
  unfold parseStrict at h
  split at h
  · cases h
  · obtain ⟨⟨year, s₁⟩, -, h⟩ := bind_eq_ok h
    obtain ⟨⟨_, s₂⟩, -, h⟩ := bind_eq_ok h
    obtain ⟨⟨month, s₃⟩, -, h⟩ := bind_eq_ok h
    obtain ⟨⟨_, s₄⟩, -, h⟩ := bind_eq_ok h
    obtain ⟨⟨day, s₅⟩, -, h⟩ := bind_eq_ok h
    dsimp only at h
    split at h
    · cases h
    · obtain ⟨⟨_, s₆⟩, -, h⟩ := bind_eq_ok h
      obtain ⟨⟨hour, s₇⟩, -, h⟩ := bind_eq_ok h
      obtain ⟨⟨_, s₈⟩, -, h⟩ := bind_eq_ok h
      obtain ⟨⟨minute, s₉⟩, -, h⟩ := bind_eq_ok h
      obtain ⟨⟨_, s₁₀⟩, -, h⟩ := bind_eq_ok h
      obtain ⟨⟨second, s₁₁⟩, -, h⟩ := bind_eq_ok h
      obtain ⟨⟨nanos, s₁₂⟩, fraction, h⟩ := bind_eq_ok h
      dsimp only at h
      split at h
      · cases h
      · next time =>
        obtain ⟨⟨offset, s₁₃⟩, shift, h⟩ := bind_eq_ok h
        dsimp only at h
        split at h
        · cases h
        · split at h
          · cases h
          · exact ⟨⟨⟨year, month, day⟩, hour, minute, second, nanos⟩, offset, ⟨_, _, fraction⟩,
              by simpa using time, ⟨_, _, shift⟩, h⟩

/-- **Whatever is read, a clock can show it.** -/
theorem parseStrict_isProper {s : List Char} {t : Instant} (h : parseStrict s = .ok t) :
    t.IsProper := by
  obtain ⟨r, offset, ⟨_, _, fraction⟩, -, ⟨_, _, shift⟩, shown⟩ := parseStrict_reading h
  exact (ofLocal_isShown (readOptionalFraction_lt fraction) (readOffset_minutes shift) shown).proper

/-- **A stored text stands for its instant exactly when the instant is storable.** -/
theorem parseStrict_storedText_iff (t : Instant) :
    parseStrict t.storedText.toList = .ok t ↔ t.IsStorable := by
  refine ⟨fun read => ⟨parseStrict_isProper read, ?_⟩, parseStrict_storedText⟩
  by_cases plain : t.HasPlainYear
  · exact plain
  · obtain ⟨e, refused⟩ := parseStrict_storedChars_of_signed plain
    rw [storedText, String.toList_ofList, refused] at read
    cases read

end AccountStore.Instant
