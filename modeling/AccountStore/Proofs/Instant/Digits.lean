/-
# AccountStore.Proofs.Instant.Digits -- fields of fixed width

A number below `10 ^ w`, written with `w` digits, has exactly `w` characters,
reads back as itself, and sorts among the texts of that width as the number
does among the numbers.  All three go by induction on the width: one more digit
at the end is `paddedDigits_succ`.
-/
import Mathlib.Algebra.Group.Nat.Defs
import AccountStore.Instant.Reader

namespace AccountStore

set_option autoImplicit false

/-- Of two texts that start with parts of one length, the parts decide unless
they are equal. -/
theorem append_lt_append_iff {a b x y : List Char} (h : a.length = b.length) :
    a ++ x < b ++ y ↔ a < b ∨ a = b ∧ x < y := by
  induction a generalizing b with
  | nil =>
      have : b = [] := List.length_eq_zero_iff.mp h.symm
      subst this
      simp
  | cons c a ih =>
      cases b with
      | nil => simp at h
      | cons d b =>
          have hlen : a.length = b.length := by simpa using h
          simp only [List.cons_append, List.cons_lt_cons_iff, ih hlen, List.cons.injEq]
          constructor
          · rintro (lt | ⟨eq, lt | ⟨rest, lt⟩⟩)
            · exact .inl (.inl lt)
            · exact .inl (.inr ⟨eq, lt⟩)
            · exact .inr ⟨⟨eq, rest⟩, lt⟩
          · rintro ((lt | ⟨eq, lt⟩) | ⟨⟨eq, rest⟩, lt⟩)
            · exact .inl lt
            · exact .inr ⟨eq, .inl lt⟩
            · exact .inr ⟨eq, .inr ⟨rest, lt⟩⟩

/-! ## One digit -/

theorem digitValue_digitChar {n : Nat} (h : n < 10) : digitValue n.digitChar = n := by
  have all : ∀ n < 10, digitValue (Nat.digitChar n) = n := by decide
  exact all n h

theorem digitValue_le {c : Char} (h : isDigit c = true) : digitValue c ≤ 9 := by
  simp only [isDigit, Bool.and_eq_true, decide_eq_true_eq] at h
  have top : c.toNat ≤ '9'.toNat := h.2
  have nine : '9'.toNat = 57 := rfl
  have zero : '0'.toNat = 48 := rfl
  rw [digitValue]
  omega

theorem digitChar_lt_iff {n m : Nat} (hn : n < 10) (hm : m < 10) :
    n.digitChar < m.digitChar ↔ n < m := by
  have all : ∀ n < 10, ∀ m < 10, (Nat.digitChar n < Nat.digitChar m ↔ n < m) := by decide
  exact all n hn m hm

/-- A dash comes before every digit. -/
theorem dash_lt_of_isDigit {c : Char} (h : isDigit c = true) : '-' < c := by
  simp only [isDigit, Bool.and_eq_true, decide_eq_true_eq] at h
  have dash : '-' < '0' := by decide
  exact Nat.lt_of_lt_of_le dash h.1

/-! ## A field -/

/-- One more place takes the last digit. -/
theorem paddedDigits_succ (w n : Nat) (positive : 0 < w) :
    paddedDigits (w + 1) n = paddedDigits w (n / 10) ++ [(n % 10).digitChar] := by
  unfold paddedDigits
  by_cases small : n < 10
  · obtain ⟨w, rfl⟩ := Nat.exists_eq_succ_of_ne_zero (Nat.pos_iff_ne_zero.mp positive)
    have hdiv : n / 10 = 0 := Nat.div_eq_of_lt small
    rw [Nat.toDigits_of_lt_base small, hdiv, Nat.mod_eq_of_lt small, Nat.toDigits_zero]
    simp [List.replicate_succ']
  · rw [Nat.toDigits_of_base_le (by decide) (by omega)]
    simp only [List.length_append, List.length_singleton, Nat.add_sub_add_right, List.append_assoc]

theorem paddedDigits_one {n : Nat} (h : n < 10) : paddedDigits 1 n = [n.digitChar] := by
  simp [paddedDigits, Nat.toDigits_of_lt_base h]

theorem length_paddedDigits {w n : Nat} (positive : 0 < w) (h : n < 10 ^ w) :
    (paddedDigits w n).length = w := by
  have hlen := (Nat.length_toDigits_le_iff (b := 10) (n := n) (by decide) positive).2 h
  simp only [paddedDigits, List.length_append, List.length_replicate]
  omega

theorem all_isDigit_paddedDigits (w n : Nat) : ∀ c ∈ paddedDigits w n, isDigit c = true := by
  intro c hc
  simp only [paddedDigits, List.mem_append, List.mem_replicate] at hc
  rcases hc with ⟨-, rfl⟩ | hc
  · decide
  · have hd := Nat.isDigit_of_mem_toDigits (by decide) (by decide) hc
    simpa [isDigit, Char.isDigit, Char.le_def] using hd

theorem paddedDigits_eq_cons (w n : Nat) :
    ∃ c ds, paddedDigits w n = c :: ds ∧ isDigit c = true ∧ ∀ d ∈ ds, isDigit d = true := by
  have hne : paddedDigits w n ≠ [] := by simp [paddedDigits, Nat.toDigits_ne_nil]
  obtain ⟨c, ds, hcons⟩ := List.exists_cons_of_ne_nil hne
  have digits := all_isDigit_paddedDigits w n
  rw [hcons] at digits
  exact ⟨c, ds, hcons, digits c List.mem_cons_self, fun d hd => digits d (List.mem_cons_of_mem c hd)⟩

/-- The digits of a field end where no digit follows. -/
theorem span_paddedDigits (w n : Nat) {rest : List Char} (stop : rest.takeWhile isDigit = []) :
    (paddedDigits w n ++ rest).takeWhile isDigit = paddedDigits w n ∧
      (paddedDigits w n ++ rest).dropWhile isDigit = rest := by
  have digits := all_isDigit_paddedDigits w n
  have whole := List.takeWhile_append_dropWhile (p := isDigit) (l := rest)
  rw [stop, List.nil_append] at whole
  rw [List.takeWhile_append_of_pos digits, List.dropWhile_append_of_pos digits, stop, whole,
    List.append_nil]
  exact ⟨rfl, rfl⟩

theorem digitsValue_append_singleton (ds : List Char) (c : Char) :
    digitsValue (ds ++ [c]) = digitsValue ds * 10 + digitValue c := by
  simp [digitsValue]

theorem digitsValue_toDigits (n : Nat) : digitsValue (Nat.toDigits 10 n) = n := by
  induction n using Nat.strongRecOn with
  | _ n ih =>
      by_cases small : n < 10
      · rw [Nat.toDigits_of_lt_base small]
        simp [digitsValue, digitValue_digitChar small]
      · have hr : n % 10 < 10 := Nat.mod_lt _ (by decide)
        rw [Nat.toDigits_of_base_le (by decide) (by omega), digitsValue_append_singleton,
          ih (n / 10) (by omega), digitValue_digitChar hr]
        omega

theorem digitsValue_replicate_append (k : Nat) (ds : List Char) :
    digitsValue (List.replicate k '0' ++ ds) = digitsValue ds := by
  induction k with
  | zero => rfl
  | succ k ih =>
      rw [List.replicate_succ, List.cons_append]
      exact ih

/-- The digits of a field spell its number. -/
theorem digitsValue_paddedDigits (w n : Nat) : digitsValue (paddedDigits w n) = n := by
  rw [paddedDigits, digitsValue_replicate_append, digitsValue_toDigits]

theorem paddedDigits_inj {w n m : Nat} : paddedDigits w n = paddedDigits w m ↔ n = m := by
  refine ⟨fun same => ?_, fun same => same ▸ rfl⟩
  rw [← digitsValue_paddedDigits w n, same, digitsValue_paddedDigits]

/-- **Fields of one width sort as their numbers.** -/
theorem paddedDigits_lt_iff {w n m : Nat} (positive : 0 < w) (hn : n < 10 ^ w) (hm : m < 10 ^ w) :
    paddedDigits w n < paddedDigits w m ↔ n < m := by
  induction w generalizing n m with
  | zero => exact absurd positive (by decide)
  | succ w ih =>
      by_cases base : w = 0
      · subst base
        rw [Nat.zero_add, Nat.pow_one] at hn hm
        rw [paddedDigits_one hn, paddedDigits_one hm, List.cons_lt_cons_iff, digitChar_lt_iff hn hm]
        simp
      · have below : ∀ k, k < 10 ^ (w + 1) → k / 10 < 10 ^ w := by
          intro k hk
          rw [Nat.div_lt_iff_lt_mul (by decide)]
          rwa [Nat.pow_succ] at hk
        have hw : 0 < w := Nat.pos_of_ne_zero base
        rw [paddedDigits_succ w n hw, paddedDigits_succ w m hw,
          append_lt_append_iff (by rw [length_paddedDigits hw (below n hn),
            length_paddedDigits hw (below m hm)]),
          ih hw (below n hn) (below m hm), paddedDigits_inj,
          List.cons_lt_cons_iff, digitChar_lt_iff (Nat.mod_lt _ (by decide)) (Nat.mod_lt _ (by decide))]
        simp only [Std.lt_irrefl, and_false, or_false]
        omega

/-! ## Reading a field -/

namespace Instant

/-- Digits are read one by one. -/
theorem readDigits_append (ds rest : List Char) (acc : Nat) (digits : ∀ c ∈ ds, isDigit c = true) :
    readDigits ds.length acc (ds ++ rest) =
      .ok (ds.foldl (fun m c => m * 10 + digitValue c) acc, rest) := by
  induction ds generalizing acc with
  | nil => rfl
  | cons c ds ih =>
      have hc := digits c List.mem_cons_self
      simp only [List.length_cons, List.cons_append, readDigits, hc, if_true, List.foldl_cons]
      exact ih _ (fun d hd => digits d (List.mem_cons_of_mem _ hd))

/-- **A field of fixed width reads back.** -/
theorem readDigits_paddedDigits {w n : Nat} (positive : 0 < w) (h : n < 10 ^ w)
    (rest : List Char) : readDigits w 0 (paddedDigits w n ++ rest) = .ok (n, rest) := by
  have hread := readDigits_append (paddedDigits w n) rest 0 (all_isDigit_paddedDigits w n)
  rw [length_paddedDigits positive h] at hread
  rw [hread, ← digitsValue, digitsValue_paddedDigits]

end Instant

end AccountStore
