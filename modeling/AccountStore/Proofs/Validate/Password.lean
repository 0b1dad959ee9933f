/-
# AccountStore.Proofs.Validate.Password -- what a password policy asks for

A policy keeps the classes it asks for in a list, and accepts a password by comparing
two counts over that list.  The counts are equal exactly if every class of the list
occurs in the password (`countPresent_eq_length_iff`), so it does not matter how often
or in which order a class was asked for: a policy is its bounds and a set of classes
(`accepts_iff`, `mem_required_requiringAll`).  A class that occurs in a text occurs in
every text with further characters between (`Occurs.mono`).
-/
import AccountStore.Validate.Password

namespace AccountStore

set_option autoImplicit false

namespace CharClass

/-- The text has a character of the class. -/
def Occurs (k : CharClass) (s : List Char) : Prop := ∃ c ∈ s, k.contains c = true

theorem Occurs.mono {k : CharClass} {s t : List Char} (occurs : k.Occurs s) (within : s.Sublist t) :
    k.Occurs t := by
  obtain ⟨c, stands, belongs⟩ := occurs
  exact ⟨c, within.subset stands, belongs⟩

/-- An entry is counted once for each time it is listed, so none may be missing. -/
theorem countPresent_eq_length_iff {classes : List CharClass} {s : List Char} :
    countPresent classes s = classes.length ↔ ∀ k ∈ classes, k.Occurs s := by
  simp only [countPresent, List.countP_eq_length, List.any_eq_true, Occurs]

end CharClass

namespace PasswordPolicy

/-- The number of characters is in the bounds. -/
structure Admits (p : PasswordPolicy) (n : Nat) : Prop where
  low : ∀ m, p.minLength = some m → m ≤ n
  high : ∀ m, p.maxLength = some m → n ≤ m

/-- **A policy accepts what is in its bounds and has every class.** -/
theorem accepts_iff {p : PasswordPolicy} {password : String} :
    p.accepts password = true ↔
      p.Admits password.length ∧ ∀ k ∈ p.required, k.Occurs password.toList := by
  rw [accepts, Bool.and_eq_true, Bool.and_eq_true, beq_iff_eq,
    CharClass.countPresent_eq_length_iff, String.length_toList]
  refine and_congr_left fun _ => ?_
  constructor
  · rintro ⟨low, high⟩
    constructor
    · intro m bound
      rw [bound] at low
      exact of_decide_eq_true low
    · intro m bound
      rw [bound] at high
      exact of_decide_eq_true high
  · rintro ⟨low, high⟩
    constructor
    · split
      · rfl
      · next m bound => exact decide_eq_true (low m bound)
    · split
      · rfl
      · next m bound => exact decide_eq_true (high m bound)

/-! ## Calls in turn -/

/-- Asks for the classes of one call after the other. -/
def requiringAll (p : PasswordPolicy) (calls : List (List CharClass)) : PasswordPolicy :=
  calls.foldl requiring p

variable {p : PasswordPolicy} {calls : List (List CharClass)}

/-- Calls leave the bounds as they are. -/
theorem admits_requiringAll {n : Nat} : (p.requiringAll calls).Admits n ↔ p.Admits n := by
  induction calls generalizing p with
  | nil => rfl
  | cons call calls ih =>
      have step : (p.requiring call).Admits n ↔ p.Admits n :=
        ⟨fun ⟨low, high⟩ => ⟨low, high⟩, fun ⟨low, high⟩ => ⟨low, high⟩⟩
      exact ih.trans step

/-- **A class is asked for exactly if it was before or a call mentions it.** -/
theorem mem_required_requiringAll {k : CharClass} :
    k ∈ (p.requiringAll calls).required ↔ k ∈ p.required ∨ ∃ call ∈ calls, k ∈ call := by
  induction calls generalizing p with
  | nil => simp [requiringAll]
  | cons call calls ih =>
      have later : (p.requiringAll (call :: calls)).required =
          ((p.requiring call).requiringAll calls).required := rfl
      rw [later, ih, required_requiring, List.mem_append, or_assoc]
      simp only [List.mem_cons, exists_eq_or_imp]

theorem accepts_requiringAll {minLength maxLength : Option Nat} {password : String} :
    ((ofLength minLength maxLength).requiringAll calls).accepts password = true ↔
      (ofLength minLength maxLength).Admits password.length ∧
        ∀ k, (∃ call ∈ calls, k ∈ call) → k.Occurs password.toList := by
  have none : ∀ k, k ∉ (ofLength minLength maxLength).required := fun k => List.not_mem_nil
  simp only [accepts_iff, admits_requiringAll, mem_required_requiringAll, none, false_or]

/-- **A verdict follows from the bounds and the set of classes asked for.**  So calls
that mention the same classes make the same policy, whatever their order and grouping;
a further call at any place refuses what was refused; and characters put in anywhere
leave a password accepted while there are not too many. -/
theorem verdict_by_set_of_classes (minLength maxLength : Option Nat)
    (calls : List (List CharClass)) (password : String) :
    let policy := (ofLength minLength maxLength).requiringAll
    ((policy calls).accepts password = true ↔
        (∀ m, minLength = some m → m ≤ password.length) ∧
          (∀ m, maxLength = some m → password.length ≤ m) ∧
          ∀ k, (∃ call ∈ calls, k ∈ call) → k.Occurs password.toList) ∧
      (∀ calls', (∀ k, (∃ call ∈ calls', k ∈ call) ↔ ∃ call ∈ calls, k ∈ call) →
        (policy calls').accepts password = (policy calls).accepts password) ∧
      (∀ earlier later call, calls = earlier ++ later →
        (policy calls).accepts password = false →
          (policy (earlier ++ call :: later)).accepts password = false) ∧
      (∀ longer : String, password.toList.Sublist longer.toList →
        (∀ m, maxLength = some m → longer.length ≤ m) →
          (policy calls).accepts password = true → (policy calls).accepts longer = true) := by
  intro policy
  refine ⟨?_, ?_, ?_, ?_⟩
  · rw [accepts_requiringAll, ← and_assoc]
    exact and_congr_left' ⟨fun ⟨low, high⟩ => ⟨low, high⟩, fun ⟨low, high⟩ => ⟨low, high⟩⟩
  · intro calls' same
    rw [Bool.eq_iff_iff, accepts_requiringAll, accepts_requiringAll]
    simp only [same]
  · rintro earlier later call rfl refused
    rw [← Bool.not_eq_true, accepts_requiringAll] at refused ⊢
    rintro ⟨bounds, all⟩
    refine refused ⟨bounds, fun k ⟨other, stands, asked⟩ => all k ⟨other, ?_, asked⟩⟩
    rw [List.mem_append, List.mem_cons]
    exact (List.mem_append.mp stands).imp_right .inr
  · intro longer within short accepted
    rw [accepts_requiringAll] at accepted ⊢
    obtain ⟨⟨low, -⟩, all⟩ := accepted
    have grown : password.length ≤ longer.length := by
      simpa only [String.length_toList] using within.length_le
    exact ⟨⟨fun m bound => Nat.le_trans (low m bound) grown, short⟩,
      fun k asked => (all k asked).mono within⟩

/-- A digit that is asked for twice has to be there once; a letter between does no harm,
and a further class does not help a password without digits. -/
theorem verdict_by_set_of_classes_on_repeated_calls :
    let policy := (ofLength (some 3) (some 4)).requiringAll
    (policy [[.digit, .lower], [.digit]]).accepts "a1b" = true ∧
      (policy [[.lower], [.digit]]).accepts "a1b" = true ∧
      (policy [[.digit, .lower], [.digit]]).accepts "aÄ1b" = true ∧
      (policy [[.digit, .lower], [.upper], [.digit]]).accepts "abC" = false := by
  intro policy
  have accepted : (policy [[.digit, .lower], [.digit]]).accepts "a1b" = true := by decide +kernel
  have refused : (policy [[.digit, .lower], [.digit]]).accepts "abC" = false := by decide +kernel
  obtain ⟨-, regrouped, -, grown⟩ :=
    verdict_by_set_of_classes (some 3) (some 4) [[.digit, .lower], [.digit]] "a1b"
  obtain ⟨-, -, further, -⟩ :=
    verdict_by_set_of_classes (some 3) (some 4) [[.digit, .lower], [.digit]] "abC"
  refine ⟨accepted, ?_, ?_, further [[.digit, .lower]] [[.digit]] [.upper] rfl refused⟩
  · rw [regrouped [[.lower], [.digit]] (by intro k; cases k <;> decide)]
    exact accepted
  · have within : "a1b".toList.Sublist "aÄ1b".toList := by decide
    have short : ∀ m, some 4 = some m → "aÄ1b".length ≤ m := by
      intro m bound
      cases bound
      decide
    exact grown "aÄ1b" within short accepted

end PasswordPolicy

end AccountStore
