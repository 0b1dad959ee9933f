/-
# AccountStore.Proofs.Config.Rules -- the rules that settings obey

Settings obey six rules, each stated here without the check that looks for it
(`Rule.Holds`).  No rule hides another: what is wrong with settings is one entry for
each rule that does not hold, in the order of the rules (`violations_eq_map`), and the
entries tell which rules these are (`violation_injective`).  Two of the rules are about
the names of tables, and these two decide whether the statements can be made
(`ofSettings_eq_ok_iff`, `ofSettings_eq_error_iff`), so settings that were taken are
never refused there.
-/
import AccountStore.Config.Load
import AccountStore.Proofs.Statements.Placeholders
import AccountStore.Proofs.Text.Case
import AccountStore.Validate.Grammar
import Mathlib.Data.List.Count
import Mathlib.Data.List.Nodup

namespace AccountStore

set_option autoImplicit false

/-! ## Identifiers -/

/-- An ASCII letter or `_`, and then ASCII letters, digits and `_`. -/
def PlainIdentifier (name : String) : Prop :=
  ∃ c r, name.toList = c :: r ∧ (Validate.isAsciiLetter c = true ∨ c = '_') ∧
    ∀ d ∈ r, Validate.isAsciiLetter d = true ∨ isDigit d = true ∨ d = '_'

theorem isAlpha_iff (c : Char) : c.isAlpha = true ↔ Validate.isAsciiLetter c = true := by
  have upper : c.isUpper = true ↔ Validate.isAsciiUpper c = true := by
    show decide (c.val ≥ 'A'.val ∧ c.val ≤ 'Z'.val) = true ↔ _
    rw [decide_eq_true_eq, Validate.isAsciiUpper, Bool.and_eq_true, decide_eq_true_eq,
      decide_eq_true_eq]
    rfl
  have lower : c.isLower = Validate.isAsciiLower c := rfl
  show (c.isUpper || c.isLower) = true ↔ _
  rw [Validate.isAsciiLetter, Bool.or_eq_true, Bool.or_eq_true, upper, lower]

theorem isAlphanum_iff (c : Char) :
    c.isAlphanum = true ↔ Validate.isAsciiLetter c = true ∨ isDigit c = true := by
  have digit : c.isDigit = true ↔ isDigit c = true := by
    simp only [Char.isDigit, isDigit, Bool.and_eq_true, decide_eq_true_eq]
    exact Iff.rfl
  rw [Char.isAlphanum, Bool.or_eq_true, isAlpha_iff, digit]

theorem isTableIdentifier_iff (name : String) :
    isTableIdentifier name = true ↔ PlainIdentifier name := by
  unfold isTableIdentifier PlainIdentifier
  cases name.toList with
  | nil => simp
  | cons c r =>
      simp only [Bool.and_eq_true, Bool.or_eq_true, List.all_eq_true, beq_iff_eq, isAlpha_iff,
        isAlphanum_iff, or_assoc]
      constructor
      · rintro ⟨first, rest⟩
        exact ⟨c, r, rfl, first, rest⟩
      · rintro ⟨_, _, same, first, rest⟩
        cases same
        exact ⟨first, rest⟩

instance (name : String) : Decidable (PlainIdentifier name) :=
  decidable_of_iff _ (isTableIdentifier_iff name)

/-! ## The names that statements take -/

namespace Template

variable {s : StorageSettings}

theorem ofSettings_eq_ok_iff :
    (∃ t, ofSettings s = .ok t) ↔
      PlainIdentifier s.usersTable ∧ PlainIdentifier s.sessionsTable := by
  rw [← isTableIdentifier_iff, ← isTableIdentifier_iff]
  constructor
  · rintro ⟨t, taken⟩
    exact ⟨(ofSettings_eq_ok taken).users, (ofSettings_eq_ok taken).sessions⟩
  · rintro ⟨users, sessions⟩
    exact exists_ofSettings users sessions

/-- **A refusal names the first of the two names that is no identifier.** -/
theorem ofSettings_eq_error_iff {e : StoreError} :
    ofSettings s = .error e ↔
      (¬ PlainIdentifier s.usersTable ∧ e = .invalidTableName s.usersTable) ∨
        (PlainIdentifier s.usersTable ∧ ¬ PlainIdentifier s.sessionsTable ∧
          e = .invalidTableName s.sessionsTable) := by
  by_cases users : PlainIdentifier s.usersTable
  · have users' := (isTableIdentifier_iff _).mpr users
    by_cases sessions : PlainIdentifier s.sessionsTable
    · obtain ⟨t, taken⟩ := ofSettings_eq_ok_iff.mpr ⟨users, sessions⟩
      simp [taken, users, sessions]
    · have sessions' : isTableIdentifier s.sessionsTable = false := by
        rwa [← Bool.not_eq_true, isTableIdentifier_iff]
      have refused : ofSettings s = .error (.invalidTableName s.sessionsTable) := by
        rw [ofSettings, users', sessions']
        rfl
      simp [refused, users, sessions, eq_comm]
  · have users' : isTableIdentifier s.usersTable = false := by
      rwa [← Bool.not_eq_true, isTableIdentifier_iff]
    have refused : ofSettings s = .error (.invalidTableName s.usersTable) := by
      rw [ofSettings, users']
      rfl
    simp [refused, users, eq_comm]

end Template

/-! ## The rules -/

namespace Config

inductive Rule where
  | databasePath
  | usersTable
  | sessionsTable
  | separateTables
  | attempts
  | level
  deriving DecidableEq, Repr

namespace Rule

/-- Every rule, in the order in which violations are told. -/
def all : List Rule :=
  [.databasePath, .usersTable, .sessionsTable, .separateTables, .attempts, .level]

/-- What the rule asks for. -/
def Holds (s : Settings) : Rule → Prop
  | .databasePath => ∃ c ∈ s.storage.databasePath.toList, Text.isBlank c = false
  | .usersTable => PlainIdentifier s.storage.usersTable
  | .sessionsTable => PlainIdentifier s.storage.sessionsTable
  | .separateTables => s.storage.usersTable ≠ s.storage.sessionsTable
  | .attempts => 1 ≤ s.session.keyRetryAttempts
  | .level => ∃ l ∈ ["trace", "debug", "info", "warn", "error"], SameIgnoringCase s.logging.level l

/-- What is told when the rule does not hold. -/
def violation (s : Settings) : Rule → Violation
  | .databasePath => .noDatabasePath
  | .usersTable => .notIdentifier usersTableKey s.storage.usersTable
  | .sessionsTable => .notIdentifier sessionsTableKey s.storage.sessionsTable
  | .separateTables => .sameTables s.storage.usersTable
  | .attempts => .noAttempts
  | .level => .unknownLevel s.logging.level

/-- What is looked at to find out. -/
def isBroken (s : Settings) : Rule → Bool
  | .databasePath => Text.allBlank s.storage.databasePath.toList
  | .usersTable => !isTableIdentifier s.storage.usersTable
  | .sessionsTable => !isTableIdentifier s.storage.sessionsTable
  | .separateTables => s.storage.usersTable == s.storage.sessionsTable
  | .attempts => s.session.keyRetryAttempts == 0
  | .level => !levels.contains (asciiLowerText s.logging.level)

theorem mem_all (r : Rule) : r ∈ all := by
  cases r <;> decide

theorem nodup_all : all.Nodup := by decide

/-- The levels are in small letters already. -/
theorem asciiLowerText_mem_levels_iff (level : String) :
    asciiLowerText level ∈ levels ↔
      ∃ l ∈ ["trace", "debug", "info", "warn", "error"], SameIgnoringCase level l := by
  have small : ∀ l ∈ levels, asciiLowerText l = l := by decide +kernel
  constructor
  · intro known
    exact ⟨_, known, (asciiLowerText_eq_iff _ _).mp (small _ known).symm⟩
  · rintro ⟨l, known, same⟩
    rw [(asciiLowerText_eq_iff level l).mpr same, small l known]
    exact known

/-- **Each check finds exactly the settings for which its rule does not hold.** -/
theorem isBroken_iff {s : Settings} {r : Rule} : r.isBroken s = true ↔ ¬ r.Holds s := by
  cases r with
  | databasePath => simp [isBroken, Holds, Text.allBlank]
  | usersTable | sessionsTable =>
      rw [isBroken, Holds, Bool.not_eq_true', ← isTableIdentifier_iff, Bool.not_eq_true]
  | separateTables => simp [isBroken, Holds]
  | attempts => simp [isBroken, Holds]
  | level =>
      rw [isBroken, Holds, Bool.not_eq_true', ← asciiLowerText_mem_levels_iff,
        ← List.contains_iff_mem, Bool.not_eq_true]

instance (s : Settings) (r : Rule) : Decidable (r.Holds s) :=
  decidable_of_iff (r.isBroken s = false) (by
    rw [← Bool.not_eq_true, isBroken_iff, Classical.not_not])

/-- Different rules tell different things; the names of tables tell where they stand. -/
theorem violation_injective (s : Settings) : Function.Injective (violation s) := by
  have apart : usersTableKey ≠ sessionsTableKey := by decide
  intro r r' same
  cases r <;> cases r' <;> simp_all [violation]

end Rule

variable {s : Settings}

theorem flatMap_violatedIf (broken : Rule → Bool) (tell : Rule → Violation) (rules : List Rule) :
    (rules.flatMap fun r => violatedIf (broken r) (tell r)) = (rules.filter broken).map tell := by
  induction rules with
  | nil => rfl
  | cons r rules ih =>
      rw [List.flatMap_cons, ih]
      cases found : broken r with
      | true => rw [List.filter_cons_of_pos found, List.map_cons]; rfl
      | false => rw [List.filter_cons_of_neg (by simp [found])]; rfl

/-- **What is wrong is told rule by rule.** -/
theorem violations_eq_map (s : Settings) :
    violations s = (Rule.all.filter fun r => ¬ r.Holds s).map (Rule.violation s) := by
  have parts :
      violations s = Rule.all.flatMap fun r => violatedIf (r.isBroken s) (r.violation s) := by
    simp [violations, Rule.all, Rule.isBroken, Rule.violation]
  have broken : ∀ r ∈ Rule.all, r.isBroken s = decide (¬ r.Holds s) := by
    intro r _
    rw [Bool.eq_iff_iff, Rule.isBroken_iff, decide_eq_true_eq]
  rw [parts, flatMap_violatedIf, List.filter_congr broken]

theorem violations_eq_nil_iff_holds : violations s = [] ↔ ∀ r : Rule, r.Holds s := by
  rw [violations_eq_map, List.map_eq_nil_iff, List.filter_eq_nil_iff]
  constructor
  · intro none r
    simpa using none r r.mem_all
  · intro all r _
    simpa using all r

theorem count_violation (s : Settings) (r : Rule) :
    (violations s).count (r.violation s) = if r.Holds s then 0 else 1 := by
  have once : Rule.all.count r = 1 := List.count_eq_one_of_mem Rule.nodup_all r.mem_all
  rw [violations_eq_map, List.count_map_of_injective _ _ (Rule.violation_injective s)]
  by_cases holds : r.Holds s
  · rw [if_pos holds, List.count_eq_zero]
    simp [holds]
  · rw [if_neg holds, List.count_filter (by simpa using holds), once]

theorem checked_eq_ok_iff : checked s = .ok s ↔ ∀ r : Rule, r.Holds s := by
  rw [← violations_eq_nil_iff_holds, checked]
  split
  · next none => simp [none]
  · next found => exact iff_of_false nofun found

theorem checked_eq_error_iff {ds : List Diagnostic} :
    checked s = .error ds ↔ violations s ≠ [] ∧ ds = (violations s).map .violation := by
  rw [checked]
  split
  · next none => simp [none]
  · next found =>
      rw [Except.error.injEq, eq_comm]
      exact (and_iff_right found).symm

/-- **Settings are taken if every rule holds, and else every rule that does not is
told of once, in order.**  The statements refuse the settings with a name that is no
identifier, the first such name being told, and so refuse none that were taken. -/
theorem settings_taken_by_rules (s : Settings) :
    (checked s = .ok s ↔ ∀ r : Rule, r.Holds s) ∧
      (∀ ds, checked s = .error ds ↔ (∃ r : Rule, ¬ r.Holds s) ∧
        ds = (Rule.all.filter fun r => ¬ r.Holds s).map fun r => .violation (r.violation s)) ∧
      (∀ r : Rule, (violations s).count (r.violation s) = if r.Holds s then 0 else 1) ∧
      (checked s = .ok s → ∃ t, Template.ofSettings s.storage = .ok t) ∧
      ((∃ t, Template.ofSettings s.storage = .ok t) ↔
        PlainIdentifier s.storage.usersTable ∧ PlainIdentifier s.storage.sessionsTable) ∧
      ∀ e, Template.ofSettings s.storage = .error e ↔
        (¬ PlainIdentifier s.storage.usersTable ∧
          e = .invalidTableName s.storage.usersTable) ∨
        (PlainIdentifier s.storage.usersTable ∧ ¬ PlainIdentifier s.storage.sessionsTable ∧
          e = .invalidTableName s.storage.sessionsTable) := by
  refine ⟨checked_eq_ok_iff, ?_, count_violation s, ?_, Template.ofSettings_eq_ok_iff,
    fun e => Template.ofSettings_eq_error_iff⟩
  · intro ds
    rw [checked_eq_error_iff, ne_eq, violations_eq_nil_iff_holds, not_forall, violations_eq_map,
      List.map_map]
    rfl
  · intro taken
    have holds := checked_eq_ok_iff.mp taken
    exact Template.ofSettings_eq_ok_iff.mpr ⟨holds .usersTable, holds .sessionsTable⟩

/-- Two names that are one and no identifier break three rules at once, beside a blank
path; capital letters in a level break none. -/
theorem settings_taken_by_rules_at_one_bad_name :
    let bad : Settings :=
      { storage := { databasePath := " \n", usersTable := "1t", sessionsTable := "1t" }
        logging := { level := "Debug" } }
    let good : Settings := { bad with storage := { databasePath := "a.db" } }
    checked bad = .error ([.noDatabasePath, .notIdentifier usersTableKey "1t",
        .notIdentifier sessionsTableKey "1t", .sameTables "1t"].map .violation) ∧
      Template.ofSettings bad.storage = .error (.invalidTableName "1t") ∧
      checked good = .ok good ∧ ∃ t, Template.ofSettings good.storage = .ok t := by
  intro bad good
  obtain ⟨-, told, -, -, -, refused⟩ := settings_taken_by_rules bad
  obtain ⟨taken, -, -, accepted, -⟩ := settings_taken_by_rules good
  have inOrder : checked good = .ok good :=
    taken.mpr fun r => by cases r <;> decide +kernel
  refine ⟨(told _).mpr ⟨⟨.databasePath, by decide +kernel⟩, by decide +kernel⟩,
    (refused _).mpr (.inl ⟨by decide +kernel, rfl⟩), inOrder, accepted inOrder⟩

end Config

end AccountStore
