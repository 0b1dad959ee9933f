/-
# AccountStore.Proofs.Engine.RowDecoding -- which rows are read, and what is wrong with others

A row is read from the left, each column in the kind that is asked for there
(`ColumnKind`).  It is read exactly when every column is there and has a value of
its kind, and otherwise the first column with a fault decides the error
(`DecidedFrom`).  What was read says which values stood there
(`readUser_eq_ok_iff`), and columns beyond the last one do not count.

A column can be taken once and is null afterwards.  Since every column is taken
once and from the left, what was taken is never asked for again, so reading a row
in turn (`takeUser`) is reading its columns where they stand.
-/
import AccountStore.Engine.Scripted
import AccountStore.Proofs.Engine.Sessions
import AccountStore.Proofs.Engine.UserRows
import AccountStore.Proofs.Engine.Users
import AccountStore.Proofs.Instant.Reading

namespace AccountStore

set_option autoImplicit false

/-! ## Columns -/

/-- What a column is asked to hold; a flag may be counted, and an instant is the
bridge's business. -/
inductive ColumnKind where
  | integer
  | text
  | flag
  | instant
  deriving DecidableEq, Repr

namespace ColumnKind

def Accepts (b : Bridge) : ColumnKind → SqlValue → Prop
  | .integer, v => ∃ n, v = .integer n
  | .text, v => ∃ s, v = .text s
  | .flag, v => (∃ t, v = .bool t) ∨ ∃ n, v = .integer n
  | .instant, v => ∃ t, b.decode v = .ok t

/-- What is said of a value that a column does not take: which kind was expected and
which was found, or what the bridge says. -/
def Refuses (b : Bridge) : ColumnKind → SqlValue → StoreError → Prop
  | .integer, v, e => (∀ n, v ≠ .integer n) ∧ e = .typeMismatch "integer" v.typeName
  | .text, v, e => (∀ s, v ≠ .text s) ∧ e = .typeMismatch "text" v.typeName
  | .flag, v, e =>
      ((∀ t, v ≠ .bool t) ∧ ∀ n, v ≠ .integer n) ∧ e = .typeMismatch "bool" v.typeName
  | .instant, v, e => b.decode v = .error e

end ColumnKind

/-- A value of a row is read as this value of a field.  Any integer but zero is a true
flag. -/
def FieldValue.ReadFrom (b : Bridge) : FieldValue → SqlValue → Prop
  | .plain (.bool t), v => v = .bool t ∨ ∃ n, v = .integer n ∧ t = (n != 0)
  | .plain w, v => v = w
  | .timestamp t, v => b.decode v = .ok t

namespace Row

/-- The column is there and holds a value of the kind. -/
def Fits (b : Bridge) (r : Row) (i : Nat) (k : ColumnKind) : Prop :=
  ∃ v, r.values[i]? = some v ∧ k.Accepts b v

/-- What is wrong with a column: it is missing, or its value is refused. -/
def Faults (b : Bridge) (r : Row) (i : Nat) (k : ColumnKind) (e : StoreError) : Prop :=
  (r.values[i]? = none ∧ e = .typeMismatch "column" s!"row with {r.size} columns") ∨
    ∃ v, r.values[i]? = some v ∧ k.Refuses b v e

/-- The columns from one on fit. -/
def FitsFrom (b : Bridge) (r : Row) (i : Nat) (ks : List ColumnKind) : Prop :=
  ∀ j k, ks[j]? = some k → r.Fits b (i + j) k

/-- The fault of the first of these columns that does not fit. -/
def FirstFault (b : Bridge) (r : Row) (i : Nat) (ks : List ColumnKind) (e : StoreError) : Prop :=
  ∃ j k, ks[j]? = some k ∧ r.Faults b (i + j) k e ∧
    ∀ j' < j, ∀ k', ks[j']? = some k' → r.Fits b (i + j') k'

variable {b : Bridge} {r : Row} {i : Nat} {k : ColumnKind} {ks : List ColumnKind} {e : StoreError}

theorem fitsFrom_cons :
    r.FitsFrom b i (k :: ks) ↔ r.Fits b i k ∧ r.FitsFrom b (i + 1) ks := by
  constructor
  · intro fits
    refine ⟨fits 0 k rfl, fun j k' found => ?_⟩
    rw [Nat.add_right_comm, Nat.add_assoc]
    exact fits (j + 1) k' found
  · rintro ⟨first, later⟩ j k' found
    cases j with
    | zero =>
        cases found
        exact first
    | succ j =>
        have fits := later j k' found
        rwa [Nat.add_right_comm, Nat.add_assoc] at fits

theorem firstFault_cons :
    r.FirstFault b i (k :: ks) e ↔
      r.Faults b i k e ∨ r.Fits b i k ∧ r.FirstFault b (i + 1) ks e := by
  constructor
  · rintro ⟨j, k', found, faults, before⟩
    cases j with
    | zero =>
        cases found
        exact .inl faults
    | succ j =>
        refine .inr ⟨before 0 (Nat.succ_pos j) k rfl, j, k', found, ?_, fun l less k'' named => ?_⟩
        · rwa [Nat.add_right_comm, Nat.add_assoc]
        · rw [Nat.add_right_comm, Nat.add_assoc]
          exact before (l + 1) (Nat.succ_lt_succ less) k'' named
  · rintro (faults | ⟨first, j, k', found, faults, before⟩)
    · exact ⟨0, k, rfl, faults, fun _ less => absurd less (Nat.not_lt_zero _)⟩
    · refine ⟨j + 1, k', found, ?_, fun l less k'' named => ?_⟩
      · rwa [Nat.add_right_comm, Nat.add_assoc] at faults
      · cases l with
        | zero =>
            cases named
            exact first
        | succ l =>
            have fits := before l (Nat.lt_of_succ_lt_succ less) k'' named
            rwa [Nat.add_right_comm, Nat.add_assoc] at fits

/-- A row whose columns fit has that many. -/
theorem FitsFrom.length_le (fits : r.FitsFrom b 0 ks) : ks.length ≤ r.size := by
  by_contra short
  have inside : r.size < ks.length := Nat.lt_of_not_le short
  obtain ⟨v, found, -⟩ := fits r.size ks[r.size] (List.getElem?_eq_getElem inside)
  rw [Nat.zero_add, Row.size, List.getElem?_eq_none (Nat.le_refl _)] at found
  cases found

/-! ## One column -/

/-- A result that one column decides. -/
structure DecidedAt {α : Type} (b : Bridge) (r : Row) (i : Nat) (k : ColumnKind)
    (m : Except StoreError α) : Prop where
  ok_iff : (∃ a, m = .ok a) ↔ r.Fits b i k
  error_iff : ∀ e, m = .error e ↔ r.Faults b i k e

theorem take_of_getElem? {v : SqlValue} (found : r.values[i]? = some v) : (r.take i).1 = .ok v := by
  simp only [take, found]

theorem take_of_missing (missing : r.values[i]? = none) :
    (r.take i).1 = .error (.typeMismatch "column" s!"row with {r.size} columns") := by
  simp only [take, missing]

/-- What a column is read as depends on what is taken there. -/
theorem takeWith_congr {α : Type} {r' : Row} (same : (r.take i).1 = (r'.take i).1)
    (expected : String) (read : SqlValue → Option α) :
    (takeWith expected read r i).1 = (takeWith expected read r' i).1 := by
  unfold takeWith
  generalize r.take i = taken at same
  generalize r'.take i = taken' at same
  obtain ⟨result, left⟩ := taken
  obtain ⟨result', left'⟩ := taken'
  simp only at same
  subst same
  cases result with
  | error e => rfl
  | ok v =>
      simp only
      cases read v <;> rfl

/-- What is left of a row is the same whatever a value is read as. -/
theorem takeWith_snd {α : Type} (expected : String) (read : SqlValue → Option α) (r : Row)
    (i : Nat) : (takeWith expected read r i).2 = (r.take i).2 := by
  unfold takeWith
  split
  · next taken => rw [taken]
  · next v left taken =>
      rw [taken]
      cases read v <;> rfl

/-- More columns at the end are not seen before it. -/
theorem take_fst_append {vs : List SqlValue} (inside : i < vs.length) (more : List SqlValue) :
    (take ⟨vs ++ more⟩ i).1 = (take ⟨vs⟩ i).1 := by
  rw [take_of_getElem? (r := ⟨vs⟩) (List.getElem?_eq_getElem inside)]
  exact take_of_getElem? ((List.getElem?_append_left inside).trans
    (List.getElem?_eq_getElem inside))

/-- A column that is read by its type. -/
theorem takeWith_decided {α : Type} {expected : String} {read : SqlValue → Option α}
    (accepts : ∀ v, k.Accepts b v ↔ ∃ a, read v = some a)
    (refuses : ∀ v e, k.Refuses b v e ↔ read v = none ∧ e = .typeMismatch expected v.typeName)
    (r : Row) (i : Nat) : DecidedAt b r i k (takeWith expected read r i).1 := by
  cases found : r.values[i]? with
  | none =>
      have failed : (takeWith expected read r i).1 =
          .error (.typeMismatch "column" s!"row with {r.size} columns") := by
        simp only [takeWith, take, found]
      constructor
      · simp [failed, Fits, found]
      · intro e
        simp [failed, Faults, found, eq_comm]
  | some v =>
      cases readable : read v with
      | none =>
          have failed : (takeWith expected read r i).1 =
              .error (.typeMismatch expected v.typeName) := by
            simp only [takeWith, take, found, readable]
          constructor
          · simp [failed, Fits, found, accepts, readable]
          · intro e
            simp [failed, Faults, found, refuses, readable, eq_comm]
      | some a =>
          have done : (takeWith expected read r i).1 = .ok a := by
            simp only [takeWith, take, found, readable]
          constructor
          · simp [done, Fits, found, accepts, readable]
          · intro e
            simp [done, Faults, found, refuses, readable]

theorem takeInteger_decided (b : Bridge) (r : Row) (i : Nat) :
    DecidedAt b r i .integer (r.takeInteger i).1 := by
  refine takeWith_decided (fun v => ?_) (fun v e => ?_) r i
  · cases v <;> simp [ColumnKind.Accepts, readInteger]
  · cases v <;> simp [ColumnKind.Refuses, readInteger]

theorem takeText_decided (b : Bridge) (r : Row) (i : Nat) :
    DecidedAt b r i .text (r.takeText i).1 := by
  refine takeWith_decided (fun v => ?_) (fun v e => ?_) r i
  · cases v <;> simp [ColumnKind.Accepts, readText]
  · cases v <;> simp [ColumnKind.Refuses, readText]

theorem takeBool_decided (b : Bridge) (r : Row) (i : Nat) :
    DecidedAt b r i .flag (r.takeBool i).1 := by
  refine takeWith_decided (fun v => ?_) (fun v e => ?_) r i
  · cases v <;> simp [ColumnKind.Accepts, readBool]
  · cases v <;> simp [ColumnKind.Refuses, readBool]

theorem takeInstant_decided (b : Bridge) (r : Row) (i : Nat) :
    DecidedAt b r i .instant (UserEngine.takeInstant b r i) := by
  cases found : r.values[i]? with
  | none =>
      have failed : UserEngine.takeInstant b r i =
          .error (.typeMismatch "column" s!"row with {r.size} columns") := by
        simp only [UserEngine.takeInstant, take_of_missing found]
      constructor
      · simp [failed, Fits, found]
      · intro e
        simp [failed, Faults, found, eq_comm]
  | some v =>
      rw [UserEngine.takeInstant_eq found]
      constructor
      · simp [Fits, found, ColumnKind.Accepts]
      · intro e
        simp [Faults, found, ColumnKind.Refuses]

theorem takeWith_eq_ok {α : Type} {expected : String} {read : SqlValue → Option α} {a : α} :
    (takeWith expected read r i).1 = .ok a ↔ ∃ v, r.values[i]? = some v ∧ read v = some a := by
  cases found : r.values[i]? with
  | none => simp [takeWith, take, found]
  | some v => cases readable : read v <;> simp [takeWith, take, found, readable]

theorem takeInteger_eq_ok {n : Int} :
    (r.takeInteger i).1 = .ok n ↔ r.values[i]? = some (.integer n) := by
  have read : ∀ v, readInteger v = some n ↔ v = .integer n := by
    intro v
    cases v <;> simp [readInteger]
  simp [takeInteger, takeWith_eq_ok, read]

theorem takeText_eq_ok {s : String} : (r.takeText i).1 = .ok s ↔ r.values[i]? = some (.text s) := by
  have read : ∀ v, readText v = some s ↔ v = .text s := by
    intro v
    cases v <;> simp [readText]
  simp [takeText, takeWith_eq_ok, read]

theorem takeBool_eq_ok {t : Bool} :
    (r.takeBool i).1 = .ok t ↔
      ∃ v, r.values[i]? = some v ∧ (FieldValue.plain (.bool t)).ReadFrom b v := by
  have read : ∀ v, readBool v = some t ↔ (FieldValue.plain (.bool t)).ReadFrom b v := by
    intro v
    cases v <;> simp [readBool, FieldValue.ReadFrom, eq_comm]
  simp [takeBool, takeWith_eq_ok, read]

/-! ## Several columns -/

/-- A result that the columns from one on decide, the first fault before all others. -/
structure DecidedFrom {α : Type} (b : Bridge) (r : Row) (i : Nat) (ks : List ColumnKind)
    (m : Except StoreError α) : Prop where
  ok_iff : (∃ a, m = .ok a) ↔ r.FitsFrom b i ks
  error_iff : ∀ e, m = .error e ↔ r.FirstFault b i ks e

theorem DecidedFrom.ok {α : Type} (b : Bridge) (r : Row) (i : Nat) (a : α) :
    DecidedFrom b r i [] (.ok a) where
  ok_iff := by simp [FitsFrom]
  error_iff := by simp [FirstFault]

/-- One column after the other. -/
theorem DecidedAt.bind {α β : Type} {m : Except StoreError α} {f : α → Except StoreError β}
    (first : DecidedAt b r i k m) (later : ∀ a, DecidedFrom b r (i + 1) ks (f a)) :
    DecidedFrom b r i (k :: ks) (m >>= f) := by
  cases m with
  | error e =>
      have faults : r.Faults b i k e := (first.error_iff e).mp rfl
      have unfit : ¬ r.Fits b i k := by
        intro fits
        obtain ⟨a, done⟩ := first.ok_iff.mpr fits
        cases done
      constructor
      · rw [fitsFrom_cons]
        constructor
        · rintro ⟨a, done⟩
          cases done
        · rintro ⟨fits, -⟩
          exact absurd fits unfit
      · intro e'
        rw [firstFault_cons, ← first.error_iff]
        constructor
        · intro failed
          cases failed
          exact .inl rfl
        · rintro (failed | ⟨fits, -⟩)
          · cases failed
            rfl
          · exact absurd fits unfit
  | ok a =>
      have fits : r.Fits b i k := first.ok_iff.mp ⟨a, rfl⟩
      have opened : (Except.ok a >>= f) = f a := rfl
      rw [opened]
      constructor
      · rw [fitsFrom_cons, (later a).ok_iff]
        exact (and_iff_right fits).symm
      · intro e
        rw [firstFault_cons, (later a).error_iff, ← first.error_iff]
        constructor
        · intro failed
          exact .inr ⟨fits, failed⟩
        · rintro (failed | ⟨-, failed⟩)
          · cases failed
          · exact failed

end Row

/-! ## Taking in turn -/

/-- What takes values from a row and leaves the rest of it. -/
abbrev Taking (α : Type) := ExceptT StoreError (StateM Row) α

namespace Taking

variable {α β : Type}

def of (take : Row → Except StoreError α × Row) : Taking α := take

/-- Takes a value and has the bridge decode it. -/
def instant (b : Bridge) (i : Nat) : Taking Instant :=
  of fun r => (UserEngine.takeInstant b r i, (r.take i).2)

/-- The answer, and what is left of the row. -/
def answer (m : Taking α) (r : Row) : Except StoreError α × Row := m r

theorem answer_bind (m : Taking α) (f : α → Taking β) (r : Row) :
    (m >>= f).answer r =
      match m.answer r with
      | (.ok a, r) => (f a).answer r
      | (.error e, r) => (.error e, r) := by
  simp only [answer, bind, ExceptT.bind, ExceptT.mk, StateT.bind]
  cases m r with
  | mk result r' => cases result <;> rfl

end Taking

/-- What is left of a row when only columns before one were taken. -/
structure Row.Left (r : Row) (i : Nat) (r' : Row) : Prop where
  size : r'.size = r.size
  later : ∀ j, i ≤ j → r'.values[j]? = r.values[j]?

namespace Row.Left

variable {r r' : Row} {i : Nat}

theorem whole (r : Row) : Left r 0 r := ⟨rfl, fun _ _ => rfl⟩

/-- A column that was not taken is taken as it stood. -/
theorem take_fst (h : Left r i r') : (r'.take i).1 = (r.take i).1 := by
  cases found : r.values[i]? with
  | none =>
      have missing : r'.values[i]? = none := (h.later i (Nat.le_refl i)).trans found
      rw [take_of_missing missing, take_of_missing found, h.size]
  | some v =>
      have there : r'.values[i]? = some v := (h.later i (Nat.le_refl i)).trans found
      rw [take_of_getElem? there, take_of_getElem? found]

theorem take_snd (h : Left r i r') : Left r (i + 1) (r'.take i).2 := by
  refine ⟨(r'.size_take i).trans h.size, fun j after => ?_⟩
  have before : i ≤ j := Nat.le_of_succ_le after
  have other : i ≠ j := Nat.ne_of_lt after
  rw [← h.later j before, take]
  split
  · exact List.getElem?_set_ne other
  · rfl

end Row.Left

/-- Taking the columns from `i` up to `i'` answers like reading them where they stand. -/
def Taking.Answers {α : Type} (m : Taking α) (i i' : Nat) (read : Row → Except StoreError α) :
    Prop :=
  ∀ r r', r.Left i r' → (m.answer r').1 = read r ∧
    ∀ a, read r = .ok a → r.Left i' (m.answer r').2

namespace Taking.Answers

variable {α β : Type} {i i' i'' : Nat}

theorem pure (a : α) (i : Nat) : Answers (Pure.pure a) i i fun _ => .ok a :=
  fun _ _ left => ⟨rfl, fun _ _ => left⟩

theorem bind {m : Taking α} {f : α → Taking β} {read : Row → Except StoreError α}
    {readNext : α → Row → Except StoreError β} (first : m.Answers i i' read)
    (later : ∀ a, (f a).Answers i' i'' (readNext a)) :
    (m >>= f).Answers i i'' fun r => read r >>= fun a => readNext a r := by
  intro r r' left
  obtain ⟨same, remains⟩ := first r r' left
  rw [Taking.answer_bind]
  generalize m.answer r' = taken at same remains
  obtain ⟨result, rest⟩ := taken
  simp only at same remains
  subst same
  cases answered : read r with
  | error e =>
      simp only [answered]
      refine ⟨rfl, fun a done => ?_⟩
      cases done
  | ok a =>
      simp only [answered]
      exact later a r rest (remains a answered)

theorem takeWith (expected : String) (read : SqlValue → Option α) (i : Nat) :
    Answers (Taking.of fun r => Row.takeWith expected read r i) i (i + 1)
      fun r => (Row.takeWith expected read r i).1 := by
  intro r r' left
  refine ⟨Row.takeWith_congr left.take_fst expected read, fun _ _ => ?_⟩
  have remains := left.take_snd
  rw [← Row.takeWith_snd expected read] at remains
  exact remains

theorem takeInstant (b : Bridge) (i : Nat) :
    Answers (Taking.instant b i) i (i + 1) fun r => UserEngine.takeInstant b r i := by
  intro r r' left
  refine ⟨?_, fun _ _ => left.take_snd⟩
  simp only [Taking.answer, Taking.instant, Taking.of, left.take_fst, UserEngine.takeInstant]

end Taking.Answers

/-! ## Users -/

namespace UserEngine

variable {b : Bridge} {r : Row}

theorem takeInstant_eq_ok {i : Nat} {t : Instant} :
    takeInstant b r i = .ok t ↔
      ∃ v, r.values[i]? = some v ∧ (FieldValue.timestamp t).ReadFrom b v := by
  cases found : r.values[i]? with
  | none => simp [takeInstant, Row.take_of_missing found]
  | some v => simp [takeInstant_eq found, FieldValue.ReadFrom]

def columnKinds : List ColumnKind :=
  [.integer, .text, .text, .text, .text, .text, .flag, .flag, .flag, .instant, .instant]

theorem readUser_decided (b : Bridge) (r : Row) : r.DecidedFrom b 0 columnKinds (readUser b r) := by
  have integer : ∀ i, r.DecidedAt b i .integer (r.takeInteger i).1 := Row.takeInteger_decided b r
  have text : ∀ i, r.DecidedAt b i .text (r.takeText i).1 := Row.takeText_decided b r
  have flag : ∀ i, r.DecidedAt b i .flag (r.takeBool i).1 := Row.takeBool_decided b r
  have instant : ∀ i, r.DecidedAt b i .instant (takeInstant b r i) := Row.takeInstant_decided b r
  unfold readUser
  refine (integer 0).bind fun _ => (text 1).bind fun _ => (text 2).bind fun _ =>
    (text 3).bind fun _ => (text 4).bind fun _ => (text 5).bind fun _ => ?_
  refine (flag 6).bind fun _ => (flag 7).bind fun _ => (flag 8).bind fun _ => ?_
  exact (instant 9).bind fun _ => (instant 10).bind fun _ => .ok b r 11 _

/-- What was read says what stood in the row, and what stands there is read. -/
theorem readUser_eq_ok_iff {u : User} :
    readUser b r = .ok u ↔ r.values[0]? = some (.integer u.id.value) ∧
      ∀ f : UserField, ∃ v, r.values[f.position]? = some v ∧ (f.value u).ReadFrom b v := by
  constructor
  · intro done
    obtain ⟨id, hid, done⟩ := Instant.bind_eq_ok done
    obtain ⟨username, hu, done⟩ := Instant.bind_eq_ok done
    obtain ⟨password, hp, done⟩ := Instant.bind_eq_ok done
    obtain ⟨email, he, done⟩ := Instant.bind_eq_ok done
    obtain ⟨firstName, hf, done⟩ := Instant.bind_eq_ok done
    obtain ⟨lastName, hl, done⟩ := Instant.bind_eq_ok done
    obtain ⟨isSuperuser, hsu, done⟩ := Instant.bind_eq_ok done
    obtain ⟨isStaff, hst, done⟩ := Instant.bind_eq_ok done
    obtain ⟨isActive, hac, done⟩ := Instant.bind_eq_ok done
    obtain ⟨dateJoined, hj, done⟩ := Instant.bind_eq_ok done
    obtain ⟨lastLogin, hll, done⟩ := Instant.bind_eq_ok done
    cases done
    refine ⟨Row.takeInteger_eq_ok.mp hid, fun f => ?_⟩
    cases f with
    | username => exact ⟨_, Row.takeText_eq_ok.mp hu, rfl⟩
    | password => exact ⟨_, Row.takeText_eq_ok.mp hp, rfl⟩
    | email => exact ⟨_, Row.takeText_eq_ok.mp he, rfl⟩
    | firstName => exact ⟨_, Row.takeText_eq_ok.mp hf, rfl⟩
    | lastName => exact ⟨_, Row.takeText_eq_ok.mp hl, rfl⟩
    | isSuperuser => exact Row.takeBool_eq_ok.mp hsu
    | isStaff => exact Row.takeBool_eq_ok.mp hst
    | isActive => exact Row.takeBool_eq_ok.mp hac
    | dateJoined => exact takeInstant_eq_ok.mp hj
    | lastLogin => exact takeInstant_eq_ok.mp hll
  · rintro ⟨id, fields⟩
    have text : ∀ {i : Nat} {s : String},
        (∃ v, r.values[i]? = some v ∧ (FieldValue.plain (.text s)).ReadFrom b v) →
          (r.takeText i).1 = .ok s := by
      rintro i s ⟨v, found, rfl⟩
      exact Row.takeText_eq_ok.mpr found
    have flag : ∀ {i : Nat} {t : Bool},
        (∃ v, r.values[i]? = some v ∧ (FieldValue.plain (.bool t)).ReadFrom b v) →
          (r.takeBool i).1 = .ok t := (Row.takeBool_eq_ok (b := b)).mpr
    have instant : ∀ {i : Nat} {t : Instant},
        (∃ v, r.values[i]? = some v ∧ (FieldValue.timestamp t).ReadFrom b v) →
          takeInstant b r i = .ok t := takeInstant_eq_ok.mpr
    have username : (r.takeText 1).1 = .ok u.username := text (fields .username)
    have password : (r.takeText 2).1 = .ok u.password := text (fields .password)
    have email : (r.takeText 3).1 = .ok u.email := text (fields .email)
    have firstName : (r.takeText 4).1 = .ok u.firstName := text (fields .firstName)
    have lastName : (r.takeText 5).1 = .ok u.lastName := text (fields .lastName)
    have isSuperuser : (r.takeBool 6).1 = .ok u.isSuperuser := flag (fields .isSuperuser)
    have isStaff : (r.takeBool 7).1 = .ok u.isStaff := flag (fields .isStaff)
    have isActive : (r.takeBool 8).1 = .ok u.isActive := flag (fields .isActive)
    have dateJoined : takeInstant b r 9 = .ok u.dateJoined := instant (fields .dateJoined)
    have lastLogin : takeInstant b r 10 = .ok u.lastLogin := instant (fields .lastLogin)
    rw [readUser, Row.takeInteger_eq_ok.mpr id, username, password, email, firstName, lastName,
      isSuperuser, isStaff, isActive, dateJoined, lastLogin]
    rfl

/-- Reads a user by taking the eleven columns one after the other. -/
def takeUser (b : Bridge) : Taking User := do
  let id ← Taking.of fun r => r.takeInteger 0
  let username ← Taking.of fun r => r.takeText 1
  let password ← Taking.of fun r => r.takeText 2
  let email ← Taking.of fun r => r.takeText 3
  let firstName ← Taking.of fun r => r.takeText 4
  let lastName ← Taking.of fun r => r.takeText 5
  let isSuperuser ← Taking.of fun r => r.takeBool 6
  let isStaff ← Taking.of fun r => r.takeBool 7
  let isActive ← Taking.of fun r => r.takeBool 8
  let dateJoined ← Taking.instant b 9
  let lastLogin ← Taking.instant b 10
  return { id := ⟨id⟩, username := username, password := password, email := email,
           firstName := firstName, lastName := lastName, isSuperuser := isSuperuser,
           isStaff := isStaff, isActive := isActive, dateJoined := dateJoined,
           lastLogin := lastLogin }

theorem takeUser_answers (b : Bridge) : (takeUser b).Answers 0 11 (readUser b) := by
  have integer : ∀ i, Taking.Answers (Taking.of fun r => r.takeInteger i) i (i + 1)
      fun r => (r.takeInteger i).1 := .takeWith _ _
  have text : ∀ i, Taking.Answers (Taking.of fun r => r.takeText i) i (i + 1)
      fun r => (r.takeText i).1 := .takeWith _ _
  have flag : ∀ i, Taking.Answers (Taking.of fun r => r.takeBool i) i (i + 1)
      fun r => (r.takeBool i).1 := .takeWith _ _
  have instant : ∀ i, Taking.Answers (Taking.instant b i) i (i + 1) fun r => takeInstant b r i :=
    .takeInstant b
  unfold takeUser
  refine (integer 0).bind fun _ => (text 1).bind fun _ => (text 2).bind fun _ =>
    (text 3).bind fun _ => (text 4).bind fun _ => (text 5).bind fun _ => ?_
  refine (flag 6).bind fun _ => (flag 7).bind fun _ => (flag 8).bind fun _ => ?_
  exact (instant 9).bind fun _ => (instant 10).bind fun _ => .pure _ 11

/-- Columns beyond the eleventh do not count. -/
theorem readUser_append {vs : List SqlValue} (enough : 11 ≤ vs.length) (more : List SqlValue) :
    readUser b ⟨vs ++ more⟩ = readUser b ⟨vs⟩ := by
  have same : ∀ i < 11, (Row.take ⟨vs ++ more⟩ i).1 = (Row.take ⟨vs⟩ i).1 := fun i less =>
    Row.take_fst_append (Nat.lt_of_lt_of_le less enough) more
  have typed : ∀ {α : Type} (expected : String) (read : SqlValue → Option α) (i : Nat), i < 11 →
      (Row.takeWith expected read ⟨vs ++ more⟩ i).1 = (Row.takeWith expected read ⟨vs⟩ i).1 :=
    fun expected read i less => Row.takeWith_congr (same i less) expected read
  have instant : ∀ i < 11, takeInstant b ⟨vs ++ more⟩ i = takeInstant b ⟨vs⟩ i := by
    intro i less
    simp only [takeInstant, same i less]
  simp (disch := decide) only [readUser, Row.takeInteger, Row.takeText, Row.takeBool, typed,
    instant]

end UserEngine

/-! ## Sessions -/

namespace SessionEngine

variable {b : Bridge} {r : Row}

def columnKinds : List ColumnKind := [.text, .integer, .instant]

theorem readSession_decided (b : Bridge) (r : Row) :
    r.DecidedFrom b 0 columnKinds (readSession b r) := by
  unfold readSession
  exact (Row.takeText_decided b r 0).bind fun _ => (Row.takeInteger_decided b r 1).bind fun _ =>
    (Row.takeInstant_decided b r 2).bind fun _ => .ok b r 3 _

theorem readSession_eq_ok_iff {x : Session} :
    readSession b r = .ok x ↔ r.values[0]? = some (.text x.key) ∧
      r.values[1]? = some (.integer x.user.value) ∧
        ∃ v, r.values[2]? = some v ∧ b.decode v = .ok x.expires := by
  constructor
  · intro done
    obtain ⟨key, hk, done⟩ := Instant.bind_eq_ok done
    obtain ⟨user, hu, done⟩ := Instant.bind_eq_ok done
    obtain ⟨expires, he, done⟩ := Instant.bind_eq_ok done
    cases done
    exact ⟨Row.takeText_eq_ok.mp hk, Row.takeInteger_eq_ok.mp hu,
      UserEngine.takeInstant_eq_ok.mp he⟩
  · rintro ⟨key, user, expires⟩
    rw [readSession, Row.takeText_eq_ok.mpr key, Row.takeInteger_eq_ok.mpr user,
      UserEngine.takeInstant_eq_ok.mpr expires]
    rfl

/-- Reads a session by taking the three columns one after the other. -/
def takeSession (b : Bridge) : Taking Session := do
  let key ← Taking.of fun r => r.takeText 0
  let user ← Taking.of fun r => r.takeInteger 1
  let expires ← Taking.instant b 2
  return ⟨key, ⟨user⟩, expires⟩

theorem takeSession_answers (b : Bridge) : (takeSession b).Answers 0 3 (readSession b) := by
  unfold takeSession
  exact (Taking.Answers.takeWith _ _ 0).bind fun _ => (Taking.Answers.takeWith _ _ 1).bind fun _ =>
    (Taking.Answers.takeInstant b 2).bind fun _ => .pure _ 3

/-- Columns beyond the third do not count. -/
theorem readSession_append {vs : List SqlValue} (enough : 3 ≤ vs.length) (more : List SqlValue) :
    readSession b ⟨vs ++ more⟩ = readSession b ⟨vs⟩ := by
  have same : ∀ i < 3, (Row.take ⟨vs ++ more⟩ i).1 = (Row.take ⟨vs⟩ i).1 := fun i less =>
    Row.take_fst_append (Nat.lt_of_lt_of_le less enough) more
  have key := Row.takeWith_congr (same 0 (by decide)) "text" Row.readText
  have user := Row.takeWith_congr (same 1 (by decide)) "integer" Row.readInteger
  simp only [readSession, Row.takeText, Row.takeInteger, UserEngine.takeInstant, key, user,
    same 2 (by decide)]

end SessionEngine

/-! ## The law of both -/

/-- A reader of rows goes by its columns: `kinds` says what they have to be and `Shows`
what was read from them, and `taking` is the same reader with the columns taken in
turn. -/
structure ReadsByColumn {α : Type} (b : Bridge) (kinds : List ColumnKind)
    (read : Row → Except StoreError α) (taking : Taking α) (Shows : Row → α → Prop) : Prop where
  ok_iff : ∀ r, (∃ a, read r = .ok a) ↔ kinds.length ≤ r.size ∧ r.FitsFrom b 0 kinds
  value_iff : ∀ r a, read r = .ok a ↔ Shows r a
  error_iff : ∀ r e, read r = .error e ↔ r.FirstFault b 0 kinds e
  beyond : ∀ (r : Row) more, kinds.length ≤ r.size → read ⟨r.values ++ more⟩ = read r
  in_turn : ∀ r, (taking.answer r).1 = read r

theorem ReadsByColumn.of_decided {α : Type} {b : Bridge} {kinds : List ColumnKind}
    {read : Row → Except StoreError α} {taking : Taking α} {Shows : Row → α → Prop}
    (decided : ∀ r : Row, r.DecidedFrom b 0 kinds (read r))
    (shown : ∀ r a, read r = .ok a ↔ Shows r a)
    (beyond : ∀ {vs : List SqlValue}, kinds.length ≤ vs.length → ∀ more,
      read ⟨vs ++ more⟩ = read ⟨vs⟩)
    (answers : taking.Answers 0 kinds.length read) :
    ReadsByColumn b kinds read taking Shows where
  ok_iff r := by
    rw [(decided r).ok_iff]
    constructor
    · intro fits
      exact ⟨fits.length_le, fits⟩
    · rintro ⟨-, fits⟩
      exact fits
  value_iff := shown
  error_iff r := (decided r).error_iff
  beyond _ more enough := beyond enough more
  in_turn r := (answers r r (.whole r)).1

/-- **A row is read exactly as far as its columns fit.**  Users have eleven columns and
sessions three; a row is read if and only if it has that many and each holds a value
of its kind, what was read is what stood there, more columns do not count, and of
several faults the leftmost is reported, a missing column with the number of columns
that the row had.  It makes no difference that a column is gone once it was taken.
A lookup answers with what is read. -/
theorem rows_read_as_columns_fit (b : Bridge) :
    ReadsByColumn b UserEngine.columnKinds (UserEngine.readUser b) (UserEngine.takeUser b)
        (fun r u => r.values[0]? = some (.integer u.id.value) ∧
          ∀ f : UserField, ∃ v, r.values[f.position]? = some v ∧ (f.value u).ReadFrom b v) ∧
      ReadsByColumn b SessionEngine.columnKinds (SessionEngine.readSession b)
        (SessionEngine.takeSession b)
        (fun r x => r.values[0]? = some (.text x.key) ∧
          r.values[1]? = some (.integer x.user.value) ∧
            ∃ v, r.values[2]? = some v ∧ b.decode v = .ok x.expires) ∧
      (∀ {σ : Type} (e : UserEngine σ) (statement : String) (key : SqlValue) (lookup : UserLookup)
        (r : Row) (s s' : σ), e.bridge = b →
          e.backend.queryRow statement [key] (UserEngine.scanKinds b) s = (.ok r, s') →
            e.fetch statement key lookup s = (UserEngine.readUser b r, s')) ∧
      ∀ {σ : Type} (e : SessionEngine σ) (key : String) (r : Row) (s s' : σ), e.bridge = b →
        e.backend.queryRow e.statements.byKey [.text key] (SessionEngine.scanKinds b) s =
            (.ok r, s') →
          e.get key s = (SessionEngine.readSession b r, s') := by
  refine ⟨?_, ?_, ?_, ?_⟩
  · exact .of_decided (UserEngine.readUser_decided b) (fun _ _ => UserEngine.readUser_eq_ok_iff)
      UserEngine.readUser_append (UserEngine.takeUser_answers b)
  · exact .of_decided (SessionEngine.readSession_decided b)
      (fun _ _ => SessionEngine.readSession_eq_ok_iff) SessionEngine.readSession_append
      (SessionEngine.takeSession_answers b)
  · rintro σ e statement key lookup r s s' rfl answer
    exact e.fetch_ok answer lookup
  · rintro σ e key r s s' rfl answer
    exact e.get_ok answer

/-- A user with a counted flag and a column too many, and a session whose expiry is no
instant. -/
theorem rows_read_as_columns_fit_at_a_counted_flag :
    let b := Bridge.native
    let u : User := { id := ⟨3⟩, username := "ada", isSuperuser := true }
    let vs : List SqlValue := [.integer 3, .text "ada", .text "", .text "", .text "", .text "",
      .integer (-2), .bool false, .integer 0, .timestamp Instant.epoch, .timestamp Instant.epoch]
    let r : Row := ⟨[.text "key", .integer 3, .text "never"]⟩
    let e : SessionEngine Script :=
      ⟨Script.backend, SessionStatements.ofTemplate Template.defaults, b⟩
    UserEngine.readUser b ⟨vs ++ [.null]⟩ = .ok u ∧
      (UserEngine.takeUser b).answer ⟨vs⟩ =
        (.ok u, ⟨List.replicate 11 .null⟩) ∧
      UserEngine.readUser b ⟨vs.take 10⟩ =
        .error (.typeMismatch "column" "row with 10 columns") ∧
      (e.get "key" { rows := [.ok r] }).1 = .error (.typeMismatch "timestamp" "text") := by
  intro b u vs r e
  obtain ⟨users, sessions, -, get⟩ := rows_read_as_columns_fit b
  have whole : UserEngine.readUser b ⟨vs⟩ = .ok u := by
    refine (users.value_iff ⟨vs⟩ u).mpr ⟨rfl, fun f => ?_⟩
    cases f with
    | isSuperuser => exact ⟨.integer (-2), rfl, .inr ⟨-2, rfl, rfl⟩⟩
    | isStaff => exact ⟨.bool false, rfl, .inl rfl⟩
    | isActive => exact ⟨.integer 0, rfl, .inr ⟨0, rfl, rfl⟩⟩
    | dateJoined => exact ⟨.timestamp Instant.epoch, rfl, rfl⟩
    | lastLogin => exact ⟨.timestamp Instant.epoch, rfl, rfl⟩
    | _ => exact ⟨_, rfl, rfl⟩
  refine ⟨(users.beyond ⟨vs⟩ [.null] (by decide)).trans whole, ?_, ?_, ?_⟩
  · have taken := users.in_turn ⟨vs⟩
    rw [whole] at taken
    exact Prod.ext taken rfl
  · have found : "row with 10 columns" = s!"row with {Row.size ⟨vs.take 10⟩} columns" := by decide
    refine (users.error_iff ⟨vs.take 10⟩ _).mpr
      ⟨10, .instant, rfl, .inl ⟨rfl, congrArg _ found⟩, ?_⟩
    intro j inside k found
    have fits := ((users.ok_iff ⟨vs⟩).mp ⟨u, whole⟩).2 j k found
    rw [Row.Fits, Nat.zero_add] at fits ⊢
    rwa [List.getElem?_take_of_lt inside]
  · have answered := get e "key" r { rows := [.ok r] } _ rfl rfl
    rw [answered]
    refine (sessions.error_iff r _).mpr ⟨2, .instant, rfl, .inr ⟨.text "never", rfl, rfl⟩, ?_⟩
    intro j inside k found
    have before : j = 0 ∨ j = 1 := by omega
    rcases before with rfl | rfl
    · cases found
      exact ⟨_, rfl, _, rfl⟩
    · cases found
      exact ⟨_, rfl, _, rfl⟩

end AccountStore
