/-
# AccountStore.Proofs.Storage.Batches -- what a batch leaves behind

A table is set up by one batch, which runs its statements in a transaction of its own
and stops at the first that fails.  What lasts then is what the open transaction goes
back to (`durable`).  Only a commit, or a statement outside a transaction, moves that
(`run_durable`); what else a statement does is the same in a transaction and outside
(`run_transaction`).  So a batch that neither commits nor rolls back by itself is undone
as a whole when it fails, and comes to what its statements do one after the other when it
does not (`runTokens_within`, `runTokens_inside`).  A batch with a commit in it can leave
the transaction that was opened for it, and what it did by then stays
(`commit_midway_stays`).
-/
import AccountStore.Proofs.Database.Preparing
import AccountStore.Proofs.Engine.Exchanges

namespace AccountStore

set_option autoImplicit false

namespace Database

/-- The statement starts or ends a transaction. -/
def Statement.controls : Statement → Bool
  | .startTransaction | .commit | .rollback => true
  | _ => false

/-- Nothing that these tokens may say ends a transaction. -/
def Stays (ts : List Token) : Prop :=
  ∀ s, Statement.ofTokens ts = .ok s → s ≠ .commit ∧ s ≠ .rollback

namespace Connection

/-! ## What lasts -/

/-- The contents that last if nothing more is committed. -/
def durable (k : Connection) : Contents := (k.transaction.map Transaction.before).getD k.contents

/-- The connection in the transaction that a batch opens. -/
def begun (k : Connection) : Connection := k.inside k.contents k.contents false

/-- The connection is in a transaction that goes back to these contents. -/
def Within (before : Contents) (k : Connection) : Prop :=
  k.transaction.map Transaction.before = some before

variable {k k' : Connection} {ps : List SqlValue} {s : Statement} {before : Contents}

theorem Within.durable (h : k.Within before) : k.durable = before := by
  rw [Connection.durable, h, Option.getD_some]

theorem Within.isSome (h : k.Within before) : k.transaction.isSome = true := by
  cases running : k.transaction with
  | some t => rfl
  | none =>
      rw [Within, running] at h
      cases h

theorem begun_within (k : Connection) : k.begun.Within k.contents := rfl

theorem with_none_of_settled (settled : k.transaction = none) :
    { k with transaction := none } = k := by
  rw [← settled]

theorem store_transaction (k : Connection) (t : Option Transaction) (r : Except Failure Contents) :
    store { k with transaction := t } r =
      (k.store r).map fun k' => { k' with transaction := t } := by
  cases r <;> rfl

theorem write_transaction (k : Connection) (t : Option Transaction)
    (r : Except Failure (Contents × Written)) :
    write { k with transaction := t } r =
      (k.write r).map fun k' => { k' with transaction := t } := by
  cases r <;> rfl

/-- **A statement that controls no transaction does the same in any and outside.** -/
theorem run_transaction (plain : s.controls = false) (k : Connection) (t : Option Transaction) :
    run { k with transaction := t } ps s =
      (k.run ps s).map fun k' => { k' with transaction := t } := by
  cases s with
  | createTable d => exact store_transaction k t _
  | createIndex ifNotExists name table columns => exact store_transaction k t _
  | dropTable name => exact store_transaction k t _
  | insert table columns operands => exact write_transaction k t _
  | update table assignments condition => exact write_transaction k t _
  | delete table condition => exact write_transaction k t _
  | select columns table condition =>
      simp only [run]
      cases k.contents.select columns table condition ps <;> rfl
  | values operands => rfl
  | startTransaction | commit | rollback => cases plain

theorem transaction_of_run (plain : s.controls = false) (ran : k.run ps s = .ok k') :
    k'.transaction = k.transaction := by
  have alike : k.run ps s = _ := run_transaction plain k k.transaction
  rw [ran] at alike
  have same : k' = { k' with transaction := k.transaction } := Except.ok.inj alike
  rw [same]

/-- All that a statement can do to the transaction that a connection is in. -/
theorem run_cases (ran : k.run ps s = .ok k') :
    (s.controls = false ∧ k'.transaction = k.transaction) ∨
      (s = .startTransaction ∧ k.transaction = none ∧ k' = k.begun) ∨
      (s = .commit ∧ k.transaction.isSome ∧ k' = { k with transaction := none }) ∨
      ∃ t, s = .rollback ∧ k.transaction = some t ∧
        k' = { k with contents := t.before, transaction := none } := by
  cases s with
  | startTransaction =>
      simp only [run, start] at ran
      split at ran
      · cases ran
      · next idle =>
          cases ran
          exact .inr (.inl ⟨rfl, idle, rfl⟩)
  | commit =>
      simp only [run, commit] at ran
      split at ran
      · cases ran
      · next t running =>
          cases ran
          exact .inr (.inr (.inl ⟨rfl, by rw [running, Option.isSome_some], rfl⟩))
  | rollback =>
      simp only [run, rollback] at ran
      split at ran
      · cases ran
      · next t running =>
          cases ran
          exact .inr (.inr (.inr ⟨t, rfl, running, rfl⟩))
  | _ => exact .inl ⟨rfl, transaction_of_run rfl ran⟩

/-- **A commit makes the present contents last, and so does every statement outside a
transaction; no other does.** -/
theorem run_durable (ran : k.run ps s = .ok k') :
    k'.durable = if s = .commit ∨ k.transaction = none then k'.contents else k.durable := by
  obtain ⟨plain, same⟩ | ⟨rfl, idle, rfl⟩ | ⟨rfl, -, rfl⟩ | ⟨t, rfl, running, rfl⟩ := run_cases ran
  · have other : s ≠ .commit := by
      rintro rfl
      cases plain
    cases idle : k.transaction with
    | none => simp [durable, same, idle]
    | some t => simp [durable, same, idle, other]
  · rw [if_pos (.inr idle)]
    rfl
  · rw [if_pos (.inl rfl)]
    rfl
  · rw [if_neg (by simp [running])]
    simp only [durable, running, Option.map_some, Option.getD_some]
    rfl

theorem touch_transaction (k : Connection) (s : Statement) :
    (k.touch s).transaction.map Transaction.before = k.transaction.map Transaction.before := by
  unfold touch
  split
  · simp [Function.comp_def]
  · rfl

theorem Within.touch (h : k.Within before) (s : Statement) : (k.touch s).Within before :=
  (touch_transaction k s).trans h

theorem Within.touchFailed (h : k.Within before) (s : Statement) (e : Failure) :
    (k.touchFailed s e).Within before := by
  unfold Connection.touchFailed
  split
  · exact h
  · exact h.touch s

/-- A statement that does not end the transaction stays in it. -/
theorem Within.run (h : k.Within before) (stays : s ≠ .commit ∧ s ≠ .rollback)
    (ran : k.run ps s = .ok k') : k'.Within before := by
  obtain ⟨-, same⟩ | ⟨-, idle, -⟩ | ⟨ends, -, -⟩ | ⟨t, ends, -, -⟩ := run_cases ran
  · rw [Within, same]
    exact h
  · rw [Within, idle] at h
    cases h
  · exact absurd ends stays.1
  · exact absurd ends stays.2

/-! ## Statements one after the other -/

/-- A statement that is read is what its tokens say. -/
theorem ofTokens_of_readTokens {ts : List Token} (read : k.readTokens ts = .ok s) :
    Statement.ofTokens ts = .ok s := by
  unfold readTokens at read
  split at read
  · cases read
  · next s' said =>
      split at read
      · cases read
      · cases read
        exact said

theorem runTokens_append : ∀ (xs ys : List (List Token)) (k : Connection),
    runTokens (xs ++ ys) k =
      match runTokens xs k with
      | (.ok (), k) => runTokens ys k
      | (.error e, k) => (.error e, k)
  | [], _, _ => rfl
  | ts :: xs, ys, k => by
      simp only [List.cons_append, runTokens]
      cases k.readTokens ts with
      | error e => rfl
      | ok s =>
          simp only
          cases k.run [] s with
          | error e => rfl
          | ok k' => exact runTokens_append xs ys (k'.touch s)

/-- The texts of a batch are run as the statements that stand in them. -/
theorem runTexts_eq : ∀ (texts : List String) (k : Connection),
    runTexts texts k = runTokens (texts.flatMap Token.ofText) k
  | [], _ => rfl
  | text :: rest, k => by
      rw [List.flatMap_cons, runTokens_append, runTexts, runText]
      cases runTokens (Token.ofText text) k with
      | mk result k' =>
          cases result with
          | error e => rfl
          | ok u => exact runTexts_eq rest k'

/-- **The first statement that fails is the last that runs.** -/
theorem runTokens_failed {e : Failure} : ∀ {tss : List (List Token)} {k : Connection},
    runTokens tss k = (.error e, k') →
      ∃ pre ts post reached, tss = pre ++ ts :: post ∧ runTokens pre k = (.ok (), reached) ∧
        runTokens [ts] reached = (.error e, k')
  | [], _, failed => by cases failed
  | ts :: rest, k, failed => by
      cases first : runTokens [ts] k with
      | mk result reached =>
          have split := runTokens_append [ts] rest k
          rw [List.singleton_append, failed, first] at split
          cases result with
          | error e' =>
              obtain ⟨⟨⟩, rfl⟩ := Prod.mk.inj split
              exact ⟨[], ts, rest, k, rfl, rfl, first⟩
          | ok u =>
              obtain ⟨pre, ts', post, reached', rfl, before, stopped⟩ := runTokens_failed split.symm
              refine ⟨ts :: pre, ts', post, reached', rfl, ?_, stopped⟩
              rw [← List.singleton_append, runTokens_append, first]
              exact before

/-- Statements that do not end the transaction stay in it, also when one fails. -/
theorem runTokens_within : ∀ {tss : List (List Token)} {k : Connection},
    (∀ ts ∈ tss, Stays ts) → k.Within before → (runTokens tss k).2.Within before
  | [], _, _, h => h
  | ts :: rest, k, stays, h => by
      obtain ⟨first, later⟩ := List.forall_mem_cons.mp stays
      simp only [runTokens]
      cases read : k.readTokens ts with
      | error e => exact h
      | ok s =>
          simp only
          cases ran : k.run [] s with
          | error e => exact h.touchFailed s e
          | ok k' =>
              have stayed := h.run (first s (ofTokens_of_readTokens read)) ran
              exact runTokens_within later (stayed.touch s)

/-! ## Inside and outside a transaction -/

/-- A statement that works inside a transaction and does not end it does the same
outside. -/
theorem run_inside {used : Bool} (stays : s ≠ .commit ∧ s ≠ .rollback)
    (ran : (k.inside before k.contents used).run ps s = .ok k') :
    ∃ k₀, k.run ps s = .ok k₀ ∧ k₀.transaction = k.transaction ∧
      k' = k₀.inside before k₀.contents used := by
  cases plain : s.controls with
  | false =>
      have alike : (k.inside before k.contents used).run ps s = _ :=
        run_transaction plain k (some ⟨before, used⟩)
      rw [alike] at ran
      cases alone : k.run ps s with
      | error e =>
          rw [alone] at ran
          cases ran
      | ok k₀ =>
          rw [alone] at ran
          cases ran
          exact ⟨k₀, rfl, transaction_of_run plain alone, rfl⟩
  | true =>
      cases s with
      | startTransaction => cases ran
      | commit => exact absurd rfl stays.1
      | rollback => exact absurd rfl stays.2
      | _ => cases plain

/-- **Statements that all work inside a transaction and do not end it come to what they
come to outside.** -/
theorem runTokens_inside : ∀ {tss : List (List Token)} {k : Connection} {used : Bool},
    (∀ ts ∈ tss, Stays ts) → k.transaction = none →
      runTokens tss (k.inside before k.contents used) = (.ok (), k') →
        ∃ k₀ used', runTokens tss k = (.ok (), k₀) ∧ k₀.transaction = none ∧
          k' = k₀.inside before k₀.contents used'
  | [], k, used, _, settled, ran => by
      cases ran
      exact ⟨k, used, rfl, settled, rfl⟩
  | ts :: rest, k, used, stays, settled, ran => by
      obtain ⟨first, later⟩ := List.forall_mem_cons.mp stays
      have same : (k.inside before k.contents used).readTokens ts = k.readTokens ts := rfl
      simp only [runTokens, same] at ran ⊢
      cases read : k.readTokens ts with
      | error e =>
          rw [read] at ran
          cases ran
      | ok s =>
          simp only [read] at ran
          cases done : (k.inside before k.contents used).run [] s with
          | error e =>
              rw [done] at ran
              cases ran
          | ok k₁ =>
              simp only [done] at ran
              obtain ⟨k₀, alone, kept, rfl⟩ :=
                run_inside (first s (ofTokens_of_readTokens read)) done
              obtain ⟨used', touched⟩ := k₀.touch_inside before k₀.contents used s
              have settled₀ : k₀.transaction = none := kept.trans settled
              rw [touched] at ran
              simp only [alone, touch_of_settled settled₀]
              exact runTokens_inside later settled₀ ran

/-! ## Batches -/

/-- What is said of a commit without a transaction. -/
def noCommit : Failure := sqlFailure "cannot commit - no transaction is active"

/-- What is said of undoing without a transaction. -/
def noRollback : Failure := sqlFailure "cannot rollback - no transaction is active"

theorem start_of_settled (settled : k.transaction = none) : k.start = .ok k.begun := by
  simp only [start, settled, begun, inside]

/-- A batch whose statements all ran commits, if there is still something to commit. -/
theorem runBatch_of_ran {texts : List String} (settled : k.transaction = none)
    (ran : runTokens (texts.flatMap Token.ofText) k.begun = (.ok (), k')) :
    k.runBatch texts =
      (if k'.transaction.isSome then .ok () else .error (.commit (.failure noCommit)),
        { k' with transaction := none }) := by
  simp only [runBatch, start_of_settled settled, runTexts_eq, ran, commit]
  cases running : k'.transaction with
  | some t => rfl
  | none => exact Prod.ext rfl (with_none_of_settled running).symm

/-- A batch one of whose statements failed leaves what lasted by then. -/
theorem runBatch_of_failed {texts : List String} {e : Failure} (settled : k.transaction = none)
    (failed : runTokens (texts.flatMap Token.ofText) k.begun = (.error e, k')) :
    k.runBatch texts =
      (if k'.transaction.isSome then .error (.statement (.failure e))
        else .error (.rollback (.failure e) (.failure noRollback)),
        { k' with contents := k'.durable, transaction := none }) := by
  simp only [runBatch, start_of_settled settled, runTexts_eq, failed, rollback, durable]
  cases running : k'.transaction with
  | some t => rfl
  | none => exact Prod.ext rfl (with_none_of_settled running).symm

/-! ### A commit in the middle -/

theorem reads_commit : Reads "COMMIT" [.word "COMMIT", .finish false] .commit :=
  ⟨by decide +kernel, by decide⟩

theorem reads_begin : Reads "BEGIN" [.word "BEGIN", .finish false] .startTransaction :=
  ⟨by decide +kernel, by decide⟩

theorem runText_commit (running : k.transaction.isSome = true) :
    k.runText "COMMIT" = (.ok (), { k with transaction := none }) := by
  obtain ⟨t, found⟩ := Option.isSome_iff_exists.mp running
  rw [reads_commit.runText rfl]
  simp only [run, commit, found]
  rfl

theorem runText_begin (settled : k.transaction = none) :
    k.runText "BEGIN" = (.ok (), k.begun) := by
  rw [reads_begin.runText rfl]
  simp only [run, start_of_settled settled]
  rfl

/-- **What a batch commits by itself is not undone.**  Whatever ran before the commit is
there when a later statement fails, and the failure is reported as one that was undone. -/
theorem commit_midway_stays {k reached stopped : Connection} {pre : List String} {bad : String}
    {e : Failure} (settled : k.transaction = none)
    (ran : runTexts pre k.begun = (.ok (), reached)) (running : reached.transaction.isSome = true)
    (fails : runText bad (Connection.begun { reached with transaction := none }) =
      (.error e, stopped))
    (within : stopped.Within reached.contents) :
    k.runBatch (pre ++ ["COMMIT", "BEGIN", bad]) =
      (.error (.statement (.failure e)),
        { stopped with contents := reached.contents, transaction := none }) := by
  have failed : runTokens ((pre ++ ["COMMIT", "BEGIN", bad]).flatMap Token.ofText) k.begun =
      (.error e, stopped) := by
    rw [List.flatMap_append, runTokens_append, ← runTexts_eq, ran]
    simp only [← runTexts_eq, runTexts, runText_commit running,
      runText_begin (k := { reached with transaction := none }) rfl, fails]
  rw [runBatch_of_failed settled failed, within.isSome, if_pos rfl, within.durable]

/-! ## Setting up -/

/-- What is said of a transaction within another. -/
def noNesting : Failure := sqlFailure "cannot start a transaction within a transaction"

/-- What setting up comes to over a connection outside transactions, by how the statements
ran in the transaction of the batch. -/
structure SetUp (k : Connection) (texts : List String) (r : Except StoreError Unit × Connection) :
    Prop where
  ran : ∀ k', runTokens (texts.flatMap Token.ofText) k.begun = (.ok (), k') →
    r = (if k'.transaction.isSome then .ok () else .error (.commit (.failure noCommit)),
      { k' with transaction := none })
  failed : ∀ e k', runTokens (texts.flatMap Token.ofText) k.begun = (.error e, k') →
    (∃ pre ts post reached, texts.flatMap Token.ofText = pre ++ ts :: post ∧
        runTokens pre k.begun = (.ok (), reached) ∧ runTokens [ts] reached = (.error e, k')) ∧
      r = (if k'.transaction.isSome then .error (.driver (.failure e))
        else .error (.rollback (.driver (.failure e)) (.driver (.failure noRollback))),
        { k' with contents := k'.durable, transaction := none })
  undone_iff : ∀ e k', runTokens (texts.flatMap Token.ofText) k.begun = (.error e, k') →
    (r.2.contents = k.contents ↔ k'.durable = k.contents)
  /-- Without a commit or a rollback among them, the statements are all kept or all undone. -/
  whole : (∀ ts ∈ texts.flatMap Token.ofText, Stays ts) →
    (∀ k', runTokens (texts.flatMap Token.ofText) k.begun = (.ok (), k') →
        r.1 = .ok () ∧ runTexts texts k = (.ok (), r.2)) ∧
      ∀ e k', runTokens (texts.flatMap Token.ofText) k.begun = (.error e, k') →
        r.1 = .error (.driver (.failure e)) ∧ r.2.contents = k.contents ∧ r.2.transaction = none

theorem setUp_of_running {t : Transaction} (running : k.transaction = some t)
    (statements : List String) :
    backend.setUp statements k = (.error (.driver (.failure noNesting)), k) := by
  rw [Backend.setUp_split]
  simp only [backend, runBatch, start, running]
  rfl

theorem setUp_of_settled (settled : k.transaction = none) (statements : List String) :
    SetUp k (statements.filter fun t => !Backend.isBlank t) (backend.setUp statements k) := by
  rw [Backend.setUp_split]
  generalize statements.filter (fun t => !Backend.isBlank t) = texts
  have ran : ∀ k', runTokens (texts.flatMap Token.ofText) k.begun = (.ok (), k') →
      ((backend.runBatch texts k).1.mapError Backend.batchError, (backend.runBatch texts k).2) =
        (if k'.transaction.isSome then .ok () else .error (.commit (.failure noCommit)),
          { k' with transaction := none }) := by
    intro k' done
    have batch : backend.runBatch texts k = _ := runBatch_of_ran settled done
    rw [batch]
    cases k'.transaction <;> rfl
  have failed : ∀ e k', runTokens (texts.flatMap Token.ofText) k.begun = (.error e, k') →
      ((backend.runBatch texts k).1.mapError Backend.batchError, (backend.runBatch texts k).2) =
        (if k'.transaction.isSome then .error (.driver (.failure e))
          else .error (.rollback (.driver (.failure e)) (.driver (.failure noRollback))),
          { k' with contents := k'.durable, transaction := none }) := by
    intro e k' stopped
    have batch : backend.runBatch texts k = _ := runBatch_of_failed settled stopped
    rw [batch]
    cases k'.transaction <;> rfl
  constructor
  · exact ran
  · intro e k' stopped
    exact ⟨runTokens_failed stopped, failed e k' stopped⟩
  · intro e k' stopped
    rw [failed e k' stopped]
  · intro stays
    have stayed := runTokens_within stays k.begun_within
    constructor
    · intro k' done
      rw [done] at stayed
      obtain ⟨k₀, used, alone, settled₀, rfl⟩ := runTokens_inside stays settled done
      rw [ran _ done, stayed.isSome, if_pos rfl, runTexts_eq, alone]
      refine ⟨rfl, congrArg (Prod.mk _) ?_⟩
      rw [inside, ← settled₀]
    · intro e k' stopped
      rw [stopped] at stayed
      rw [failed e k' stopped, stayed.isSome, if_pos rfl]
      exact ⟨rfl, stayed.durable, rfl⟩

end Connection

end Database

/-- **A batch that fails is undone exactly if nothing it did lasted by then.**  Over any
backend a table is set up by one batch of the statements that are not blank, and each way
in which it can end has its own answer, with both errors if undoing fails too.  Over a
database the statements run in a transaction that is opened for them; inside another it is
not opened, and nothing runs.  The first statement that fails is the last that runs, and
what is left then is what was durable.  If no statement is a commit or a rollback, all are
undone, and if none fails, they come to what they come to one after the other. -/
theorem failed_batch_undone_iff {σ : Type} (b : Backend σ) (s : σ) (log : List Exchange)
    (k : Database.Connection) (statements : List String) :
    let asked := statements.filter fun t => !Backend.isBlank t
    let reply := (b.runBatch asked s).1
    let answer : Except StoreError Unit :=
      match reply with
      | .ok () => .ok ()
      | .error (.start cause) => .error (.driver cause)
      | .error (.statement cause) => .error (.driver cause)
      | .error (.rollback initial undoing) =>
          .error (.rollback (.driver initial) (.driver undoing))
      | .error (.commit cause) => .error (.commit cause)
    let r := Database.Connection.backend.setUp statements k
    b.setUp statements s = (answer, (b.runBatch asked s).2) ∧
      b.observed.setUp statements (s, log) =
        (answer, (b.runBatch asked s).2, log ++ [.batch asked reply]) ∧
      (∀ t, k.transaction = some t →
        r = (.error (.driver (.failure Database.Connection.noNesting)), k)) ∧
      (k.transaction = none → Database.Connection.SetUp k asked r) := by
  intro asked reply answer r
  have seen : answer = reply.mapError Backend.batchError := by
    cases replied : reply with
    | ok u => simp only [answer, replied, Except.mapError]
    | error e => cases e <;> simp only [answer, replied, Except.mapError, Backend.batchError]
  rw [seen]
  refine ⟨b.setUp_split statements s, b.setUp_observed statements s log, ?_, ?_⟩
  · intro t running
    exact Database.Connection.setUp_of_running running statements
  · intro settled
    exact Database.Connection.setUp_of_settled settled statements

/-- A row, a commit, a new transaction and a statement that fails in it: the row stays. -/
theorem failed_batch_undone_iff_at_a_commit :
    let k := (Database.Connection.execute
      "CREATE TABLE t (id INTEGER PRIMARY KEY, name TEXT UNIQUE)" [] {}).2
    let statements := ["INSERT INTO t (name) VALUES ('a')", "COMMIT", "BEGIN",
      "INSERT INTO missing_table (name) VALUES ('x')"]
    let r := Database.Connection.backend.setUp statements k
    r.1 = .error (.driver (.failure (Database.sqlFailure "no such table: missing_table"))) ∧
      r.2.contents ≠ k.contents := by
  intro k statements r
  let tss := (statements.filter fun t => !Backend.isBlank t).flatMap Database.Token.ofText
  let ran := Database.Connection.runTokens tss k.begun
  obtain ⟨settled, failed, running, moved⟩ : k.transaction = none ∧
      ran.1 = .error (Database.sqlFailure "no such table: missing_table") ∧
      ran.2.transaction.isSome = true ∧ ran.2.durable ≠ k.contents := by
    decide +kernel
  obtain ⟨-, -, -, outcome⟩ :=
    failed_batch_undone_iff Database.Connection.backend k [] k statements
  have setUp := outcome settled
  have stopped : ran = (.error (Database.sqlFailure "no such table: missing_table"), ran.2) :=
    Prod.ext failed rfl
  obtain ⟨-, ends⟩ := setUp.failed _ _ stopped
  rw [running, if_pos rfl] at ends
  exact ⟨congrArg Prod.fst ends, fun same => moved ((setUp.undone_iff _ _ stopped).mp same)⟩

end AccountStore
