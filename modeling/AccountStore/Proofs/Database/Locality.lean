/-
# AccountStore.Proofs.Database.Locality -- operations that work on one table

A statement names one table.  What it answers and what it leaves there depend on
that table alone, whatever else the database holds and whatever the connection
did before (`WorksOn.determined`), and nothing under another name is touched
(`WorksOn.frame`).  Operations that are put together from such operations are
such operations (`WorksOn.bind`).  The one thing that a connection carries from
one statement to the next, the number of the last row that it added, is seen
after a statement that adds no row; so of these only the count of rows is local.
-/
import AccountStore.Proofs.Database.Holding

namespace AccountStore.Database

set_option autoImplicit false

/-! ## Contents beside some names -/

/-- Under a name there is the same. -/
structure AgreeAt (name : String) (c c' : Contents) : Prop where
  table : c'.findTable? name = c.findTable? name
  index : c'.findIndex? name = c.findIndex? name

/-- Only what has one of these names may differ. -/
def Spares (names : List String) (c c' : Contents) : Prop :=
  ∀ other, (∀ name ∈ names, sameName name other = false) → AgreeAt other c c'

namespace Spares

variable {names : List String} {c c' c'' : Contents}

theorem refl (names : List String) (c : Contents) : Spares names c c :=
  fun _ _ => ⟨rfl, rfl⟩

theorem trans (h : Spares names c c') (h' : Spares names c' c'') : Spares names c c'' := by
  intro other apart
  have first := h other apart
  have second := h' other apart
  exact ⟨second.table.trans first.table, second.index.trans first.index⟩

theorem mono {names' : List String} (h : Spares names c c') (within : names ⊆ names') :
    Spares names' c c' :=
  fun other apart => h other fun name member => apart name (within member)

/-- Beside one name there is the same. -/
theorem agreeAt {name other : String} (h : Spares [name] c c')
    (apart : sameName name other = false) : AgreeAt other c c' :=
  h other fun _ member => List.mem_singleton.mp member ▸ apart

end Spares

theorem spares_setTable (c : Contents) {t : Table} {name : String}
    (named : sameName t.name name = true) : Spares [name] c (c.setTable t) := by
  intro other apart
  have ne : sameName t.name other = false := by
    rw [sameName_congr named]
    exact apart name List.mem_cons_self
  exact ⟨Contents.findTable?_setTable_ne c ne, rfl⟩

/-! ## Operations -/

/-- Two connections outside transactions have the same table under a name. -/
def SharesTable (name : String) (k k' : Connection) : Prop :=
  ∃ t, Holds k name t ∧ Holds k' name t

/-- An operation that works on the table of a name: it leaves everything else
alone, and what it answers and leaves there depends on that table alone. -/
structure WorksOn {α : Type} (name : String) (op : Connection → α × Connection) : Prop where
  frame : ∀ k : Connection, k.transaction = none →
    (op k).2.transaction = none ∧ Spares [name] k.contents (op k).2.contents
  determined : ∀ k k' : Connection, SharesTable name k k' →
    (op k).1 = (op k').1 ∧ SharesTable name (op k).2 (op k').2

namespace WorksOn

variable {α β : Type} {name : String} {op op' : Connection → α × Connection}

theorem pure (name : String) (a : α) : WorksOn name fun k => (a, k) where
  frame _ settled := ⟨settled, .refl _ _⟩
  determined _ _ shared := ⟨rfl, shared⟩

/-- One operation after the other, the second chosen by the answer to the first. -/
theorem bind {next : α → Connection → β × Connection}
    (h : WorksOn name op) (h' : ∀ a, WorksOn name (next a)) :
    WorksOn name fun k => next (op k).1 (op k).2 where
  frame k settled := by
    obtain ⟨settled', first⟩ := h.frame k settled
    obtain ⟨settled'', second⟩ := (h' (op k).1).frame (op k).2 settled'
    exact ⟨settled'', first.trans second⟩
  determined k k' shared := by
    obtain ⟨same, shared'⟩ := h.determined k k' shared
    have second := (h' (op k).1).determined (op k).2 (op k').2 shared'
    rw [← same]
    exact second

theorem map (h : WorksOn name op) (f : α → β) :
    WorksOn name fun k => (f (op k).1, (op k).2) :=
  h.bind fun a => .pure name (f a)

theorem of_eq (h : WorksOn name op) (same : ∀ k, op' k = op k) : WorksOn name op' := by
  rw [show op' = op from funext same]
  exact h

/-- An operation does not touch what has none of the names. -/
theorem spares (h : WorksOn name op) {names : List String} (member : name ∈ names)
    {k : Connection} (settled : k.transaction = none) :
    (op k).2.transaction = none ∧ Spares names k.contents (op k).2.contents := by
  obtain ⟨settled', frame⟩ := h.frame k settled
  exact ⟨settled', frame.mono fun _ same => List.mem_singleton.mp same ▸ member⟩

end WorksOn

/-! ## Statements -/

namespace Statement

/-- A statement that writes rows of a table. -/
def Writes (name : String) : Statement → Prop
  | .insert table _ _ | .update table _ _ | .delete table _ => table = name
  | _ => False

def adds : Statement → Bool
  | .insert _ _ _ => true
  | _ => false

end Statement

namespace Table

theorem insert_name {t t' : Table} {given : List (Nat × SqlValue)} (h : t.insert given = .ok t') :
    t'.name = t.name := by
  simp only [insert] at h
  split at h
  · cases h
  · cases h
    rfl

theorem update_name {t t' : Table} {f : Filter} {assignments : List (Nat × SqlValue)} {n : Nat}
    (h : t.update f assignments = .ok (t', n)) : t'.name = t.name := by
  simp only [update] at h
  split at h
  · cases h
    rfl
  · cases h

end Table

namespace Contents

/-- **What a write does depends on its table.**  It is refused, or it puts another table
of the same name in its place, whatever stands beside it. -/
inductive DecidedBy (name : String) (t : Table) (adds : Bool)
    (write : Contents → Except Failure (Contents × Written)) : Prop
  | refused (e : Failure) (refuses : ∀ c, c.findTable? name = some t → write c = .error e)
  | wrote (t' : Table) (w : Written) (named : t'.name = t.name)
      (numbered : adds = true → w.added.isSome = true)
      (writes : ∀ c, c.findTable? name = some t → write c = .ok (c.setTable t', w))

variable (name : String) (t : Table) (parameters : List SqlValue)

theorem insert_decidedBy (columns : List String) (operands : List Operand) :
    DecidedBy name t true fun c => c.insert name columns operands parameters := by
  cases columnsFound : insertedColumns t name columns with
  | error e =>
      refine .refused e fun c found => ?_
      simp only [insert, table_eq_ok found, columnsFound]
  | ok is =>
      by_cases fits : is.length = operands.length
      · cases inserted : t.insert (is.zip (operands.map (Table.operand parameters))) with
        | error e =>
            refine .refused e fun c found => ?_
            simp only [insert, table_eq_ok found, columnsFound, fits, if_true, inserted]
        | ok t' =>
            refine .wrote t' ⟨1, some t'.lastNumber⟩ (Table.insert_name inserted) (fun _ => rfl)
              fun c found => ?_
            simp only [insert, table_eq_ok found, columnsFound, fits, if_true, inserted]
      · refine .refused (sqlFailure s!"{operands.length} values for {is.length} columns")
          fun c found => ?_
        simp only [insert, table_eq_ok found, columnsFound, fits, if_false]

theorem update_decidedBy (assignments : List (String × Operand)) (condition : Condition) :
    DecidedBy name t false fun c => c.update name assignments condition parameters := by
  cases columnsFound : columnsOf t (assignments.map Prod.fst) with
  | error e =>
      refine .refused e fun c found => ?_
      simp only [update, table_eq_ok found, columnsFound]
  | ok is =>
      cases filtered : t.filter parameters condition with
      | error e =>
          refine .refused e fun c found => ?_
          simp only [update, table_eq_ok found, columnsFound, filtered]
      | ok f =>
          cases updated : t.update f
              (is.zip (assignments.map fun a => Table.operand parameters a.2)) with
          | error e =>
              refine .refused e fun c found => ?_
              simp only [update, table_eq_ok found, columnsFound, filtered, updated]
          | ok left =>
              refine .wrote left.1 ⟨left.2, none⟩ (Table.update_name updated)
                (fun adds => absurd adds Bool.false_ne_true) fun c found => ?_
              simp only [update, table_eq_ok found, columnsFound, filtered, updated]

theorem delete_decidedBy (condition : Condition) :
    DecidedBy name t false fun c => c.delete name condition parameters := by
  cases filtered : t.filter parameters condition with
  | error e =>
      refine .refused e fun c found => ?_
      simp only [delete, table_eq_ok found, filtered]
  | ok f =>
      refine .wrote (t.delete f).1 ⟨(t.delete f).2, none⟩ rfl
        (fun adds => absurd adds Bool.false_ne_true) fun c found => ?_
      simp only [delete, table_eq_ok found, filtered]

end Contents

namespace Connection

variable {name text : String} {parameters : List SqlValue} {s : Statement}

/-- What a statement that writes does to the contents, whatever connection runs it. -/
theorem exists_change (writes : s.Writes name) (parameters : List SqlValue) (t : Table) :
    ∃ change, Contents.DecidedBy name t s.adds change ∧
      ∀ k : Connection, k.run parameters s = k.write (change k.contents) := by
  cases s with
  | insert table columns operands =>
      obtain rfl : table = name := writes
      exact ⟨_, Contents.insert_decidedBy table t parameters columns operands, fun _ => rfl⟩
  | update table assignments condition =>
      obtain rfl : table = name := writes
      exact ⟨_, Contents.update_decidedBy table t parameters assignments condition, fun _ => rfl⟩
  | delete table condition =>
      obtain rfl : table = name := writes
      exact ⟨_, Contents.delete_decidedBy table t parameters condition, fun _ => rfl⟩
  | _ => exact absurd writes id

/-- A statement that writes is refused, or leaves a connection that another table was
written to, by what the table is. -/
theorem exists_write (writes : s.Writes name) (parameters : List SqlValue) (t : Table) :
    (∃ e, ∀ k : Connection, k.contents.findTable? name = some t → k.run parameters s = .error e) ∨
      ∃ t' w, t'.name = t.name ∧ (s.adds = true → w.added.isSome = true) ∧
        ∀ k : Connection, k.contents.findTable? name = some t →
          k.run parameters s = .ok (k.wrote t' w) := by
  obtain ⟨change, decided, ran⟩ := exists_change writes parameters t
  cases decided with
  | refused e refuses =>
      refine .inl ⟨e, fun k found => ?_⟩
      rw [ran, refuses k.contents found, write]
  | wrote t' w named numbered changed =>
      refine .inr ⟨t', w, named, numbered, fun k found => ?_⟩
      rw [ran, changed k.contents found, write, Connection.wrote]

/-- A write to a table that is not there is refused. -/
theorem exists_refusal (writes : s.Writes name) (parameters : List SqlValue) {k : Connection}
    (missing : k.contents.findTable? name = none) : ∃ e, k.run parameters s = .error e := by
  have absent : k.contents.table name = .error (sqlFailure s!"no such table: {name}") := by
    simp only [Contents.table, missing]
  cases s with
  | insert table columns operands =>
      obtain rfl : table = name := writes
      exact ⟨_, by simp only [run, Contents.insert, absent, write]; rfl⟩
  | update table assignments condition =>
      obtain rfl : table = name := writes
      exact ⟨_, by simp only [run, Contents.update, absent, write]; rfl⟩
  | delete table condition =>
      obtain rfl : table = name := writes
      exact ⟨_, by simp only [run, Contents.delete, absent, write]; rfl⟩
  | _ => exact absurd writes id

theorem execute_frame (parsed : ∀ k : Connection, k.parse text = .ok s) (writes : s.Writes name)
    (k : Connection) (settled : k.transaction = none) :
    (k.execute text parameters).2.transaction = none ∧
      Spares [name] k.contents (k.execute text parameters).2.contents := by
  have refused : ∀ e, k.run parameters s = .error e →
      (k.execute text parameters).2 = k := by
    intro e failed
    rw [execute, parsed]
    simp only [failed, touchFailed_of_settled settled]
  cases found : k.contents.findTable? name with
  | none =>
      obtain ⟨e, failed⟩ := exists_refusal writes parameters found
      rw [refused e failed]
      exact ⟨settled, .refl _ _⟩
  | some t =>
      rcases exists_write writes parameters t with ⟨e, failed⟩ | ⟨t', w, named, -, wrote⟩
      · rw [refused e (failed k found)]
        exact ⟨settled, .refl _ _⟩
      · rw [Holds.execute_write ⟨settled, found⟩ (parsed k) (wrote k found)]
        refine ⟨settled, spares_setTable k.contents ?_⟩
        rw [named]
        exact Contents.sameName_of_findTable? found

/-- Of a write the count of rows depends on its table. -/
theorem execute_worksOn (parsed : ∀ k : Connection, k.parse text = .ok s) (writes : s.Writes name)
    (parameters : List SqlValue) :
    WorksOn name fun k => ((k.execute text parameters).1.map Outcome.rowsAffected,
      (k.execute text parameters).2) where
  frame := execute_frame parsed writes
  determined := by
    rintro k k' ⟨t, held, held'⟩
    rcases exists_write writes parameters t with ⟨e, failed⟩ | ⟨t', w, named, -, wrote⟩
    · rw [held.execute_error (parsed k) (failed k held.found),
        held'.execute_error (parsed k') (failed k' held'.found)]
      exact ⟨rfl, t, held, held'⟩
    · rw [held.execute_write (parsed k) (wrote k held.found),
        held'.execute_write (parsed k') (wrote k' held'.found)]
      exact ⟨rfl, t', held.wrote named w, held'.wrote named w⟩

/-- Of an insert the number of the row depends on its table as well. -/
theorem execute_worksOn_of_adds (parsed : ∀ k : Connection, k.parse text = .ok s)
    (writes : s.Writes name) (adds : s.adds = true) (parameters : List SqlValue) :
    WorksOn name fun k => k.execute text parameters where
  frame := execute_frame parsed writes
  determined := by
    rintro k k' ⟨t, held, held'⟩
    rcases exists_write writes parameters t with ⟨e, failed⟩ | ⟨t', w, named, numbered, wrote⟩
    · rw [held.execute_error (parsed k) (failed k held.found),
        held'.execute_error (parsed k') (failed k' held'.found)]
      exact ⟨rfl, t, held, held'⟩
    · obtain ⟨number, added⟩ := Option.isSome_iff_exists.mp (numbered adds)
      rw [held.execute_write (parsed k) (wrote k held.found),
        held'.execute_write (parsed k') (wrote k' held'.found), added]
      exact ⟨rfl, t', held.wrote named w, held'.wrote named w⟩

/-- A text that is refused as it is read is refused everywhere. -/
theorem execute_worksOn_of_error {e : Failure} (unread : ∀ k : Connection, k.parse text = .error e)
    (name : String) (parameters : List SqlValue) :
    WorksOn name fun k => k.execute text parameters := by
  have refused : (fun k : Connection => k.execute text parameters) =
      fun k => (.error (.failure e), k) := by
    funext k
    rw [execute, unread]
  rw [refused]
  exact .pure name _

/-- What a lookup finds depends on its table. -/
theorem exists_select (name : String) (columns : List (String × Option String))
    (condition : Condition) (parameters : List SqlValue) (t : Table) :
    ∃ r, ∀ k : Connection, k.contents.findTable? name = some t →
      k.firstRow parameters (.select columns name condition) = r := by
  cases columnsFound : Contents.columnsOf t (columns.map Prod.fst) with
  | error e =>
      refine ⟨.error e, fun k found => ?_⟩
      simp only [firstRow, Contents.select, Contents.table_eq_ok found, columnsFound]
  | ok is =>
      cases filtered : t.filter parameters condition with
      | error e =>
          refine ⟨.error e, fun k found => ?_⟩
          simp only [firstRow, Contents.select, Contents.table_eq_ok found, columnsFound, filtered]
      | ok f =>
          exact ⟨_, fun k found => Holds.firstRow_select (k := { k with transaction := none })
            ⟨rfl, found⟩ columnsFound filtered⟩

/-- The answer to a lookup by what it finds. -/
def rowAnswer (kinds : List ScanKind) :
    Except Failure (Option (List (String × SqlValue))) → Except DriverError Row
  | .error e => .error (.failure e)
  | .ok none => .error .noRows
  | .ok (some row) =>
      match readColumns 0 kinds row with
      | .error e => .error (.failure e)
      | .ok vs => .ok ⟨vs⟩

theorem queryRow_eq {k : Connection} (settled : k.transaction = none)
    (parsed : k.parse text = .ok s) (kinds : List ScanKind) :
    k.queryRow text parameters kinds = (rowAnswer kinds (k.firstRow parameters s), k) := by
  rw [queryRow, parsed]
  simp only [touch_of_settled settled]
  cases k.firstRow parameters s with
  | error e => rfl
  | ok found =>
      cases found with
      | none => rfl
      | some row =>
          simp only [rowAnswer]
          cases readColumns 0 kinds row <;> rfl

/-- A lookup changes nothing, and its answer depends on its table. -/
theorem queryRow_worksOn {columns : List (String × Option String)} {condition : Condition}
    (parsed : ∀ k : Connection, k.parse text = .ok (.select columns name condition))
    (parameters : List SqlValue) (kinds : List ScanKind) :
    WorksOn name fun k => k.queryRow text parameters kinds where
  frame k settled := by
    rw [queryRow_eq settled (parsed k)]
    exact ⟨settled, .refl _ _⟩
  determined := by
    rintro k k' ⟨t, held, held'⟩
    obtain ⟨r, selected⟩ := exists_select name columns condition parameters t
    rw [queryRow_eq held.settled (parsed k), selected k held.found,
      queryRow_eq held'.settled (parsed k'), selected k' held'.found]
    exact ⟨rfl, t, held, held'⟩

end Connection

end AccountStore.Database
