/-
# AccountStore.Proofs.Database.Holding -- one table of a database, statement by statement

`Holds k name t` says that a connection is outside transactions and has the
table `t` under `name`.  Each kind of statement on that table is then an
operation of the table: what it answers is what the operation answers, and
afterwards the connection holds the table that the operation leaves.  Names of
tables differ beyond ASCII case, so `sameName` is an equivalence and a write to
one table neither adds nor removes a name.
-/
import AccountStore.Database.Connection

namespace AccountStore.Database

set_option autoImplicit false

/-! ## Names -/

theorem sameName_refl (a : String) : sameName a a = true := by simp [sameName]

theorem sameName_symm {a b : String} (h : sameName a b = true) : sameName b a = true := by
  simp only [sameName, beq_iff_eq] at h ⊢
  exact h.symm

theorem sameName_comm (a b : String) : sameName a b = sameName b a := by
  simp only [sameName, BEq.comm]

theorem sameName_congr {a b : String} (h : sameName a b = true) (c : String) :
    sameName a c = sameName b c := by
  simp only [sameName, beq_iff_eq] at h ⊢
  rw [h]

namespace Contents

theorem sameName_of_findTable? {c : Contents} {name : String} {t : Table}
    (h : c.findTable? name = some t) : sameName t.name name = true := by
  unfold findTable? at h
  simpa using List.find?_some h

/-- A write under one name leaves the tables of all other names alone. -/
theorem findTable?_setTable_ne (c : Contents) {t : Table} {other : String}
    (ne : sameName t.name other = false) :
    (c.setTable t).findTable? other = c.findTable? other := by
  unfold findTable? setTable
  simp only
  induction c.tables with
  | nil => rfl
  | cons old rest ih =>
      rw [List.map_cons, List.find?_cons, List.find?_cons, ih]
      by_cases same : sameName old.name t.name = true
      · rw [if_pos same, ne, sameName_congr same, ne]
      · rw [if_neg same]

theorem findTable?_setTable {c : Contents} {t t' : Table} {name : String}
    (found : c.findTable? name = some t) (same : t'.name = t.name) :
    (c.setTable t').findTable? name = some t' := by
  have named : sameName t'.name name = true := same ▸ sameName_of_findTable? found
  unfold findTable? at found ⊢
  unfold setTable
  simp only
  revert found
  induction c.tables with
  | nil => exact nofun
  | cons old rest ih =>
      intro found
      rw [List.find?_cons] at found
      rw [List.map_cons, List.find?_cons]
      by_cases hit : sameName old.name name = true
      · have put : sameName old.name t'.name = true := by
          rw [sameName_congr hit, sameName_symm named]
        rw [if_pos put, named]
      · have kept : ¬ sameName old.name t'.name = true := by
          intro put
          exact hit ((sameName_congr put name).trans named)
        rw [Bool.not_eq_true] at hit
        rw [hit] at found
        rw [if_neg kept, hit]
        exact ih found

theorem table_eq_ok {c : Contents} {name : String} {t : Table} (h : c.findTable? name = some t) :
    c.table name = .ok t := by
  simp only [table, h]

end Contents

/-- A connection outside transactions has a table under a name. -/
structure Holds (k : Connection) (name : String) (t : Table) : Prop where
  settled : k.transaction = none
  found : k.contents.findTable? name = some t

namespace Connection

theorem touch_of_settled {k : Connection} (h : k.transaction = none) (s : Statement) :
    k.touch s = k := by
  unfold touch
  split
  · rw [h, Option.map_none, ← h]
  · rfl

theorem touchFailed_of_settled {k : Connection} (h : k.transaction = none) (s : Statement)
    (e : Failure) : k.touchFailed s e = k := by
  unfold touchFailed
  split
  · rfl
  · exact touch_of_settled h s

/-- The connection after a write to one table. -/
def wrote (k : Connection) (t : Table) (w : Written) : Connection :=
  { k with contents := k.contents.setTable t, changes := w.rows, lastRow := w.added.getD k.lastRow }

end Connection

namespace Holds

open Connection

variable {k : Connection} {name : String} {t : Table} {text : String} {parameters : List SqlValue}

theorem wrote (h : Holds k name t) {t' : Table} (same : t'.name = t.name) (w : Written) :
    Holds (k.wrote t' w) name t' :=
  ⟨h.settled, Contents.findTable?_setTable h.found same⟩

/-- A write that the table refuses is refused and changes nothing. -/
theorem execute_error (h : Holds k name t) {s : Statement} {e : Failure}
    (parsed : k.parse text = .ok s) (refused : k.run parameters s = .error e) :
    k.execute text parameters = (.error (.failure e), k) := by
  rw [execute, parsed]
  simp only [refused, touchFailed_of_settled h.settled]

theorem execute_write (h : Holds k name t) {s : Statement} {t' : Table} {w : Written}
    (parsed : k.parse text = .ok s) (ran : k.run parameters s = .ok (k.wrote t' w)) :
    k.execute text parameters = (.ok ⟨some w.rows, some (w.added.getD k.lastRow)⟩, k.wrote t' w) := by
  rw [execute, parsed]
  simp only [ran, touch_of_settled (show (k.wrote t' w).transaction = none from h.settled)]
  rfl

/-! ## Inserting -/

theorem run_insert (h : Holds k name t) {columns : List String} {operands : List Operand}
    {is : List Nat} (found : Contents.insertedColumns t name columns = .ok is)
    (length : is.length = operands.length) :
    k.run parameters (.insert name columns operands) =
      match t.insert (is.zip (operands.map (Table.operand parameters))) with
      | .error e => .error e
      | .ok t' => .ok (k.wrote t' ⟨1, some t'.lastNumber⟩) := by
  simp only [run, Contents.insert, Contents.table_eq_ok h.found, found, length, if_true]
  cases t.insert (is.zip (operands.map (Table.operand parameters))) <;> rfl

/-! ## Updating -/

theorem run_update (h : Holds k name t) {assignments : List (String × Operand)} {c : Condition}
    {is : List Nat} {f : Table.Filter}
    (found : Contents.columnsOf t (assignments.map Prod.fst) = .ok is)
    (filtered : t.filter parameters c = .ok f) :
    k.run parameters (.update name assignments c) =
      match t.update f (is.zip (assignments.map fun a => Table.operand parameters a.2)) with
      | .error e => .error e
      | .ok (t', n) => .ok (k.wrote t' ⟨n, none⟩) := by
  simp only [run, Contents.update, Contents.table_eq_ok h.found, found, filtered]
  cases t.update f (is.zip (assignments.map fun a => Table.operand parameters a.2)) <;> rfl

/-! ## Deleting -/

theorem run_delete (h : Holds k name t) {c : Condition} {f : Table.Filter}
    (filtered : t.filter parameters c = .ok f) :
    k.run parameters (.delete name c) =
      .ok (k.wrote (t.delete f).1 ⟨(t.delete f).2, none⟩) := by
  simp only [run, Contents.delete, Contents.table_eq_ok h.found, filtered]
  rfl

/-! ## Looking up -/

/-- A row as a lookup answers with it, each value under its column's name. -/
def named (t : Table) (columns : List (String × Option String)) (is : List Nat) (r : StoredRow) :
    List (String × SqlValue) :=
  ((is.zip columns).map fun p => p.2.2.getD (t.columnName p.1)).zip (is.map (Table.rowValue r))

section Lookup

variable {columns : List (String × Option String)} {c : Condition} {is : List Nat}
  {f : Table.Filter}

theorem firstRow_select (h : Holds k name t)
    (found : Contents.columnsOf t (columns.map Prod.fst) = .ok is)
    (filtered : t.filter parameters c = .ok f) :
    k.firstRow parameters (.select columns name c) = .ok ((t.find? f).map (named t columns is)) := by
  simp only [firstRow, Contents.select, Contents.table_eq_ok h.found, found, filtered]
  rfl

theorem queryRow_missed (h : Holds k name t) (kinds : List ScanKind)
    (parsed : k.parse text = .ok (.select columns name c))
    (found : Contents.columnsOf t (columns.map Prod.fst) = .ok is)
    (filtered : t.filter parameters c = .ok f) (missed : t.find? f = none) :
    k.queryRow text parameters kinds = (.error .noRows, k) := by
  rw [queryRow, parsed]
  simp only [h.firstRow_select found filtered, missed, Option.map_none, touch_of_settled h.settled]

theorem queryRow_hit (h : Holds k name t) {kinds : List ScanKind}
    (parsed : k.parse text = .ok (.select columns name c))
    (found : Contents.columnsOf t (columns.map Prod.fst) = .ok is)
    (filtered : t.filter parameters c = .ok f) {r : StoredRow} (hit : t.find? f = some r)
    {vs : List SqlValue} (read : readColumns 0 kinds (named t columns is r) = .ok vs) :
    k.queryRow text parameters kinds = (.ok ⟨vs⟩, k) := by
  rw [queryRow, parsed]
  simp only [h.firstRow_select found filtered, hit, Option.map_some, read,
    touch_of_settled h.settled]

end Lookup

end Holds

end AccountStore.Database
