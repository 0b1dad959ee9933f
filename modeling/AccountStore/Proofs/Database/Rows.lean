/-
# AccountStore.Proofs.Database.Rows -- what writes do to the rows of a table

An update whose condition holds of no row changes nothing; one whose condition
holds of a single row checks the changed row against all others and puts it in
place.  A row with a value in every column fails only under a unique key.
-/
import AccountStore.Database.Table

namespace AccountStore.Database.Table

set_option autoImplicit false

variable {t : Table} {f : Filter} {assignments : List (Nat × SqlValue)}

theorem updateRows_none : ∀ {rest : List StoredRow} (before : List StoredRow),
    (∀ r ∈ rest, f.holds r = false) →
      updateRows t f assignments before rest = .ok (before ++ rest, 0)
  | [], before, _ => by simp [updateRows]
  | r :: rest, before, h => by
      have later := updateRows_none (before ++ [r]) (fun q hq => h q (List.mem_cons_of_mem _ hq))
      rw [updateRows, h r List.mem_cons_self, if_neg Bool.false_ne_true, later]
      simp

/-- A condition that holds of one row changes this one. -/
theorem updateRows_one {r : StoredRow} {post : List StoredRow} (hit : f.holds r = true)
    (after : ∀ q ∈ post, f.holds q = false) :
    ∀ {pre : List StoredRow} (before : List StoredRow), (∀ q ∈ pre, f.holds q = false) →
      updateRows t f assignments before (pre ++ r :: post) =
        match t.checkRow (before ++ pre ++ post) (changed r assignments) with
        | .error e => .error e
        | .ok () => .ok (before ++ pre ++ changed r assignments :: post, 1)
  | [], before, _ => by
      rw [List.nil_append, List.append_nil, updateRows, if_pos hit]
      simp only
      cases t.checkRow (before ++ post) (changed r assignments) with
      | error e => rfl
      | ok _ =>
          simp only [updateRows_none (before ++ [changed r assignments]) after]
          simp
  | q :: pre, before, h => by
      have later := updateRows_one hit after (before ++ [q])
        (fun p hp => h p (List.mem_cons_of_mem _ hp))
      rw [List.cons_append, updateRows, h q List.mem_cons_self, if_neg Bool.false_ne_true, later]
      simp only [List.append_assoc, List.cons_append, List.nil_append]

theorem checkRow_of_full {others : List StoredRow} {r : StoredRow}
    (full : t.emptyColumn? r = none) :
    t.checkRow others r =
      match t.violatedKey? others r with
      | some k =>
          .error (.engine k.code (some s!"UNIQUE constraint failed: {t.qualified k.column}"))
      | none => .ok () := by
  cases violated : t.violatedKey? others r with
  | some k => simp only [checkRow, full, violated]
  | none => simp only [checkRow, full, violated]

/-! ## Values -/

theorem equalValues_text (a b : String) : equalValues (.text a) (.text b) = (a == b) := by
  rw [Bool.eq_iff_iff]
  simp [equalValues]

theorem equalValues_integer (a b : Int) : equalValues (.integer a) (.integer b) = (a == b) := by
  rw [Bool.eq_iff_iff]
  simp [equalValues]

end AccountStore.Database.Table
