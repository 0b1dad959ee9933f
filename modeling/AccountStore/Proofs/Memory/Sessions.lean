/-
# AccountStore.Proofs.Memory.Sessions -- the table of sessions as a list

Every entry stands under the key of its session, so a lookup is a search through
the sessions and each call is an operation on their list: an insert appends, a
removal filters and counts what it leaves out.
-/
import AccountStore.Memory.Session
import AccountStore.Proofs.Store.Entries

namespace AccountStore.SessionTable

set_option autoImplicit false

/-- Every session stands under its own key. -/
abbrev Sound (t : SessionTable) : Prop := OwnKeys Session.key t.entries

variable {t : SessionTable}

theorem find?_eq (sound : t.Sound) (key : String) :
    t.find? key = t.sessions.find? (fun x => x.key == key) :=
  sound.lookup_eq key

theorem insert_cases (sound : t.Sound) (x : Session) :
    (t.sessions.any (fun y => y.key == x.key) = true ∧
        insert x t = (.error (.sessionExists x.key), t)) ∨
      (t.sessions.any (fun y => y.key == x.key) = false ∧
        ∃ t', insert x t = (.ok (), t') ∧ t'.sessions = t.sessions ++ [x] ∧ t'.Sound) := by
  have found := find?_eq sound x.key
  cases hit : t.find? x.key with
  | some y =>
      left
      rw [hit] at found
      refine ⟨?_, by simp only [insert, hit]⟩
      rw [List.any_eq_true]
      exact ⟨y, List.mem_of_find?_eq_some found.symm,
        List.find?_some (p := fun y : Session => y.key == x.key) found.symm⟩
  | none =>
      right
      rw [hit] at found
      have free := List.find?_eq_none.mp found.symm
      refine ⟨List.any_eq_false.mpr free, ⟨t.entries ++ [(x.key, x)]⟩, by simp only [insert, hit],
        ?_, ?_⟩
      · rw [sessions, sessions, List.map_append]
        rfl
      · intro e he
        rcases List.mem_append.mp he with he | he
        · exact sound e he
        · rw [List.mem_singleton.mp he]

theorem sessions_delete (sound : t.Sound) (key : String) :
    (t.delete key).2.sessions = t.sessions.filter fun x => !(x.key == key) :=
  sound.map_filter_ne key

theorem sessions_removeWhere (condition : Session → Bool) (t : SessionTable) :
    (t.removeWhere condition).2.sessions = t.sessions.filter fun x => !condition x := by
  rw [removeWhere, sessions, sessions, List.filter_map]
  rfl

/-- A removal counts what it leaves out. -/
theorem removeWhere_counts (condition : Session → Bool) (t : SessionTable) :
    (t.removeWhere condition).1 = .ok (t.sessions.countP condition) := by
  have parts := List.length_eq_countP_add_countP (fun e : String × Session => condition e.2)
    (l := t.entries)
  have kept : (t.entries.filter fun e => !condition e.2).length =
      t.entries.countP fun e => !condition e.2 := List.countP_eq_length_filter.symm
  have counted : t.sessions.countP condition = t.entries.countP fun e => condition e.2 := by
    rw [sessions, List.countP_map]
    rfl
  have others : (t.entries.countP fun e => decide (¬ condition e.2 = true)) =
      t.entries.countP fun e => !condition e.2 := by
    refine congrArg (List.countP · t.entries) (funext fun e => ?_)
    cases condition e.2 <;> rfl
  rw [others] at parts
  rw [removeWhere, kept, counted]
  exact congrArg Except.ok (by omega)

end AccountStore.SessionTable
