/-
# AccountStore.Proofs.Store.Entries -- maps whose values know their keys

Removing a key from a list of entries takes away what a lookup finds there and
nothing else.  Both tables in memory are lists of entries in which every value
stands under a key of its own.  Then a lookup by key is a search through the
values, and a removal of a key is a filter on them.
-/

namespace AccountStore

set_option autoImplicit false

variable {κ α : Type}

theorem lookup_cons_ite [BEq κ] [LawfulBEq κ] [DecidableEq κ] (k k' : κ) (v : α)
    (rest : List (κ × α)) :
    ((k', v) :: rest).lookup k = if k = k' then some v else rest.lookup k := by
  rw [List.lookup_cons]
  by_cases same : k = k'
  · rw [if_pos same, beq_iff_eq.mpr same]
  · rw [if_neg same, beq_eq_false_iff_ne.mpr same]

/-- A key that was removed is gone. -/
theorem lookup_filter_self [BEq κ] [LawfulBEq κ] (es : List (κ × α)) (k : κ) :
    (es.filter fun e => e.1 != k).lookup k = none := by
  rw [List.lookup_eq_none_iff]
  intro e he
  have ne : e.1 ≠ k := by simpa using (List.mem_filter.mp he).2
  exact bne_iff_ne.mpr (Ne.symm ne)

/-- Every other key stays. -/
theorem lookup_filter_ne [BEq κ] [LawfulBEq κ] (es : List (κ × α)) {k removed : κ}
    (ne : k ≠ removed) : (es.filter fun e => e.1 != removed).lookup k = es.lookup k := by
  induction es with
  | nil => rfl
  | cons e rest ih =>
      rw [List.filter_cons]
      by_cases gone : e.1 = removed
      · have other : (k == e.1) = false := beq_eq_false_iff_ne.mpr (gone ▸ ne)
        rw [if_neg (by simp [gone]), ih, List.lookup_cons, other]
      · rw [if_pos (by simp [gone]), List.lookup_cons, List.lookup_cons, ih]

/-- With distinct keys, a lookup misses the values that are left out and no others. -/
theorem lookup_filter_snd [BEq κ] [LawfulBEq κ] {es : List (κ × α)}
    (distinct : (es.map Prod.fst).Nodup) (keep : α → Bool) (k : κ) :
    (es.filter fun e => keep e.2).lookup k = (es.lookup k).filter keep := by
  induction es with
  | nil => rfl
  | cons e rest ih =>
      obtain ⟨first, distinct⟩ := List.nodup_cons.mp distinct
      have later := ih distinct
      rw [List.filter_cons, List.lookup_cons]
      by_cases here : k = e.1
      · -- a value that is left out must not uncover another under its key
        have none : rest.lookup k = none := by
          rw [List.lookup_eq_none_iff]
          intro e' he'
          exact bne_iff_ne.mpr fun same => first (here ▸ same ▸ List.mem_map_of_mem he')
        have hit : (k == e.1) = true := beq_iff_eq.mpr here
        rw [none, Option.filter_none] at later
        rw [hit, Option.filter_some]
        cases keep e.2 with
        | true => rw [if_pos rfl, if_pos rfl, List.lookup_cons, hit]
        | false => rw [if_neg Bool.false_ne_true, if_neg Bool.false_ne_true, later]
      · have other : (k == e.1) = false := beq_eq_false_iff_ne.mpr here
        rw [other]
        cases keep e.2 with
        | true => rw [if_pos rfl, List.lookup_cons, other, later]
        | false => rw [if_neg Bool.false_ne_true, later]

/-- Every value stands under its own key. -/
def OwnKeys (key : α → κ) (es : List (κ × α)) : Prop := ∀ e ∈ es, key e.2 = e.1

namespace OwnKeys

variable {key : α → κ} {es : List (κ × α)}

theorem empty (key : α → κ) : OwnKeys key [] := by simp [OwnKeys]

theorem filter (own : OwnKeys key es) (p : κ × α → Bool) : OwnKeys key (es.filter p) :=
  fun e he => own e (List.mem_filter.mp he).1

variable [BEq κ]

theorem lookup_eq [LawfulBEq κ] (own : OwnKeys key es) (k : κ) :
    es.lookup k = (es.map Prod.snd).find? (fun x => key x == k) := by
  unfold OwnKeys at own
  induction es with
  | nil => rfl
  | cons e rest ih =>
      obtain ⟨here, later⟩ := List.forall_mem_cons.mp own
      rw [List.map_cons, List.find?_cons, here, ← ih later, List.lookup_cons, BEq.comm]

theorem map_filter_ne (own : OwnKeys key es) (k : κ) :
    (es.filter fun e => e.1 != k).map Prod.snd =
      (es.map Prod.snd).filter (fun x => key x != k) := by
  rw [List.filter_map]
  refine congrArg (List.map Prod.snd) (List.filter_congr fun e he => ?_)
  rw [Function.comp_apply, own e he]

end OwnKeys

end AccountStore
