/-
# AccountStore.Proofs.Memory.Sweeps -- removals of sessions in turn

A removal filters a table of sessions and counts what it leaves out.  Two removals
in turn are one removal of what either takes (`inTurn_removeWhere`).  What both
would take falls to the first of them, so each count depends on the order and
their sum does not.

A session is valid at the later of two instants exactly if it is valid at both
(`isValid_later`), so sweeps in turn are one sweep at the later instant.  A sweep
and the removal of a user's sessions are one removal, whichever comes first.

In every state of every run each session stands under its own key and no key
stands twice (`Keyed`).  Hence a lookup after a sweep misses the sessions that
have expired and no others, and what a sweep counts are the keys that are gone.
-/
import AccountStore.Proofs.Instant.StoredOrder
import AccountStore.Proofs.Memory.Sessions
import AccountStore.Proofs.Store.Run

namespace AccountStore

set_option autoImplicit false

/-! ## The later of two instants -/

def Instant.later (a b : Instant) : Instant := if a < b then b else a

theorem Instant.lt_iff_of_later (a b c : Instant) : later a b < c ↔ a < c ∧ b < c := by
  unfold later
  split
  · next before =>
      rw [lt_def] at before
      simp only [lt_def]
      omega
  · next before =>
      rw [lt_def] at before
      simp only [lt_def]
      omega

theorem Instant.later_comm (a b : Instant) : later a b = later b a := by
  unfold later
  by_cases before : a < b
  · rw [if_pos before, if_neg (lt_asymm before)]
  · by_cases behind : b < a
    · rw [if_neg before, if_pos behind]
    · rw [if_neg before, if_neg behind]
      rw [lt_def] at before behind
      obtain ⟨seconds, nanos⟩ := a
      obtain ⟨seconds', nanos'⟩ := b
      rw [mk.injEq]
      dsimp only at before behind
      omega

theorem Session.isValid_iff (x : Session) (reference : Instant) :
    x.isValid reference = true ↔ reference < x.expires := Iff.rfl

theorem Session.isValid_later (x : Session) (a b : Instant) :
    x.isValid (Instant.later a b) = (x.isValid a && x.isValid b) := by
  rw [Bool.eq_iff_iff, Bool.and_eq_true]
  exact Instant.lt_iff_of_later a b x.expires

namespace SessionTable

variable {t : SessionTable}

/-! ## Two removals -/

/-- Two removals one after the other, with the sum of their counts. -/
def inTurn (first second : SessionTable → Except StoreError Nat × SessionTable)
    (t : SessionTable) : Except StoreError Nat × SessionTable :=
  let r := first t
  let r' := second r.2
  (do return (← r.1) + (← r'.1), r'.2)

theorem countP_or {α : Type} (p q : α → Bool) (xs : List α) :
    xs.countP (fun x => p x || q x) = xs.countP p + (xs.filter fun x => !p x).countP q := by
  rw [List.countP_filter]
  induction xs with
  | nil => rfl
  | cons x xs ih =>
      simp only [List.countP_cons, ih]
      cases p x <;> cases q x <;> simp <;> omega

/-- **Two removals in turn remove what either takes**, and count it once. -/
theorem inTurn_removeWhere (p q : Session → Bool) (t : SessionTable) :
    inTurn (removeWhere p) (removeWhere q) t = removeWhere (fun x => p x || q x) t := by
  refine Prod.ext ?_ ?_
  · simp only [inTurn, removeWhere_counts, sessions_removeWhere]
    exact congrArg Except.ok (countP_or p q t.sessions).symm
  · simp only [inTurn, removeWhere, List.filter_filter, mk.injEq]
    refine List.filter_congr fun e _ => ?_
    rw [Bool.not_or, Bool.and_comm]

theorem inTurn_cleanUp (a b : Instant) (t : SessionTable) :
    inTurn (cleanUp a) (cleanUp b) t = cleanUp (Instant.later a b) t := by
  rw [cleanUp, cleanUp, inTurn_removeWhere, cleanUp]
  simp only [Session.isValid_later, Bool.not_and]

/-- A sweep and the removal of a user's sessions are one removal in both orders. -/
theorem inTurn_cleanUp_deleteForUser (a : Instant) (user : UserId) (t : SessionTable) :
    let either := removeWhere (fun x => !x.isValid a || x.user == user) t
    inTurn (cleanUp a) (deleteForUser user) t = either ∧
      inTurn (deleteForUser user) (cleanUp a) t = either := by
  refine ⟨inTurn_removeWhere _ _ t, (inTurn_removeWhere _ _ t).trans ?_⟩
  simp only [Bool.or_comm]

/-! ## Keys -/

/-- Every session stands under its own key, and no key stands twice. -/
structure Keyed (t : SessionTable) : Prop where
  own : t.Sound
  distinct : (t.entries.map Prod.fst).Nodup

namespace Keyed

theorem empty : Keyed {} := ⟨.empty _, List.nodup_nil⟩

theorem filter (keyed : t.Keyed) (p : String × Session → Bool) :
    Keyed ⟨t.entries.filter p⟩ :=
  ⟨keyed.own.filter p, keyed.distinct.sublist (List.filter_sublist.map Prod.fst)⟩

theorem insert (keyed : t.Keyed) (x : Session) : (SessionTable.insert x t).2.Keyed := by
  unfold SessionTable.insert
  split
  · exact keyed
  · next free =>
      rw [find?, List.lookup_eq_none_iff] at free
      refine ⟨fun e he => ?_, ?_⟩
      · rcases List.mem_append.mp he with old | added
        · exact keyed.own e old
        · rw [List.mem_singleton.mp added]
      · rw [List.map_append, List.nodup_append]
        refine ⟨keyed.distinct, List.pairwise_singleton _ _, ?_⟩
        intro key there key' added
        obtain ⟨e, he, rfl⟩ := List.mem_map.mp there
        rw [List.mem_singleton.mp added]
        exact (bne_iff_ne.mp (free e he)).symm

/-- What one call preserves. -/
theorem step (a : SessionStep) (keyed : t.Keyed) : (store.step a t).2.Keyed := by
  cases a with
  | init => exact keyed
  | insert x => exact keyed.insert x
  | get key =>
      simp only [SessionStore.step, store, get, Prod.map]
      split <;> exact keyed
  | delete key => exact keyed.filter _
  | cleanUp reference => exact keyed.filter _
  | deleteForUser user => exact keyed.filter _
  | insertWithRetry attempts x source =>
      exact SessionStore.insertAfter_preserves (fun y _ held => held.insert y) attempts [] x
        source t keyed

/-- A lookup after a removal misses the sessions that were taken and no others. -/
theorem find?_removeWhere (keyed : t.Keyed) (taken : Session → Bool) (key : String) :
    (removeWhere taken t).2.find? key = (t.find? key).filter fun x => !taken x :=
  lookup_filter_snd keyed.distinct (fun x => !taken x) key

end Keyed

/-- Every state of every run from the empty table is keyed. -/
theorem keyed_of_run (steps : List SessionStep) :
    ∀ t ∈ ({} : SessionTable) :: (trace store.step steps {}).map Prod.snd, t.Keyed := by
  rw [List.forall_mem_cons, List.forall_mem_map]
  exact ⟨.empty, forall_trace (fun a _ _ keyed => keyed.step a) .empty⟩

/-! ## Sweeps -/

/-- A sweep keeps what is still valid and counts the rest. -/
theorem cleanUp_keeps (keyed : t.Keyed) (a : Instant) :
    let r := cleanUp a t
    (∀ key x, r.2.find? key = some x ↔ t.find? key = some x ∧ a < x.expires) ∧
      ∃ n, r.1 = .ok n ∧ n + r.2.size = t.size := by
  refine ⟨fun key x => ?_, _, rfl, ?_⟩
  · rw [cleanUp, keyed.find?_removeWhere, Option.filter_eq_some_iff, Bool.not_not,
      Session.isValid_iff]
  · exact Nat.sub_add_cancel (List.length_filter_le _ _)

/-- **Sweeps combine.**  In every state of every run from the empty table: each session
stands under its own key, and no key stands twice.  A sweep keeps exactly the sessions
that expire after its instant and answers how many are gone.  Two sweeps in either
order leave what one sweep at the later instant leaves and count together what it
counts.  A sweep and the removal of a user's sessions leave the same and count the same
in both orders: what one removal of either kind leaves and counts. -/
theorem sweeps_combine (steps : List SessionStep) (user : UserId) (a b : Instant) :
    ∀ t ∈ ({} : SessionTable) :: (trace store.step steps {}).map Prod.snd,
      ((∀ e ∈ t.entries, e.2.key = e.1) ∧ (t.entries.map Prod.fst).Nodup) ∧
      (let r := store.cleanUp a t
       (∀ key x, r.2.find? key = some x ↔ t.find? key = some x ∧ a < x.expires) ∧
        ∃ n, r.1 = .ok n ∧ n + r.2.size = t.size) ∧
      (let latest := store.cleanUp (if a < b then b else a) t
       inTurn (store.cleanUp a) (store.cleanUp b) t = latest ∧
        inTurn (store.cleanUp b) (store.cleanUp a) t = latest) ∧
      let either := removeWhere (fun x => !x.isValid a || x.user == user) t
      inTurn (store.cleanUp a) (store.deleteForUser user) t = either ∧
        inTurn (store.deleteForUser user) (store.cleanUp a) t = either := by
  intro t reached
  have keyed := keyed_of_run steps t reached
  refine ⟨⟨keyed.own, keyed.distinct⟩, cleanUp_keeps keyed a, ⟨inTurn_cleanUp a b t, ?_⟩,
    inTurn_cleanUp_deleteForUser a user t⟩
  have swept := inTurn_cleanUp b a t
  rw [Instant.later_comm] at swept
  exact swept

/-- One of three sessions has expired and is the user's, one expires just at the sweep.
The sweep counts two and the removal two, whichever comes first, and one is left for
the other. -/
theorem sweeps_combine_on_an_overlap :
    let steps : List SessionStep := [.insert ⟨"k1", ⟨1⟩, ⟨10, 0⟩⟩, .insert ⟨"k2", ⟨1⟩, ⟨30, 0⟩⟩,
      .insert ⟨"k3", ⟨2⟩, ⟨20, 5⟩⟩]
    let t := after store.step steps {}
    t ∈ ({} : SessionTable) :: (trace store.step steps {}).map Prod.snd ∧
      (store.cleanUp ⟨20, 5⟩ t).1.toOption = some 2 ∧
      (store.deleteForUser ⟨1⟩ t).1.toOption = some 2 ∧
      inTurn (store.cleanUp ⟨20, 5⟩) (store.deleteForUser ⟨1⟩) t = (.ok 3, {}) ∧
      inTurn (store.deleteForUser ⟨1⟩) (store.cleanUp ⟨20, 5⟩) t = (.ok 3, {}) := by
  intro steps t
  have reached : t ∈ ({} : SessionTable) :: (trace store.step steps {}).map Prod.snd := by
    decide
  obtain ⟨-, -, -, one, other⟩ := sweeps_combine steps ⟨1⟩ ⟨20, 5⟩ ⟨10, 0⟩ t reached
  exact ⟨reached, rfl, rfl, one, other⟩

end SessionTable

end AccountStore
