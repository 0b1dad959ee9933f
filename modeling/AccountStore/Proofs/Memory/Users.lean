/-
# AccountStore.Proofs.Memory.Users -- what every table of users in memory keeps

A table is `Sound` when its entries stand in the order of their ids, each user
under its own id, all ids between one and the next id, and no two users collide.
The empty table is sound and every call, refused or not, leaves a sound table
sound.  The one invariant behind it all is the pairwise relation of two entries:
the earlier has the smaller id and the two do not collide.  A put in place maps
it entry by entry, a put at the end extends it, a delete takes a sublist of it.
-/
import AccountStore.Memory.User
import AccountStore.Proofs.Store.Entries
import AccountStore.Proofs.Store.Run

namespace AccountStore.UserTable

set_option autoImplicit false

/-! ## Entries -/

theorem find?_eq_some {t : UserTable} {id : UserId} {u : User} (h : t.find? id = some u) :
    (id, u) ∈ t.entries := by
  obtain ⟨before, after, split, -⟩ := List.lookup_eq_some_iff.mp h
  rw [split]
  exact List.mem_append_right _ List.mem_cons_self

/-- A user under an id that is larger than all others goes to the end. -/
theorem putEntry_of_lt {id : UserId} (u : User) :
    ∀ {es : List (UserId × User)}, (∀ e ∈ es, e.1.value < id.value) →
      putEntry id u es = es ++ [(id, u)]
  | [], _ => rfl
  | (k, v) :: rest, larger => by
      have hk : k.value < id.value := larger (k, v) List.mem_cons_self
      have ne : k ≠ id := fun same => by simp [same] at hk
      rw [putEntry, if_neg (by omega), if_neg ne,
        putEntry_of_lt u (fun e he => larger e (List.mem_cons_of_mem _ he))]
      rfl

/-- The entries with another user under one id. -/
def replaced (id : UserId) (u : User) (e : UserId × User) : UserId × User :=
  if e.1 = id then (id, u) else e

theorem replaced_fst (id : UserId) (u : User) (e : UserId × User) :
    (replaced id u e).1 = e.1 := by
  unfold replaced
  split
  · next h => exact h.symm
  · rfl

/-- A user under an id that is there takes the place of the one before. -/
theorem putEntry_of_mem {id : UserId} (u : User) :
    ∀ {es : List (UserId × User)}, es.Pairwise (fun a b => a.1.value < b.1.value) →
      (∃ v, (id, v) ∈ es) → putEntry id u es = es.map (replaced id u)
  | [], _, ⟨_, hv⟩ => by cases hv
  | (k, v) :: rest, sorted, ⟨w, hw⟩ => by
      obtain ⟨smallest, sorted⟩ := List.pairwise_cons.mp sorted
      rcases List.mem_cons.mp hw with head | tail
      · obtain ⟨rfl, rfl⟩ : id = k ∧ w = v := by simpa using head
        have others : rest.map (replaced id u) = rest.map (fun e => e) := by
          refine List.map_congr_left ?_
          intro e he
          have larger := smallest e he
          exact if_neg (fun same => by simp [same] at larger)
        rw [putEntry, if_neg (Int.lt_irrefl _), if_pos rfl, List.map_cons, others,
          List.map_id']
        simp [replaced]
      · have larger : k.value < id.value := smallest (id, w) tail
        have ne : k ≠ id := fun same => by simp [same] at larger
        rw [putEntry, if_neg (by omega), if_neg ne, putEntry_of_mem u sorted ⟨w, tail⟩]
        simp [replaced, ne]

/-! ## Collisions -/

theorem collides_eq_false_iff {emailUnique : Bool} {a b : User} :
    collides emailUnique a b = false ↔
      a.username ≠ b.username ∧ (emailUnique = true → a.email ≠ b.email) := by
  simp [collides]

theorem collides_comm (emailUnique : Bool) (a b : User) :
    collides emailUnique a b = collides emailUnique b a := by
  rw [collides, collides, BEq.comm, BEq.comm (a := a.email)]

theorem conflict?_eq_none_iff {emailUnique : Bool} {t : UserTable} {skip : UserId} {u : User} :
    t.conflict? emailUnique skip u = none ↔
      ∀ e ∈ t.entries, e.2.id ≠ skip → collides emailUnique e.2 u = false := by
  simp [conflict?, users, List.find?_eq_none]

/-! ## Soundness -/

/-- Two entries, the first of which comes first. -/
def Apart (emailUnique : Bool) (a b : UserId × User) : Prop :=
  a.1.value < b.1.value ∧ collides emailUnique a.2 b.2 = false

structure Sound (emailUnique : Bool) (t : UserTable) : Prop where
  next_pos : 1 ≤ t.nextId
  own_id : OwnKeys User.id t.entries
  in_range : ∀ e ∈ t.entries, 1 ≤ e.1.value ∧ e.1.value < t.nextId
  apart : t.entries.Pairwise (Apart emailUnique)

namespace Sound

variable {emailUnique : Bool} {t : UserTable}

theorem sorted (sound : t.Sound emailUnique) :
    t.entries.Pairwise (fun a b => a.1.value < b.1.value) :=
  sound.apart.imp And.left

theorem empty (emailUnique : Bool) : Sound emailUnique {} :=
  ⟨by decide, .empty _, by simp, .nil⟩

/-- The user of an insert at the end of the table. -/
def added (t : UserTable) (u : User) : UserTable :=
  { nextId := t.nextId + 1, entries := t.entries ++ [(⟨t.nextId⟩, { u with id := ⟨t.nextId⟩ })] }

/-- The table with other values for the user under one id. -/
def changed (t : UserTable) (id : UserId) (u : User) : UserTable :=
  { t with entries := t.entries.map (replaced id u) }

theorem added_preserves (sound : t.Sound emailUnique) {u : User}
    (free : ∀ e ∈ t.entries, collides emailUnique e.2 u = false) :
    (added t u).Sound emailUnique where
  next_pos := by have := sound.next_pos; simp only [added]; omega
  own_id := by
    intro e he
    rcases List.mem_append.mp he with he | he
    · exact sound.own_id e he
    · rw [List.mem_singleton.mp he]
  in_range := by
    intro e he
    have := sound.next_pos
    rcases List.mem_append.mp he with he | he
    · have := sound.in_range e he
      simp only [added]
      omega
    · rw [List.mem_singleton.mp he]
      simp only [added]
      omega
  apart := by
    refine List.pairwise_append.mpr ⟨sound.apart, List.pairwise_singleton _ _, ?_⟩
    intro e he e' he'
    rw [List.mem_singleton.mp he']
    exact ⟨(sound.in_range e he).2, free e he⟩

theorem changed_preserves (sound : t.Sound emailUnique) {id : UserId} {u : User} (own : u.id = id)
    (free : ∀ e ∈ t.entries, e.2.id ≠ id → collides emailUnique e.2 u = false) :
    (changed t id u).Sound emailUnique where
  next_pos := sound.next_pos
  own_id := by
    intro e' he'
    obtain ⟨e, he, rfl⟩ := List.mem_map.mp he'
    rw [replaced_fst]
    unfold replaced
    split
    · next h => rw [own, h]
    · exact sound.own_id e he
  in_range := by
    intro e' he'
    obtain ⟨e, he, rfl⟩ := List.mem_map.mp he'
    rw [replaced_fst]
    exact sound.in_range e he
  apart := by
    refine List.pairwise_map.mpr (sound.apart.imp_of_mem ?_)
    intro a b ha hb ⟨before, apart⟩
    refine ⟨by simpa only [replaced_fst] using before, ?_⟩
    -- ids differ, so at most one of the two is the changed one
    have ids : ¬ (a.1 = id ∧ b.1 = id) := fun ⟨h, h'⟩ => by simp [h, h'] at before
    have free_a := free a ha
    have free_b := free b hb
    rw [sound.own_id a ha] at free_a
    rw [sound.own_id b hb] at free_b
    by_cases hid : a.1 = id
    · have hid' : b.1 ≠ id := fun h => ids ⟨hid, h⟩
      simpa [replaced, hid, hid', collides_comm emailUnique u] using free_b hid'
    · by_cases hid' : b.1 = id
      · simpa [replaced, hid, hid'] using free_a hid
      · simpa [replaced, hid, hid'] using apart

theorem delete_preserves (sound : t.Sound emailUnique) (id : UserId) :
    (t.delete id).2.Sound emailUnique where
  next_pos := sound.next_pos
  own_id e he := sound.own_id e (List.mem_filter.mp he |>.1)
  in_range e he := sound.in_range e (List.mem_filter.mp he |>.1)
  apart := sound.apart.sublist List.filter_sublist

end Sound

/-! ## Calls -/

section Calls

variable {emailUnique : Bool} {t : UserTable}

theorem find?_users_id (sound : t.Sound emailUnique) {id : UserId} {u : User}
    (h : t.find? id = some u) : u.id = id ∧ u ∈ t.users :=
  ⟨sound.own_id _ (find?_eq_some h), List.mem_map.mpr ⟨_, find?_eq_some h, rfl⟩⟩

/-- No stored user has the id that stands for a missing one. -/
theorem id_ne_invalid (sound : t.Sound emailUnique) {e : UserId × User} (he : e ∈ t.entries) :
    e.2.id ≠ UserId.invalid := by
  intro same
  have := (sound.in_range e he).1
  rw [← sound.own_id e he, same] at this
  exact absurd this (by decide)

/-- An insert is refused when a stored user collides, and else adds the user
under the next id. -/
theorem insert_cases (sound : t.Sound emailUnique) (now : Instant) (u : User) :
    (∃ e ∈ t.entries, collides emailUnique e.2 u = true ∧
        ∃ detail, insert emailUnique now u t = ((.error (.userExists detail), u.prepared now), t)) ∨
      ((∀ e ∈ t.entries, collides emailUnique e.2 u = false) ∧
        insert emailUnique now u t =
          ((.ok ⟨t.nextId⟩, { u.prepared now with id := ⟨t.nextId⟩ }),
            Sound.added t (u.prepared now))) := by
  cases conflict : t.conflict? emailUnique UserId.invalid (u.prepared now) with
  | some other =>
      left
      obtain ⟨e, he, rfl⟩ := List.mem_map.mp (List.mem_of_find?_eq_some conflict)
      have hit := List.find?_some conflict
      simp only [Bool.and_eq_true] at hit
      refine ⟨e, he, hit.2, ?_⟩
      simp only [insert, conflict]
      exact ⟨_, rfl⟩
  | none =>
      right
      have free := conflict?_eq_none_iff.mp conflict
      refine ⟨fun e he => free e he (id_ne_invalid sound he), ?_⟩
      simp only [insert, conflict, put, Sound.added]
      rw [putEntry_of_lt]
      exact fun e he => (sound.in_range e he).2

/-- An update does nothing under an id that is not there; else it is refused
when the new values collide with another user, and else puts them in place. -/
theorem update_cases (sound : t.Sound emailUnique) (id : UserId) (u : User)
    (fields : List UserField) :
    (t.find? id = none ∧ update emailUnique id u fields t = (.ok (), t)) ∨
      ∃ current, t.find? id = some current ∧
        let updated := UserField.copyAll (touched fields) u current
        (∃ e ∈ t.entries, e.2.id ≠ id ∧ collides emailUnique e.2 updated = true ∧
            ∃ detail, update emailUnique id u fields t = (.error (.ambiguousUpdate detail), t)) ∨
          ((∀ e ∈ t.entries, e.2.id ≠ id → collides emailUnique e.2 updated = false) ∧
            update emailUnique id u fields t = (.ok (), Sound.changed t id updated)) := by
  cases found : t.find? id with
  | none =>
      left
      simp only [update, found, and_self]
  | some current =>
      refine .inr ⟨current, rfl, ?_⟩
      cases conflict : t.conflict? emailUnique id (UserField.copyAll (touched fields) u current) with
      | some other =>
          left
          obtain ⟨e, he, rfl⟩ := List.mem_map.mp (List.mem_of_find?_eq_some conflict)
          have hit := List.find?_some conflict
          simp only [Bool.and_eq_true, bne_iff_ne, ne_eq] at hit
          refine ⟨e, he, hit.1, hit.2, ?_⟩
          simp only [update, found, conflict]
          exact ⟨_, rfl⟩
      | none =>
          right
          refine ⟨conflict?_eq_none_iff.mp conflict, ?_⟩
          simp only [update, found, conflict, put, Sound.changed]
          rw [putEntry_of_mem _ sound.sorted ⟨_, find?_eq_some found⟩]

theorem id_copyAll (fields : List UserField) (source target : User) :
    (UserField.copyAll fields source target).id = target.id := by
  unfold UserField.copyAll
  induction fields generalizing target with
  | nil => rfl
  | cons f rest ih => rw [List.foldl_cons, ih, UserField.id_copy]

theorem insert_preserves (sound : t.Sound emailUnique) (now : Instant) (u : User) :
    (insert emailUnique now u t).2.Sound emailUnique := by
  rcases insert_cases sound now u with ⟨_, _, _, detail, eq⟩ | ⟨free, eq⟩
  · rw [eq]
    exact sound
  · rw [eq]
    exact sound.added_preserves free

theorem update_preserves (sound : t.Sound emailUnique) (id : UserId) (u : User)
    (fields : List UserField) : (update emailUnique id u fields t).2.Sound emailUnique := by
  rcases update_cases sound id u fields with ⟨_, eq⟩ | ⟨current, found, refused | ⟨free, eq⟩⟩
  · rw [eq]
    exact sound
  · obtain ⟨_, _, _, _, detail, eq⟩ := refused
    rw [eq]
    exact sound
  · rw [eq]
    refine sound.changed_preserves ?_ free
    rw [id_copyAll, (find?_users_id sound found).1]

theorem update_nextId (sound : t.Sound emailUnique) (id : UserId) (u : User)
    (fields : List UserField) : (update emailUnique id u fields t).2.nextId = t.nextId := by
  rcases update_cases sound id u fields with ⟨_, eq⟩ | ⟨_, _, refused | ⟨_, eq⟩⟩
  · rw [eq]
  · obtain ⟨_, _, _, _, _, eq⟩ := refused
    rw [eq]
  · rw [eq]
    rfl

/-- What one call preserves. -/
theorem step_preserves (a : UserStep) (sound : t.Sound emailUnique) :
    ((store emailUnique).step a t).2.Sound emailUnique := by
  cases a with
  | init => exact sound
  | get id =>
      simp only [UserStore.step, store, get, Prod.map]
      split <;> exact sound
  | getByName name =>
      simp only [UserStore.step, store, getByName, Prod.map]
      split <;> exact sound
  | getByEmail address =>
      simp only [UserStore.step, store, getByEmail, Prod.map]
      split <;> exact sound
  | insert now u => exact insert_preserves sound now u
  | update id u fields => exact update_preserves sound id u fields
  | updateByNames id u names =>
      rcases (store emailUnique).updateByNames_cases id u names t with ⟨fields, -, eq⟩ | ⟨e, -, eq⟩
      · simp only [UserStore.step, eq]
        exact update_preserves sound id u fields
      · simp only [UserStore.step, eq]
        exact sound
  | delete id => exact sound.delete_preserves id

/-- A call hands out the next id, which then moves on, or no id at all. -/
theorem step_ids (a : UserStep) (sound : t.Sound emailUnique) :
    let e := (store emailUnique).step a t
    (insertedIds [e] = [] ∧ e.2.nextId = t.nextId) ∨
      (insertedIds [e] = [t.nextId] ∧ e.2.nextId = t.nextId + 1) := by
  cases a with
  | init => exact .inl ⟨rfl, rfl⟩
  | get id =>
      left
      simp only [UserStore.step, store, get, Prod.map]
      split <;> exact ⟨rfl, rfl⟩
  | getByName name =>
      left
      simp only [UserStore.step, store, getByName, Prod.map]
      split <;> exact ⟨rfl, rfl⟩
  | getByEmail address =>
      left
      simp only [UserStore.step, store, getByEmail, Prod.map]
      split <;> exact ⟨rfl, rfl⟩
  | insert now u =>
      simp only [UserStore.step, store, Prod.map]
      rcases insert_cases sound now u with ⟨_, _, _, detail, eq⟩ | ⟨_, eq⟩
      · rw [eq]
        exact .inl ⟨rfl, rfl⟩
      · rw [eq]
        exact .inr ⟨rfl, rfl⟩
  | update id u fields => exact .inl ⟨rfl, update_nextId sound id u fields⟩
  | updateByNames id u names =>
      rcases (store emailUnique).updateByNames_cases id u names t with ⟨fields, -, eq⟩ | ⟨e, -, eq⟩
      · simp only [UserStore.step, eq]
        exact .inl ⟨rfl, update_nextId sound id u fields⟩
      · simp only [UserStore.step, eq]
        exact .inl ⟨rfl, rfl⟩
  | delete id => exact .inl ⟨rfl, rfl⟩

end Calls

/-! ## Runs -/

theorem insertedIds_cons {σ : Type} (e : UserAnswer × σ) (rest : List (UserAnswer × σ)) :
    insertedIds (e :: rest) = insertedIds [e] ++ insertedIds rest := by
  rw [insertedIds, insertedIds, insertedIds, ← List.filterMap_append]
  rfl

/-- The ids that a run hands out grow, from the next id of its first state on. -/
theorem insertedIds_trace {emailUnique : Bool} :
    ∀ (steps : List UserStep) {t : UserTable}, t.Sound emailUnique →
      let ids := insertedIds (trace (store emailUnique).step steps t)
      (∀ i ∈ ids, t.nextId ≤ i) ∧ ids.Pairwise (· < ·)
  | [], _, _ => ⟨by simp [trace, insertedIds], .nil⟩
  | a :: rest, t, sound => by
      obtain ⟨larger, increasing⟩ := insertedIds_trace rest (step_preserves a sound)
      simp only [trace]
      rw [insertedIds_cons]
      rcases step_ids a sound with ⟨none, same⟩ | ⟨one, next⟩
      · rw [none, List.nil_append]
        exact ⟨fun i hi => same ▸ larger i hi, increasing⟩
      · rw [one, List.singleton_append, List.forall_mem_cons, List.pairwise_cons]
        have later : ∀ i ∈ insertedIds (trace (store emailUnique).step rest
            ((store emailUnique).step a t).2), t.nextId < i := by
          intro i hi
          have := larger i hi
          omega
        exact ⟨⟨Int.le_refl _, fun i hi => Int.le_of_lt (later i hi)⟩, later, increasing⟩

namespace Sound

variable {emailUnique : Bool} {t : UserTable}

theorem nodup_usernames (sound : t.Sound emailUnique) : (t.users.map User.username).Nodup := by
  rw [users, List.map_map]
  exact List.pairwise_map.mpr (sound.apart.imp fun h => (collides_eq_false_iff.mp h.2).1)

theorem nodup_emails (sound : t.Sound emailUnique) (unique : emailUnique = true) :
    (t.users.map User.email).Nodup := by
  rw [users, List.map_map]
  exact List.pairwise_map.mpr (sound.apart.imp fun h => (collides_eq_false_iff.mp h.2).2 unique)

end Sound

/-- **Whatever is called, users stay apart and no id comes twice.**  In every
state of every run from the empty table, each user stands under its own id, the
usernames differ, the email addresses differ where they must, and the ids lie
between one and the next id.  The ids that inserts hand out grow along the run. -/
theorem run_keeps_users_apart (emailUnique : Bool) (steps : List UserStep) :
    let run := trace (store emailUnique).step steps {}
    (∀ t ∈ ({} : UserTable) :: run.map Prod.snd,
        (∀ e ∈ t.entries, e.2.id = e.1) ∧
          (t.users.map User.username).Nodup ∧
          (emailUnique = true → (t.users.map User.email).Nodup) ∧
          ∀ u ∈ t.users, 1 ≤ u.id.value ∧ u.id.value < t.nextId) ∧
      (insertedIds run).Pairwise (· < ·) := by
  intro run
  have everywhere : ∀ t ∈ ({} : UserTable) :: run.map Prod.snd, t.Sound emailUnique := by
    rw [List.forall_mem_cons, List.forall_mem_map]
    exact ⟨Sound.empty emailUnique,
      forall_trace (fun a _ _ sound => step_preserves a sound) (Sound.empty emailUnique)⟩
  refine ⟨fun t ht => ?_, (insertedIds_trace steps (Sound.empty emailUnique)).2⟩
  have sound := everywhere t ht
  refine ⟨sound.own_id, sound.nodup_usernames, sound.nodup_emails, ?_⟩
  intro u hu
  obtain ⟨e, he, rfl⟩ := List.mem_map.mp hu
  rw [sound.own_id e he]
  exact sound.in_range e he

end AccountStore.UserTable
