/-
# AccountStore.Proofs.Memory.Writes -- which writes a table of users takes

A table in memory takes exactly the writes that leave its users apart.  An insert
is held against the users that are there; an update is held against the others
with what it makes of the stored user, so the fields that it leaves out count as
much as those that it lists.

What an update makes is said without the order in which fields are copied: a
listed field has the new value, any other the old one (`Merges`), and there is
exactly one such user (`merges_iff`).  A write that is taken changes one user
(`find?_added`, `find?_changed`, `find?_delete`), and a call that fails changes
nothing (`unchanged_of_failed`).
-/
import AccountStore.Proofs.Memory.Users

namespace AccountStore

set_option autoImplicit false

/-! ## Fields -/

/-- Users with the same id and the same fields are the same. -/
theorem User.eq_of_values {u v : User} (ids : u.id = v.id)
    (values : ∀ f : UserField, f.value u = f.value v) : u = v := by
  have username := values .username
  have password := values .password
  have email := values .email
  have firstName := values .firstName
  have lastName := values .lastName
  have isSuperuser := values .isSuperuser
  have isStaff := values .isStaff
  have isActive := values .isActive
  have dateJoined := values .dateJoined
  have lastLogin := values .lastLogin
  obtain ⟨⟩ := u
  obtain ⟨⟩ := v
  simp_all [UserField.value]

namespace UserField

/-- Copying a list of fields gives each of them the new value, however often and in
whatever order it is listed. -/
theorem value_copyAll (fields : List UserField) (source target : User) (f : UserField) :
    f.value (copyAll fields source target) =
      if f ∈ fields then f.value source else f.value target := by
  unfold copyAll
  induction fields generalizing target with
  | nil => rfl
  | cons g rest ih =>
      rw [List.foldl_cons, ih]
      by_cases later : f ∈ rest
      · simp [later]
      · by_cases here : f = g
        · subst here
          simp [later, value_copy_self]
        · simp [later, here, value_copy_of_ne here]

theorem copyAll_congr {fields fields' : List UserField} (same : ∀ f, f ∈ fields ↔ f ∈ fields')
    (source target : User) : copyAll fields source target = copyAll fields' source target := by
  refine User.eq_of_values ?_ fun f => ?_
  · rw [UserTable.id_copyAll, UserTable.id_copyAll]
  · simp only [value_copyAll, same]

/-- An update with this list touches the field: an empty list stands for all. -/
def Listed (fields : List UserField) (f : UserField) : Prop := fields = [] ∨ f ∈ fields

theorem mem_touched_iff (fields : List UserField) (f : UserField) :
    f ∈ UserTable.touched fields ↔ Listed fields f := by
  cases fields with
  | nil => exact iff_of_true (mem_all f) (.inl rfl)
  | cons g rest => simp [UserTable.touched, Listed]

/-- A stored user with the listed fields of a model. -/
structure Merges (fields : List UserField) (model stored merged : User) : Prop where
  id_eq : merged.id = stored.id
  listed : ∀ f, Listed fields f → f.value merged = f.value model
  others : ∀ f, ¬ Listed fields f → f.value merged = f.value stored

/-- **What an update makes of a user is decided by what its list contains.** -/
theorem merges_iff {fields : List UserField} {model stored merged : User} :
    Merges fields model stored merged ↔
      merged = copyAll (UserTable.touched fields) model stored := by
  have touched := mem_touched_iff fields
  constructor
  · intro h
    refine User.eq_of_values ?_ fun f => ?_
    · rw [h.id_eq, UserTable.id_copyAll]
    · rw [value_copyAll]
      split
      · next listed => exact h.listed f ((touched f).mp listed)
      · next other => exact h.others f (mt (touched f).mpr other)
  · rintro rfl
    refine ⟨UserTable.id_copyAll _ _ _, fun f listed => ?_, fun f other => ?_⟩
    · rw [value_copyAll, if_pos ((touched f).mpr listed)]
    · rw [value_copyAll, if_neg (mt (touched f).mp other)]

end UserField

/-- The answer is an error. -/
def UserAnswer.Failed : UserAnswer → Prop
  | .done (.error _) | .found (.error _) | .inserted (.error _) _ => True
  | _ => False

namespace UserTable

open UserField (Merges)

/-- Two users may not be stored side by side. -/
def Clash (emailUnique : Bool) (a b : User) : Prop :=
  a.username = b.username ∨ emailUnique = true ∧ a.email = b.email

theorem collides_iff {emailUnique : Bool} {a b : User} :
    collides emailUnique a b = true ↔ Clash emailUnique a b := by
  simp [collides, Clash]

variable {emailUnique : Bool} {t : UserTable}

/-! ## Lookups after a write -/

/-- The next id is free. -/
theorem Sound.find?_nextId (sound : t.Sound emailUnique) : t.find? ⟨t.nextId⟩ = none := by
  rw [find?, List.lookup_eq_none_iff]
  intro e he
  rw [bne_iff_ne]
  intro same
  have below := (sound.in_range e he).2
  rw [← same] at below
  exact Int.lt_irrefl _ below

theorem find?_added (sound : t.Sound emailUnique) (u : User) (k : UserId) :
    (Sound.added t u).find? k =
      if k = ⟨t.nextId⟩ then some { u with id := ⟨t.nextId⟩ } else t.find? k := by
  have appended : (Sound.added t u).find? k =
      (t.find? k).or ([(⟨t.nextId⟩, { u with id := ⟨t.nextId⟩ })].lookup k) :=
    List.lookup_append
  rw [appended, List.lookup_cons]
  by_cases next : k = ⟨t.nextId⟩
  · subst next
    simp [sound.find?_nextId]
  · have other : (k == ⟨t.nextId⟩) = false := beq_eq_false_iff_ne.mpr next
    simp [other, next]

theorem find?_changed (t : UserTable) (u : User) (id k : UserId) :
    (Sound.changed t id u).find? k =
      if k = id then (t.find? id).map (fun _ => u) else t.find? k := by
  simp only [find?, Sound.changed]
  induction t.entries with
  | nil => simp
  | cons e rest ih =>
      rw [List.map_cons, List.lookup_cons, replaced_fst, ih, List.lookup_cons, List.lookup_cons]
      by_cases here : k = e.1
      · subst here
        by_cases hit : e.1 = id
        · simp [hit, replaced]
        · simp [hit, replaced]
      · have other : (k == e.1) = false := beq_eq_false_iff_ne.mpr here
        by_cases same : k = id
        · subst same
          simp [other]
        · simp [other, same]

theorem find?_delete (t : UserTable) (id k : UserId) :
    (t.delete id).2.find? k = if k = id then none else t.find? k := by
  by_cases same : k = id
  · subst same
    rw [if_pos rfl]
    exact lookup_filter_self t.entries k
  · rw [if_neg same]
    exact lookup_filter_ne t.entries same

/-! ## Calls -/

theorem mem_users {e : UserId × User} (he : e ∈ t.entries) : e.2 ∈ t.users :=
  List.mem_map.mpr ⟨e, he, rfl⟩

theorem insert_error_iff (sound : t.Sound emailUnique) (now : Instant) (u : User) :
    (∃ detail, (insert emailUnique now u t).1.1 = .error (.userExists detail)) ↔
      ∃ other ∈ t.users, Clash emailUnique other u := by
  rcases insert_cases sound now u with ⟨e, he, clash, detail, eq⟩ | ⟨free, eq⟩
  · rw [eq]
    exact iff_of_true ⟨detail, rfl⟩ ⟨e.2, mem_users he, collides_iff.mp clash⟩
  · rw [eq]
    refine iff_of_false (fun ⟨_, no⟩ => nomatch no) ?_
    rintro ⟨other, there, clash⟩
    obtain ⟨e, he, rfl⟩ := List.mem_map.mp there
    exact Bool.false_ne_true ((free e he).symm.trans (collides_iff.mpr clash))

/-- An insert that clashes with nobody adds one user under the next id. -/
theorem insert_of_apart (sound : t.Sound emailUnique) (now : Instant) {u : User}
    (apart : ∀ other ∈ t.users, ¬ Clash emailUnique other u) :
    let r := insert emailUnique now u t
    r.1 = (.ok ⟨t.nextId⟩, { u.prepared now with id := ⟨t.nextId⟩ }) ∧
      r.2.nextId = t.nextId + 1 ∧
      ∀ k, r.2.find? k = if k = ⟨t.nextId⟩ then some r.1.2 else t.find? k := by
  rcases insert_cases sound now u with ⟨e, he, clash, -⟩ | ⟨-, eq⟩
  · exact absurd (collides_iff.mp clash) (apart e.2 (mem_users he))
  · rw [eq]
    exact ⟨rfl, rfl, find?_added sound _⟩

/-- What an update does: nothing, or it is refused, or it changes one user. -/
theorem update_outcome (sound : t.Sound emailUnique) (id : UserId) (u : User)
    (fields : List UserField) :
    (t.find? id = none ∧ update emailUnique id u fields t = (.ok (), t)) ∨
      ∃ stored merged, t.find? id = some stored ∧ Merges fields u stored merged ∧
        ((∃ other ∈ t.users, other.id ≠ id ∧ Clash emailUnique other merged) ∧
            (∃ detail, update emailUnique id u fields t = (.error (.ambiguousUpdate detail), t)) ∨
          (∀ other ∈ t.users, other.id ≠ id → ¬ Clash emailUnique other merged) ∧
            update emailUnique id u fields t = (.ok (), Sound.changed t id merged)) := by
  rcases update_cases sound id u fields with missing | ⟨stored, found, refused | taken⟩
  · exact .inl missing
  · obtain ⟨e, he, ne, clash, refusal⟩ := refused
    refine .inr ⟨stored, _, found, UserField.merges_iff.mpr rfl, .inl ⟨?_, refusal⟩⟩
    exact ⟨e.2, mem_users he, ne, collides_iff.mp clash⟩
  · obtain ⟨free, eq⟩ := taken
    refine .inr ⟨stored, _, found, UserField.merges_iff.mpr rfl, .inr ⟨?_, eq⟩⟩
    intro other there ne clash
    obtain ⟨e, he, rfl⟩ := List.mem_map.mp there
    exact Bool.false_ne_true ((free e he ne).symm.trans (collides_iff.mpr clash))

theorem update_error_iff (sound : t.Sound emailUnique) (id : UserId) (u : User)
    (fields : List UserField) :
    (∃ detail, (update emailUnique id u fields t).1 = .error (.ambiguousUpdate detail)) ↔
      ∃ stored merged, t.find? id = some stored ∧ Merges fields u stored merged ∧
        ∃ other ∈ t.users, other.id ≠ id ∧ Clash emailUnique other merged := by
  rcases update_outcome sound id u fields with ⟨missing, eq⟩ | ⟨stored, merged, found, merges, cases⟩
  · rw [eq, missing]
    refine iff_of_false (fun ⟨_, no⟩ => nomatch no) ?_
    rintro ⟨stored, merged, found, -⟩
    cases found
  · rcases cases with ⟨clash, detail, eq⟩ | ⟨apart, eq⟩
    · rw [eq]
      exact iff_of_true ⟨detail, rfl⟩ ⟨stored, merged, found, merges, clash⟩
    · rw [eq]
      refine iff_of_false (fun ⟨_, no⟩ => nomatch no) ?_
      rintro ⟨stored', merged', found', merges', other, there, ne, clash⟩
      obtain rfl := Option.some.inj (found'.symm.trans found)
      rw [UserField.merges_iff.mp merges', ← UserField.merges_iff.mp merges] at clash
      exact apart other there ne clash

/-- An update that is not refused succeeds, and the user under the id, if there is
one, is the only thing that it changes. -/
theorem update_taken (sound : t.Sound emailUnique) (id : UserId) (u : User)
    (fields : List UserField)
    (taken : ∀ detail, (update emailUnique id u fields t).1 ≠ .error (.ambiguousUpdate detail)) :
    let r := update emailUnique id u fields t
    r.1 = .ok () ∧ r.2.nextId = t.nextId ∧ (∀ k, k ≠ id → r.2.find? k = t.find? k) ∧
      ∀ stored, t.find? id = some stored →
        ∃ merged, Merges fields u stored merged ∧ r.2.find? id = some merged := by
  rcases update_outcome sound id u fields with ⟨missing, eq⟩ | ⟨stored, merged, found, merges, cases⟩
  · rw [eq]
    exact ⟨rfl, rfl, fun _ _ => rfl, fun _ found => nomatch missing.symm.trans found⟩
  · rcases cases with ⟨-, detail, eq⟩ | ⟨-, eq⟩
    · exact absurd (congrArg Prod.fst eq) (taken detail)
    · rw [eq]
      refine ⟨rfl, rfl, fun k ne => ?_, fun stored' found' => ⟨merged, ?_, ?_⟩⟩
      · rw [find?_changed, if_neg ne]
      · rwa [Option.some.inj (found'.symm.trans found)]
      · rw [find?_changed, if_pos rfl, found, Option.map_some]

/-- Order and repetition in the list of an update mean nothing. -/
theorem update_congr (id : UserId) (u : User) {fields fields' : List UserField}
    (same : ∀ f, f ∈ fields ↔ f ∈ fields') (t : UserTable) :
    update emailUnique id u fields t = update emailUnique id u fields' t := by
  have none : fields = [] ↔ fields' = [] := by
    simp only [List.eq_nil_iff_forall_not_mem, same]
  have touched : ∀ f, f ∈ touched fields ↔ f ∈ touched fields' := by
    intro f
    rw [UserField.mem_touched_iff, UserField.mem_touched_iff, UserField.Listed, UserField.Listed,
      none, same]
  simp only [update, UserField.copyAll_congr touched]

/-- A delete under an id that is not there does nothing. -/
theorem delete_missing {id : UserId} (missing : t.find? id = none) : t.delete id = (.ok (), t) := by
  have kept : t.entries.filter (fun e => e.1 != id) = t.entries := by
    rw [List.filter_eq_self]
    intro e he
    rw [find?, List.lookup_eq_none_iff] at missing
    exact bne_iff_ne.mpr (Ne.symm (bne_iff_ne.mp (missing e he)))
  rw [delete, kept]

/-! ## Runs -/

/-- **A call that fails changes nothing.** -/
theorem unchanged_of_failed (sound : t.Sound emailUnique) {a : UserStep}
    (failed : ((store emailUnique).step a t).1.Failed) : ((store emailUnique).step a t).2 = t := by
  have update_unchanged : ∀ id u fields,
      (UserAnswer.done (update emailUnique id u fields t).1).Failed →
        (update emailUnique id u fields t).2 = t := by
    intro id u fields failed
    rcases update_outcome sound id u fields with ⟨-, eq⟩ | ⟨_, _, -, -, ⟨-, _, eq⟩ | ⟨-, eq⟩⟩
    · rw [eq]
    · rw [eq]
    · rw [eq] at failed
      cases failed
  cases a with
  | init => rfl
  | get id =>
      simp only [UserStore.step, store, get, Prod.map]
      split <;> rfl
  | getByName name =>
      simp only [UserStore.step, store, getByName, Prod.map]
      split <;> rfl
  | getByEmail address =>
      simp only [UserStore.step, store, getByEmail, Prod.map]
      split <;> rfl
  | insert now u =>
      simp only [UserStore.step, store, Prod.map] at failed ⊢
      rcases insert_cases sound now u with ⟨_, _, _, _, eq⟩ | ⟨_, eq⟩
      · rw [eq]
        rfl
      · rw [eq] at failed
        cases failed
  | update id u fields => exact update_unchanged id u fields failed
  | updateByNames id u names =>
      rcases (store emailUnique).updateByNames_cases id u names t with ⟨fields, -, eq⟩ | ⟨e, -, eq⟩
      · simp only [UserStore.step, eq] at failed ⊢
        exact update_unchanged id u fields failed
      · simp only [UserStore.step, eq]
        rfl
  | delete id => cases failed

/-- Every state of every run from the empty table is sound. -/
theorem sound_of_run (emailUnique : Bool) (steps : List UserStep) :
    ∀ t ∈ ({} : UserTable) :: (trace (store emailUnique).step steps {}).map Prod.snd,
      t.Sound emailUnique := by
  rw [List.forall_mem_cons, List.forall_mem_map]
  exact ⟨Sound.empty emailUnique,
    forall_trace (fun a _ _ sound => step_preserves a sound) (Sound.empty emailUnique)⟩

/-- **A table takes exactly the writes that leave its users apart, and changes nothing
else.**  In every state of every run from the empty table: an insert is refused
exactly when a stored user clashes with the new one, and else adds it under the next
id.  An update is refused exactly when the stored user with the listed fields of the
model clashes with a user under another id, and else changes that user to just this;
the list counts only for what it contains.  A delete takes one user out.  A call that
fails changes nothing, nor does an update or a delete under an id that is not there,
though it succeeds. -/
theorem writes_taken_iff_apart (emailUnique : Bool) (steps : List UserStep) :
    ∀ t ∈ ({} : UserTable) :: (trace (store emailUnique).step steps {}).map Prod.snd,
      (∀ now u,
        let r := (store emailUnique).insert now u t
        ((∃ detail, r.1.1 = .error (.userExists detail)) ↔
            ∃ other ∈ t.users, Clash emailUnique other u) ∧
          ((∀ other ∈ t.users, ¬ Clash emailUnique other u) →
            r.1 = (.ok ⟨t.nextId⟩, { u.prepared now with id := ⟨t.nextId⟩ }) ∧
              r.2.nextId = t.nextId + 1 ∧
              ∀ k, r.2.find? k = if k = ⟨t.nextId⟩ then some r.1.2 else t.find? k)) ∧
      (∀ id u fields,
        let r := (store emailUnique).update id u fields t
        ((∃ detail, r.1 = .error (.ambiguousUpdate detail)) ↔
            ∃ stored merged, t.find? id = some stored ∧ Merges fields u stored merged ∧
              ∃ other ∈ t.users, other.id ≠ id ∧ Clash emailUnique other merged) ∧
          ((∀ detail, r.1 ≠ .error (.ambiguousUpdate detail)) →
            r.1 = .ok () ∧ r.2.nextId = t.nextId ∧ (∀ k, k ≠ id → r.2.find? k = t.find? k) ∧
              ∀ stored, t.find? id = some stored →
                ∃ merged, Merges fields u stored merged ∧ r.2.find? id = some merged) ∧
          ∀ fields', (∀ f, f ∈ fields ↔ f ∈ fields') →
            (store emailUnique).update id u fields' t = r) ∧
      (∀ id,
        let r := (store emailUnique).delete id t
        r.1 = .ok () ∧ r.2.nextId = t.nextId ∧
          ∀ k, r.2.find? k = if k = id then none else t.find? k) ∧
      (∀ a, ((store emailUnique).step a t).1.Failed → ((store emailUnique).step a t).2 = t) ∧
      ∀ id, t.find? id = none →
        (∀ u fields, (store emailUnique).update id u fields t = (.ok (), t)) ∧
          (store emailUnique).delete id t = (.ok (), t) := by
  intro t reached
  have sound := sound_of_run emailUnique steps t reached
  refine ⟨fun now u => ?_, fun id u fields => ?_, fun id => ?_, ?_, fun id missing => ?_⟩
  · exact ⟨insert_error_iff sound now u, insert_of_apart sound now⟩
  · exact ⟨update_error_iff sound id u fields, update_taken sound id u fields,
      fun fields' same => (update_congr id u same t).symm⟩
  · exact ⟨rfl, rfl, find?_delete t id⟩
  · exact fun a failed => unchanged_of_failed sound failed
  · refine ⟨fun u fields => ?_, delete_missing missing⟩
    rcases update_outcome sound id u fields with ⟨-, eq⟩ | ⟨stored, -, found, -⟩
    · exact eq
    · cases missing.symm.trans found

/-- A model with a username that is taken: refused where the list has the username,
taken where it has only the email address. -/
theorem writes_taken_by_listed_fields :
    let ada := User.new "ada" "ada@example.org"
    let bob := User.new "bob" "bob@example.org"
    let steps : List UserStep := [.insert Instant.epoch ada, .insert Instant.epoch bob]
    let t := after (store true).step steps {}
    let model := User.new "ada" "robert@example.org"
    t ∈ ({} : UserTable) :: (trace (store true).step steps {}).map Prod.snd ∧
      (∃ detail, ((store true).update ⟨2⟩ model [.email, .username, .email] t).1 =
        .error (.ambiguousUpdate detail)) ∧
      ((store true).update ⟨2⟩ model [.email] t).2.find? ⟨2⟩ =
        some { bob with id := ⟨2⟩, email := "robert@example.org" } := by
  intro ada bob steps t model
  have reached : t ∈ ({} : UserTable) :: (trace (store true).step steps {}).map Prod.snd :=
    List.mem_cons_of_mem _ (List.mem_cons_of_mem _ List.mem_cons_self)
  obtain ⟨-, updates, -⟩ := writes_taken_iff_apart true steps t reached
  have found : t.find? ⟨2⟩ = some { bob with id := ⟨2⟩ } := by decide
  refine ⟨reached, ?_, ?_⟩
  · refine (updates ⟨2⟩ model [.email, .username, .email]).1.mpr ⟨_, _, found,
      UserField.merges_iff.mpr rfl, { ada with id := ⟨1⟩ }, by decide, by decide, .inl rfl⟩
  · obtain ⟨-, taken, -⟩ := updates ⟨2⟩ model [.email]
    have ok : ((store true).update ⟨2⟩ model [.email] t).1 = .ok () := by rfl
    obtain ⟨-, -, -, changed⟩ := taken fun detail no => nomatch ok.symm.trans no
    obtain ⟨merged, merges, now⟩ := changed _ found
    rw [now, UserField.merges_iff.mp merges]
    rfl

end UserTable

end AccountStore
