/-
# AccountStore.Proofs.Engine.Expiry -- which expiries the database keeps

The database takes a session whatever its expiry, and holds sessions in every
state that calls can reach.  What becomes of the expiry is decided by its text.
A session comes back exactly when its expiry is storable, and a sweep goes by
the order of texts, which is the order of instants only between years that are
written in order: years of four digits are, a year with a sign need not be.
-/
import AccountStore.Proofs.Engine.Sessions
import AccountStore.Proofs.Instant.Reading
import AccountStore.Proofs.Instant.StoredOrder
import AccountStore.Proofs.Store.Run

namespace AccountStore

set_option autoImplicit false

open Database

namespace Bridge

/-- A text is an instant or a mismatch. -/
theorem decode_text_cases (s : String) :
    (∃ t, textual.decode (.text s) = .ok t) ∨
      ∃ detail, textual.decode (.text s) = .error (.typeMismatch "RFC 3339 timestamp" detail) := by
  simp only [textual, decodeText]
  cases Instant.parseStrict s.toList with
  | ok t => exact .inl ⟨t, rfl⟩
  | error e => exact .inr ⟨_, rfl⟩

/-- A year with a sign is a mismatch. -/
theorem decode_of_signed {t : Instant} (signed : ¬ t.HasPlainYear) :
    ∃ detail, textual.decode (.text t.storedText) =
      .error (.typeMismatch "RFC 3339 timestamp" detail) := by
  obtain ⟨e, refused⟩ := Instant.parseStrict_storedChars_of_signed signed
  have chars : t.storedText.toList = t.storedChars := String.toList_ofList
  simp only [textual, decodeText, chars, refused]
  exact ⟨_, rfl⟩

/-- An instant comes back from the database exactly when it is storable. -/
theorem decode_storedText_iff (t : Instant) :
    textual.decode (.text t.storedText) = .ok t ↔ t.IsStorable := by
  rw [← Instant.parseStrict_storedText_iff]
  simp only [textual, decodeText]
  cases Instant.parseStrict t.storedText.toList with
  | ok u => simp
  | error e => simp

/-- A session comes back with its expiry. -/
theorem decode_session_iff (x : Session) :
    (textual.decode (.text x.expires.storedText)).map (⟨x.key, x.user, ·⟩) = .ok x ↔
      x.expires.IsStorable := by
  rw [← decode_storedText_iff]
  cases textual.decode (.text x.expires.storedText) with
  | error e =>
      refine iff_of_false ?_ ?_
      · exact nofun
      · exact nofun
  | ok t =>
      simp only [Except.map, Except.ok.injEq]
      constructor
      · intro same
        exact congrArg Session.expires same
      · rintro rfl
        rfl

end Bridge

/-- The connection holds sessions, whatever their expiries. -/
def HoldsSomeSessions (s : StorageSettings) (k : Connection) : Prop := ∃ xs, HoldsSessions s k xs

namespace UsableSessions

variable {s : StorageSettings} {tpl : Template} {k : Connection} {xs : List Session}

/-! ## Every state -/

theorem insert_preserves (h : UsableSessions s tpl) (x : Session) {k : Connection}
    (some : HoldsSomeSessions s k) :
    HoldsSomeSessions s ((Storage.sessionEngine tpl).store.insert x k).2 := by
  obtain ⟨xs, held⟩ := some
  simp only [SessionEngine.store]
  cases taken : xs.any (fun y => y.key == x.key) with
  | true =>
      rw [h.insert_refused held taken]
      exact ⟨xs, held⟩
  | false =>
      obtain ⟨k', added, held'⟩ := h.insert_accepted held taken
      rw [added]
      exact ⟨_, held'⟩

/-- What one call preserves. -/
theorem step_preserves (h : UsableSessions s tpl) (a : SessionStep)
    (some : HoldsSomeSessions s k) :
    HoldsSomeSessions s ((Storage.sessionEngine tpl).store.step a k).2 := by
  obtain ⟨xs, held⟩ := some
  cases a with
  | init =>
      simp only [SessionStore.step, h.init_again held]
      exact ⟨xs, held⟩
  | insert x => exact h.insert_preserves x ⟨xs, held⟩
  | get key =>
      have looked := h.get_eq held key
      simp only [SessionStore.step, SessionEngine.store]
      rw [looked]
      exact ⟨xs, held⟩
  | delete key =>
      obtain ⟨k', deleted, held'⟩ := h.delete_eq held key
      simp only [SessionStore.step, SessionEngine.store]
      rw [deleted]
      exact ⟨_, held'⟩
  | cleanUp reference =>
      obtain ⟨k', swept, held'⟩ := h.cleanUp_eq held reference
      simp only [SessionStore.step]
      rw [swept]
      exact ⟨_, held'⟩
  | deleteForUser user =>
      obtain ⟨k', removed, held'⟩ := h.deleteForUser_eq held user
      simp only [SessionStore.step]
      rw [removed]
      exact ⟨_, held'⟩
  | insertWithRetry attempts x source =>
      exact SessionStore.insertAfter_preserves (fun y k => h.insert_preserves y) attempts [] x
        source k ⟨xs, held⟩

/-! ## An inserted session -/

/-- An insert that succeeds adds the session, whose key was free. -/
theorem of_insert (h : UsableSessions s tpl) (held : HoldsSessions s k xs) {x : Session}
    {k' : Connection} (inserted : (Storage.sessionEngine tpl).store.insert x k = (.ok (), k')) :
    xs.any (fun y => y.key == x.key) = false ∧ HoldsSessions s k' (xs ++ [x]) := by
  simp only [SessionEngine.store] at inserted
  cases taken : xs.any (fun y => y.key == x.key) with
  | true =>
      rw [h.insert_refused held taken] at inserted
      cases inserted
  | false =>
      obtain ⟨k'', added, held'⟩ := h.insert_accepted held taken
      rw [added] at inserted
      cases inserted
      exact ⟨rfl, held'⟩

/-- Among sessions with other keys a search by key finds the one that was added. -/
theorem find?_added {x : Session} (free : xs.any (fun y => y.key == x.key) = false)
    (keep : Session → Bool) :
    ((xs ++ [x]).filter keep).find? (fun y => y.key == x.key) = if keep x then some x else none := by
  have others : (xs.filter keep).find? (fun y => y.key == x.key) = none := by
    rw [List.find?_eq_none]
    intro y hy
    exact List.any_eq_false.mp free y (List.mem_filter.mp hy).1
  rw [List.filter_append, List.find?_append, others, Option.none_or, List.filter_cons]
  cases keep x <;> simp

theorem get_inserted (h : UsableSessions s tpl) {x : Session}
    (free : xs.any (fun y => y.key == x.key) = false) (held : HoldsSessions s k (xs ++ [x])) :
    (Storage.sessionEngine tpl).store.get x.key k =
      ((Bridge.textual.decode (.text x.expires.storedText)).map (⟨x.key, x.user, ·⟩), k) := by
  have found := find?_added free fun _ => true
  rw [List.filter_eq_self.mpr fun _ _ => rfl, if_pos rfl] at found
  have looked := h.get_eq held x.key
  rw [found] at looked
  exact looked

/-- **A session comes back exactly when its expiry is storable.** -/
theorem get_inserted_iff (h : UsableSessions s tpl) {x : Session}
    (free : xs.any (fun y => y.key == x.key) = false) (held : HoldsSessions s k (xs ++ [x])) :
    ((Storage.sessionEngine tpl).store.get x.key k).1 = .ok x ↔ x.expires.IsStorable := by
  rw [h.get_inserted free held, ← Bridge.decode_session_iff]

/-- A sweep removes the session when the text of its expiry is not the later one. -/
theorem get_swept_iff (h : UsableSessions s tpl) {x : Session}
    (free : xs.any (fun y => y.key == x.key) = false) (held : HoldsSessions s k (xs ++ [x]))
    (reference : Instant) :
    ((Storage.sessionEngine tpl).store.get x.key
        ((Storage.sessionEngine tpl).store.cleanUp reference k).2).1 =
        .error (.noSuchSession x.key) ↔
      x.expires.storedText ≤ reference.storedText := by
  obtain ⟨k', swept, held'⟩ := h.cleanUp_eq held reference
  have found := find?_added free fun y => !sessionsTable.sweeps reference y
  have looked := h.get_eq held' x.key
  rw [found] at looked
  have swept_iff : sessionsTable.sweeps reference x = true ↔
      x.expires.storedText ≤ reference.storedText := by
    rw [sessionsTable.sweeps, decide_eq_true_eq]
  rw [swept, ← swept_iff]
  refine (congrArg (fun r => r.1 = .error (.noSuchSession x.key)) looked).to_iff.trans ?_
  cases sessionsTable.sweeps reference x with
  | true => simp [answer]
  | false =>
      simp only [Bool.not_false, if_true, answer]
      refine iff_of_false ?_ Bool.false_ne_true
      rcases Bridge.decode_text_cases x.expires.storedText with ⟨t, read⟩ | ⟨detail, refused⟩
      · rw [read]
        exact nofun
      · rw [refused]
        exact nofun

end UsableSessions

/-- **What the database accepts it need not give back.**  In every state of every
run an insert takes a session with any expiry.  The session comes back exactly
when its expiry is storable, and when its year has a sign the lookup fails.  A
sweep goes by the texts, and what it removes is what is no longer valid exactly
when the two years are written in order. -/
theorem inserted_session_kept_iff {s : StorageSettings} {tpl : Template} {k k₀ : Connection}
    (taken : Template.ofSettings s = .ok tpl) (settled : k.transaction = none)
    (fresh : k.contents.findTable? s.sessionsTable = none)
    (made : (Storage.sessionEngine tpl).store.init k = (.ok (), k₀)) (steps : List SessionStep) :
    let store := (Storage.sessionEngine tpl).store
    ∀ k₁ ∈ k₀ :: (trace store.step steps k₀).map Prod.snd, ∀ (x : Session) (k₂ : Connection),
      store.insert x k₁ = (.ok (), k₂) →
        ((store.get x.key k₂).1 = .ok x ↔ x.expires.IsStorable) ∧
        (¬ x.expires.HasPlainYear → ∃ detail,
          (store.get x.key k₂).1 = .error (.typeMismatch "RFC 3339 timestamp" detail)) ∧
        ∀ reference : Instant,
          let swept := (store.get x.key (store.cleanUp reference k₂).2).1 =
            .error (.noSuchSession x.key)
          (swept ↔ x.expires.storedText ≤ reference.storedText) ∧
            (x.expires.IsProper → reference.IsProper →
              ((swept ↔ x.isValid reference = false) ↔
                Instant.YearsSort reference.year x.expires.year)) := by
  intro store
  obtain ⟨usable, held⟩ := UsableSessions.of_init taken settled fresh made
  have everywhere : ∀ k₁ ∈ k₀ :: (trace store.step steps k₀).map Prod.snd,
      HoldsSomeSessions s k₁ := by
    rw [List.forall_mem_cons, List.forall_mem_map]
    have start : HoldsSomeSessions s k₀ := ⟨[], held⟩
    exact ⟨start, forall_trace (fun a _ k => usable.step_preserves a) start⟩
  intro k₁ reached x k₂ inserted
  obtain ⟨xs, before⟩ := everywhere k₁ reached
  obtain ⟨free, after⟩ := usable.of_insert before inserted
  refine ⟨usable.get_inserted_iff free after, ?_, ?_⟩
  · intro signed
    obtain ⟨detail, refused⟩ := Bridge.decode_of_signed signed
    rw [usable.get_inserted free after, refused]
    exact ⟨detail, rfl⟩
  · intro reference swept
    have texts : swept ↔ x.expires.storedText ≤ reference.storedText :=
      usable.get_swept_iff free after reference
    refine ⟨texts, fun proper proper' => ?_⟩
    have invalid : x.isValid reference = false ↔ ¬ reference < x.expires := by
      rw [← Bool.not_eq_true]
      rfl
    rw [texts, invalid]
    exact Instant.storedText_le_iff_iff_yearsSort proper proper'

/-- A session until the year 10000 is taken, cannot be read, and is gone after the
sweep of any year before. -/
theorem far_expiry_is_lost :
    let s : StorageSettings := { databasePath := "accounts.db" }
    let x : Session := ⟨"k", ⟨1⟩, ⟨253402300800, 0⟩⟩
    let reference : Instant := ⟨1577836800, 0⟩
    ∃ tpl k₀ k₂, Template.ofSettings s = .ok tpl ∧
      let store := (Storage.sessionEngine tpl).store
      store.init (Connection.opened {}) = (.ok (), k₀) ∧ store.insert x k₀ = (.ok (), k₂) ∧
        (store.get x.key k₂).1 ≠ .ok x ∧ x.isValid reference = true ∧
        (store.get x.key (store.cleanUp reference k₂).2).1 = .error (.noSuchSession x.key) := by
  intro s x reference
  obtain ⟨tpl, taken⟩ := Template.exists_ofSettings (s := s) (by decide) (by decide)
  have usable : UsableSessions s tpl :=
    ⟨Template.ofSettings_eq_ok taken, by decide, if_neg (by decide), if_neg (by decide)⟩
  obtain ⟨k₀, made⟩ := usable.init_fresh (k := Connection.opened {}) rfl rfl
  have empty := (UsableSessions.of_init taken rfl rfl made).2
  obtain ⟨k₂, inserted, -⟩ := usable.insert_accepted empty (x := x) rfl
  obtain ⟨back, -, swept⟩ := inserted_session_kept_iff taken rfl rfl made [] k₀
    List.mem_cons_self x k₂ inserted
  have valid : x.isValid reference = true := by decide
  have signed : ¬ x.expires.HasPlainYear := by decide
  have unsorted : ¬ Instant.YearsSort reference.year x.expires.year := by
    unfold Instant.YearsSort
    decide
  refine ⟨tpl, k₀, k₂, taken, made, inserted, fun kept => signed (back.mp kept).plain, valid, ?_⟩
  have wrong := mt ((swept reference).2 (by decide) (by decide)).mp unsorted
  by_cases gone : ((Storage.sessionEngine tpl).store.get x.key
      ((Storage.sessionEngine tpl).store.cleanUp reference k₂).2).1 = .error (.noSuchSession x.key)
  · exact gone
  · exact absurd (iff_of_false gone (by rw [valid]; decide)) wrong

end AccountStore
