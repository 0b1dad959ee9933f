/-
# AccountStore.Proofs.Engine.FieldNames -- updates of fields given by name

A text names a field when it is the field's name in any case of letters, and no text
names two fields (`UserField.ofName?_eq_some_iff`).  A list of names is read as a whole
before anything is asked of a store: it comes to the fields that its names stand for,
place by place (`parseList_eq_ok_iff`), or to its first text that names none, as the
caller wrote it (`parseList_eq_error_iff`).  So an update by names is an update of the
fields, or nothing happens to the store, whichever store it is.
-/
import AccountStore.Proofs.Engine.Exchanges
import AccountStore.Proofs.Text.Case
import Mathlib.Data.List.Nodup

namespace AccountStore

set_option autoImplicit false

namespace UserField

/-- A text is the field's name in any case of letters. -/
def Named (f : UserField) (s : String) : Prop := SameIgnoringCase f.name s

/-- No two names become equal when their capitals are lowered. -/
theorem nodup_names : (all.map fun f => asciiLowerText f.name).Nodup := by decide

theorem Named.unique {f g : UserField} {s : String} (hf : f.Named s) (hg : g.Named s) : f = g := by
  have same : asciiLowerText f.name = asciiLowerText g.name :=
    ((asciiLowerText_eq_iff _ _).mpr hf).trans ((asciiLowerText_eq_iff _ _).mpr hg).symm
  exact List.inj_on_of_nodup_map nodup_names (mem_all f) (mem_all g) same

theorem named_iff (f : UserField) (s : String) :
    (asciiLowerText f.name == asciiLowerText s) = true ↔ f.Named s := by
  rw [beq_iff_eq, asciiLowerText_eq_iff, Named]

theorem ofName?_eq_none_iff (s : String) : ofName? s = none ↔ ∀ f : UserField, ¬ f.Named s := by
  rw [ofName?, List.find?_eq_none]
  simp only [named_iff]
  exact ⟨fun none f => none f (mem_all f), fun none f _ => none f⟩

theorem named_of_ofName? {s : String} {f : UserField} (found : ofName? s = some f) : f.Named s :=
  (named_iff f s).mp (List.find?_some
    (p := fun g : UserField => asciiLowerText g.name == asciiLowerText s) found)

theorem ofName?_eq_some_iff (s : String) (f : UserField) : ofName? s = some f ↔ f.Named s := by
  refine ⟨named_of_ofName?, fun named => ?_⟩
  cases found : ofName? s with
  | none => exact absurd named ((ofName?_eq_none_iff s).mp found f)
  | some g => rw [(named_of_ofName? found).unique named]

/-! ## Lists of names -/

theorem parseList_known {s : String} {f : UserField} (named : f.Named s) (rest : List String) :
    parseList (s :: rest) = (parseList rest).map (f :: ·) := by
  rw [parseList, (ofName?_eq_some_iff s f).mpr named]

theorem parseList_unknown {s : String} (unknown : ∀ f : UserField, ¬ f.Named s)
    (rest : List String) : parseList (s :: rest) = .error (.unknownField s) := by
  rw [parseList, (ofName?_eq_none_iff s).mpr unknown]

/-- A list is read if it comes to the fields of its names, place by place. -/
theorem parseList_eq_ok_iff (names : List String) (fields : List UserField) :
    parseList names = .ok fields ↔ List.Forall₂ Named fields names := by
  induction names generalizing fields with
  | nil => cases fields <;> simp [parseList]
  | cons s rest ih =>
      by_cases known : ∃ f : UserField, f.Named s
      · obtain ⟨f, named⟩ := known
        rw [parseList_known named]
        constructor
        · intro read
          cases later : parseList rest with
          | error e =>
              rw [later] at read
              cases read
          | ok fs =>
              rw [later] at read
              cases read
              exact .cons named ((ih fs).mp later)
        · intro named'
          cases named' with
          | @cons g _ gs _ here there =>
              rw [here.unique named, (ih gs).mpr there, Except.map]
      · rw [parseList_unknown fun f named => known ⟨f, named⟩]
        refine iff_of_false nofun fun named => ?_
        cases named with
        | cons here _ => exact known ⟨_, here⟩

/-- The first text of a list that names no field. -/
def FirstUnknown (names : List String) (unknown : String) : Prop :=
  ∃ before behind, names = before ++ unknown :: behind ∧
    (∀ s ∈ before, ∃ f : UserField, f.Named s) ∧ ∀ f : UserField, ¬ f.Named unknown

theorem firstUnknown_known {s : String} {f : UserField} (named : f.Named s) {rest : List String}
    (unknown : String) : FirstUnknown (s :: rest) unknown ↔ FirstUnknown rest unknown := by
  constructor
  · rintro ⟨before, behind, whole, known, first⟩
    cases before with
    | nil =>
        cases whole
        exact absurd named (first f)
    | cons s' before =>
        cases whole
        exact ⟨before, behind, rfl, (List.forall_mem_cons.mp known).2, first⟩
  · rintro ⟨before, behind, rfl, known, first⟩
    exact ⟨s :: before, behind, rfl, List.forall_mem_cons.mpr ⟨⟨f, named⟩, known⟩, first⟩

theorem firstUnknown_unknown {s : String} (none : ∀ f : UserField, ¬ f.Named s)
    {rest : List String} (unknown : String) : FirstUnknown (s :: rest) unknown ↔ unknown = s := by
  constructor
  · rintro ⟨before, behind, whole, known, -⟩
    cases before with
    | nil =>
        cases whole
        rfl
    | cons s' before =>
        cases whole
        obtain ⟨f, named⟩ := known s List.mem_cons_self
        exact absurd named (none f)
  · rintro rfl
    exact ⟨[], rest, rfl, nofun, none⟩

/-- A list is refused for its first text that names no field, and for nothing else. -/
theorem parseList_eq_error_iff (names : List String) (e : StoreError) :
    parseList names = .error e ↔ ∃ s, FirstUnknown names s ∧ e = .unknownField s := by
  induction names with
  | nil =>
      refine iff_of_false nofun ?_
      rintro ⟨s, ⟨before, behind, whole, -⟩, -⟩
      cases before <;> cases whole
  | cons s rest ih =>
      by_cases known : ∃ f : UserField, f.Named s
      · obtain ⟨f, named⟩ := known
        simp only [parseList_known named, firstUnknown_known named, ← ih]
        cases parseList rest <;> simp [Except.map]
      · have none : ∀ f : UserField, ¬ f.Named s := fun f named => known ⟨f, named⟩
        rw [parseList_unknown none]
        simp only [firstUnknown_unknown none, exists_eq_left, Except.error.injEq]
        exact eq_comm

/-- A list is read if every text in it names a field, and only then. -/
theorem parseList_succeeds_iff (names : List String) :
    (∃ fields, parseList names = .ok fields) ↔ ∀ s ∈ names, ∃ f : UserField, f.Named s := by
  induction names with
  | nil => exact iff_of_true ⟨[], rfl⟩ nofun
  | cons s rest ih =>
      rw [List.forall_mem_cons, ← ih]
      constructor
      · rintro ⟨fields, read⟩
        cases (parseList_eq_ok_iff _ _).mp read with
        | @cons f _ fs _ here there => exact ⟨⟨f, here⟩, fs, (parseList_eq_ok_iff _ _).mpr there⟩
      · rintro ⟨⟨f, named⟩, fs, read⟩
        exact ⟨f :: fs, by rw [parseList_known named, read, Except.map]⟩

end UserField

/-! ## Updates -/

section Updates

variable {σ : Type} (store : UserStore σ) {names : List String} (id : UserId) (u : User) (s : σ)

/-- Names that are all known stand for their fields, in every store. -/
theorem UserStore.updateByNames_named {fields : List UserField}
    (named : List.Forall₂ UserField.Named fields names) :
    store.updateByNames id u names s = store.update id u fields s := by
  rw [updateByNames, (UserField.parseList_eq_ok_iff names fields).mpr named]

/-- An unknown name keeps the whole update from every store. -/
theorem UserStore.updateByNames_unknown {unknown : String}
    (first : UserField.FirstUnknown names unknown) :
    store.updateByNames id u names s = (.error (.unknownField unknown), s) := by
  rw [updateByNames, (UserField.parseList_eq_error_iff names _).mpr ⟨unknown, first, rfl⟩]

end Updates

/-- **An update by names reads its whole list before it asks anything of a store.**  A
list is read exactly if each text in it is one of the ten names in some case of letters,
and comes to the fields of these names in their order, as often as they are named;
otherwise it is refused for the first text that is none, as it was written.  Whatever
store it is for, a list that is read makes the update one of its fields; a list that is
refused leaves the state as it was, so that a backend is not called, whichever names
stand before the unknown one. -/
theorem updates_by_names_read_the_list_first (names : List String) :
    ((∃ fields, UserField.parseList names = .ok fields) ↔
      ∀ s ∈ names, ∃ f : UserField, f.Named s) ∧
    (∀ fields, UserField.parseList names = .ok fields ↔
      List.Forall₂ UserField.Named fields names) ∧
    (∀ err, UserField.parseList names = .error err ↔
      ∃ s, UserField.FirstUnknown names s ∧ err = .unknownField s) ∧
    (∀ fields, List.Forall₂ UserField.Named fields names →
      ∀ {σ : Type} (store : UserStore σ) (id : UserId) (u : User) (s : σ),
        store.updateByNames id u names s = store.update id u fields s) ∧
    ∀ unknown, UserField.FirstUnknown names unknown →
      (∀ {σ : Type} (store : UserStore σ) (id : UserId) (u : User) (s : σ),
        store.updateByNames id u names s = (.error (.unknownField unknown), s)) ∧
      ∀ {σ : Type} (e : UserEngine σ) (id : UserId) (u : User) (s : σ) (log : List Exchange),
        e.observed.store.updateByNames id u names (s, log) =
          (.error (.unknownField unknown), s, log) := by
  refine ⟨UserField.parseList_succeeds_iff names, UserField.parseList_eq_ok_iff names,
    UserField.parseList_eq_error_iff names, ?_, ?_⟩
  · exact fun fields named σ store id u s => store.updateByNames_named id u s named
  · intro unknown first
    exact ⟨fun store id u s => store.updateByNames_unknown id u s first,
      fun e id u s log => e.observed.store.updateByNames_unknown id u (s, log) first⟩

/-- Three names in mixed case set two fields; a long s in a fourth one, which looks like
an s but is no case of it, keeps all of them from the table. -/
theorem updates_by_names_with_a_long_s :
    let ada : User := { User.new "ada" "ada@example.org" with id := ⟨1⟩ }
    let t : UserTable := { nextId := 2, entries := [(⟨1⟩, ada)] }
    let changed : User := { email := "ada@example.net", isStaff := true }
    let known := ["eMaIl", "IsStaff", "EMAIL"]
    ((UserTable.store true).updateByNames ⟨1⟩ changed known t).2.find? ⟨1⟩ =
        some { ada with email := "ada@example.net", isStaff := true } ∧
      (UserTable.store true).updateByNames ⟨1⟩ changed (known ++ ["U\u017Fername", "x"]) t =
        (.error (.unknownField "U\u017Fername"), t) := by
  intro ada t changed known
  obtain ⟨-, read, -, named, -⟩ := updates_by_names_read_the_list_first known
  obtain ⟨-, -, refused, -, unnamed⟩ :=
    updates_by_names_read_the_list_first (known ++ ["U\u017Fername", "x"])
  have fields := (read [.email, .isStaff, .email]).mp rfl
  obtain ⟨unknown, first, same⟩ := (refused (.unknownField "U\u017Fername")).mp rfl
  rw [named _ fields, (unnamed unknown first).1, ← same]
  exact ⟨rfl, rfl⟩

end AccountStore
