/-
# AccountStore.Proofs.Database.Preparing -- batches of declarations

A text `Declares` a change of the contents when it reads as a statement that
makes this change and no other.  A batch of such texts outside a transaction
makes all changes one after the other, or, when one of them is refused, none.
A table that is declared if it does not exist is made once and stays.
-/
import AccountStore.Proofs.Database.Holding
import AccountStore.Proofs.Database.Reads

namespace AccountStore.Database

set_option autoImplicit false

/-- A change of the contents that may be refused. -/
abbrev Change := Contents → Except Failure Contents

structure Declares (text : String) (f : Change) : Prop where
  solid : Backend.isBlank text = false
  reads : ∃ ts s, Reads text ts s ∧ s.excess? ts = none ∧
    ∀ k : Connection, k.run [] s = k.store (f k.contents)

/-- One change after the other, up to the first that is refused. -/
def declareAll : List Change → Change
  | [], c => .ok c
  | f :: rest, c =>
      match f c with
      | .ok c => declareAll rest c
      | .error e => .error e

namespace Connection

/-- The connection inside a transaction that goes back to `before`. -/
def inside (k : Connection) (before c : Contents) (used : Bool) : Connection :=
  { k with contents := c, transaction := some ⟨before, used⟩ }

variable (k : Connection)

theorem touch_inside (before c : Contents) (used : Bool) (s : Statement) :
    ∃ used', (k.inside before c used).touch s = k.inside before c used' := by
  unfold touch
  split
  · exact ⟨true, rfl⟩
  · exact ⟨used, rfl⟩

theorem runText_declares {text : String} {f : Change} (h : Declares text f)
    (before c : Contents) (used : Bool) :
    ∃ used', (k.inside before c used).runText text =
      match f c with
      | .ok c' => (.ok (), k.inside before c' used')
      | .error e => (.error e, k.inside before c used') := by
  obtain ⟨ts, s, reads, few, runs⟩ := h.reads
  rw [reads.runText few, runs]
  cases change : f c with
  | ok c' =>
      obtain ⟨used', touched⟩ := k.touch_inside before c' used s
      refine ⟨used', ?_⟩
      have stored : (k.inside before c used).store (f (k.inside before c used).contents) =
          .ok (k.inside before c' used) := by
        simp only [inside, store, change]
      simp only [stored, touched]
  | error e =>
      have refused : (k.inside before c used).store (f (k.inside before c used).contents) =
          .error e := by
        simp only [inside, store, change]
      simp only [refused, touchFailed]
      split
      · exact ⟨used, rfl⟩
      · obtain ⟨used', touched⟩ := k.touch_inside before c used s
        exact ⟨used', by rw [touched]⟩

theorem runTexts_declares : ∀ {ds : List (String × Change)}, (∀ d ∈ ds, Declares d.1 d.2) →
    ∀ (before c : Contents) (used : Bool),
      ∃ c' used', (k.inside before c used).runTexts (ds.map Prod.fst) =
        match declareAll (ds.map Prod.snd) c with
        | .ok c'' => (.ok (), k.inside before c'' used')
        | .error e => (.error e, k.inside before c' used')
  | [], _, before, c, used => ⟨c, used, rfl⟩
  | (text, f) :: rest, h, before, c, used => by
      obtain ⟨used', ran⟩ := k.runText_declares (h (text, f) List.mem_cons_self) before c used
      simp only [List.map_cons, runTexts, ran, declareAll]
      cases f c with
      | ok c' => exact runTexts_declares (fun d hd => h d (List.mem_cons_of_mem _ hd)) before c' used'
      | error e => exact ⟨c, used', rfl⟩

/-- **A batch of declarations makes all of its changes or none.** -/
theorem runBatch_declares {k : Connection} (settled : k.transaction = none)
    {ds : List (String × Change)} (h : ∀ d ∈ ds, Declares d.1 d.2) :
    k.runBatch (ds.map Prod.fst) =
      match declareAll (ds.map Prod.snd) k.contents with
      | .ok c => (.ok (), { k with contents := c })
      | .error e => (.error (.statement (.failure e)), k) := by
  have started : k.start = .ok (k.inside k.contents k.contents false) := by
    simp only [start, settled, inside]
  obtain ⟨c', used', ran⟩ := k.runTexts_declares h k.contents k.contents false
  simp only [runBatch, started, ran]
  cases declareAll (ds.map Prod.snd) k.contents with
  | ok c => simp only [commit, inside, settled]
  | error e =>
      simp only [rollback, inside]
      rw [← settled]

/-- Declarations that set up a database, as a caller sees them. -/
theorem setUp_declares {k : Connection} (settled : k.transaction = none)
    {ds : List (String × Change)} (h : ∀ d ∈ ds, Declares d.1 d.2) :
    backend.setUp (ds.map Prod.fst) k =
      match declareAll (ds.map Prod.snd) k.contents with
      | .ok c => (.ok (), { k with contents := c })
      | .error e => (.error (.driver (.failure e)), k) := by
  have solid : (ds.map Prod.fst).filter (fun t => !Backend.isBlank t) = ds.map Prod.fst := by
    rw [List.filter_eq_self, List.forall_mem_map]
    intro d hd
    rw [(h d hd).solid, Bool.not_false]
  have ran : backend.runBatch (ds.map Prod.fst) k = k.runBatch (ds.map Prod.fst) := rfl
  rw [Backend.setUp, solid, ran, runBatch_declares settled h]
  cases declareAll (ds.map Prod.snd) k.contents <;> rfl

/-- A text that cannot be read undoes what it should set up. -/
theorem setUp_unread {k : Connection} {text : String} {ts : List Token} {e : SyntaxFault}
    (solid : Backend.isBlank text = false) (scans : Token.ofText text = [ts])
    (unread : Statement.ofTokens ts = .error e) (rest : List String) :
    (backend.setUp (text :: rest) k).1 ≠ .ok () := by
  have ran : ∀ texts, backend.runBatch texts k = k.runBatch texts := fun _ => rfl
  rw [Backend.setUp, List.filter_cons, solid, if_pos Bool.not_false, ran, runBatch]
  cases k.start with
  | error e =>
      intro same
      cases same
  | ok k =>
      simp only [runTexts, runText, scans, runTokens, readTokens, unread]
      cases k.rollback with
      | error e =>
          intro same
          cases same
      | ok k =>
          intro same
          cases same

end Connection

namespace Contents

/-- Nothing has one of these names. -/
def Vacant (c : Contents) (names : List String) : Prop :=
  ∀ name ∈ names, c.findTable? name = none ∧ c.findIndex? name = none

/-! ## Tables -/

theorem createTable_of_findTable? {c : Contents} {d : Declaration} {t : Table}
    (checked : checkName d.name = .ok ()) (found : c.findTable? d.name = some t)
    (lenient : d.ifNotExists = true) : c.createTable d = .ok c := by
  simp only [createTable, checked, found, lenient, if_true]

/-- The contents with one table more. -/
def withTable (c : Contents) (t : Table) : Contents := { c with tables := c.tables ++ [t] }

/-- A declared table was there, or it is new under a name that nothing had. -/
theorem createTable_cases {c c' : Contents} {d : Declaration} (h : c.createTable d = .ok c') :
    checkName d.name = .ok () ∧
      ((∃ t, c.findTable? d.name = some t ∧ d.ifNotExists = true ∧ c' = c) ∨
        ∃ t, c.findTable? d.name = none ∧ c.findIndex? d.name = none ∧
          Table.ofDefinitions d.name d.columns = .ok t ∧ c' = c.withTable t) := by
  unfold createTable at h
  split at h
  · cases h
  · next checked =>
      refine ⟨checked, ?_⟩
      split at h
      · next t found =>
          split at h
          · next lenient =>
              cases h
              exact .inl ⟨t, found, lenient, rfl⟩
          · cases h
      · next fresh =>
          split at h
          · cases h
          · next unindexed =>
              split at h
              · cases h
              · next t made =>
                  cases h
                  exact .inr ⟨t, fresh, unindexed, made, rfl⟩

theorem createTable_fresh {c c' : Contents} {d : Declaration} (h : c.createTable d = .ok c')
    (fresh : c.findTable? d.name = none) {t : Table}
    (made : Table.ofDefinitions d.name d.columns = .ok t) :
    checkName d.name = .ok () ∧ c' = c.withTable t := by
  obtain ⟨checked, ⟨t', found, -⟩ | ⟨t', -, -, made', rfl⟩⟩ := createTable_cases h
  · rw [fresh] at found
    cases found
  · rw [made] at made'
    cases made'
    exact ⟨checked, rfl⟩

theorem createTable_eq {c : Contents} {d : Declaration} {t : Table}
    (checked : checkName d.name = .ok ()) (fresh : c.findTable? d.name = none)
    (unindexed : c.findIndex? d.name = none)
    (made : Table.ofDefinitions d.name d.columns = .ok t) : c.createTable d = .ok (c.withTable t) := by
  simp only [createTable, checked, fresh, unindexed, made, withTable]

theorem findTable?_withTable {c : Contents} {t : Table} {name : String}
    (fresh : c.findTable? name = none) (named : sameName t.name name = true) :
    (c.withTable t).findTable? name = some t := by
  simp only [findTable?] at fresh ⊢
  rw [withTable, List.find?_append, fresh, Option.none_or]
  simp [named]

theorem findTable?_withTable_ne (c : Contents) {t : Table} {name : String}
    (ne : sameName t.name name = false) : (c.withTable t).findTable? name = c.findTable? name := by
  simp [findTable?, withTable, List.find?_append, ne]

/-! ## Indexes -/

/-- The contents with one index more. -/
def withIndex (c : Contents) (i : Index) : Contents := { c with indexes := c.indexes ++ [i] }

/-- A declared index was there, or it is new under a name that nothing had. -/
theorem createIndex_cases {c c' : Contents} {ifNotExists : Bool} {name table : String}
    {columns : List String} (h : c.createIndex ifNotExists name table columns = .ok c') :
    ∃ t, c.findTable? table = some t ∧ checkName name = .ok () ∧ c.findTable? name = none ∧
      ((∃ i, c.findIndex? name = some i ∧ ifNotExists = true ∧ c' = c) ∨
        ∃ is, c.findIndex? name = none ∧ columnsOf t columns = .ok is ∧
          c' = c.withIndex ⟨name, t.name⟩) := by
  unfold createIndex at h
  split at h
  · cases h
  · next t found =>
      split at h
      · cases h
      · next checked =>
          split at h
          · cases h
          · next i unnamed indexed =>
              split at h
              · next lenient =>
                  cases h
                  exact ⟨t, found, checked, unnamed, .inl ⟨i, indexed, lenient, rfl⟩⟩
              · cases h
          · next unnamed unindexed =>
              split at h
              · cases h
              · next is known =>
                  cases h
                  exact ⟨t, found, checked, unnamed, .inr ⟨is, unindexed, known, rfl⟩⟩

/-- An index that was asked for is there, and the tables are as before. -/
theorem createIndex_made {c c' : Contents} {name table : String} {columns : List String}
    (h : c.createIndex true name table columns = .ok c') :
    checkName name = .ok () ∧ c.findTable? name = none ∧ (c'.findIndex? name).isSome = true ∧
      c'.tables = c.tables := by
  obtain ⟨t, -, checked, unnamed, ⟨i, indexed, -, rfl⟩ | ⟨is, -, -, rfl⟩⟩ := createIndex_cases h
  · exact ⟨checked, unnamed, by rw [indexed, Option.isSome_some], rfl⟩
  · refine ⟨checked, unnamed, ?_, rfl⟩
    rw [findIndex?, List.find?_isSome]
    exact ⟨_, List.mem_append_right _ List.mem_cons_self, sameName_refl name⟩

theorem createIndex_findTable? {c c' : Contents} {name table : String} {columns : List String}
    (h : c.createIndex true name table columns = .ok c') (other : String) :
    c'.findTable? other = c.findTable? other := by
  obtain ⟨-, -, -, tables⟩ := createIndex_made h
  rw [findTable?, tables, findTable?]

theorem createIndex_of_findIndex? {c : Contents} {name table : String} {t : Table}
    (found : c.findTable? table = some t) (checked : checkName name = .ok ())
    (unnamed : c.findTable? name = none) (indexed : (c.findIndex? name).isSome = true)
    (columns : List String) : c.createIndex true name table columns = .ok c := by
  obtain ⟨i, index⟩ := Option.isSome_iff_exists.mp indexed
  simp only [createIndex, found, checked, unnamed, index, if_true]

theorem createIndex_eq {c : Contents} {name table : String} {t : Table}
    (found : c.findTable? table = some t) (checked : checkName name = .ok ())
    (unnamed : c.findTable? name = none) (unindexed : c.findIndex? name = none)
    {columns : List String} {is : List Nat} (known : columnsOf t columns = .ok is) :
    c.createIndex true name table columns = .ok (c.withIndex ⟨name, t.name⟩) := by
  simp only [createIndex, found, checked, unnamed, unindexed, known, withIndex]

end Contents

end AccountStore.Database
