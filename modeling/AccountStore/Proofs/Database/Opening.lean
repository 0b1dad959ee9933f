/-
# AccountStore.Proofs.Database.Opening -- what opening a database does to a disk

Opening creates directories where nothing was, and the file that it opens;
everything else on the disk stays, so what is a file stays one (`Keeps`).  What
is opened is what the place held (`contentsAt?_of_openDatabase`).  And since
directories are the only thing that ever comes in the way of a path and files
stay, a path that can be opened on a disk could be opened before
(`openDatabase_earlier`), with what the place held then.  A path without a slash
needs no directories (`parentSteps_of_free`).
-/
import AccountStore.Database.Disk
import AccountStore.Proofs.Store.Entries
import Mathlib.Data.String.Basic

namespace AccountStore.Database.Disk

set_option autoImplicit false

variable {d d' d'' m m' : Disk} {p q : Place}

/-! ## Entries -/

theorem entryAt?_putAt_self (d : Disk) (p : Place) (e : Entry) :
    (d.putAt p e).entryAt? p = some e := by
  simp [entryAt?, putAt]

theorem entryAt?_putAt_ne (d : Disk) (e : Entry) (ne : q ≠ p) :
    (d.putAt p e).entryAt? q = d.entryAt? q := by
  have first : (q == p) = false := beq_eq_false_iff_ne.mpr ne
  simp only [entryAt?, putAt, List.lookup_cons, first]
  exact lookup_filter_ne d.entries ne

/-- What opening a database finds in an entry; nothing if it is not a database. -/
def opens : Option Entry → Option Contents
  | none => some .empty
  | some (.plain text) => if text = "" then some .empty else none
  | some (.database c) => some c
  | some .directory => none

def contentsAt? (d : Disk) (p : Place) : Option Contents := opens (d.entryAt? p)

/-- There is something that is not a directory. -/
def HasFile (d : Disk) (p : Place) : Prop := ∃ e, d.entryAt? p = some e ∧ e ≠ .directory

/-- What is a file stays one. -/
def Keeps (d d' : Disk) : Prop := ∀ p, d.HasFile p → d'.HasFile p

namespace Keeps

theorem refl (d : Disk) : Keeps d d := fun _ file => file

theorem trans (h : Keeps d d') (h' : Keeps d' d'') : Keeps d d'' := fun p file => h' p (h p file)

theorem put (d : Disk) (p : Place) {e : Entry} (file : e ≠ .directory) : Keeps d (d.putAt p e) := by
  intro q there
  by_cases same : q = p
  · exact ⟨e, same ▸ entryAt?_putAt_self d p e, file⟩
  · obtain ⟨e', found, file'⟩ := there
    exact ⟨e', (entryAt?_putAt_ne d e same).trans found, file'⟩

/-- A directory that is made where no file was takes no file away. -/
theorem directory_after (h : Keeps d d') (noFile : ¬ d'.HasFile p) :
    Keeps d (d'.putAt p .directory) := by
  intro q there
  obtain ⟨e, found, file⟩ := h q there
  by_cases same : q = p
  · exact absurd ⟨e, same ▸ found, file⟩ noFile
  · exact ⟨e, (entryAt?_putAt_ne d' _ same).trans found, file⟩

/-- A directory that is made before brings no file. -/
theorem directory_before (h : Keeps d d') (p : Place) : Keeps (d.putAt p .directory) d' := by
  rintro q ⟨e, found, file⟩
  by_cases same : q = p
  · subst same
    rw [entryAt?_putAt_self] at found
    cases found
    exact absurd rfl file
  · rw [entryAt?_putAt_ne d _ same] at found
    exact h q ⟨e, found, file⟩

end Keeps

/-! ## Directories -/

/-- At each step there is a directory, or nothing, and then one is made unless it is the
root. -/
theorem makeDirectories_cases {name : String} {rest : List String}
    (made : d.makeDirectories q (name :: rest) = .ok m) :
    ∃ d₁, d₁.makeDirectories (step q name) rest = .ok m ∧
      (d.entryAt? (step q name) = some .directory ∧ d₁ = d ∨
        d.entryAt? (step q name) = none ∧
          (step q name = [] ∧ d₁ = d ∨ d₁ = d.putAt (step q name) .directory)) := by
  simp only [makeDirectories] at made
  split at made
  · next there => exact ⟨d, made, .inl ⟨there, rfl⟩⟩
  · cases made
  · next nothing =>
      split at made
      · next root => exact ⟨d, made, .inr ⟨nothing, .inl ⟨root, rfl⟩⟩⟩
      · exact ⟨_, made, .inr ⟨nothing, .inr rfl⟩⟩

/-- A step that was taken led to no file, and leads to a directory then. -/
theorem makeDirectories_step {name : String} {rest : List String}
    (made : d.makeDirectories q (name :: rest) = .ok m) :
    ¬ d.HasFile (step q name) ∧ ∃ d₁, d₁.makeDirectories (step q name) rest = .ok m ∧
      Keeps d d₁ ∧ (step q name ≠ [] → d₁.entryAt? (step q name) = some .directory) := by
  obtain ⟨d₁, later, ⟨there, rfl⟩ | ⟨nothing, how⟩⟩ := makeDirectories_cases made
  · refine ⟨?_, d₁, later, .refl d₁, fun _ => there⟩
    rintro ⟨e, found, file⟩
    rw [there] at found
    exact file (Option.some.inj found).symm
  · have noFile : ¬ d.HasFile (step q name) := by
      rintro ⟨e, found, -⟩
      rw [nothing] at found
      cases found
    obtain ⟨root, rfl⟩ | rfl := how
    · exact ⟨noFile, d₁, later, .refl d₁, fun away => absurd root away⟩
    · exact ⟨noFile, _, later, (Keeps.refl d).directory_after noFile,
        fun _ => entryAt?_putAt_self _ _ _⟩

/-- Directories come where nothing was. -/
theorem makeDirectories_entryAt? : ∀ {steps : List String} {d m : Disk} {q : Place},
    d.makeDirectories q steps = .ok m → ∀ p, m.entryAt? p = d.entryAt? p ∨
      d.entryAt? p = none ∧ m.entryAt? p = some .directory
  | [], _, _, _, made, _ => by
      cases made
      exact .inl rfl
  | name :: rest, d, m, q, made, p => by
      obtain ⟨d₁, later, ⟨-, rfl⟩ | ⟨nothing, ⟨-, rfl⟩ | rfl⟩⟩ := makeDirectories_cases made
      · exact makeDirectories_entryAt? later p
      · exact makeDirectories_entryAt? later p
      · have left := makeDirectories_entryAt? later p
        by_cases same : p = step q name
        · subst same
          rw [entryAt?_putAt_self] at left
          refine .inr ⟨nothing, ?_⟩
          rcases left with stays | ⟨absent, -⟩
          · exact stays
          · cases absent
        · rwa [entryAt?_putAt_ne d _ same] at left

theorem makeDirectories_keeps {steps : List String} (made : d.makeDirectories q steps = .ok m) :
    Keeps d m := by
  rintro p ⟨e, found, file⟩
  rcases makeDirectories_entryAt? made p with same | ⟨absent, -⟩
  · exact ⟨e, same.trans found, file⟩
  · rw [found] at absent
    cases absent

theorem makeDirectories_directory {steps : List String}
    (made : d.makeDirectories q steps = .ok m) (directory : d.entryAt? p = some .directory) :
    m.entryAt? p = some .directory := by
  rcases makeDirectories_entryAt? made p with same | ⟨absent, -⟩
  · exact same.trans directory
  · rw [directory] at absent
    cases absent

/-- **Directories that can be made on a disk could be made before.**  A place that
none of them takes is then left as it was. -/
theorem makeDirectories_earlier : ∀ {steps : List String} {d d' m' : Disk} {q : Place},
    Keeps d d' → d'.makeDirectories q steps = .ok m' → m'.entryAt? p ≠ some .directory →
      ∃ m, d.makeDirectories q steps = .ok m ∧ m.entryAt? p = d.entryAt? p
  | [], d, _, _, _, _, _, _ => ⟨d, rfl, rfl⟩
  | name :: rest, d, d', m', q, keeps, made, free => by
      -- the step is the same on both disks, whether or not a directory is there already
      obtain ⟨noFile, d₁', made₁, further, passed⟩ := makeDirectories_step made
      have keeps₁ : Keeps d d₁' := keeps.trans further
      simp only [makeDirectories]
      split
      · exact makeDirectories_earlier keeps₁ made₁ free
      · next e notDirectory found =>
          exact absurd (keeps _ ⟨e, found, notDirectory⟩) noFile
      · next nothing =>
          split
          · exact makeDirectories_earlier keeps₁ made₁ free
          · next away =>
              have ne : p ≠ step q name := by
                rintro rfl
                exact free (makeDirectories_directory made₁ (passed away))
              obtain ⟨m, madeBefore, left⟩ :=
                makeDirectories_earlier (keeps₁.directory_before _) made₁ free
              exact ⟨m, madeBefore, left.trans (entryAt?_putAt_ne d _ ne)⟩

/-! ## Opening -/

variable {path : String} {c c' : Contents}

theorem ne_directory_of_contentsAt? (held : d.contentsAt? p = some c) :
    d.entryAt? p ≠ some .directory := by
  intro directory
  rw [contentsAt?, directory] at held
  cases held

/-- What a database is opened on, its directories being there. -/
theorem openDatabase_eq (made : d.makeDirectories [] (parentSteps path) = .ok m)
    (held : m.contentsAt? (place path) = some c) :
    d.openDatabase path = (.ok c, m) ∧ m.entryAt? (place path) = some (.database c) ∨
      d.openDatabase path = (.ok c, m.put path (.database c)) := by
  unfold openDatabase
  simp only [made, entry?]
  unfold contentsAt? opens at held
  split at held
  · next absent =>
      cases held
      exact .inr (by rw [absent])
  · next text found =>
      split at held
      · next empty =>
          cases held
          subst empty
          refine .inr ?_
          rw [found]
          rfl
      · cases held
  · next c' found =>
      cases held
      exact .inl ⟨by rw [found], found⟩
  · cases held

/-- An opened database was there with the directories above it. -/
theorem contentsAt?_of_openDatabase (opened : d.openDatabase path = (.ok c, d')) :
    ∃ m, d.makeDirectories [] (parentSteps path) = .ok m ∧
      m.contentsAt? (place path) = some c := by
  unfold openDatabase at opened
  split at opened
  · cases opened
  · next m made =>
      refine ⟨m, made, ?_⟩
      simp only [ entry?] at opened
      unfold contentsAt? opens
      split at opened
      · cases opened
      · next empty =>
          cases opened
          rw [empty]
          rfl
      · cases opened
      · next c' there =>
          cases opened
          rw [there]
      · next absent =>
          cases opened
          rw [absent]

/-- The database that is opened is what the place held. -/
theorem held_of_openDatabase (opened : d.openDatabase path = (.ok c, d')) :
    d.contentsAt? (place path) = some c := by
  obtain ⟨m, made, held⟩ := contentsAt?_of_openDatabase opened
  rcases makeDirectories_entryAt? made (place path) with same | ⟨-, directory⟩
  · rw [contentsAt?, ← same]
    exact held
  · exact absurd directory (ne_directory_of_contentsAt? held)

theorem openDatabase_keeps (opened : d.openDatabase path = (.ok c, d')) : Keeps d d' := by
  obtain ⟨m, made, held⟩ := contentsAt?_of_openDatabase opened
  have first := makeDirectories_keeps made
  rcases openDatabase_eq made held with ⟨same, -⟩ | same
  · rw [opened] at same
    cases same
    exact first
  · rw [opened] at same
    cases same
    exact first.trans (.put m _ nofun)

/-- **A database that can be opened on a disk could be opened before**, with what
its place held then. -/
theorem openDatabase_earlier (keeps : Keeps d d') (opened : d'.openDatabase path = (.ok c', d''))
    (held : d.contentsAt? (place path) = some c) :
    ∃ d₁, d.openDatabase path = (.ok c, d₁) := by
  obtain ⟨m', made', held'⟩ := contentsAt?_of_openDatabase opened
  obtain ⟨m, made, left⟩ := makeDirectories_earlier keeps made'
    (ne_directory_of_contentsAt? held')
  have here : m.contentsAt? (place path) = some c := by
    rw [contentsAt?, left]
    exact held
  rcases openDatabase_eq made here with ⟨same, -⟩ | same
  · exact ⟨_, same⟩
  · exact ⟨_, same⟩

/-! ## Paths of one step -/

/-- A scan for slashes that has come to where none follows ends in one piece. -/
theorem splitOnAux_free (passed : List Char) {rest : List Char} (free : '/' ∉ rest) :
    (String.ofList (passed ++ rest)).splitOnAux "/" 0 ⟨String.utf8Len passed⟩ 0 [] =
      [String.ofList (passed ++ rest)] := by
  induction rest generalizing passed with
  | nil =>
      have whole := String.extract_of_valid [] passed []
      simp only [List.nil_append, List.append_nil, String.utf8Len_nil, Nat.zero_add] at whole
      rw [String.splitOnAux, if_pos ((String.atEnd_of_valid passed []).mpr rfl),
        List.reverse_singleton, List.append_nil]
      exact congrArg (fun s => [s]) whole
  | cons c rest ih =>
      obtain ⟨other, free⟩ := List.ne_and_not_mem_of_not_mem_cons free
      have inside : ¬ String.Pos.Raw.atEnd (String.ofList (passed ++ c :: rest))
          ⟨String.utf8Len passed⟩ = true :=
        fun ends => List.cons_ne_nil _ _ ((String.atEnd_of_valid passed (c :: rest)).mp ends)
      have differs : ¬ (String.Pos.Raw.get (String.ofList (passed ++ c :: rest))
          ⟨String.utf8Len passed⟩ == String.Pos.Raw.get "/" 0) = true := by
        rw [String.get_of_valid, List.headD_cons, beq_iff_eq]
        exact other.symm
      have next : String.Pos.Raw.next (String.ofList (passed ++ c :: rest))
          ((⟨String.utf8Len passed⟩ : String.Pos.Raw).unoffsetBy 0) =
            ⟨String.utf8Len (passed ++ [c])⟩ :=
        (String.next_of_valid passed c rest).trans (by simp)
      have onward := ih (passed ++ [c]) free
      rw [List.append_assoc, List.singleton_append] at onward
      rw [String.splitOnAux, if_neg inside, if_neg differs, next]
      exact onward

theorem steps_of_free (free : '/' ∉ path.toList) : steps path = [path] := by
  have whole := splitOnAux_free [] free
  rw [List.nil_append, String.ofList_toList] at whole
  rw [steps, String.splitOn, if_neg (by decide)]
  exact whole

theorem parentSteps_of_free (free : '/' ∉ path.toList) : parentSteps path = [] := by
  rw [parentSteps, steps_of_free free, List.reverse_singleton, List.dropWhile_cons]
  split <;> rfl

/-- A path of one step needs no directories. -/
theorem openDatabase_of_held (flat : parentSteps path = [])
    (held : d.contentsAt? (place path) = some c) : ∃ d', d.openDatabase path = (.ok c, d') := by
  have made : d.makeDirectories [] (parentSteps path) = .ok d := by
    rw [flat]
    rfl
  rcases openDatabase_eq made held with ⟨same, -⟩ | same
  · exact ⟨_, same⟩
  · exact ⟨_, same⟩

/-- What is put at a path is what is opened there. -/
theorem contentsAt?_put (d : Disk) (path : String) (c : Contents) :
    (d.put path (.database c)).contentsAt? (place path) = some c := by
  rw [contentsAt?, put, entryAt?_putAt_self]
  rfl

end AccountStore.Database.Disk
