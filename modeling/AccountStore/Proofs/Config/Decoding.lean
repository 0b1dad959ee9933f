/-
# AccountStore.Proofs.Config.Decoding -- which entry sets which setting

The seven settings are the leaves of the configuration.  Each key of a section
sets one leaf to the value that it reads and leaves the others alone
(`exists_leaf`).  The keys of a table rise, so one entry at most is under the
name of a leaf: a fold over the entries sets the leaf as this entry says, or
leaves it as it was (`foldlM_settles`).  That law, once for the entries of a section
and once for the sections, gives what decoding does to every leaf, and that every
section and key it got past has a leaf (`decode_settles`).
-/
import AccountStore.Proofs.Config.Overlay
import AccountStore.Proofs.Instant.Reading

namespace AccountStore.Config

set_option autoImplicit false

open Instant (bind_eq_ok)

/-! ## The leaves of the configuration -/

/-- A setting, by the path to it. -/
inductive Leaf where
  | databasePath
  | walMode
  | usersTable
  | sessionsTable
  | emailUnique
  | keyRetryAttempts
  | level
  deriving DecidableEq, Repr

namespace Leaf

def sectionName : Leaf → String
  | .keyRetryAttempts => "session"
  | .level => "logging"
  | _ => "storage"

def keyName : Leaf → String
  | .databasePath => "database_path"
  | .walMode => "wal_mode"
  | .usersTable => "users_table"
  | .sessionsTable => "sessions_table"
  | .emailUnique => "email_unique"
  | .keyRetryAttempts => "key_retry_attempts"
  | .level => "level"

/-- The setting itself. -/
def value (s : Settings) : Leaf → Value
  | .databasePath => .text s.storage.databasePath
  | .walMode => .truth s.storage.walMode
  | .usersTable => .text s.storage.usersTable
  | .sessionsTable => .text s.storage.sessionsTable
  | .emailUnique => .truth s.storage.emailUnique
  | .keyRetryAttempts => .unsigned s.session.keyRetryAttempts
  | .level => .text s.logging.level

theorem eq_of_keyName {a b : Leaf} (h : a.keyName = b.keyName) : a = b := by
  cases a <;> cases b <;> first | rfl | exact absurd h (by decide)

end Leaf

/-- A number that is not negative needs no sign. -/
def Value.plain : Value → Value
  | .signed n => if n < 0 then .signed n else .unsigned n.toNat
  | v => v

/-- The value that stands at a leaf after the entry, and before it. -/
def Settles (entry : Option Setting) (before after : Value) : Prop :=
  match entry with
  | none => after = before
  | some v => ∃ source x, v = .leaf source x ∧ after = x.plain

/-! ## One key -/

/-- Whatever the key reads becomes the value of the leaf, and no other leaf changes. -/
structure Key.Sets (k : Key) (ℓ : Leaf) : Prop where
  value : ∀ x change s, k.read x = .ok change → ℓ.value (change s) = x.plain
  others : ∀ x change s m, k.read x = .ok change → m ≠ ℓ → m.value (change s) = m.value s

/-- A key reads values of one kind and sets what it has read. -/
theorem Key.sets_of {α : Type} {k : Key} {ℓ : Leaf} {held : α → Value}
    {set : α → Settings → Settings}
    (reads : ∀ x change, k.read x = .ok change → ∃ v, x.plain = held v ∧ change = set v)
    (law : ∀ v s m, Leaf.value (set v s) m = if m = ℓ then held v else m.value s) : k.Sets ℓ := by
  constructor
  · intro x change s h
    obtain ⟨v, same, rfl⟩ := reads x change h
    rw [same, law, if_pos rfl]
  · intro x change s m h other
    obtain ⟨v, -, rfl⟩ := reads x change h
    rw [law, if_neg other]

theorem Key.text_reads {name : String} {set : String → Settings → Settings} (x : Value)
    (change : Settings → Settings) (h : (Key.text name set).read x = .ok change) :
    ∃ v, x.plain = .text v ∧ change = set v := by
  cases x with
  | text v =>
      cases h
      exact ⟨v, rfl, rfl⟩
  | _ => cases h

theorem Key.truth_reads {name : String} {set : Bool → Settings → Settings} (x : Value)
    (change : Settings → Settings) (h : (Key.truth name set).read x = .ok change) :
    ∃ v, x.plain = .truth v ∧ change = set v := by
  cases x with
  | truth v =>
      cases h
      exact ⟨v, rfl, rfl⟩
  | _ => cases h

theorem Key.count_reads {name : String} {set : Nat → Settings → Settings} (x : Value)
    (change : Settings → Settings) (h : (Key.count name set).read x = .ok change) :
    ∃ v, x.plain = .unsigned v ∧ change = set v := by
  cases x with
  | unsigned v =>
      cases h
      exact ⟨v, rfl, rfl⟩
  | signed n =>
      simp only [Key.count] at h
      split at h
      · cases h
      · next positive =>
          cases h
          exact ⟨n.toNat, if_neg positive, rfl⟩
  | _ => cases h

/-- **Every key of every section sets the leaf of its name.** -/
theorem exists_leaf {S : Section} (hS : S ∈ sections) {k : Key} (hk : k ∈ S.keys) :
    ∃ ℓ : Leaf, ℓ.sectionName = S.name ∧ ℓ.keyName = k.name ∧ k.Sets ℓ := by
  simp only [sections, List.mem_cons, List.not_mem_nil, or_false] at hS
  rcases hS with rfl | rfl | rfl
  · simp only [storageSection, List.mem_cons, List.not_mem_nil, or_false] at hk
    rcases hk with rfl | rfl | rfl | rfl | rfl
    · exact ⟨.databasePath, rfl, rfl, Key.sets_of Key.text_reads fun _ _ m => by cases m <;> rfl⟩
    · exact ⟨.walMode, rfl, rfl, Key.sets_of Key.truth_reads fun _ _ m => by cases m <;> rfl⟩
    · exact ⟨.usersTable, rfl, rfl, Key.sets_of Key.text_reads fun _ _ m => by cases m <;> rfl⟩
    · exact ⟨.sessionsTable, rfl, rfl, Key.sets_of Key.text_reads fun _ _ m => by cases m <;> rfl⟩
    · exact ⟨.emailUnique, rfl, rfl, Key.sets_of Key.truth_reads fun _ _ m => by cases m <;> rfl⟩
  · obtain rfl := List.mem_singleton.mp hk
    exact ⟨.keyRetryAttempts, rfl, rfl,
      Key.sets_of Key.count_reads fun _ _ m => by cases m <;> rfl⟩
  · obtain rfl := List.mem_singleton.mp hk
    exact ⟨.level, rfl, rfl, Key.sets_of Key.text_reads fun _ _ m => by cases m <;> rfl⟩

/-! ## The entries of a table -/

/-- A leaf that no entry touches stays. -/
theorem foldlM_leaves {α : Type} {f : Settings → α → Except Fault Settings} {ℓ : Leaf} {t : List α}
    (frame : ∀ x ∈ t, ∀ a b, f a x = .ok b → ℓ.value b = ℓ.value a) {a b : Settings}
    (h : t.foldlM f a = .ok b) : ℓ.value b = ℓ.value a := by
  induction t generalizing a with
  | nil =>
      cases h
      rfl
  | cons x rest ih =>
      obtain ⟨first, later⟩ := List.forall_mem_cons.mp frame
      obtain ⟨c, here, rest'⟩ := bind_eq_ok h
      exact (ih later rest').trans (first a c here)

/-- **The entry under its name settles a leaf**, if no other entry touches it. -/
theorem foldlM_settles {α : Type} {f : Settings → String × α → Except Fault Settings} {ℓ : Leaf}
    {name : String} (settle : α → Value → Value → Prop) {t : Entries α} (rising : Rising t)
    (own : ∀ x ∈ t, x.1 = name → ∀ a b, f a x = .ok b → settle x.2 (ℓ.value a) (ℓ.value b))
    (frame : ∀ x ∈ t, x.1 ≠ name → ∀ a b, f a x = .ok b → ℓ.value b = ℓ.value a)
    {a b : Settings} (h : t.foldlM f a = .ok b) :
    (t.get? name = none → ℓ.value b = ℓ.value a) ∧
      ∀ v, t.get? name = some v → settle v (ℓ.value a) (ℓ.value b) := by
  induction t generalizing a with
  | nil =>
      cases h
      exact ⟨fun _ => rfl, nofun⟩
  | cons x rest ih =>
      obtain ⟨first, later⟩ := List.pairwise_cons.mp rising
      obtain ⟨ownFirst, ownLater⟩ := List.forall_mem_cons.mp own
      obtain ⟨frameFirst, frameLater⟩ := List.forall_mem_cons.mp frame
      obtain ⟨c, here, rest'⟩ := bind_eq_ok h
      obtain ⟨absent, present⟩ := ih later ownLater frameLater rest'
      rw [Entries.get?]
      by_cases same : x.1 = name
      · -- no later entry is under the name
        have gone : Entries.get? rest name = none :=
          Entries.get?_eq_none_iff.mpr fun p hp he =>
            String.lt_irrefl name (by simpa [same, he] using first p hp)
        refine ⟨fun h => by simp [same] at h, fun v hv => ?_⟩
        obtain rfl : x.2 = v := by simpa [same] using hv
        rw [absent gone]
        exact ownFirst same a c here
      · rw [if_neg same, ← frameFirst same a c here]
        exact ⟨absent, present⟩

/-- A fold that comes to an end has taken every entry. -/
theorem foldlM_takes {α β : Type} {f : β → α → Except Fault β} {t : List α} {a b : β}
    (h : t.foldlM f a = .ok b) : ∀ x ∈ t, ∃ c d, f c x = .ok d := by
  induction t generalizing a with
  | nil => exact nofun
  | cons x rest ih =>
      obtain ⟨c, here, rest'⟩ := bind_eq_ok h
      exact List.forall_mem_cons.mpr ⟨⟨a, c, here⟩, ih rest'⟩

/-- An entry of a section is a leaf, sets the setting of its name, and no other. -/
theorem Section.readEntry_settles {S : Section} (hS : S ∈ sections) {a b : Settings} {key : String}
    {v : Setting} (h : S.readEntry a key v = .ok b) :
    ∃ ℓ : Leaf, ℓ.sectionName = S.name ∧ ℓ.keyName = key ∧
      Settles (some v) (ℓ.value a) (ℓ.value b) ∧ ∀ m, m ≠ ℓ → m.value b = m.value a := by
  unfold Section.readEntry at h
  split at h
  · cases h
  · next k found =>
      obtain ⟨ℓ, hsection, hkey, sets⟩ := exists_leaf hS (List.mem_of_find?_eq_some found)
      have hname : k.name = key := by simpa using List.find?_some found
      split at h
      · next source x =>
          unfold Key.apply at h
          split at h
          · next change read =>
              cases h
              exact ⟨ℓ, hsection, hkey.trans hname, ⟨source, x, rfl, sets.value x change a read⟩,
                fun m other => sets.others x change a m read other⟩
          · cases h
          · cases h
      · cases h

/-- **A section settles its own leaves and no others.** -/
theorem Section.read_settles {S : Section} (hS : S ∈ sections) {v : Setting} (table : v.IsTable)
    {a b : Settings} (h : S.read v a = .ok b) (ℓ : Leaf) :
    (ℓ.sectionName = S.name → Settles (v.at? ℓ.keyName) (ℓ.value a) (ℓ.value b)) ∧
      (ℓ.sectionName ≠ S.name → ℓ.value b = ℓ.value a) := by
  obtain ⟨source, t, rfl, rising⟩ := table
  constructor
  · intro _
    have own : ∀ x ∈ t, x.1 = ℓ.keyName → ∀ a b, S.readEntry a x.1 x.2 = .ok b →
        Settles (some x.2) (ℓ.value a) (ℓ.value b) := by
      intro x _ same a b h
      obtain ⟨m, -, hkey, settled, -⟩ := readEntry_settles hS h
      rwa [Leaf.eq_of_keyName (hkey.trans same)] at settled
    have frame : ∀ x ∈ t, x.1 ≠ ℓ.keyName → ∀ a b, S.readEntry a x.1 x.2 = .ok b →
        ℓ.value b = ℓ.value a := by
      intro x _ different a b h
      obtain ⟨m, -, hkey, -, others⟩ := readEntry_settles hS h
      exact others ℓ fun same => different (hkey ▸ same ▸ rfl)
    obtain ⟨absent, present⟩ := foldlM_settles (fun v => Settles (some v)) rising own frame h
    show Settles (Entries.get? t ℓ.keyName) _ _
    cases found : Entries.get? t ℓ.keyName with
    | none => exact absent found
    | some x => exact present x found
  · intro elsewhere
    have same : ∀ x ∈ t, ∀ a b, S.readEntry a x.1 x.2 = .ok b → ℓ.value b = ℓ.value a := by
      intro x _ a b h
      obtain ⟨m, hsection, -, -, others⟩ := readEntry_settles hS h
      exact others ℓ fun same => elsewhere (same ▸ hsection)
    exact foldlM_leaves same h

/-- A section that is read has no key but its leaves'. -/
theorem Section.read_keys {S : Section} (hS : S ∈ sections) {v : Setting} {a b : Settings}
    (table : v.IsTable) (h : S.read v a = .ok b) {key : String} {x : Setting}
    (hx : v.at? key = some x) : ∃ ℓ : Leaf, ℓ.sectionName = S.name ∧ ℓ.keyName = key := by
  obtain ⟨source, t, rfl, -⟩ := table
  obtain ⟨c, d, taken⟩ := foldlM_takes h _ (Entries.mem_of_get? hx)
  obtain ⟨ℓ, hsection, hkey, -⟩ := readEntry_settles hS taken
  exact ⟨ℓ, hsection, hkey⟩

theorem readSection_cases {a b : Settings} {name : String} {v : Setting}
    (h : readSection a name v = .ok b) : ∃ S ∈ sections, S.name = name ∧ S.read v a = .ok b := by
  unfold readSection at h
  split at h
  · cases h
  · next S found =>
      exact ⟨S, List.mem_of_find?_eq_some found, by simpa using List.find?_some found, h⟩

theorem exists_leaf_of_section {S : Section} (hS : S ∈ sections) :
    S.name ∈ sectionNames ∧ ∃ ℓ : Leaf, ℓ.sectionName = S.name := by
  simp only [sections, List.mem_cons, List.not_mem_nil, or_false] at hS
  rcases hS with rfl | rfl | rfl
  · exact ⟨by decide, .walMode, rfl⟩
  · exact ⟨by decide, .keyRetryAttempts, rfl⟩
  · exact ⟨by decide, .level, rfl⟩

/-- An entry of the document settles the leaves of the section of its name. -/
theorem readSection_settles {a b : Settings} {name : String} {v : Setting}
    (table : name ∈ sectionNames → v.IsTable) (h : readSection a name v = .ok b) (ℓ : Leaf) :
    (ℓ.sectionName = name → Settles (v.at? ℓ.keyName) (ℓ.value a) (ℓ.value b)) ∧
      (ℓ.sectionName ≠ name → ℓ.value b = ℓ.value a) := by
  obtain ⟨S, hS, rfl, read⟩ := readSection_cases h
  exact Section.read_settles hS (table (exists_leaf_of_section hS).1) read ℓ

/-- **Decoding settles every leaf as the entry of its name says, and comes to an end
only if every section and every key has a leaf.** -/
theorem decode_settles {source : Source} {t : Entries Setting}
    (shape : (Setting.table source t).HasSections sectionNames) {d s : Settings}
    (h : decode d t = .ok s) :
    (∀ ℓ : Leaf, Settles ((Setting.table source t).inSection? ℓ.sectionName ℓ.keyName)
        (ℓ.value d) (ℓ.value s)) ∧
      (∀ name v, (Setting.table source t).at? name = some v → ∃ ℓ : Leaf, ℓ.sectionName = name) ∧
      ∀ name key x, (Setting.table source t).inSection? name key = some x →
        ∃ ℓ : Leaf, ℓ.sectionName = name ∧ ℓ.keyName = key := by
  have rising : Rising t := by
    obtain ⟨_, _, same, rising⟩ := shape.table
    cases same
    exact rising
  have tables : ∀ p ∈ t, p.1 ∈ sectionNames → p.2.IsTable := fun p hp named =>
    shape.sections p.1 named p.2 ((Entries.get?_eq_some_iff rising).mpr hp)
  refine ⟨fun ℓ => ?_, fun name v hv => ?_, fun name key x hx => ?_⟩
  · have own : ∀ p ∈ t, p.1 = ℓ.sectionName → ∀ a b, readSection a p.1 p.2 = .ok b →
        Settles (p.2.at? ℓ.keyName) (ℓ.value a) (ℓ.value b) := fun p hp same a b h =>
      (readSection_settles (tables p hp) h ℓ).1 same.symm
    have frame : ∀ p ∈ t, p.1 ≠ ℓ.sectionName → ∀ a b, readSection a p.1 p.2 = .ok b →
        ℓ.value b = ℓ.value a := fun p hp different a b h =>
      (readSection_settles (tables p hp) h ℓ).2 (Ne.symm different)
    obtain ⟨absent, present⟩ := foldlM_settles (fun v => Settles (v.at? ℓ.keyName)) rising own
      frame h
    show Settles ((Entries.get? t ℓ.sectionName).bind _) _ _
    cases found : Entries.get? t ℓ.sectionName with
    | none => exact absent found
    | some v => exact present v found
  · obtain ⟨a, b, taken⟩ := foldlM_takes h _ (Entries.mem_of_get? hv)
    obtain ⟨S, hS, hname, -⟩ := readSection_cases taken
    obtain ⟨-, ℓ, hℓ⟩ := exists_leaf_of_section hS
    exact ⟨ℓ, hℓ.trans hname⟩
  · obtain ⟨v, hv, hx⟩ := Option.bind_eq_some_iff.mp hx
    have member := Entries.mem_of_get? hv
    obtain ⟨a, b, taken⟩ := foldlM_takes h _ member
    obtain ⟨S, hS, hname, read⟩ := readSection_cases taken
    have table := tables _ member (hname ▸ (exists_leaf_of_section hS).1)
    obtain ⟨ℓ, hsection, hkey⟩ := Section.read_keys hS table read hx
    exact ⟨ℓ, hsection.trans hname, hkey⟩

end AccountStore.Config
