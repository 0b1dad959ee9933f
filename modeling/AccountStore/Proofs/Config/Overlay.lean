/-
# AccountStore.Proofs.Config.Overlay -- what layers that lie on one another say

Overlaying is described by what stands under a key.  One table over another has
under each key what one of them has, or the later over the earlier value
(`at?_overlay`); if both have tables for a section, the same holds of each key of
the section (`inSection?_overlay`).  So a stack says under a key what its layers say
there, laid on one another (`foldl_overlay`), and of such values the last one
decides whether a leaf stands there, and which (`foldl_laid_eq_leaf`).
-/
import AccountStore.Proofs.Config.Keys
import AccountStore.Config.Load

namespace AccountStore.Config

set_option autoImplicit false

/-! ## What stands under a key -/

/-- The value under a key of a table. -/
def Value.at? : Value → String → Option Value
  | .table t, key => Entries.get? t key
  | _, _ => none

/-- The value of a key in a section. -/
def Value.inSection? (v : Value) (name key : String) : Option Value :=
  (v.at? name).bind fun t => t.at? key

namespace Setting

def at? : Setting → String → Option Setting
  | .table _ t, key => Entries.get? t key
  | .leaf _ _, _ => none

def inSection? (c : Setting) (name key : String) : Option Setting :=
  (c.at? name).bind fun t => t.at? key

/-- The later over the earlier value, if there are both. -/
def laid : Option Setting → Option Setting → Option Setting
  | old, none => old
  | none, some v => some v
  | some w, some v => some (overlay w v)

/-- A table whose keys rise. -/
def IsTable (c : Setting) : Prop := ∃ source t, c = .table source t ∧ Rising t

/-- A table in which each of the sections is a table, if it is there. -/
structure HasSections (names : List String) (c : Setting) : Prop where
  table : c.IsTable
  sections : ∀ name ∈ names, ∀ v, c.at? name = some v → v.IsTable

/-! ## One layer over another -/

theorem overlay_table (s s' : Source) (old new : Entries Setting) :
    overlay (.table s' old) (.table s new) = .table s (overlayEntries old new) := by
  rw [overlay]

/-- A leaf can only be put there by the later value. -/
theorem overlay_eq_leaf {w v : Setting} {s : Source} {x : Value} (h : overlay w v = .leaf s x) :
    v = .leaf s x := by
  cases v with
  | leaf => simpa [overlay] using h
  | table =>
      unfold overlay at h
      split at h <;> cases h

theorem get?_overlayEntries {new : Entries Setting} (h : Rising new) (old : Entries Setting)
    (key : String) :
    Entries.get? (overlayEntries old new) key = laid (old.get? key) (Entries.get? new key) := by
  induction new generalizing old with
  | nil => simp [overlayEntries, Entries.get?, laid]
  | cons p rest ih =>
      obtain ⟨k, v⟩ := p
      obtain ⟨first, later⟩ := List.pairwise_cons.mp h
      rw [overlayEntries, ih later, Entries.get?]
      by_cases same : k = key
      · subst same
        have gone : Entries.get? rest k = none :=
          Entries.get?_eq_none_iff.mpr fun p hp he => String.lt_irrefl k (by simpa [he] using first p hp)
        rw [Entries.get?_put_self, gone, if_pos rfl]
        cases old.get? k <;> rfl
      · rw [Entries.get?_put_ne _ _ (Ne.symm same), if_neg same]

theorem rising_overlayEntries {old : Entries Setting} (h : Rising old)
    (new : Entries Setting) : Rising (overlayEntries old new) := by
  induction new generalizing old with
  | nil => simpa [overlayEntries] using h
  | cons p rest ih =>
      rw [overlayEntries]
      exact ih (Entries.rising_put h _ _)

theorem IsTable.overlay {a b : Setting} (ha : a.IsTable) (hb : b.IsTable) :
    (overlay a b).IsTable := by
  obtain ⟨s, old, rfl, hold⟩ := ha
  obtain ⟨s', new, rfl, -⟩ := hb
  exact ⟨s', _, overlay_table _ _ _ _, rising_overlayEntries hold new⟩

/-- **One table over another, key by key.** -/
theorem at?_overlay {a b : Setting} (ha : a.IsTable) (hb : b.IsTable) (key : String) :
    (overlay a b).at? key = laid (a.at? key) (b.at? key) := by
  obtain ⟨s, old, rfl, -⟩ := ha
  obtain ⟨s', new, rfl, hnew⟩ := hb
  rw [overlay_table]
  exact get?_overlayEntries hnew old key

variable {names : List String}

theorem HasSections.overlay {a b : Setting} (ha : HasSections names a) (hb : HasSections names b) :
    HasSections names (overlay a b) := by
  refine ⟨ha.table.overlay hb.table, fun name hname v hv => ?_⟩
  rw [at?_overlay ha.table hb.table] at hv
  cases new : b.at? name with
  | none =>
      rw [new] at hv
      exact ha.sections name hname v hv
  | some u =>
      have table := hb.sections name hname u new
      cases old : a.at? name with
      | none =>
          rw [new, old] at hv
          cases hv
          exact table
      | some w =>
          rw [new, old] at hv
          cases hv
          exact (ha.sections name hname w old).overlay table

/-- **One section over another, key by key.** -/
theorem inSection?_overlay {a b : Setting} (ha : HasSections names a) (hb : HasSections names b)
    {name : String} (hname : name ∈ names) (key : String) :
    (overlay a b).inSection? name key = laid (a.inSection? name key) (b.inSection? name key) := by
  unfold inSection?
  rw [at?_overlay ha.table hb.table]
  cases new : b.at? name with
  | none => rfl
  | some u =>
      cases old : a.at? name with
      | none =>
          show u.at? key = laid none (u.at? key)
          cases u.at? key <;> rfl
      | some w => exact at?_overlay (ha.sections name hname w old) (hb.sections name hname u new) key

/-! ## A stack of layers -/

/-- **A stack says under a key what its layers say there, laid on one another.** -/
theorem foldl_overlay {cs : List Setting} {r : Setting} (start : HasSections names r)
    (all : ∀ c ∈ cs, HasSections names c) :
    HasSections names (cs.foldl overlay r) ∧
      (∀ key, (cs.foldl overlay r).at? key = (cs.map (·.at? key)).foldl laid (r.at? key)) ∧
      ∀ name ∈ names, ∀ key, (cs.foldl overlay r).inSection? name key =
        (cs.map (·.inSection? name key)).foldl laid (r.inSection? name key) := by
  induction cs generalizing r with
  | nil => exact ⟨start, fun _ => rfl, fun _ _ _ => rfl⟩
  | cons c cs ih =>
      obtain ⟨first, later⟩ := List.forall_mem_cons.mp all
      obtain ⟨sections, keys, entries⟩ := ih (start.overlay first) later
      refine ⟨sections, fun key => ?_, fun name hname key => ?_⟩
      · rw [List.foldl_cons, keys, at?_overlay start.table first.table, List.map_cons,
          List.foldl_cons]
      · rw [List.foldl_cons, entries name hname, inSection?_overlay start first hname, List.map_cons,
          List.foldl_cons]

theorem foldl_laid_eq_none_iff {xs : List (Option Setting)} {w : Option Setting} :
    xs.foldl laid w = none ↔ w = none ∧ ∀ x ∈ xs, x = none := by
  induction xs generalizing w with
  | nil => simp
  | cons x xs ih =>
      rw [List.foldl_cons, ih, List.forall_mem_cons]
      cases x <;> cases w <;> simp [laid]

theorem foldl_laid_of_silent {xs : List (Option Setting)} (silent : ∀ x ∈ xs, x = none)
    (w : Option Setting) : xs.foldl laid w = w := by
  induction xs with
  | nil => rfl
  | cons x xs ih =>
      obtain ⟨rfl, later⟩ := List.forall_mem_cons.mp silent
      exact ih later

/-- **If a leaf stands where layers were laid on one another, the last of them that
says anything says it.** -/
theorem foldl_laid_eq_leaf {before after : List (Option Setting)} {v : Setting}
    {w : Option Setting} {s : Source} {x : Value} (silent : ∀ y ∈ after, y = none)
    (h : (before ++ some v :: after).foldl laid w = some (.leaf s x)) : v = .leaf s x := by
  rw [List.foldl_append, List.foldl_cons, foldl_laid_of_silent silent] at h
  cases old : before.foldl laid w with
  | none =>
      rw [old] at h
      exact Option.some.inj h
  | some u =>
      rw [old] at h
      exact overlay_eq_leaf (Option.some.inj h)

/-! ## Values as layers -/

theorem get?_ofEntries (s : Source) (t : Entries Value) (key : String) :
    Entries.get? (ofEntries s t) key = (t.get? key).map (ofValue s) := by
  induction t with
  | nil => simp [ofEntries, Entries.get?]
  | cons p rest ih =>
      obtain ⟨k, v⟩ := p
      rw [ofEntries, Entries.get?, Entries.get?, ih]
      by_cases same : k = key <;> simp [same]

theorem mem_ofEntries {s : Source} {t : Entries Value} {p : String × Setting}
    (h : p ∈ ofEntries s t) : ∃ v, (p.1, v) ∈ t := by
  induction t with
  | nil => simp [ofEntries] at h
  | cons q rest ih =>
      obtain ⟨k, v⟩ := q
      rw [ofEntries] at h
      rcases List.mem_cons.mp h with rfl | h
      · exact ⟨v, List.mem_cons_self⟩
      · obtain ⟨w, hw⟩ := ih h
        exact ⟨w, List.mem_cons_of_mem _ hw⟩

theorem rising_ofEntries {s : Source} {t : Entries Value} (h : Rising t) :
    Rising (ofEntries s t) := by
  induction t with
  | nil =>
      rw [ofEntries]
      exact .nil
  | cons q rest ih =>
      obtain ⟨k, v⟩ := q
      obtain ⟨first, later⟩ := List.pairwise_cons.mp h
      rw [ofEntries]
      refine List.pairwise_cons.mpr ⟨fun p hp => ?_, ih later⟩
      obtain ⟨w, hw⟩ := mem_ofEntries hp
      exact first _ hw

theorem ofValue_table (s : Source) (t : Entries Value) :
    ofValue s (.table t) = .table s (ofEntries s t) := by
  rw [ofValue]

theorem ofValue_eq_leaf {s s' : Source} {v x : Value} (h : ofValue s v = .leaf s' x) : v = x := by
  cases v with
  | table => rw [ofValue_table] at h; cases h
  | _ =>
      simp only [ofValue, leaf.injEq] at h
      exact h.2

theorem at?_ofValue (s : Source) (v : Value) (key : String) :
    (ofValue s v).at? key = (v.at? key).map (ofValue s) := by
  cases v with
  | table t =>
      rw [ofValue_table]
      exact get?_ofEntries s t key
  | _ => simp [ofValue, at?, Value.at?]

theorem inSection?_ofValue (s : Source) (v : Value) (name key : String) :
    (ofValue s v).inSection? name key = (v.inSection? name key).map (ofValue s) := by
  unfold inSection? Value.inSection?
  rw [at?_ofValue]
  cases v.at? name with
  | none => rfl
  | some t => exact at?_ofValue s t key

end Setting

end AccountStore.Config
