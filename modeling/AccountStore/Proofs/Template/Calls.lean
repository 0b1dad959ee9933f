/-
# AccountStore.Proofs.Template.Calls -- runs of calls on a template

A call changes the table of a template by rule (`Call.onTable`): pairs go in from
left to right up to the first empty key, a merged table is laid over, keys are
taken out.  A call is refused exactly for an empty key.  What a refused call has
put in stays in the table but not in the compiled copy, so the two drift apart:
`Tracks T C` says that a template has the table `T` and substitutes by `C`.

* `call_cases` says all that a call can do;
* `Tracks.call` is the step: the table follows the rule, and the compiled copy
  becomes the whole new table unless the call is refused;
* `Tracks.after` is the run: the compiled copy is the table as it stood after the
  last call that was not refused.
-/
import AccountStore.Proofs.Template.Entries
import Mathlib.Data.List.DropRight

namespace AccountStore

set_option autoImplicit false

namespace Template

/-- One call that changes a template. -/
inductive Call where
  | set (key value : String)
  | setMany (pairs : List (String × String))
  | merge (other : Template)
  | delete (key : String)
  | deleteMany (keys : List String)

def call (t : Template) : Call → Except TemplateError Unit × Template
  | .set key value => t.set key value
  | .setMany pairs => t.setMany pairs
  | .merge other => t.merge other
  | .delete key => (.ok (), t.delete key)
  | .deleteMany keys => (.ok (), t.deleteMany keys)

/-- The template after calls made one after another. -/
def after (t : Template) (calls : List Call) : Template := calls.foldl (fun t c => (t.call c).2) t

def Fresh (t : Template) : Prop := t = .empty ∨ t = .defaults

/-- A template that calls lead to from a fresh one; so is each that is merged. -/
inductive Made : Template → Prop where
  | fresh {t : Template} (fresh : t.Fresh) : Made t
  | call {t : Template} {c : Call} (made : Made t)
      (merged : ∀ other, c = .merge other → Made other) : Made (t.call c).2

/-- What a call merges is a template that calls lead to. -/
def Call.Genuine (c : Call) : Prop := ∀ other, c = .merge other → other.Made

/-- A template on which the last call succeeded, if there was one. -/
inductive Settled : Template → Prop where
  | fresh {t : Template} (fresh : t.Fresh) : Settled t
  | call {t : Template} {c : Call} (made : t.Made) (genuine : c.Genuine)
      (ok : (t.call c).1 = .ok ()) : Settled (t.call c).2

/-- The pairs that a call puts in before it comes to an empty key. -/
def beforeEmpty (pairs : List (String × String)) : List (String × String) :=
  pairs.takeWhile (fun p => p.1 != "")

namespace Call

def onTable (T : Glossary) : Call → Glossary
  | .set key value => T.putAll (beforeEmpty [(key, value)])
  | .setMany pairs => T.putAll (beforeEmpty pairs)
  | .merge other => T.overlay other.get?
  | .delete key => T.removeAll [key]
  | .deleteMany keys => T.removeAll keys

/-- Whether a call is handed an empty key to put in. -/
def refused : Call → Bool
  | .set key _ => key == ""
  | .setMany pairs => pairs.any (fun p => p.1 == "")
  | .merge _ | .delete _ | .deleteMany _ => false

end Call

/-- The table that calls leave, read off the calls alone. -/
def tableAfter (T : Glossary) (calls : List Call) : Glossary := calls.foldl Call.onTable T

/-- A template substitutes by a glossary: what `apply` answers is what the
glossary makes of the text, and nothing else is. -/
def Follows (t : Template) (T : Glossary) : Prop :=
  ∀ text result : String, t.apply text = result ↔ Substitutes T text result

theorem Follows.apply_eq {t t' : Template} {T : Glossary} (h : t.Follows T) (h' : t'.Follows T)
    (text : String) : t.apply text = t'.apply text :=
  (h text _).mpr ((h' text _).mp rfl)

/-- A compiled copy without an empty key is what a template substitutes by. -/
theorem follows_compiled {t : Template} (solid : t.compiled.get? "" = none) :
    t.Follows t.compiled.get? := by
  intro text result
  obtain ⟨c, whole, leftmost, filled⟩ := Substitution.exists_cut solid text.toList
  have applied : Substitutes t.compiled.get? text (t.apply text) :=
    ⟨c, whole, leftmost, by rw [apply, String.toList_ofList, filled]⟩
  constructor
  · rintro rfl
    exact applied
  · exact applied.unique solid

/-! ## One call -/

theorem insertUntilEmpty_eq (ps : Placeholders) (pairs : List (String × String)) :
    insertUntilEmpty ps pairs =
      (ps.insertAll (beforeEmpty pairs), !(pairs.any fun p => p.1 == "")) := by
  induction pairs generalizing ps with
  | nil => rfl
  | cons p rest ih =>
      obtain ⟨k, v⟩ := p
      by_cases empty : k = ""
      · simp [insertUntilEmpty, beforeEmpty, Placeholders.insertAll, empty]
      · rw [insertUntilEmpty, if_neg empty, ih]
        simp [beforeEmpty, Placeholders.insertAll, empty]

theorem setMany_eq (t : Template) (pairs : List (String × String)) :
    t.setMany pairs =
      if pairs.any fun p => p.1 == "" then
        (.error .emptyKey, { t with entries := t.entries.insertAll (beforeEmpty pairs) })
      else (.ok (), ofEntries (t.entries.insertAll (beforeEmpty pairs))) := by
  rw [setMany, insertUntilEmpty_eq]
  cases pairs.any fun p => p.1 == "" <;> rfl

theorem ne_of_mem_beforeEmpty {pairs : List (String × String)} :
    ∀ p ∈ beforeEmpty pairs, p.1 ≠ "" := by
  intro p member
  simpa using List.mem_takeWhile_imp member

theorem ne_of_mem_sound {ps : Placeholders} (sound : ps.Sound) : ∀ p ∈ ps, p.1 ≠ "" := by
  rintro p member empty
  have known := Placeholders.isSome_get?_iff.mpr (List.mem_map_of_mem (f := Prod.fst) member)
  rw [empty, sound.solid] at known
  cases known

theorem merge_eq (t : Template) {other : Template} (sound : other.entries.Sound) :
    t.merge other = (.ok (), ofEntries (t.entries.insertAll other.entries)) := by
  have nonempty := ne_of_mem_sound sound
  have whole : beforeEmpty other.entries = other.entries :=
    List.takeWhile_eq_self_iff.mpr fun p member => by simpa using nonempty p member
  have none : (other.entries.any fun p => p.1 == "") = false := by
    rw [List.any_eq_false]
    intro p member
    simpa using nonempty p member
  rw [merge, setMany_eq, none, whole]
  rfl

/-- **All that a call can do.**  The table is changed by rule in any case; a
refused call leaves the compiled copy, another brings it up to date. -/
theorem call_cases (t : Template) (c : Call) (sound : t.entries.Sound)
    (merged : ∀ other, c = .merge other → other.entries.Sound) :
    ∃ ps : Placeholders, ps.Sound ∧ ps.get? = c.onTable t.get? ∧
      t.call c =
        if c.refused then (.error .emptyKey, { t with entries := ps })
        else (.ok (), ofEntries ps) := by
  cases c with
  | set key value =>
      refine ⟨_, sound.insertAll ne_of_mem_beforeEmpty, Placeholders.get?_insertAll _ _, ?_⟩
      rw [call, set, setMany_eq, List.any_cons, List.any_nil, Bool.or_false]
      rfl
  | setMany pairs =>
      exact ⟨_, sound.insertAll ne_of_mem_beforeEmpty, Placeholders.get?_insertAll _ _,
        setMany_eq t pairs⟩
  | merge other =>
      have taken := merged other rfl
      refine ⟨_, sound.insertAll (ne_of_mem_sound taken), ?_, merge_eq t taken⟩
      rw [Placeholders.get?_insertAll, Placeholders.putAll_get? _ taken.nodup]
      rfl
  | delete key => exact ⟨_, sound.eraseAll [key], Placeholders.get?_eraseAll _ _, rfl⟩
  | deleteMany keys => exact ⟨_, sound.eraseAll keys, Placeholders.get?_eraseAll _ _, rfl⟩

/-! ## Runs -/

/-- A template has the table `T` and substitutes by `C`. -/
structure Tracks (T C : Glossary) (t : Template) : Prop where
  sound : t.entries.Sound
  table : t.get? = T
  compiled : t.compiled.get? = C
  solid : C "" = none

theorem Fresh.tracks {t : Template} (fresh : t.Fresh) : Tracks t.get? t.get? t := by
  rcases fresh with rfl | rfl
  · exact ⟨Placeholders.sound_nil, rfl, rfl, rfl⟩
  · exact ⟨⟨by decide, by decide⟩, rfl, rfl, by decide⟩

namespace Tracks

variable {T C : Glossary} {t : Template}

theorem follows (h : Tracks T C t) : t.Follows C := by
  have compiled := follows_compiled (t := t) (by rw [h.compiled, h.solid])
  rwa [h.compiled] at compiled

theorem call_of_sound (h : Tracks T C t) {c : Call}
    (merged : ∀ other, c = .merge other → other.entries.Sound) :
    (t.call c).1 = (if c.refused then .error .emptyKey else .ok ()) ∧
      Tracks (c.onTable T) (if c.refused then C else c.onTable T) (t.call c).2 := by
  obtain ⟨ps, sound, table, does⟩ := call_cases t c h.sound merged
  rw [h.table] at table
  rw [does]
  cases c.refused with
  | true => exact ⟨rfl, sound, table, h.compiled, h.solid⟩
  | false => exact ⟨rfl, sound, table, table, by rw [← sound.solid, table]; rfl⟩

end Tracks

theorem Made.sound {t : Template} (made : t.Made) : ∃ T C, Tracks T C t := by
  induction made with
  | fresh fresh => exact ⟨_, _, fresh.tracks⟩
  | call _ _ before others =>
      obtain ⟨T, C, tracks⟩ := before
      refine ⟨_, _, (tracks.call_of_sound fun other same => ?_).2⟩
      obtain ⟨_, _, other⟩ := others other same
      exact other.sound

namespace Tracks

variable {T C : Glossary} {t : Template}

/-- **One call**: it is refused for an empty key and else succeeds, its table
follows the rule, and success makes the compiled copy the new table. -/
theorem call (h : Tracks T C t) {c : Call} (genuine : c.Genuine) :
    (t.call c).1 = (if c.refused then .error .emptyKey else .ok ()) ∧
      Tracks (c.onTable T) (if c.refused then C else c.onTable T) (t.call c).2 := by
  refine h.call_of_sound fun other same => ?_
  obtain ⟨_, _, tracks⟩ := (genuine other same).sound
  exact tracks.sound

/-- **A run of calls**: the compiled copy is the table after the last call that
was not refused. -/
theorem after (h : Tracks T T t) {calls : List Call} (genuine : ∀ c ∈ calls, c.Genuine) :
    Tracks (tableAfter T calls) (tableAfter T (calls.rdropWhile Call.refused)) (t.after calls) := by
  induction calls using List.reverseRecOn with
  | nil => exact h
  | append_singleton calls c ih =>
      have before := ih fun d hd => genuine d (List.mem_append_left _ hd)
      have last := (before.call (genuine c (by simp))).2
      rw [Template.after, List.foldl_append, tableAfter, List.foldl_append, List.rdropWhile_concat]
      cases ends : c.refused with
      | true =>
          rw [ends, if_pos rfl] at last
          exact last
      | false =>
          rw [ends, if_neg Bool.false_ne_true] at last
          rw [if_neg Bool.false_ne_true, tableAfter, List.foldl_append]
          exact last

end Tracks

theorem Settled.tracks {t : Template} (settled : t.Settled) : Tracks t.get? t.get? t := by
  cases settled with
  | fresh fresh => exact fresh.tracks
  | @call s c made genuine ok =>
      obtain ⟨T, C, tracks⟩ := made.sound
      obtain ⟨answer, later⟩ := tracks.call genuine
      cases ends : c.refused with
      | true =>
          rw [ends, if_pos rfl, ok] at answer
          cases answer
      | false =>
          rw [ends, if_neg Bool.false_ne_true] at later
          rw [later.table]
          exact later

/-! ## What a template substitutes by -/

/-- **A template whose last change succeeded replaces its keys, leftmost first
and then longest.**  Its keys cut every text in one way, `apply` puts the text of
each key in its place, and a text without keys stays. -/
theorem Settled.apply_fills_cut {t : Template} (settled : t.Settled) (text : String) :
    t.get? "" = none ∧
      (∃! c : Cut, c.text = text.toList ∧ c.LeftmostLongest t.get?) ∧
      (∀ c : Cut, c.text = text.toList → c.LeftmostLongest t.get? →
        (t.apply text).toList = c.filled t.get?) ∧
      ((∀ key, t.hasKey key = true → ¬ key.toList <:+: text.toList) → t.apply text = text) := by
  have tracks := settled.tracks
  obtain ⟨c, whole, leftmost, filled⟩ := (tracks.follows text _).mp rfl
  have unique : ∀ d : Cut, d.text = text.toList → d.LeftmostLongest t.get? → d = c :=
    fun d text' leftmost' =>
      Cut.eq_of_text_eq tracks.solid leftmost' leftmost (text'.trans whole.symm)
  refine ⟨tracks.solid, ⟨c, ⟨whole, leftmost⟩, fun d h => unique d h.1 h.2⟩, ?_, ?_⟩
  · intro d text' leftmost'
    rw [unique d text' leftmost', filled]
  · intro without
    have gap : (Cut.last text.toList).LeftmostLongest t.get? := by
      refine Cut.leftmostLongest_last fun key known => without key ?_
      rw [hasKey, Placeholders.any_eq_isSome]
      exact known
    exact (tracks.follows text text).mpr ⟨.last text.toList, rfl, gap, rfl⟩

theorem apply_fills_cut_overlapping :
    ∃! c : Cut, c.text = "abcabbc".toList ∧ c.LeftmostLongest
      (empty.call (.setMany [("a", "1"), ("ab", "2"), ("abc", "ab"), ("bc", "3")])).2.get? := by
  have settled : (empty.call
      (.setMany [("a", "1"), ("ab", "2"), ("abc", "ab"), ("bc", "3")])).2.Settled :=
    .call (.fresh (.inl rfl)) (by rintro other ⟨⟩) rfl
  exact (settled.apply_fills_cut "abcabbc").2.1

/-- A run that ends in a call that is not refused. -/
def EndsWell (calls : List Call) : Prop := ∃ c ∈ calls.getLast?, c.refused = false

theorem EndsWell.rdropWhile {calls : List Call} (ends : EndsWell calls) :
    calls.rdropWhile Call.refused = calls := by
  obtain ⟨c, last, accepted⟩ := ends
  obtain ⟨before, rfl⟩ := List.getLast?_eq_some_iff.mp last
  rw [List.rdropWhile_concat_neg]
  rw [accepted]
  exact Bool.false_ne_true

/-- **Runs of calls.**  The table is what the calls make of the starting table,
read from left to right.  `apply` substitutes by the table as it stood after the
last call that succeeded, so a refused call never changes it and the next call
that succeeds brings in what a refused one left behind.  Hence two runs that end
in a success with equal tables substitute alike. -/
theorem table_and_apply_after {start : Template} (fresh : start.Fresh) {calls : List Call}
    (genuine : ∀ c ∈ calls, c.Genuine) :
    ((start.after calls).get? = tableAfter start.get? calls ∧
      (∀ key, (start.after calls).hasKey key = (tableAfter start.get? calls key).isSome) ∧
      (start.after calls).size = (tableAfter start.get? calls).keys.ncard) ∧
    (start.after calls).Follows (tableAfter start.get? (calls.rdropWhile Call.refused)) ∧
    (∀ c : Call, c.Genuine →
      if c.refused then
        ((start.after calls).call c).1 = .error .emptyKey ∧
          ∀ text, ((start.after calls).call c).2.apply text = (start.after calls).apply text
      else
        ((start.after calls).call c).1 = .ok () ∧
          ((start.after calls).call c).2.Follows (c.onTable (tableAfter start.get? calls))) ∧
    (∀ (start' : Template) (calls' : List Call), start'.Fresh → (∀ c ∈ calls', c.Genuine) →
      EndsWell calls → EndsWell calls' → (start.after calls).get? = (start'.after calls').get? →
      ∀ text, (start.after calls).apply text = (start'.after calls').apply text) := by
  have run := fresh.tracks.after genuine
  refine ⟨⟨run.table, fun key => ?_, ?_⟩, run.follows, fun c ok => ?_, ?_⟩
  · rw [hasKey, Placeholders.any_eq_isSome, ← run.table]
    rfl
  · rw [← run.table]
    exact (Placeholders.ncard_keys run.sound.nodup).symm
  · obtain ⟨answer, next⟩ := run.call ok
    cases ends : c.refused with
    | true =>
        rw [ends, if_pos rfl] at answer next
        exact ⟨answer, next.follows.apply_eq run.follows⟩
    | false =>
        rw [ends, if_neg Bool.false_ne_true] at answer next
        exact ⟨answer, next.follows⟩
  · intro start' calls' fresh' genuine' ends ends' equal
    have run' := fresh'.tracks.after genuine'
    have follows := run.follows
    have follows' := run'.follows
    rw [ends.rdropWhile, ← run.table] at follows
    rw [ends'.rdropWhile, ← run'.table, ← equal] at follows'
    exact follows.apply_eq follows'

/-- Whether pairs come one by one or, after a refused call, together in another
order makes no difference. -/
theorem apply_after_regrouped :
    (empty.after [.set "a" "1", .set "b" "2"]).apply "abba" =
      (empty.after [.setMany [("b", "0"), ("", "x")], .setMany [("b", "2"), ("a", "1")]]).apply
        "abba" := by
  have same : (empty.after [.set "a" "1", .set "b" "2"]).get? =
      (empty.after [.setMany [("b", "0"), ("", "x")], .setMany [("b", "2"), ("a", "1")]]).get? := by
    funext key
    change Placeholders.get? [("a", "1"), ("b", "2")] key =
      Placeholders.get? [("b", "2"), ("a", "1")] key
    simp only [Placeholders.get?_cons]
    by_cases a : "a" = key
    · simp [← a]
    · simp [a]
  refine (table_and_apply_after (.inl rfl) ?_).2.2.2 empty _ (.inl rfl) ?_ ?_ ?_ same "abba"
  · simp [Call.Genuine]
  · simp [Call.Genuine]
  · exact ⟨_, rfl, rfl⟩
  · exact ⟨_, rfl, rfl⟩

end Template

end AccountStore
