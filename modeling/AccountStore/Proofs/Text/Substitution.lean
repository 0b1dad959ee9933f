/-
# AccountStore.Proofs.Text.Substitution -- placeholders between dollar signs

A key that is a name between two `$` starts no text but one in which it stands
whole, so at every position at most one of several such keys can match.  Hence
a template is substituted piece by piece: text without `$` stays
(`run_append_literal`) and a key gives way to its text (`run_append_key`),
whatever comes next.
-/
import AccountStore.Template

namespace AccountStore

set_option autoImplicit false

/-- A name between two dollar signs. -/
def Delimited (key : String) : Prop :=
  ∃ name : List Char, '$' ∉ name ∧ key.toList = '$' :: (name ++ ['$'])

/-- All keys are names between dollar signs. -/
def Placeholders.Delimited (ps : Placeholders) : Prop :=
  ∀ p ∈ ps, AccountStore.Delimited p.1

theorem Placeholders.get?_cons (k v : String) (rest : Placeholders) (key : String) :
    Placeholders.get? ((k, v) :: rest) key = if k = key then some v else rest.get? key := by
  by_cases same : k = key
  · simp [Placeholders.get?, same]
  · have other : (key == k) = false := by simpa using Ne.symm same
    rw [if_neg same, Placeholders.get?, List.lookup_cons, other]
    rfl

namespace Substitution

theorem takeWhile_ne_dollar {name : List Char} (h : '$' ∉ name) (r : List Char) :
    (name ++ '$' :: r).takeWhile (· != '$') = name := by
  rw [List.takeWhile_append_of_pos]
  · simp
  · intro c hc
    simp only [bne_iff_ne, ne_eq]
    rintro rfl
    exact h hc

theorem eq_of_isPrefix {key key' : String} {r : List Char} (h : Delimited key)
    (h' : Delimited key') (starts : key'.toList <+: key.toList ++ r) : key' = key := by
  obtain ⟨name, free, eq⟩ := h
  obtain ⟨name', free', eq'⟩ := h'
  obtain ⟨rest, whole⟩ := starts
  rw [eq, eq'] at whole
  simp only [List.cons_append, List.append_assoc, List.nil_append, List.cons.injEq,
    true_and] at whole
  have names : name' = name := by
    rw [← takeWhile_ne_dollar free' rest, whole, takeWhile_ne_dollar free r]
  rw [← String.toList_inj, eq, eq', names]

/-- No such key starts a text that does not start with `$`. -/
theorem longestMatch_of_ne {ps : Placeholders} (delimited : ps.Delimited) {c : Char}
    (h : c ≠ '$') (r : List Char) : longestMatch ps (c :: r) = none := by
  induction ps with
  | nil => rfl
  | cons p rest ih =>
      obtain ⟨k, v⟩ := p
      obtain ⟨name, -, eq⟩ := delimited (k, v) List.mem_cons_self
      have starts : k.toList.isPrefixOf (c :: r) = false := by
        rw [eq, List.isPrefixOf_cons_cons]
        simp [Ne.symm h]
      rw [longestMatch, ih (fun p hp => delimited p (List.mem_cons_of_mem _ hp)), starts]
      rfl

/-- At a key of the table it is this key that matches. -/
theorem longestMatch_key {ps : Placeholders} (delimited : ps.Delimited) {key : String}
    (h : Delimited key) (r : List Char) :
    longestMatch ps (key.toList ++ r) = (ps.get? key).map (fun v => (key, v)) := by
  have nonempty : key ≠ "" := by
    obtain ⟨name, -, eq⟩ := h
    rintro rfl
    simp at eq
  induction ps with
  | nil => rfl
  | cons p rest ih =>
      obtain ⟨k, v⟩ := p
      have later := ih (fun p hp => delimited p (List.mem_cons_of_mem _ hp))
      rw [longestMatch, later, Placeholders.get?_cons]
      by_cases same : k = key
      · subst same
        have starts : k.toList.isPrefixOf (k.toList ++ r) = true := by simp
        have hit : (k != "") = true := by simpa using nonempty
        simp only [starts, hit, Bool.and_self, if_true]
        cases Placeholders.get? rest k <;> simp
      · have starts : k.toList.isPrefixOf (key.toList ++ r) = false := by
          rw [Bool.eq_false_iff]
          intro starts
          exact same (eq_of_isPrefix h (delimited (k, v) List.mem_cons_self)
            (List.isPrefixOf_iff_prefix.mp starts))
        simp [starts, same]

/-- Text without dollar signs stays. -/
theorem run_append_literal {ps : Placeholders} (delimited : ps.Delimited) :
    ∀ {s : List Char}, '$' ∉ s → ∀ r : List Char, run ps (s ++ r) = s ++ run ps r
  | [], _, _ => rfl
  | c :: s, free, r => by
      have ne : c ≠ '$' := fun same => free (same ▸ List.mem_cons_self)
      rw [List.cons_append, run, longestMatch_of_ne delimited ne]
      exact congrArg (c :: ·)
        (run_append_literal delimited (fun h => free (List.mem_cons_of_mem _ h)) r)

/-- A key of the table gives way to its text. -/
theorem run_append_key {ps : Placeholders} (delimited : ps.Delimited) {key value : String}
    (h : Delimited key) (found : ps.get? key = some value) (r : List Char) :
    run ps (key.toList ++ r) = value.toList ++ run ps r := by
  have hit := longestMatch_key delimited h r
  obtain ⟨name, -, eq⟩ := h
  rw [found, eq, List.cons_append] at hit
  have rest : (name ++ ['$'] ++ r).drop (key.toList.length - 1) = r := by
    rw [eq, List.length_cons, Nat.add_sub_cancel, List.drop_left]
  rw [eq, List.cons_append, run, hit, Option.map_some]
  simp only [rest]

end Substitution

end AccountStore
