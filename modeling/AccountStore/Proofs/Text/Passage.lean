/-
# AccountStore.Proofs.Text.Passage -- what substitution does to a part of a text

A passage `Becomes` another when substitution puts the one for the other wherever
it stands.  Passages follow each other (`Becomes.append`, `Becomes.intercalate`), and
any text with a character behind it that is in no key is a passage, whatever it holds
(`becomes_before`): no key reaches past that character.

When every key has more of some character than its text, a text keeps the number of
these characters only if it is kept as a whole, and this is the case exactly if no
key stands in it (`run_eq_self_iff`, `count_run_eq_iff`).
-/
import Mathlib.Algebra.GroupWithZero.Nat
import AccountStore.Proofs.Text.Cut

namespace AccountStore

set_option autoImplicit false

namespace Substitution

/-! ## Passages -/

/-- Wherever `a` stands, `b` takes its place, and what follows goes its own way. -/
def Becomes (ps : Placeholders) (a b : String) : Prop :=
  ∀ r, run ps (a.toList ++ r) = b.toList ++ run ps r

section Passages

variable {ps : Placeholders} {a b a' b' : String}

theorem Becomes.run_eq (h : Becomes ps a b) : run ps a.toList = b.toList := by
  have whole := h []
  rwa [List.append_nil, run_nil, List.append_nil] at whole

theorem Becomes.append (h : Becomes ps a b) (h' : Becomes ps a' b') :
    Becomes ps (a ++ a') (b ++ b') := by
  intro r
  rw [String.toList_append, String.toList_append, List.append_assoc, List.append_assoc, h, h']

theorem becomes_literal (delimited : ps.Delimited) (free : '$' ∉ a.toList) : Becomes ps a a :=
  run_append_literal delimited free

theorem Becomes.intercalate {α : Type} {f g : α → String} {sep : String}
    (between : Becomes ps sep sep) : ∀ {xs : List α}, (∀ x ∈ xs, Becomes ps (f x) (g x)) →
      Becomes ps (sep.intercalate (xs.map f)) (sep.intercalate (xs.map g))
  | [], _ => fun _ => rfl
  | [x], each => by
      simpa using each x List.mem_cons_self
  | x :: y :: rest, each => by
      have later := between.intercalate (fun z hz => each z (List.mem_cons_of_mem x hz))
      simp only [List.map_cons] at later ⊢
      rw [String.intercalate_cons_of_ne_nil (List.cons_ne_nil _ _),
        String.intercalate_cons_of_ne_nil (List.cons_ne_nil _ _)]
      exact ((each x List.mem_cons_self).append between).append later

/-! ### Up to a character that is in no key -/

variable {d : Char}

theorem isPrefixOf_append_cons : ∀ {k : List Char}, d ∉ k → ∀ x r : List Char,
    k.isPrefixOf (x ++ d :: r) = k.isPrefixOf x
  | [], _, _, _ => by simp
  | c :: k, free, [], r => by
      have other : (c == d) = false := by
        simp only [beq_eq_false_iff_ne]
        exact fun same => free (same ▸ List.mem_cons_self)
      rw [List.nil_append, List.isPrefixOf_cons_cons, other, Bool.false_and]
      rfl
  | c :: k, free, c' :: x, r => by
      rw [List.cons_append, List.isPrefixOf_cons_cons, List.isPrefixOf_cons_cons,
        isPrefixOf_append_cons (fun inside => free (List.mem_cons_of_mem c inside))]

/-- No key that matches reaches past `d`. -/
theorem longestMatch_append_cons : ∀ {ps : Placeholders}, (∀ p ∈ ps, d ∉ p.1.toList) →
    ∀ x r : List Char, longestMatch ps (x ++ d :: r) = longestMatch ps x
  | [], _, _, _ => rfl
  | (k, v) :: rest, free, x, r => by
      have first : d ∉ k.toList := free (k, v) List.mem_cons_self
      rw [longestMatch, longestMatch, isPrefixOf_append_cons first,
        longestMatch_append_cons (fun p hp => free p (List.mem_cons_of_mem _ hp))]

/-- What stands before such a character is substituted on its own. -/
theorem run_append_cons (solid : ps.get? "" = none) (free : ∀ p ∈ ps, d ∉ p.1.toList)
    (x r : List Char) :
    run ps (x ++ d :: r) = run ps x ++ run ps (d :: r) := by
  fun_induction run ps x with
  | case1 => rfl
  | case2 c x k v hit ih =>
      have reach : k.toList.length ≤ x.length + 1 := by
        rcases longestMatch_cases solid (c :: x) with ⟨none, -⟩ | ⟨k', v', some, -, longest⟩
        · rw [hit] at none
          cases none
        · rw [hit] at some
          cases some
          exact longest.starts.length_le
      have same : longestMatch ps (c :: (x ++ d :: r)) = some (k, v) :=
        (longestMatch_append_cons free (c :: x) r).trans hit
      rw [List.cons_append, run, same]
      simp only
      rw [List.drop_append_of_le_length (by omega), ih, List.append_assoc]
  | case3 c x miss ih =>
      have same : longestMatch ps (c :: (x ++ d :: r)) = none :=
        (longestMatch_append_cons free (c :: x) r).trans miss
      rw [List.cons_append, run, same]
      exact congrArg (c :: ·) ih

/-- **Any text with such a character behind it is a passage.** -/
theorem becomes_before (solid : ps.get? "" = none) (free : ∀ p ∈ ps, d ∉ p.1.toList)
    (between : Becomes ps (String.singleton d) (String.singleton d)) (a : String) :
    Becomes ps (a ++ String.singleton d) (String.ofList (run ps a.toList) ++ String.singleton d) := by
  intro r
  have behind : run ps (d :: r) = d :: run ps r := by simpa using between r
  simp only [String.toList_append, String.toList_singleton, String.toList_ofList, List.append_assoc,
    List.singleton_append]
  rw [run_append_cons solid free, behind]

end Passages

end Substitution

/-! ## Texts that are kept -/

/-- A separator without `d` adds none. -/
theorem count_intercalate {sep : String} {d : Char} (free : d ∉ sep.toList) :
    ∀ xs : List String, (sep.intercalate xs).toList.count d =
      (xs.map fun x => x.toList.count d).sum
  | [] => by simp
  | [x] => by simp
  | x :: y :: rest => by
      have later := count_intercalate free (y :: rest)
      rw [String.intercalate_cons_of_ne_nil (List.cons_ne_nil y rest), String.toList_append,
        String.toList_append, List.count_append, List.count_append, later,
        List.count_eq_zero.mpr free, Nat.add_zero]
      rfl

/-- Every key has more of `d` in it than its text. -/
def Glossary.Sheds (T : Glossary) (d : Char) : Prop :=
  ∀ k v : String, T k = some v → v.toList.count d < k.toList.count d

theorem Glossary.Sheds.solid {T : Glossary} {d : Char} (sheds : T.Sheds d) : T "" = none := by
  cases found : T "" with
  | none => rfl
  | some v => exact absurd (sheds "" v found) (Nat.not_lt_zero _)

/-- Filling a cut loses some `d` with every key. -/
theorem Cut.count_filled {T : Glossary} {d : Char} (sheds : T.Sheds d) :
    ∀ {c : Cut}, c.LeftmostLongest T → (c.filled T).count d ≤ c.text.count d ∧
      ((c.filled T).count d = c.text.count d → c = .last c.text)
  | .last gap, _ => ⟨Nat.le_refl _, fun _ => rfl⟩
  | .key gap k rest, ⟨_, longest, later⟩ => by
      obtain ⟨v, found⟩ := Option.isSome_iff_exists.mp longest.known
      have less := sheds k v found
      have fewer := (count_filled sheds later).1
      simp only [filled, text, found, Option.getD_some, List.count_append]
      exact ⟨by omega, fun same => by omega⟩

namespace Substitution

variable {ps : Placeholders} {d : Char}

theorem count_run_le (sheds : Glossary.Sheds ps.get? d) (s : List Char) :
    (run ps s).count d ≤ s.count d := by
  obtain ⟨c, rfl, leftmost, filled⟩ := exists_cut sheds.solid s
  rw [filled]
  exact (Cut.count_filled sheds leftmost).1

/-- A text without keys is one gap. -/
theorem run_of_free (solid : ps.get? "" = none) {s : List Char}
    (free : ∀ k : String, (ps.get? k).isSome → ¬ k.toList <:+: s) : run ps s = s := by
  obtain ⟨c, text, leftmost, filled⟩ := exists_cut solid s
  obtain rfl := Cut.eq_of_text_eq solid leftmost (Cut.leftmostLongest_last free) text
  exact filled

/-- **A text keeps its number of `d` if and only if no key stands in it.** -/
theorem count_run_eq_iff (sheds : Glossary.Sheds ps.get? d) {s : List Char} :
    (run ps s).count d = s.count d ↔ ∀ k : String, (ps.get? k).isSome → ¬ k.toList <:+: s := by
  constructor
  · intro same k known inside
    obtain ⟨c, rfl, leftmost, filled⟩ := exists_cut sheds.solid s
    rw [filled] at same
    rw [(Cut.count_filled sheds leftmost).2 same] at leftmost
    obtain ⟨before, after, whole⟩ := inside
    have nonempty := List.length_pos_iff.mpr (Glossary.toList_ne_nil sheds.solid known)
    have short : before.length < c.text.length := by
      rw [← whole, List.length_append, List.length_append]
      omega
    refine leftmost before.length short ⟨k, known, after, ?_⟩
    rw [List.append_nil, ← whole, List.append_assoc, List.drop_left]
  · exact fun free => congrArg (List.count d) (run_of_free sheds.solid free)

/-- **A text is kept if and only if no key stands in it.** -/
theorem run_eq_self_iff (sheds : Glossary.Sheds ps.get? d) {s : List Char} :
    run ps s = s ↔ ∀ k : String, (ps.get? k).isSome → ¬ k.toList <:+: s :=
  ⟨fun same => (count_run_eq_iff sheds).mp (congrArg (List.count d) same),
    run_of_free sheds.solid⟩

end Substitution

end AccountStore
