/-
# AccountStore.Proofs.Text.Cut -- a text cut at the keys of a glossary

A glossary gives some keys their texts.  A text is cut at its keys by rule: no
key starts inside a gap, and where a gap ends stands the longest key that starts
there.  With no empty key two such cuts of a text are the same
(`Cut.eq_of_text_eq`), and `Substitution.run` finds one and puts the text of each
key in its place (`Substitution.exists_cut`).  So what was put in is never looked
at again, and neither the order nor the way in which a table came to its keys
makes a difference.
-/
import AccountStore.Proofs.Text.Substitution

namespace AccountStore

set_option autoImplicit false

/-- The text of each key, as far as there is one. -/
abbrev Glossary := String → Option String

namespace Glossary

variable (T : Glossary)

/-- Some key stands at the start of a text. -/
def Starts (s : List Char) : Prop := ∃ k : String, (T k).isSome ∧ k.toList <+: s

/-- No key starts at a position inside a gap, read on into the rest. -/
def Free (gap rest : List Char) : Prop := ∀ i < gap.length, ¬ T.Starts ((gap ++ rest).drop i)

/-- The longest of the keys that stand at the start of a text. -/
structure Longest (key : String) (s : List Char) : Prop where
  known : (T key).isSome
  starts : key.toList <+: s
  longest : ∀ k : String, (T k).isSome → k.toList <+: s → k.toList.length ≤ key.toList.length

end Glossary

/-- A text as gaps with keys between them. -/
inductive Cut where
  | last (gap : List Char)
  | key (gap : List Char) (key : String) (rest : Cut)

namespace Cut

/-- The text that is cut. -/
def text : Cut → List Char
  | .last gap => gap
  | .key gap k rest => gap ++ (k.toList ++ text rest)

/-- The gaps with the texts of the keys between them. -/
def filled (T : Glossary) : Cut → List Char
  | .last gap => gap
  | .key gap k rest => gap ++ (((T k).getD "").toList ++ filled T rest)

/-- Every key is as far to the left and then as long as can be. -/
def LeftmostLongest (T : Glossary) : Cut → Prop
  | .last gap => T.Free gap []
  | .key gap k rest =>
      T.Free gap (k.toList ++ rest.text) ∧ T.Longest k (k.toList ++ rest.text) ∧
        LeftmostLongest T rest

/-- One more character in the first gap. -/
def grow (c : Char) : Cut → Cut
  | .last gap => .last (c :: gap)
  | .key gap k rest => .key (c :: gap) k rest

@[simp] theorem text_grow (c : Char) (d : Cut) : (d.grow c).text = c :: d.text := by
  cases d <;> rfl

@[simp] theorem filled_grow (T : Glossary) (c : Char) (d : Cut) :
    (d.grow c).filled T = c :: d.filled T := by
  cases d <;> rfl

end Cut

namespace Glossary

variable {T : Glossary}

theorem free_nil (rest : List Char) : T.Free [] rest := by
  intro i hi
  exact absurd hi (Nat.not_lt_zero i)

theorem free_cons_iff {c : Char} {gap rest : List Char} :
    T.Free (c :: gap) rest ↔ ¬ T.Starts (c :: (gap ++ rest)) ∧ T.Free gap rest := by
  constructor
  · intro free
    refine ⟨free 0 (Nat.zero_lt_succ _), fun i hi => ?_⟩
    exact free (i + 1) (Nat.succ_lt_succ hi)
  · rintro ⟨first, later⟩ i hi
    cases i with
    | zero => exact first
    | succ i => exact later i (Nat.lt_of_succ_lt_succ hi)

theorem toList_ne_nil (solid : T "" = none) {k : String} (known : (T k).isSome) :
    k.toList ≠ [] := by
  intro empty
  obtain rfl : k = "" := String.toList_inj.mp empty
  rw [solid] at known
  cases known

/-- Nothing starts at the end of a text, as long as no key is empty. -/
theorem not_starts_nil (solid : T "" = none) : ¬ T.Starts [] := by
  rintro ⟨k, known, starts⟩
  exact toList_ne_nil solid known (List.prefix_nil.mp starts)

/-- A gap without keys ends no later than where a key starts. -/
theorem Free.length_le {gap rest gap' rest' : List Char} (free : T.Free gap rest)
    (same : gap ++ rest = gap' ++ rest') (starts : T.Starts rest') :
    gap.length ≤ gap'.length := by
  rcases Nat.lt_or_ge gap'.length gap.length with longer | short
  · have inside := free gap'.length longer
    rw [same, List.drop_left] at inside
    exact absurd starts inside
  · exact short

theorem Longest.start {k : String} {s : List Char} (h : T.Longest k s) : T.Starts s :=
  ⟨k, h.known, h.starts⟩

theorem Longest.eq {k k' : String} {s : List Char} (h : T.Longest k s) (h' : T.Longest k' s) :
    k = k' := by
  have shorter := h.longest k' h'.known h'.starts
  have longer := h'.longest k h.known h.starts
  have within : k.toList <+: k'.toList :=
    List.prefix_of_prefix_length_le h.starts h'.starts longer
  exact String.toList_inj.mp (within.eq_of_length (Nat.le_antisymm longer shorter))

end Glossary

namespace Cut

variable {T : Glossary}

theorem LeftmostLongest.grow {c : Char} {d : Cut} (h : d.LeftmostLongest T)
    (starts : ¬ T.Starts (c :: d.text)) : (d.grow c).LeftmostLongest T := by
  cases d with
  | last gap =>
      simp only [text] at starts
      refine Glossary.free_cons_iff.mpr ⟨?_, h⟩
      simpa using starts
  | key gap k rest => exact ⟨Glossary.free_cons_iff.mpr ⟨starts, h.1⟩, h.2⟩

/-- Two cuts at keys agree on the first gap, since a key starts at the end of
each of them. -/
theorem gap_eq {gap rest gap' rest' : List Char} (free : T.Free gap rest)
    (free' : T.Free gap' rest') (starts : T.Starts rest) (starts' : T.Starts rest')
    (same : gap ++ rest = gap' ++ rest') :
    gap = gap' ∧ rest = rest' := by
  have lengths : gap.length = gap'.length :=
    Nat.le_antisymm (free.length_le same starts') (free'.length_le same.symm starts)
  exact List.append_inj same lengths

/-- A last gap has no key in it. -/
theorem last_ne_key (solid : T "" = none) {gap gap' rest : List Char} (free : T.Free gap [])
    (starts : T.Starts rest) : gap ≠ gap' ++ rest := by
  intro same
  have short := free.length_le (by rw [List.append_nil]; exact same) starts
  have empty : rest = [] := by
    have lengths := congrArg List.length same
    rw [List.length_append] at lengths
    exact List.length_eq_zero_iff.mp (by omega)
  rw [empty] at starts
  exact Glossary.not_starts_nil solid starts

/-- **There is one way to cut a text.** -/
theorem eq_of_text_eq (solid : T "" = none) : ∀ {c d : Cut}, c.LeftmostLongest T →
    d.LeftmostLongest T → c.text = d.text → c = d
  | .last gap, .last gap', _, _, same => by
      rw [text, text] at same
      rw [same]
  | .last gap, .key gap' k rest, h, h', same =>
      absurd same (last_ne_key solid h h'.2.1.start)
  | .key gap k rest, .last gap', h, h', same =>
      absurd same.symm (last_ne_key solid h' h.2.1.start)
  | .key gap k rest, .key gap' k' rest', ⟨free, longest, later⟩, ⟨free', longest', later'⟩,
      same => by
      obtain ⟨rfl, remaining⟩ := gap_eq free free' longest.start longest'.start same
      rw [← remaining] at longest'
      obtain rfl := longest.eq longest'
      rw [eq_of_text_eq solid later later' (List.append_cancel_left remaining)]

/-- A text in which no key occurs is one gap. -/
theorem leftmostLongest_last {s : List Char}
    (without : ∀ k : String, (T k).isSome → ¬ k.toList <:+: s) :
    (Cut.last s).LeftmostLongest T := by
  rintro i - ⟨k, known, starts⟩
  rw [List.append_nil] at starts
  exact without k known (starts.isInfix.trans (List.drop_suffix i s).isInfix)

end Cut

/-- A text becomes another when the texts of its keys are put in their places. -/
def Substitutes (T : Glossary) (text result : String) : Prop :=
  ∃ c : Cut, c.text = text.toList ∧ c.LeftmostLongest T ∧ result.toList = c.filled T

theorem Substitutes.unique {T : Glossary} (solid : T "" = none) {text result result' : String}
    (h : Substitutes T text result) (h' : Substitutes T text result') : result = result' := by
  obtain ⟨c, whole, leftmost, filled⟩ := h
  obtain ⟨c', whole', leftmost', filled'⟩ := h'
  obtain rfl := Cut.eq_of_text_eq solid leftmost leftmost' (whole.trans whole'.symm)
  exact String.toList_inj.mp (filled.trans filled'.symm)

/-! ## Substitution -/

namespace Substitution

section Cons

variable {key value : String} {rest : Placeholders} {s : List Char}

/-- A key of a table is its first key or a key of the rest. -/
theorem isSome_get?_cons (k : String) :
    (Placeholders.get? ((key, value) :: rest) k).isSome ↔
      k = key ∨ (Placeholders.get? rest k).isSome := by
  rw [Placeholders.get?_cons]
  by_cases same : key = k
  · simp [same]
  · simp [same, Ne.symm same]

theorem starts_cons_iff :
    Glossary.Starts (Placeholders.get? ((key, value) :: rest)) s ↔
      key.toList <+: s ∨ Glossary.Starts (Placeholders.get? rest) s := by
  constructor
  · rintro ⟨k, known, starts⟩
    rcases (isSome_get?_cons k).mp known with rfl | later
    · exact .inl starts
    · exact .inr ⟨k, later, starts⟩
  · rintro (starts | ⟨k, known, starts⟩)
    · exact ⟨key, (isSome_get?_cons key).mpr (.inl rfl), starts⟩
    · exact ⟨k, (isSome_get?_cons k).mpr (.inr known), starts⟩

/-- The first key is the longest one when no key of the rest is longer. -/
theorem longest_first (starts : key.toList <+: s)
    (others : ∀ k, (Placeholders.get? rest k).isSome → k.toList <+: s →
      k.toList.length ≤ key.toList.length) :
    Glossary.Longest (Placeholders.get? ((key, value) :: rest)) key s := by
  refine ⟨(isSome_get?_cons key).mpr (.inl rfl), starts, fun k known starts' => ?_⟩
  rcases (isSome_get?_cons k).mp known with rfl | later
  · exact Nat.le_refl _
  · exact others k later starts'

/-- The longest key of the rest stays so beside a first key that is not longer. -/
theorem longest_later {k : String} (longest : Glossary.Longest (Placeholders.get? rest) k s)
    (first : key.toList <+: s → key.toList.length ≤ k.toList.length) :
    Glossary.Longest (Placeholders.get? ((key, value) :: rest)) k s := by
  refine ⟨(isSome_get?_cons k).mpr (.inr longest.known), longest.starts, fun k' known starts' => ?_⟩
  rcases (isSome_get?_cons k').mp known with rfl | later
  · exact first starts'
  · exact longest.longest k' later starts'

theorem longestMatch_skip (other : ¬ key.toList <+: s) :
    longestMatch ((key, value) :: rest) s = longestMatch rest s := by
  have miss : key.toList.isPrefixOf s = false := by
    rw [Bool.eq_false_iff]
    exact fun stands => other (List.isPrefixOf_iff_prefix.mp stands)
  rw [longestMatch, miss, Bool.false_and, if_neg Bool.false_ne_true]

theorem taken_of_starts (nonempty : key ≠ "") (starts : key.toList <+: s) :
    (key.toList.isPrefixOf s && key != "") = true := by
  rw [List.isPrefixOf_iff_prefix.mpr starts, Bool.true_and, bne_iff_ne]
  exact nonempty

/-- A key that stands there is the match, unless the match of the rest is longer. -/
theorem longestMatch_first (nonempty : key ≠ "") (starts : key.toList <+: s)
    (shorter : ∀ k v, longestMatch rest s = some (k, v) →
      k.toList.length ≤ key.toList.length) :
    longestMatch ((key, value) :: rest) s = some (key, value) := by
  rw [longestMatch, if_pos (taken_of_starts nonempty starts)]
  split
  · next k v found => rw [if_neg (Nat.not_lt.mpr (shorter k v found))]
  · rfl

theorem longestMatch_later {k v : String} (nonempty : key ≠ "") (starts : key.toList <+: s)
    (found : longestMatch rest s = some (k, v)) (longer : key.toList.length < k.toList.length) :
    longestMatch ((key, value) :: rest) s = some (k, v) := by
  rw [longestMatch, if_pos (taken_of_starts nonempty starts), found]
  exact if_pos longer

end Cons

/-- What the match at a position comes to: no key stands there, or it is the longest that
does. -/
def Matches (ps : Placeholders) (s : List Char) : Prop :=
  (longestMatch ps s = none ∧ ¬ Glossary.Starts ps.get? s) ∨
    ∃ k v, longestMatch ps s = some (k, v) ∧ ps.get? k = some v ∧ Glossary.Longest ps.get? k s

section Cons

variable {key value : String} {rest : Placeholders} {s : List Char}

theorem Matches.skip (h : Matches rest s) (other : ¬ key.toList <+: s) :
    Matches ((key, value) :: rest) s := by
  unfold Matches
  rw [longestMatch_skip other, starts_cons_iff]
  rcases h with ⟨none, without⟩ | ⟨k, v, some, found, longest⟩
  · exact .inl ⟨none, not_or.mpr ⟨other, without⟩⟩
  · have apart : key ≠ k := by
      rintro rfl
      exact other longest.starts
    refine .inr ⟨k, v, some, ?_, longest_later longest fun stands => absurd stands other⟩
    rw [Placeholders.get?_cons, if_neg apart, found]

theorem Matches.take (h : Matches rest s) (nonempty : key ≠ "") (starts : key.toList <+: s) :
    Matches ((key, value) :: rest) s := by
  have first : Placeholders.get? ((key, value) :: rest) key = some value := by
    rw [Placeholders.get?_cons, if_pos rfl]
  rcases h with ⟨none, without⟩ | ⟨k, v, some, found, longest⟩
  · refine .inr ⟨key, value, longestMatch_first nonempty starts ?_, first,
      longest_first starts fun k known starts' => absurd ⟨k, known, starts'⟩ without⟩
    intro k v some
    rw [none] at some
    cases some
  · by_cases longer : key.toList.length < k.toList.length
    · have apart : key ≠ k := by
        rintro rfl
        exact Nat.lt_irrefl _ longer
      refine .inr ⟨k, v, longestMatch_later nonempty starts some longer, ?_,
        longest_later longest fun _ => Nat.le_of_lt longer⟩
      rw [Placeholders.get?_cons, if_neg apart, found]
    · have shorter : k.toList.length ≤ key.toList.length := Nat.not_lt.mp longer
      refine .inr ⟨key, value, longestMatch_first nonempty starts ?_, first,
        longest_first starts fun k' known starts' =>
          Nat.le_trans (longest.longest k' known starts') shorter⟩
      intro k' v' same
      rw [some] at same
      cases same
      exact shorter

end Cons

/-- **The match at a position is the longest key that stands there**, and there
is none only where no key stands. -/
theorem longestMatch_cases {ps : Placeholders} (solid : ps.get? "" = none) (s : List Char) :
    Matches ps s := by
  induction ps with
  | nil =>
      refine .inl ⟨rfl, ?_⟩
      rintro ⟨k, known, -⟩
      cases known
  | cons p rest ih =>
      obtain ⟨key, value⟩ := p
      have nonempty : key ≠ "" := by
        rintro rfl
        simp [Placeholders.get?_cons] at solid
      rw [Placeholders.get?_cons, if_neg nonempty] at solid
      by_cases starts : key.toList <+: s
      · exact (ih solid).take nonempty starts
      · exact (ih solid).skip starts

/-- **Substitution fills a cut at the leftmost and then longest keys.** -/
theorem exists_cut {ps : Placeholders} (solid : ps.get? "" = none) (s : List Char) :
    ∃ c : Cut, c.text = s ∧ c.LeftmostLongest ps.get? ∧ run ps s = c.filled ps.get? := by
  fun_induction run ps s with
  | case1 => exact ⟨.last [], rfl, Glossary.free_nil [], rfl⟩
  | case2 c r k v hit ih =>
      obtain ⟨d, text, leftmost, filled⟩ := ih
      rcases longestMatch_cases solid (c :: r) with ⟨none, -⟩ | ⟨k', v', some, found, longest⟩
      · rw [hit] at none
        cases none
      · rw [hit] at some
        cases some
        obtain ⟨after, whole⟩ := longest.starts
        have behind : r.drop (k.toList.length - 1) = after := by
          cases letters : k.toList with
          | nil => exact absurd letters (Glossary.toList_ne_nil solid longest.known)
          | cons b k' =>
              rw [letters, List.cons_append, List.cons.injEq] at whole
              rw [List.length_cons, Nat.add_sub_cancel, ← whole.2, List.drop_left]
        rw [behind] at text filled
        rw [← text] at whole
        refine ⟨.key [] k d, whole, ⟨Glossary.free_nil _, by rwa [whole], leftmost⟩, ?_⟩
        rw [Cut.filled, found, behind, filled]
        rfl
  | case3 c r miss ih =>
      obtain ⟨d, text, leftmost, filled⟩ := ih
      rcases longestMatch_cases solid (c :: r) with ⟨-, without⟩ | ⟨k, v, some, -, -⟩
      · rw [← text] at without
        refine ⟨d.grow c, ?_, leftmost.grow without, ?_⟩
        · rw [Cut.text_grow, text]
        · rw [Cut.filled_grow, filled]
      · rw [miss] at some
        cases some

end Substitution

end AccountStore
