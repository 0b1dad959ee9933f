/-
# AccountStore.Proofs.Template.Entries -- a list of placeholders as a glossary

A list of placeholders is read as the glossary that its lookup gives.  Insertion
and removal change that glossary at one key (`get?_insert`, `get?_erase`), so
pairs put in one after another leave the last text of each key
(`get?_insertAll`), and taking over a whole table lays it over the old one
(`putAll_get?`).  A table holds each key once and no empty key (`Sound`), which
both changes preserve; then its length is the number of keys that it knows
(`ncard_keys`).
-/
import AccountStore.Proofs.Store.Entries
import AccountStore.Proofs.Text.Cut
import Mathlib.Data.Set.Card

namespace AccountStore

set_option autoImplicit false

namespace Glossary

/-- Puts in pairs from left to right; of two texts for a key the later stays. -/
def putAll (T : Glossary) : List (String × String) → Glossary
  | [] => T
  | (k, v) :: rest => putAll (Function.update T k (some v)) rest

def removeAll (T : Glossary) : List String → Glossary
  | [] => T
  | k :: rest => removeAll (Function.update T k none) rest

/-- The keys of `U` have the texts of `U`, all others keep theirs. -/
def overlay (T U : Glossary) : Glossary := fun k => (U k).or (T k)

/-- The keys that have a text. -/
def keys (T : Glossary) : Set String := {k | (T k).isSome}

end Glossary

namespace Placeholders

/-- Each key is there once, and none is empty. -/
structure Sound (ps : Placeholders) : Prop where
  nodup : (ps.map Prod.fst).Nodup
  solid : ps.get? "" = none

theorem sound_nil : Sound [] := ⟨List.nodup_nil, rfl⟩

/-- A key is known where a pair carries it. -/
theorem isSome_get?_iff {ps : Placeholders} {key : String} :
    (ps.get? key).isSome ↔ key ∈ ps.map Prod.fst := by
  induction ps with
  | nil => simp [get?]
  | cons p rest ih => rw [Substitution.isSome_get?_cons, ih, List.map_cons, List.mem_cons]

theorem any_eq_isSome (ps : Placeholders) (key : String) :
    ps.any (fun p => p.1 == key) = (ps.get? key).isSome := by
  rw [Bool.eq_iff_iff, isSome_get?_iff, List.any_eq_true, List.mem_map]
  simp only [beq_iff_eq]

/-- A table of distinct keys is as long as it has keys. -/
theorem ncard_keys {ps : Placeholders} (nodup : (ps.map Prod.fst).Nodup) :
    (Glossary.keys ps.get?).ncard = ps.length := by
  have listed : Glossary.keys ps.get? = ((ps.map Prod.fst).toFinset : Set String) := by
    ext key
    rw [List.coe_toFinset]
    exact isSome_get?_iff
  rw [listed, Set.ncard_coe_finset, List.toFinset_card_of_nodup nodup, List.length_map]

/-! ## Insertion -/

theorem get?_insert (ps : Placeholders) (key value : String) :
    (ps.insert key value).get? = Function.update ps.get? key (some value) := by
  funext k
  induction ps with
  | nil =>
      rw [insert, get?_cons]
      by_cases same : key = k
      · rw [same, if_pos rfl, Function.update_self]
      · rw [if_neg same, Function.update_of_ne (Ne.symm same)]
  | cons p rest ih =>
      obtain ⟨k', v'⟩ := p
      by_cases here : k' = key
      · subst here
        rw [insert, if_pos rfl, get?_cons]
        by_cases same : k' = k
        · rw [same, if_pos rfl, Function.update_self]
        · rw [if_neg same, Function.update_of_ne (Ne.symm same), get?_cons, if_neg same]
      · rw [insert, if_neg here, get?_cons, ih]
        by_cases same : k' = k
        · subst same
          rw [if_pos rfl, Function.update_of_ne here, get?_cons, if_pos rfl]
        · rw [if_neg same]
          by_cases asked : k = key
          · rw [asked, Function.update_self, Function.update_self]
          · rw [Function.update_of_ne asked, Function.update_of_ne asked, get?_cons, if_neg same]

/-- An insertion keeps the places of the keys that are there. -/
theorem map_fst_insert (ps : Placeholders) (key value : String) :
    (ps.insert key value).map Prod.fst =
      if key ∈ ps.map Prod.fst then ps.map Prod.fst else ps.map Prod.fst ++ [key] := by
  induction ps with
  | nil => rfl
  | cons p rest ih =>
      obtain ⟨k, v⟩ := p
      by_cases here : k = key
      · simp [insert, here]
      · rw [insert, if_neg here, List.map_cons, ih]
        by_cases later : key ∈ rest.map Prod.fst
        · rw [if_pos later, if_pos (by rw [List.map_cons]; exact List.mem_cons_of_mem _ later)]
          rfl
        · rw [if_neg later, if_neg (by simpa [Ne.symm here] using later)]
          rfl

theorem Sound.insert {ps : Placeholders} (h : ps.Sound) {key : String} (nonempty : key ≠ "")
    (value : String) : (ps.insert key value).Sound := by
  refine ⟨?_, ?_⟩
  · rw [map_fst_insert]
    split
    · exact h.nodup
    · rename_i fresh
      exact h.nodup.append (List.nodup_singleton key) (by simpa using fresh)
  · rw [get?_insert, Function.update_of_ne (Ne.symm nonempty), h.solid]

/-- Inserts pairs one after another. -/
def insertAll (ps : Placeholders) : List (String × String) → Placeholders
  | [] => ps
  | (k, v) :: rest => insertAll (ps.insert k v) rest

theorem get?_insertAll (ps : Placeholders) (pairs : List (String × String)) :
    (ps.insertAll pairs).get? = Glossary.putAll ps.get? pairs := by
  induction pairs generalizing ps with
  | nil => rfl
  | cons p rest ih => rw [insertAll, ih, get?_insert, Glossary.putAll]

theorem Sound.insertAll {ps : Placeholders} (h : ps.Sound) {pairs : List (String × String)}
    (nonempty : ∀ p ∈ pairs, p.1 ≠ "") : (ps.insertAll pairs).Sound := by
  induction pairs generalizing ps with
  | nil => exact h
  | cons p rest ih =>
      have first := h.insert (nonempty p List.mem_cons_self) p.2
      exact ih first fun q hq => nonempty q (List.mem_cons_of_mem p hq)

/-- Taking over a table of distinct keys lays it over the old one. -/
theorem putAll_get? (T : Glossary) {ps : Placeholders} (nodup : (ps.map Prod.fst).Nodup) :
    T.putAll ps = T.overlay ps.get? := by
  induction ps generalizing T with
  | nil => rfl
  | cons p rest ih =>
      obtain ⟨key, value⟩ := p
      rw [List.map_cons, List.nodup_cons] at nodup
      rw [Glossary.putAll, ih (Function.update T key (some value)) nodup.2]
      funext k
      rw [Glossary.overlay, Glossary.overlay, get?_cons]
      by_cases same : key = k
      · subst same
        have absent : Placeholders.get? rest key = none := by
          rw [← Option.not_isSome_iff_eq_none, isSome_get?_iff]
          exact nodup.1
        rw [absent, if_pos rfl, Function.update_self]
        rfl
      · rw [if_neg same, Function.update_of_ne (Ne.symm same)]

/-! ## Removal -/

theorem get?_erase (ps : Placeholders) (key : String) :
    (ps.erase key).get? = Function.update ps.get? key none := by
  funext k
  by_cases same : k = key
  · rw [same, Function.update_self]
    exact lookup_filter_self ps key
  · rw [Function.update_of_ne same]
    exact lookup_filter_ne ps same

theorem Sound.erase {ps : Placeholders} (h : ps.Sound) (key : String) : (ps.erase key).Sound := by
  refine ⟨?_, ?_⟩
  · exact h.nodup.sublist (List.filter_sublist.map Prod.fst)
  · rw [get?_erase]
    by_cases asked : "" = key
    · rw [← asked, Function.update_self]
    · rw [Function.update_of_ne asked, h.solid]

theorem get?_eraseAll (ps : Placeholders) (keys : List String) :
    (keys.foldl Placeholders.erase ps).get? = Glossary.removeAll ps.get? keys := by
  induction keys generalizing ps with
  | nil => rfl
  | cons k rest ih => rw [List.foldl_cons, ih, get?_erase, Glossary.removeAll]

theorem Sound.eraseAll {ps : Placeholders} (h : ps.Sound) (keys : List String) :
    (keys.foldl Placeholders.erase ps).Sound := by
  induction keys generalizing ps with
  | nil => exact h
  | cons k rest ih => exact ih (h.erase k)

end Placeholders

end AccountStore
