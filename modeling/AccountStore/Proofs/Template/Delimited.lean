/-
# AccountStore.Proofs.Template.Delimited -- templates put together from text and keys

When every key of a template is a name between two dollar signs, keys can stand side by
side: the sign that closes one and the sign that opens the next never make up a third.
So a list of parts, each a text without dollar signs or a key, is substituted part by
part whatever comes behind it (`becomes_filled`), and what a key puts in is not looked
at again.  A dollar sign in the result comes from a text that was put in
(`mem_filled_iff`).
-/
import AccountStore.Proofs.Template.Calls
import AccountStore.Proofs.Text.Passage

namespace AccountStore

set_option autoImplicit false

namespace Template

/-- A text that is to stay, or a key that is to be replaced. -/
inductive Part where
  | literal (text : String)
  | key (name : String)
  deriving DecidableEq, Repr

namespace Part

def source : Part → String
  | .literal text => text
  | .key k => k

def filled (T : Glossary) : Part → String
  | .literal text => text
  | .key k => (T k).getD ""

/-- A text without dollar signs, or a key that has a text. -/
def Fits (T : Glossary) : Part → Prop
  | .literal text => '$' ∉ text.toList
  | .key k => (T k).isSome

/-- The dollar signs of a result are those of the texts put in. -/
theorem mem_filled_iff {T : Glossary} {parts : List Part} (fits : ∀ p ∈ parts, p.Fits T) :
    '$' ∈ (String.join (parts.map (filled T))).toList ↔
      ∃ k v, .key k ∈ parts ∧ T k = some v ∧ '$' ∈ v.toList := by
  simp only [String.toList_join, List.mem_flatMap, List.mem_map, exists_exists_and_eq_and]
  constructor
  · rintro ⟨p, member, sign⟩
    have fit := fits p member
    cases p with
    | literal text => exact absurd sign fit
    | key k =>
        obtain ⟨v, found⟩ := Option.isSome_iff_exists.mp fit
        rw [filled, found] at sign
        exact ⟨k, v, member, found, sign⟩
  · rintro ⟨k, v, member, found, sign⟩
    refine ⟨.key k, member, ?_⟩
    rw [filled, found]
    exact sign

end Part

end Template

namespace Substitution

open Template (Part)

variable {ps : Placeholders}

/-- A part is a passage: no key reaches across its ends. -/
theorem becomes_part (delimited : ps.Delimited) {p : Part} (fits : p.Fits ps.get?) :
    Becomes ps p.source (p.filled ps.get?) := by
  cases p with
  | literal text => exact becomes_literal delimited fits
  | key k =>
      obtain ⟨v, found⟩ := Option.isSome_iff_exists.mp fits
      obtain ⟨pair, member, rfl⟩ := List.mem_map.mp (Placeholders.isSome_get?_iff.mp fits)
      rw [Part.filled, found]
      exact run_append_key delimited (delimited pair member) found

theorem becomes_filled (delimited : ps.Delimited) : ∀ {parts : List Part},
    (∀ p ∈ parts, p.Fits ps.get?) →
      Becomes ps (String.join (parts.map Part.source))
        (String.join (parts.map (Part.filled ps.get?)))
  | [], _ => fun _ => rfl
  | p :: parts, fits => by
      have here := becomes_part delimited (fits p List.mem_cons_self)
      have later := becomes_filled delimited fun q hq => fits q (List.mem_cons_of_mem p hq)
      rw [List.map_cons, List.map_cons, String.join_cons, String.join_cons]
      exact here.append later

end Substitution

namespace Template

/-- Every key is a name between two dollar signs. -/
def Delimited (t : Template) : Prop := ∀ k, t.hasKey k = true → AccountStore.Delimited k

/-- What calls have brought up to date has the keys of the table. -/
theorem Tracks.delimited {t : Template} (tracks : Tracks t.get? t.get? t)
    (delimited : t.Delimited) : t.compiled.Delimited := by
  intro p member
  have known := Placeholders.isSome_get?_iff.mpr (List.mem_map_of_mem (f := Prod.fst) member)
  rw [tracks.compiled] at known
  refine delimited p.1 ?_
  rw [hasKey, Placeholders.any_eq_isSome]
  exact known

/-- **Keys between dollar signs are substituted part by part.**  When the last change of a
template succeeded and all its keys are of this form, text without dollar signs stays and
each key becomes its text, however they follow each other, and whatever comes behind them
is substituted on its own.  What a key puts in stays even if it holds keys: these are
where the dollar signs of a result come from, and there are none if no text has one. -/
theorem Settled.apply_parts {t : Template} (settled : t.Settled) (delimited : t.Delimited)
    {parts : List Part} (fits : ∀ p ∈ parts, p.Fits t.get?) :
    let source := String.join (parts.map Part.source)
    t.apply source = String.join (parts.map (Part.filled t.get?)) ∧
      (∀ rest, t.apply (source ++ rest) = t.apply source ++ t.apply rest) ∧
      ('$' ∈ (t.apply source).toList ↔
        ∃ k v, .key k ∈ parts ∧ t.get? k = some v ∧ '$' ∈ v.toList) ∧
      ((∀ k v, t.get? k = some v → '$' ∉ v.toList) → '$' ∉ (t.apply source).toList) := by
  intro source
  have tracks := settled.tracks
  have fits' : ∀ p ∈ parts, p.Fits t.compiled.get? := by rwa [tracks.compiled]
  have passage := Substitution.becomes_filled (tracks.delimited delimited) fits'
  rw [tracks.compiled] at passage
  have whole : t.apply source = String.join (parts.map (Part.filled t.get?)) := by
    rw [apply, passage.run_eq, String.ofList_toList]
  have signs := Part.mem_filled_iff fits
  rw [whole]
  refine ⟨rfl, fun rest => ?_, signs, fun free sign => ?_⟩
  · rw [apply, String.toList_append, passage, String.ofList_append, String.ofList_toList, apply]
  · obtain ⟨k, v, -, found, inside⟩ := signs.mp sign
    exact free k v found inside

/-- Two keys side by side, one with the other in its text, which stays. -/
theorem apply_parts_side_by_side :
    let t := (empty.call (.setMany [("$A$", "$B$"), ("$B$", "b")])).2
    let parts := [Part.literal "x", .key "$A$", .key "$B$", .literal "y", .key "$A$"]
    String.join (parts.map Part.source) = "x$A$$B$y$A$" ∧
      t.apply "x$A$$B$y$A$" = "x$B$by$B$" ∧ '$' ∈ (t.apply "x$A$$B$y$A$").toList := by
  intro t parts
  have settled : t.Settled := .call (.fresh (.inl rfl)) (by rintro other ⟨⟩) rfl
  have delimited : t.Delimited := by
    intro k known
    rw [hasKey, Placeholders.any_eq_isSome, Placeholders.isSome_get?_iff] at known
    have listed : k ∈ ["$A$", "$B$"] := known
    rw [List.mem_pair] at listed
    rcases listed with rfl | rfl
    · exact ⟨['A'], by decide, rfl⟩
    · exact ⟨['B'], by decide, rfl⟩
  have fits : ∀ p ∈ parts, p.Fits t.get? := by
    simp only [parts, List.forall_mem_cons, Part.Fits]
    exact ⟨by decide, rfl, rfl, by decide, rfl, List.forall_mem_nil _⟩
  obtain ⟨whole, -, signs, -⟩ := settled.apply_parts delimited fits
  have source : String.join (parts.map Part.source) = "x$A$$B$y$A$" := by decide
  rw [source] at whole signs
  refine ⟨source, whole.trans (by decide), signs.mpr ⟨"$A$", "$B$", ?_, rfl, by decide⟩⟩
  exact List.mem_cons_of_mem _ List.mem_cons_self

end Template

end AccountStore
