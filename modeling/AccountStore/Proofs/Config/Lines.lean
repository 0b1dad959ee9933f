/-
# AccountStore.Proofs.Config.Lines -- the lines of a document

A document is the concatenation of its lines (`flatten_lines`), each of which ends at
its first line feed and none of which is empty (`lined_lines`).  Behind a line feed
the lines of a document start anew (`lines_append`), so what stands on the last line
of a text is what stands behind its last line feed (`lastLine`).

Offsets count bytes, and a text takes as many as its characters do
(`length_utf8Bytes`).
-/
import AccountStore.Config.KeyOffset
import AccountStore.Proofs.Instant.StoredBytes
import Mathlib.Data.List.DropRight

namespace AccountStore

set_option autoImplicit false

/-! ## Bytes -/

theorem utf8Bytes_append (s t : String) : utf8Bytes (s ++ t) = utf8Bytes s ++ utf8Bytes t := by
  rw [utf8Bytes, String.toByteArray_append, ByteArray.data_append, Array.toList_append]
  rfl

namespace Instant

theorem byteLength_append (s t : List Char) :
    byteLength (s ++ t) = byteLength s + byteLength t := by
  induction s with
  | nil => simp [byteLength]
  | cons c s ih => simp [byteLength, ih, Nat.add_assoc]

theorem byteLength_pos {s : List Char} (filled : s ≠ []) : 0 < byteLength s := by
  cases s with
  | nil => exact absurd rfl filled
  | cons c s =>
      have one := c.utf8Size_pos
      rw [byteLength]
      omega

theorem length_utf8Bytes (s : String) : (utf8Bytes s).length = byteLength s.toList := by
  have each : ∀ cs : List Char, (utf8Bytes (String.ofList cs)).length = byteLength cs := by
    intro cs
    induction cs with
    | nil => rfl
    | cons c cs ih =>
        have one : (utf8Bytes (String.ofList [c])).length = c.utf8Size := by
          rw [utf8Bytes, String.toByteArray_ofList, List.utf8Encode_singleton,
            List.toList_data_toByteArray, String.length_utf8EncodeChar]
        have split : String.ofList (c :: cs) = String.ofList [c] ++ String.ofList cs := by
          rw [← String.ofList_append]
          rfl
        rw [split, utf8Bytes_append, List.length_append, one, ih, byteLength]
  rw [← each, String.ofList_toList]

end Instant

namespace Config

/-! ## Lines -/

/-- The text is empty or ends in a line feed. -/
def Ended (s : List Char) : Prop := ∀ c, s.getLast? = some c → c = '\n'

/-- The lines of a text: the last one may go without its line feed, but not be empty. -/
inductive Lined : List (List Char) → Prop where
  | nil : Lined []
  | last {t : List Char} (free : '\n' ∉ t) (filled : t ≠ []) : Lined [t]
  | line {t : List Char} {ls : List (List Char)} (free : '\n' ∉ t) (later : Lined ls) :
      Lined ((t ++ ['\n']) :: ls)

theorem ended_append_break (a : List Char) : Ended (a ++ ['\n']) := by
  intro c last
  rw [List.getLast?_concat, Option.some.injEq] at last
  exact last.symm

theorem Ended.append {a b : List Char} (ha : Ended a) (hb : Ended b) : Ended (a ++ b) := by
  intro c last
  rw [List.getLast?_append] at last
  cases behind : b.getLast? with
  | none =>
      rw [behind, Option.none_or] at last
      exact ha c last
  | some d =>
      rw [behind, Option.some_or] at last
      exact hb c (behind.trans last)

theorem Ended.exists_break {a : List Char} (ended : Ended a) (filled : a ≠ []) :
    ∃ b, a = b ++ ['\n'] := by
  have last := ended _ (List.getLast?_eq_some_getLast filled)
  exact ⟨a.dropLast, by rw [← last, List.dropLast_append_getLast filled]⟩

theorem lines_break (r : List Char) : lines ('\n' :: r) = ['\n'] :: lines r := by
  rw [lines, if_pos rfl]

theorem lines_cons {c : Char} (other : c ≠ '\n') (r : List Char) :
    lines (c :: r) =
      match lines r with
      | [] => [[c]]
      | line :: rest => (c :: line) :: rest :=
  if_neg other

/-- Up to its first line feed a text is one line. -/
theorem lines_line {t : List Char} (free : '\n' ∉ t) (r : List Char) :
    lines (t ++ '\n' :: r) = (t ++ ['\n']) :: lines r := by
  induction t with
  | nil => exact lines_break r
  | cons c t ih =>
      obtain ⟨other, later⟩ := List.ne_and_not_mem_of_not_mem_cons free
      rw [List.cons_append, lines_cons other.symm, ih later]
      rfl

theorem lines_of_free {t : List Char} (free : '\n' ∉ t) (filled : t ≠ []) : lines t = [t] := by
  induction t with
  | nil => exact absurd rfl filled
  | cons c t ih =>
      obtain ⟨other, later⟩ := List.ne_and_not_mem_of_not_mem_cons free
      rw [lines_cons other.symm]
      cases t with
      | nil => rfl
      | cons d t => rw [ih later (List.cons_ne_nil d t)]

/-- Induction on a text line by line. -/
@[elab_as_elim]
theorem line_induction {motive : List Char → Prop} (nil : motive [])
    (last : ∀ t, '\n' ∉ t → t ≠ [] → motive t)
    (line : ∀ t r, '\n' ∉ t → motive r → motive (t ++ '\n' :: r)) (s : List Char) : motive s := by
  by_cases stands : '\n' ∈ s
  · obtain ⟨t, r, whole, free⟩ := List.eq_append_cons_of_mem stands
    have shorter : r.length < s.length := by
      rw [whole, List.length_append, List.length_cons]
      omega
    exact whole ▸ line t r free (line_induction nil last line r)
  · by_cases empty : s = []
    · exact empty ▸ nil
    · exact last s stands empty
termination_by s.length

/-- **Nothing is lost between lines, and each ends at its first line feed.** -/
theorem lined_lines (s : List Char) : Lined (lines s) ∧ (lines s).flatten = s := by
  induction s using line_induction with
  | nil => exact ⟨.nil, rfl⟩
  | last t free filled =>
      rw [lines_of_free free filled]
      exact ⟨.last free filled, by simp⟩
  | line t r free ih =>
      obtain ⟨later, whole⟩ := ih
      rw [lines_line free]
      exact ⟨.line free later, by simp [whole]⟩

theorem flatten_lines (s : List Char) : (lines s).flatten = s := (lined_lines s).2

/-- **Behind a line feed the lines start anew.** -/
theorem lines_append {a : List Char} (ended : Ended a) (b : List Char) :
    lines (a ++ b) = lines a ++ lines b := by
  induction a using line_induction with
  | nil => rfl
  | last t free filled =>
      obtain ⟨u, rfl⟩ := ended.exists_break filled
      exact absurd (List.mem_append_right u (List.mem_singleton_self _)) free
  | line t r free ih =>
      have later : Ended r := by
        intro c last
        refine ended c ?_
        rw [List.getLast?_append, List.getLast?_cons, last]
        rfl
      rw [List.append_assoc, List.cons_append, lines_line free, lines_line free, ih later,
        List.cons_append]

namespace Lined

variable {l : List Char} {ls ms : List (List Char)}

theorem lines_flatten (lined : Lined ls) : lines ls.flatten = ls := by
  induction lined with
  | nil => rfl
  | last free filled => simp [lines_of_free free filled]
  | line free later ih =>
      rw [List.flatten_cons, List.append_assoc, List.singleton_append, lines_line free, ih]

theorem of_append (lined : Lined (ls ++ ms)) : Lined ls := by
  induction ls with
  | nil => exact .nil
  | cons l ls ih =>
      rw [List.cons_append] at lined
      generalize whole : ls ++ ms = rest at lined ih
      cases lined with
      | last free filled =>
          obtain ⟨rfl, -⟩ := List.append_eq_nil_iff.mp whole
          exact .last free filled
      | line free later => exact .line free (ih later)

/-- Lines with one behind them end in line feeds. -/
theorem ended (lined : Lined (ls ++ l :: ms)) : Ended ls.flatten := by
  induction ls with
  | nil => exact nofun
  | cons k ls ih =>
      rw [List.cons_append] at lined
      generalize whole : ls ++ l :: ms = rest at lined ih
      cases lined with
      | last => simp at whole
      | line free later =>
          rw [List.flatten_cons]
          exact (ended_append_break _).append (ih later)

/-- Only the end of a line can be a line feed. -/
theorem free (lined : Lined (ls ++ l :: ms)) {p q : List Char} (whole : l = p ++ q)
    (filled : q ≠ []) : '\n' ∉ p := by
  induction ls with
  | nil =>
      cases lined with
      | last free => exact fun stands => free (whole ▸ List.mem_append_left q stands)
      | @line t _ free =>
          have proper : t = p ++ q.dropLast := by
            rw [← List.dropLast_append_of_ne_nil filled, ← whole, List.dropLast_concat]
          exact fun stands => free (proper ▸ List.mem_append_left _ stands)
  | cons k ls ih =>
      rw [List.cons_append] at lined
      generalize rest : ls ++ l :: ms = later at lined ih
      cases lined with
      | last => simp at rest
      | line _ later => exact ih later

end Lined

/-! ## The last line of a text -/

/-- What stands behind the last line feed. -/
def lastLine (s : List Char) : List Char := s.rtakeWhile (· != '\n')

theorem exists_lastLine (s : List Char) :
    ∃ a, s = a ++ lastLine s ∧ Ended a ∧ '\n' ∉ lastLine s := by
  refine ⟨s.rdropWhile (· != '\n'), List.rdropWhile_append_rtakeWhile.symm, ?_, ?_⟩
  · intro c last
    have filled : s.rdropWhile (· != '\n') ≠ [] := by
      rintro empty
      simp [empty] at last
    have stop := List.rdropWhile_last_not _ s filled
    rw [List.getLast?_eq_some_getLast filled, Option.some.injEq] at last
    simpa [last] using stop
  · intro stands
    simpa using List.mem_rtakeWhile_imp stands

/-- Any cut behind a line feed finds the last line. -/
theorem lastLine_eq {a b : List Char} (ended : Ended a) (free : '\n' ∉ b) :
    lastLine (a ++ b) = b := by
  have inside : ∀ c ∈ b.reverse, (c != '\n') = true := by
    intro c stands
    exact bne_iff_ne.mpr fun same => free (same ▸ List.mem_reverse.mp stands)
  have stop : a.reverse.takeWhile (· != '\n') = [] := by
    by_cases empty : a = []
    · simp [empty]
    · obtain ⟨t, rfl⟩ := ended.exists_break empty
      simp
  rw [lastLine, List.rtakeWhile, List.reverse_append, List.takeWhile_append_of_pos inside, stop,
    List.append_nil, List.reverse_reverse]

theorem lastLine_of_free {s : List Char} (free : '\n' ∉ s) : lastLine s = s :=
  lastLine_eq (a := []) nofun free

theorem lastLine_append {a : List Char} (ended : Ended a) (b : List Char) :
    lastLine (a ++ b) = lastLine b := by
  obtain ⟨t, whole, ended', free⟩ := exists_lastLine b
  conv_lhs => rw [whole, ← List.append_assoc]
  exact lastLine_eq (ended.append ended') free

end Config

end AccountStore
