/-
# AccountStore.Proofs.Config.KeyPlace -- the place that a label points to

A label points into a document at a byte offset.  The search for it starts behind the
first mention of the section's header, or at the top of the document (`SearchFrom`),
and goes on to the next line that starts with a bracket (`searched`).  In that part a
key is assigned where nothing but blanks stands before it on its line, or between it
and an equals sign behind it (`AssignedBetween`).

The search finds the first such place if the key starts with no blank and has no line
feed, and finds none for any other key (`keyOffset?_eq_some_iff`).  It goes line by
line and counts bytes; what ties the count to the text is that each line of the part
has at most one place, its first character that is not blank (`place_in_line`).  So a
label lies within its document and covers the key it is about.
-/
import AccountStore.Config.Diagnostic
import AccountStore.Proofs.Config.Lines
import AccountStore.Proofs.Text.Span

namespace AccountStore.Config

set_option autoImplicit false

open Instant (byteLength)
open Text (isBlank allBlank trimLeft)

/-! ## Beginnings and mentions -/

theorem afterStart?_eq_some_iff {start s r : List Char} :
    afterStart? start s = some r ↔ s = start ++ r := Text.after_beginning_iff

/-- The first mention of `part` in a text, between `before` and `rest`. -/
structure FirstMention (part s before rest : List Char) : Prop where
  whole : s = before ++ part ++ rest
  first : ∀ b r, s = b ++ part ++ r → before.length ≤ b.length

/-- What a text starts with is mentioned first. -/
theorem FirstMention.of_start {part s rest : List Char} (starts : afterStart? part s = some rest) :
    FirstMention part s [] rest :=
  ⟨afterStart?_eq_some_iff.mp starts, fun b _ _ => Nat.zero_le b.length⟩

section Behind

variable {part s : List Char} {c : Char}

/-- In a text that does not start with `part` every mention is one character on. -/
theorem mention_behind (other : afterStart? part (c :: s) = none) {b r : List Char}
    (whole : c :: s = b ++ part ++ r) : ∃ b', b = c :: b' ∧ s = b' ++ part ++ r := by
  cases b with
  | nil =>
      rw [List.nil_append, ← afterStart?_eq_some_iff, other] at whole
      cases whole
  | cons d b =>
      obtain ⟨rfl, rest⟩ := List.cons.inj whole
      exact ⟨b, rfl, rest⟩

theorem FirstMention.behind (other : afterStart? part (c :: s) = none) {before rest : List Char}
    (mention : FirstMention part s before rest) :
    FirstMention part (c :: s) (c :: before) rest := by
  refine ⟨by rw [mention.whole]; rfl, fun b r whole => ?_⟩
  obtain ⟨b', rfl, further⟩ := mention_behind other whole
  exact Nat.succ_le_succ (mention.first b' r further)

end Behind

/-- The search stops behind the first mention. -/
theorem firstMention_of_afterFirst? {part rest : List Char} : ∀ {s : List Char} {n : Nat},
    afterFirst? part s = some (n, rest) →
      ∃ before, FirstMention part s before rest ∧ n = byteLength (before ++ part)
  | [], n, found => by
      rw [afterFirst?] at found
      obtain ⟨r, starts, same⟩ := Option.map_eq_some_iff.mp found
      cases same
      exact ⟨[], .of_start starts, rfl⟩
  | c :: s, n, found => by
      rw [afterFirst?] at found
      cases starts : afterStart? part (c :: s) with
      | some r =>
          rw [starts] at found
          cases found
          exact ⟨[], .of_start starts, rfl⟩
      | none =>
          rw [starts] at found
          obtain ⟨⟨m, r⟩, later, same⟩ := Option.map_eq_some_iff.mp found
          cases same
          obtain ⟨before, mention, rfl⟩ := firstMention_of_afterFirst? later
          refine ⟨c :: before, mention.behind starts, ?_⟩
          rw [List.cons_append, byteLength, Nat.add_comm]

/-- A search that finds nothing is in a text without a mention. -/
theorem no_mention_of_afterFirst? {part : List Char} : ∀ {s : List Char},
    afterFirst? part s = none → ∀ b r, s ≠ b ++ part ++ r
  | [], missing, b, r, whole => by
      obtain ⟨starts, -⟩ := List.append_eq_nil_iff.mp whole.symm
      obtain ⟨-, rfl⟩ := List.append_eq_nil_iff.mp starts
      simp [afterFirst?, afterStart?] at missing
  | c :: s, missing, b, r, whole => by
      rw [afterFirst?] at missing
      cases starts : afterStart? part (c :: s) with
      | some r =>
          rw [starts] at missing
          cases missing
      | none =>
          rw [starts] at missing
          obtain ⟨b', -, mention⟩ := mention_behind starts whole
          exact no_mention_of_afterFirst? (Option.map_eq_none_iff.mp missing) b' r mention

theorem FirstMention.unique {part s before rest before' rest' : List Char}
    (one : FirstMention part s before rest) (other : FirstMention part s before' rest') :
    before = before' ∧ rest = rest' := by
  have same : before.length = before'.length :=
    Nat.le_antisymm (one.first _ _ other.whole) (other.first _ _ one.whole)
  have whole := one.whole.symm.trans other.whole
  rw [List.append_assoc, List.append_assoc] at whole
  obtain ⟨rfl, rests⟩ := List.append_inj whole same
  exact ⟨rfl, List.append_cancel_left rests⟩

/-- How the header of a section is written. -/
def header (name : String) : List Char := '[' :: (name.toList ++ [']'])

/-- The part of a document that was passed before a key is looked for in the rest. -/
inductive SearchFrom (content : List Char) : List String → List Char → List Char → Prop where
  | top : SearchFrom content [] [] content
  | below {name : String} {names : List String} {before rest : List Char}
      (mention : FirstMention (header name) content before rest) :
      SearchFrom content (name :: names) (before ++ header name) rest

theorem SearchFrom.whole {content : List Char} {path : List String} {passed rest : List Char}
    (start : SearchFrom content path passed rest) : content = passed ++ rest := by
  cases start with
  | top => rfl
  | below mention => exact mention.whole

theorem SearchFrom.unique {content : List Char} {path : List String}
    {passed rest passed' rest' : List Char} (one : SearchFrom content path passed rest)
    (other : SearchFrom content path passed' rest') : passed = passed' ∧ rest = rest' := by
  cases one with
  | top =>
      cases other with
      | top => exact ⟨rfl, rfl⟩
  | below mention =>
      cases other with
      | below mention' =>
          obtain ⟨rfl, rfl⟩ := mention.unique mention'
          exact ⟨rfl, rfl⟩

/-! ## The part that is searched -/

/-- The first line, and the others up to the next header. -/
def searchedLines : List (List Char) → List (List Char)
  | [] => []
  | line :: rest => line :: rest.takeWhile fun l => !isHeaderLine l

/-- What is searched of a text. -/
def searched (s : List Char) : List Char := (searchedLines (lines s)).flatten

/-- The offset of the key in the first of the lines that assigns it. -/
def assignedIn? (field : List Char) : List (List Char) → Option Nat
  | [] => none
  | line :: rest =>
      match assignedAt? field line with
      | some n => some n
      | none => (assignedIn? field rest).map (byteLength line + ·)

theorem exists_searchedLines (ls : List (List Char)) :
    ∃ later, ls = searchedLines ls ++ later := by
  cases ls with
  | nil => exact ⟨[], rfl⟩
  | cons line rest =>
      refine ⟨rest.dropWhile fun l => !isHeaderLine l, ?_⟩
      rw [searchedLines, List.cons_append, List.takeWhile_append_dropWhile]

theorem scanLines_later (field : List Char) (offset : Nat) (ls : List (List Char)) :
    scanLines field false offset ls =
      (assignedIn? field (ls.takeWhile fun l => !isHeaderLine l)).map (offset + ·) := by
  induction ls generalizing offset with
  | nil => rfl
  | cons line rest ih =>
      cases stop : isHeaderLine line with
      | true => simp [scanLines, stop, assignedIn?]
      | false =>
          rw [List.takeWhile_cons_of_pos (by simp [stop]), assignedIn?, scanLines]
          cases here : assignedAt? field line with
          | some n => simp [stop]
          | none =>
              simp only [stop, Bool.false_and, Bool.false_eq_true, if_false, ih, Option.map_map]
              congr 1
              funext n
              exact Nat.add_assoc offset _ n

/-- **The search is in the lines up to the next header, from where it starts.** -/
theorem scanLines_eq (field : List Char) (offset : Nat) (ls : List (List Char)) :
    scanLines field true offset ls = (assignedIn? field (searchedLines ls)).map (offset + ·) := by
  cases ls with
  | nil => rfl
  | cons line rest =>
      rw [searchedLines, assignedIn?, scanLines]
      cases here : assignedAt? field line with
      | some n => simp
      | none =>
          simp only [Bool.not_true, Bool.and_false, Bool.false_eq_true, if_false, scanLines_later,
            Option.map_map]
          congr 1
          funext n
          exact Nat.add_assoc offset _ n

theorem keyOffset?_eq_some {content : String} {path : List String} {field : String} {o : Nat} :
    keyOffset? content path field = some o ↔
      ∃ passed rest n, SearchFrom content.toList path passed rest ∧
        assignedIn? field.toList (searchedLines (lines rest)) = some n ∧
        o = byteLength passed + n := by
  unfold keyOffset?
  cases path with
  | nil =>
      simp only [scanLines_eq, Option.map_eq_some_iff]
      constructor
      · rintro ⟨n, found, rfl⟩
        exact ⟨[], content.toList, n, .top, found, rfl⟩
      · rintro ⟨_, _, n, start, found, rfl⟩
        cases start with
        | top => exact ⟨n, found, rfl⟩
  | cons name names =>
      cases mentioned : afterFirst? (header name) content.toList with
      | none =>
          have absent : afterFirst? ('[' :: (name.toList ++ [']'])) content.toList = none :=
            mentioned
          simp only [absent]
          refine iff_of_false nofun ?_
          rintro ⟨_, rest, n, start, -, -⟩
          cases start with
          | below mention => exact no_mention_of_afterFirst? mentioned _ _ mention.whole
      | some found =>
          obtain ⟨m, rest⟩ := found
          obtain ⟨before, mention, rfl⟩ := firstMention_of_afterFirst? mentioned
          have present : afterFirst? ('[' :: (name.toList ++ [']'])) content.toList =
              some (byteLength (before ++ header name), rest) := mentioned
          simp only [present, scanLines_eq, Option.map_eq_some_iff]
          constructor
          · rintro ⟨n, found, rfl⟩
            exact ⟨_, rest, n, .below mention, found, rfl⟩
          · rintro ⟨_, _, n, start, found, rfl⟩
            obtain ⟨rfl, rfl⟩ := start.unique (.below mention)
            exact ⟨n, found, rfl⟩

/-! ## Where a key is assigned -/

/-- Nothing but blanks stands before the key on its line, and nothing but blanks between
the key and an equals sign. -/
structure AssignedBetween (field before after : List Char) : Prop where
  indented : allBlank (lastLine before) = true
  assigned : ∃ gap rest, after = field ++ gap ++ '=' :: rest ∧ allBlank gap = true ∧ '\n' ∉ gap

/-- A key that a line can assign: it starts with no blank, and it is within a line. -/
structure Bare (field : List Char) : Prop where
  started : ∃ c r, field = c :: r ∧ isBlank c = false
  free : '\n' ∉ field

theorem isBlank_equals : isBlank '=' = false := by decide

/-- **A line assigns a key behind its leading blanks.** -/
theorem assignedAt?_eq_some {field line : List Char} {n : Nat}
    (found : assignedAt? field line = some n) :
    ∃ gap rest, trimLeft line = field ++ gap ++ '=' :: rest ∧ allBlank gap = true ∧
      n = byteLength (line.takeWhile isBlank) := by
  unfold assignedAt? at found
  split at found
  · cases found
  · next r starts =>
      rw [afterStart?_eq_some_iff] at starts
      split at found
      · next sign =>
          cases found
          rw [beq_iff_eq, List.head?_eq_some_iff] at sign
          obtain ⟨rest, sign⟩ := sign
          refine ⟨r.takeWhile isBlank, rest, ?_, List.all_takeWhile, rfl⟩
          rw [List.append_assoc, ← sign, Text.trimLeft_append_suffix, starts]
      · cases found

section Lines

variable {field : List Char} {ls : List (List Char)}

theorem assignedAt?_of_bare (bare : Bare field) {blanks gap rest line : List Char}
    (whole : line = blanks ++ (field ++ gap ++ '=' :: rest)) (indented : allBlank blanks = true)
    (blank : allBlank gap = true) :
    blanks = line.takeWhile isBlank ∧ assignedAt? field line = some (byteLength blanks) := by
  obtain ⟨⟨c, r, rfl, solid⟩, -⟩ := bare
  have trimmed : trimLeft line = c :: r ++ (gap ++ '=' :: rest) := by
    rw [whole, Text.trimLeft_append_of_blank indented, List.append_assoc, List.cons_append,
      Text.trimLeft_cons solid]
  have behind : trimLeft (gap ++ '=' :: rest) = '=' :: rest := by
    rw [Text.trimLeft_append_of_blank blank, Text.trimLeft_cons isBlank_equals]
  have leading : line.takeWhile isBlank = blanks := by
    rw [whole, List.takeWhile_append_of_pos (List.all_eq_true.mp indented), List.append_assoc,
      List.cons_append, List.takeWhile_cons_of_neg (by simp [solid]), List.append_nil]
  have starts : afterStart? (c :: r) (c :: r ++ (gap ++ '=' :: rest)) =
      some (gap ++ '=' :: rest) := afterStart?_eq_some_iff.mpr rfl
  refine ⟨leading.symm, ?_⟩
  simp only [assignedAt?, trimmed, starts, behind, leading, List.head?_cons, beq_self_eq_true,
    if_true]

/-- The lines before one that assigns the key do not count; among lines that do not, there
is none. -/
theorem assignedIn?_spec :
    (∀ n, assignedIn? field ls = some n → ∃ earlier line later m,
        ls = earlier ++ line :: later ∧ (∀ l ∈ earlier, assignedAt? field l = none) ∧
          assignedAt? field line = some m ∧ n = byteLength earlier.flatten + m) ∧
      (assignedIn? field ls = none → ∀ l ∈ ls, assignedAt? field l = none) := by
  induction ls with
  | nil => exact ⟨nofun, nofun⟩
  | cons line rest ih =>
      rw [assignedIn?]
      cases here : assignedAt? field line with
      | some m =>
          refine ⟨fun n found => ?_, nofun⟩
          cases found
          exact ⟨[], line, rest, m, rfl, nofun, here, (Nat.zero_add m).symm⟩
      | none =>
          obtain ⟨hit, miss⟩ := ih
          refine ⟨fun n found => ?_, fun missing => ?_⟩
          · obtain ⟨k, later, rfl⟩ := Option.map_eq_some_iff.mp found
            obtain ⟨earlier, line', rest', m, rfl, skipped, assigns, rfl⟩ := hit k later
            refine ⟨line :: earlier, line', rest', m, rfl, ?_, assigns, ?_⟩
            · exact List.forall_mem_cons.mpr ⟨here, skipped⟩
            · rw [List.flatten_cons, Instant.byteLength_append, Nat.add_assoc]
          · exact List.forall_mem_cons.mpr ⟨here, miss (Option.map_eq_none_iff.mp missing)⟩

/-- What is found is behind the blanks of the first line that assigns the key. -/
theorem line_of_assignedIn? {n : Nat} (found : assignedIn? field ls = some n) :
    ∃ earlier line later gap rest, ls = earlier ++ line :: later ∧
      (∀ l ∈ earlier, assignedAt? field l = none) ∧
      line = line.takeWhile isBlank ++ (field ++ gap ++ '=' :: rest) ∧ allBlank gap = true ∧
      n = byteLength (earlier.flatten ++ line.takeWhile isBlank) := by
  obtain ⟨earlier, line, later, m, split, skipped, assigns, rfl⟩ := assignedIn?_spec.1 n found
  obtain ⟨gap, rest, trimmed, blank, rfl⟩ := assignedAt?_eq_some assigns
  refine ⟨earlier, line, later, gap, rest, split, skipped, ?_, blank, ?_⟩
  · rw [← trimmed, Text.trimLeft_append_suffix]
  · rw [Instant.byteLength_append]

/-- A text that starts like another and has no line feed ends before the other's. -/
theorem prefix_before_break {p x a r : List Char} (whole : p ++ x = a ++ '\n' :: r)
    (free : '\n' ∉ p) : ∃ y, a = p ++ y ∧ x = y ++ '\n' :: r := by
  rcases List.append_eq_append_iff.mp whole with ⟨y, rfl, rest⟩ | ⟨y, rfl, rest⟩
  · exact ⟨y, rfl, rest⟩
  · cases y with
    | nil => exact ⟨[], by simp, rest.symm⟩
    | cons c y =>
        obtain ⟨rfl, -⟩ := List.cons.inj rest
        exact absurd (List.mem_append_right a (List.mem_cons_self ..)) free

/-- A place that a line feed comes before is one of the text behind the line feed. -/
theorem AssignedBetween.below {t b after : List Char}
    (place : AssignedBetween field (t ++ '\n' :: b) after) : AssignedBetween field b after := by
  refine ⟨?_, place.assigned⟩
  have indented := place.indented
  rw [List.append_cons, lastLine_append (ended_append_break t)] at indented
  exact indented

/-- On a line without a line feed, what stands before a place are the leading blanks. -/
theorem AssignedBetween.leading (bare : Bare field) {before after : List Char}
    (place : AssignedBetween field before after) (alone : '\n' ∉ before) :
    before = (before ++ after).takeWhile isBlank ∧ assignedAt? field (before ++ after) ≠ none := by
  obtain ⟨indented, gap, behind, rfl, blank, -⟩ := place
  rw [lastLine_of_free alone] at indented
  obtain ⟨leading, assigns⟩ := assignedAt?_of_bare bare rfl indented blank
  exact ⟨leading, by rw [assigns]; exact Option.some_ne_none _⟩

/-- The key and the equals sign of a place are before the next line feed. -/
theorem AssignedBetween.within_line (bare : Bare field) {before b r : List Char}
    (place : AssignedBetween field before (b ++ '\n' :: r)) :
    AssignedBetween field before (b ++ ['\n']) := by
  obtain ⟨indented, gap, behind, upTo, blank, apart⟩ := place
  have inside : '\n' ∉ field ++ gap ++ ['='] := by
    simp only [List.mem_append, List.mem_singleton, not_or]
    exact ⟨⟨bare.free, apart⟩, by decide⟩
  rw [List.append_cons _ '='] at upTo
  obtain ⟨y, rfl, -⟩ := prefix_before_break upTo.symm inside
  exact ⟨indented, gap, y ++ ['\n'], by simp, blank, apart⟩

/-- **Each line has at most one place**, behind its leading blanks, so where a key is
assigned in a text some line assigns it. -/
theorem place_in_line (bare : Bare field) (lined : Lined ls) {before after : List Char}
    (whole : ls.flatten = before ++ after) (place : AssignedBetween field before after) :
    ∃ earlier line later, ls = earlier ++ line :: later ∧
      before = earlier.flatten ++ line.takeWhile isBlank ∧ assignedAt? field line ≠ none := by
  induction lined generalizing before with
  | nil =>
      obtain ⟨-, gap, behind, rfl, -⟩ := place
      simp at whole
  | @last t free filled =>
      rw [List.flatten_singleton] at whole
      subst whole
      have alone : '\n' ∉ before := fun stands => free (List.mem_append_left _ stands)
      exact ⟨[], _, [], rfl, place.leading bare alone⟩
  | @line t ls free rest ih =>
      rw [List.flatten_cons, List.append_assoc, List.singleton_append] at whole
      -- The place is on the first line, or the first line feed comes before it.
      have here : ∀ b, t = before ++ b → after = b ++ '\n' :: ls.flatten →
          ∃ earlier line later, (t ++ ['\n']) :: ls = earlier ++ line :: later ∧
            before = earlier.flatten ++ line.takeWhile isBlank ∧ assignedAt? field line ≠ none := by
        rintro b rfl rfl
        have alone : '\n' ∉ before := fun stands => free (List.mem_append_left _ stands)
        refine ⟨[], _, ls, rfl, ?_⟩
        rw [List.append_assoc]
        exact (place.within_line bare).leading bare alone
      rcases List.append_eq_append_iff.mp whole with ⟨b, rfl, cut⟩ | ⟨b, split, cut⟩
      · cases b with
        | nil => exact here [] (by simp) cut.symm
        | cons c b =>
            obtain ⟨rfl, below⟩ := List.cons.inj cut
            obtain ⟨earlier, line, later, rfl, rfl, assigns⟩ := ih below place.below
            exact ⟨(t ++ ['\n']) :: earlier, line, later, rfl, by simp, assigns⟩
      · exact here b split cut

/-- The first place of a text where the key is assigned. -/
structure FirstAssigned (field s before after : List Char) : Prop where
  whole : s = before ++ after
  place : AssignedBetween field before after
  first : ∀ b a, s = b ++ a → AssignedBetween field b a → before.length ≤ b.length

theorem FirstAssigned.unique {s before after before' after' : List Char}
    (one : FirstAssigned field s before after) (other : FirstAssigned field s before' after') :
    before = before' := by
  have same : before.length = before'.length :=
    Nat.le_antisymm (one.first _ _ other.whole other.place) (other.first _ _ one.whole one.place)
  exact (List.append_inj (one.whole.symm.trans other.whole) same).1

/-- No place comes before the first line that assigns the key. -/
theorem length_le_place (bare : Bare field) {earlier later : List (List Char)} {line : List Char}
    (lined : Lined (earlier ++ line :: later))
    (skipped : ∀ l ∈ earlier, assignedAt? field l = none) {before after : List Char}
    (whole : (earlier ++ line :: later).flatten = before ++ after)
    (place : AssignedBetween field before after) :
    (earlier.flatten ++ line.takeWhile isBlank).length ≤ before.length := by
  obtain ⟨earlier', line', later', same, rfl, assigns⟩ := place_in_line bare lined whole place
  -- The line of the place is this one, or one behind it: none before it assigns the key.
  rcases List.append_eq_append_iff.mp same with ⟨x, rfl, behind⟩ | ⟨x, rfl, behind⟩
  · cases x with
    | nil =>
        obtain ⟨rfl, -⟩ := List.cons.inj behind
        simp
    | cons k x =>
        obtain ⟨rfl, -⟩ := List.cons.inj behind
        have short := (List.takeWhile_prefix (l := line) isBlank).length_le
        simp only [List.flatten_append, List.flatten_cons, List.length_append]
        omega
  · cases x with
    | nil =>
        obtain ⟨rfl, -⟩ := List.cons.inj behind
        simp
    | cons k x =>
        obtain ⟨rfl, -⟩ := List.cons.inj behind
        exact absurd (skipped line' (by simp)) assigns

/-- **What is found is a place, and it is the first one of any key with a character.** -/
theorem assigned_of_assignedIn? {n : Nat} (lined : Lined ls)
    (found : assignedIn? field ls = some n) :
    ∃ before after, ls.flatten = before ++ after ∧ AssignedBetween field before after ∧
      n = byteLength before ∧
      (field ≠ [] → Bare field ∧ FirstAssigned field ls.flatten before after) := by
  obtain ⟨earlier, line, later, gap, rest, rfl, skipped, whole, blank, rfl⟩ :=
    line_of_assignedIn? found
  have free : '\n' ∉ line.takeWhile isBlank ++ (field ++ gap) := by
    refine lined.free (q := '=' :: rest) ?_ (List.cons_ne_nil _ _)
    rwa [List.append_assoc]
  simp only [List.mem_append, not_or] at free
  obtain ⟨freeBlanks, freeField, freeGap⟩ := free
  have split : (earlier ++ line :: later).flatten =
      (earlier.flatten ++ line.takeWhile isBlank) ++
        (field ++ gap ++ '=' :: (rest ++ later.flatten)) := by
    conv_lhs => rw [whole]
    simp
  have place : AssignedBetween field (earlier.flatten ++ line.takeWhile isBlank)
      (field ++ gap ++ '=' :: (rest ++ later.flatten)) := by
    refine ⟨?_, gap, _, rfl, blank, freeGap⟩
    rw [lastLine_eq lined.ended freeBlanks]
    exact List.all_takeWhile
  refine ⟨_, _, split, place, rfl, fun filled => ?_⟩
  have bare : Bare field := by
    obtain ⟨c, r, rfl⟩ := List.exists_cons_of_ne_nil filled
    have trimmed : trimLeft line = c :: (r ++ gap ++ '=' :: rest) :=
      List.append_cancel_left ((Text.trimLeft_append_suffix line).trans whole)
    exact ⟨⟨c, r, rfl, Text.not_blank_of_trimLeft trimmed⟩, freeField⟩
  exact ⟨bare, split, place, fun b a => length_le_place bare lined skipped⟩

/-- **A key with a character is found at its first place, if it is one that a line can
assign.** -/
theorem assignedIn?_eq_some_iff {n : Nat} (lined : Lined ls) (filled : field ≠ []) :
    assignedIn? field ls = some n ↔
      Bare field ∧ ∃ before after, FirstAssigned field ls.flatten before after ∧
        n = byteLength before := by
  constructor
  · intro found
    obtain ⟨before, after, -, -, counted, first⟩ := assigned_of_assignedIn? lined found
    exact ⟨(first filled).1, before, after, (first filled).2, counted⟩
  · rintro ⟨bare, before, after, first, rfl⟩
    cases found : assignedIn? field ls with
    | none =>
        obtain ⟨earlier, line, later, rfl, -, assigns⟩ :=
          place_in_line bare lined first.whole first.place
        exact absurd (assignedIn?_spec.2 found line (by simp)) assigns
    | some k =>
        obtain ⟨before', after', -, -, rfl, first'⟩ := assigned_of_assignedIn? lined found
        rw [first.unique (first' filled).2]

end Lines

/-! ## Labels -/

/-- The bytes of a document from `o` on are those of the key, and both ends stand between
characters. -/
structure Covers (content : String) (o : Nat) (key : String) : Prop where
  within : o + (utf8Bytes key).length ≤ (utf8Bytes content).length
  bytes : ((utf8Bytes content).drop o).take (utf8Bytes key).length = utf8Bytes key
  starts : (String.Pos.Raw.mk o).IsValid content
  ends : (String.Pos.Raw.mk (o + (utf8Bytes key).length)).IsValid content

theorem covers_of_toList {content key : String} {a b : List Char}
    (whole : content.toList = a ++ key.toList ++ b) : Covers content (byteLength a) key := by
  have size : ∀ cs : List Char, (utf8Bytes (String.ofList cs)).length = byteLength cs := by
    intro cs
    rw [Instant.length_utf8Bytes, String.toList_ofList]
  have join : content = String.ofList a ++ key ++ String.ofList b := by
    rw [← String.toList_inj, whole]
    simp
  have boundary : ∀ s t : String, content = s ++ t →
      (String.Pos.Raw.mk (utf8Bytes s).length).IsValid content := by
    intro s t cut
    exact String.Pos.Raw.isValid_iff_exists_append.mpr ⟨s, t, cut, rfl⟩
  have bytes : utf8Bytes content =
      utf8Bytes (String.ofList a) ++ (utf8Bytes key ++ utf8Bytes (String.ofList b)) := by
    rw [join, utf8Bytes_append, utf8Bytes_append, List.append_assoc]
  rw [← size a]
  refine ⟨?_, ?_, ?_, ?_⟩
  · rw [bytes, List.length_append, List.length_append]
    omega
  · rw [bytes, List.drop_left, List.take_left]
  · exact boundary (String.ofList a) (key ++ String.ofList b) (by rw [join, String.append_assoc])
  · rw [← List.length_append, ← utf8Bytes_append]
    exact boundary (String.ofList a ++ key) (String.ofList b) join

/-- The place of a key: the first one where it is assigned, in the part of the document that
is searched for it. -/
def IsKeyPlace (content : String) (path : List String) (field : String) (o : Nat) : Prop :=
  ∃ passed rest before after, SearchFrom content.toList path passed rest ∧
    FirstAssigned field.toList (searched rest) before after ∧ o = byteLength (passed ++ before)

section Places

variable {content field : String} {path : List String} {o : Nat}

theorem lined_searchedLines (s : List Char) : Lined (searchedLines (lines s)) := by
  obtain ⟨later, split⟩ := exists_searchedLines (lines s)
  exact Lined.of_append (split ▸ (lined_lines s).1)

theorem exists_searched (s : List Char) : ∃ later, s = searched s ++ later := by
  obtain ⟨later, split⟩ := exists_searchedLines (lines s)
  refine ⟨later.flatten, ?_⟩
  rw [searched, ← List.flatten_append, ← split, flatten_lines]

/-- **A key with a character is found at its place, if it is one that a line can assign.** -/
theorem keyOffset?_eq_some_iff (filled : field ≠ "") :
    keyOffset? content path field = some o ↔
      Bare field.toList ∧ IsKeyPlace content path field o := by
  have chars : field.toList ≠ [] := fun empty => filled (String.toList_eq_nil_iff.mp empty)
  rw [keyOffset?_eq_some]
  constructor
  · rintro ⟨passed, rest, n, start, found, rfl⟩
    rw [assignedIn?_eq_some_iff (lined_searchedLines rest) chars] at found
    obtain ⟨bare, before, after, first, rfl⟩ := found
    exact ⟨bare, passed, rest, before, after, start, first,
      (Instant.byteLength_append passed before).symm⟩
  · rintro ⟨bare, passed, rest, before, after, start, first, rfl⟩
    refine ⟨passed, rest, byteLength before, start, ?_, Instant.byteLength_append passed before⟩
    exact (assignedIn?_eq_some_iff (lined_searchedLines rest) chars).mpr
      ⟨bare, before, after, first, rfl⟩

/-- Whatever is found is the key. -/
theorem covers_of_keyOffset? (found : keyOffset? content path field = some o) :
    Covers content o field := by
  obtain ⟨passed, rest, n, start, assigns, rfl⟩ := keyOffset?_eq_some.mp found
  obtain ⟨before, after, split, place, rfl, -⟩ :=
    assigned_of_assignedIn? (lined_searchedLines rest) assigns
  obtain ⟨later, whole⟩ := exists_searched rest
  obtain ⟨gap, behind, rfl, -⟩ := place.assigned
  rw [← Instant.byteLength_append]
  refine covers_of_toList (b := gap ++ '=' :: behind ++ later) ?_
  rw [start.whole, whole, searched, split]
  simp

/-- A label is where the key was found in the document that its value came from. -/
theorem labelOf?_eq_some {documents : List Document} {source : Source} {key : String}
    {label : Label} (found : labelOf? documents source path key = some label) :
    sourceDocument? documents source = some label.document ∧
      keyOffset? label.document.content path key = some label.offset ∧
      label.length = byteLength key.toList := by
  unfold labelOf? at found
  cases chosen : sourceDocument? documents source with
  | none =>
      rw [chosen] at found
      cases found
  | some d =>
      rw [chosen] at found
      obtain ⟨o, placed, rfl⟩ := Option.map_eq_some_iff.mp found
      exact ⟨rfl, placed, rfl⟩

theorem covers_of_labelOf? {documents : List Document} {source : Source} {key : String}
    {label : Label} (found : labelOf? documents source path key = some label) :
    label.document ∈ documents ∧ Covers label.document.content label.offset key ∧
      label.length = (utf8Bytes key).length := by
  obtain ⟨chosen, placed, length⟩ := labelOf?_eq_some found
  refine ⟨?_, covers_of_keyOffset? placed, length.trans (Instant.length_utf8Bytes key).symm⟩
  cases source with
  | file name => exact List.mem_of_find?_eq_some chosen
  | given | environment =>
      match documents, chosen with
      | [_], rfl => exact List.mem_singleton_self _

end Places

/-- **A label covers the key that it is about.**  A key is found at the first place of the
searched part where it is assigned, if a line can assign it at all; the bytes there are
those of the key; and so every label of an unknown key is a part of a document at hand,
and the part is the key. -/
theorem labels_cover_their_keys :
    (∀ content path field o, field ≠ "" →
        (keyOffset? content path field = some o ↔
          Bare field.toList ∧ IsKeyPlace content path field o)) ∧
      (∀ content path field o, keyOffset? content path field = some o → Covers content o field) ∧
      ∀ documents directory fault key suggestion valid label,
        Fault.diagnostic documents directory fault =
            .unknownKey key suggestion valid (some label) →
          label.document ∈ documents ∧ Covers label.document.content label.offset key ∧
            label.length = (utf8Bytes key).length := by
  refine ⟨fun content path field o => keyOffset?_eq_some_iff,
    fun content path field o => covers_of_keyOffset?, ?_⟩
  intro documents directory fault key suggestion valid label told
  cases fault with
  | unknownKey path key' valid' source =>
      obtain ⟨rfl, -, -, found⟩ := Diagnostic.unknownKey.inj told
      exact covers_of_labelOf? found
  | unreadable | wrongKind | negative => cases told

/-- Blanks of three bytes before a key, and one of two bytes behind it, on the line of the
header. -/
theorem labels_cover_their_keys_behind_wide_blanks :
    let document : Document := ⟨"k.toml", "é\n[s]\u3000 key\u00a0= 1"⟩
    let label : Label := ⟨document, 10, 3⟩
    let told := Fault.diagnostic [document] "/" (.unknownKey ["s", "key"] "key" ["path"] .given)
    keyOffset? document.content ["s", "key"] "key" = some 10 ∧
      IsKeyPlace document.content ["s", "key"] "key" 10 ∧
      told = .unknownKey "key" (suggest? "key" ["path"]) ["path"] (some label) ∧
      Covers document.content 10 "key" := by
  intro document label told
  obtain ⟨places, -, labels⟩ := labels_cover_their_keys
  have found : keyOffset? document.content ["s", "key"] "key" = some 10 := by decide +kernel
  have labelled : labelOf? [document] .given ["s", "key"] "key" = some label := by decide +kernel
  have told' : told = .unknownKey "key" (suggest? "key" ["path"]) ["path"] (some label) := by
    rw [← labelled]
    rfl
  exact ⟨found, ((places _ _ _ _ (by decide)).mp found).2, told',
    (labels _ _ _ _ _ _ _ told').2.1⟩

end AccountStore.Config
