/-
# AccountStore.Proofs.Config.KeySection -- the section that a label points into

A header is a line that starts with a bracket, and a place in a document is in the
section of the last header before it (`lastHeader?`).  The search for a key starts
behind the first mention of its section's header, wherever that stands, and does not
ask whether the line it starts on is a header.  Every header before a found key is
therefore on a line before that one, or is that one (`headersBefore_found`).

So a key is found in its own section exactly if nothing but blanks stands before the
first mention on its line, and a key without a section is found below no header
exactly if the document does not start with one, or the key is on that line
(`found_in_section_iff`).  A comment that mentions a header is enough to miss.
-/
import AccountStore.Config.Report
import AccountStore.Proofs.Config.KeyPlace

namespace AccountStore.Config

set_option autoImplicit false

open Instant (byteLength)
open Text (isBlank allBlank trimLeft)

/-! ## Headers -/

/-- The headers before an offset; a line counts if its bracket stands before it. -/
def headersBefore (content : String) (o : Nat) : List (List Char) :=
  (lines (Report.takeBytes o content.toList)).filter isHeaderLine

def lastHeader? (content : String) (o : Nat) : Option (List Char) :=
  (headersBefore content o).getLast?

/-- The line starts with the header of the section. -/
def HeaderOf (name : String) (line : List Char) : Prop := header name <+: trimLeft line

instance (name : String) (line : List Char) : Decidable (HeaderOf name line) :=
  inferInstanceAs (Decidable (header name <+: trimLeft line))

theorem takeBytes_append (a b : List Char) : Report.takeBytes (byteLength a) (a ++ b) = a := by
  induction a with
  | nil => cases b <;> rfl
  | cons c a ih =>
      have one := c.utf8Size_pos
      have rest : c.utf8Size + byteLength a - c.utf8Size = byteLength a := by omega
      rw [List.cons_append, Report.takeBytes, byteLength, if_neg (by omega), rest, ih]

theorem isHeaderLine_iff {line : List Char} :
    isHeaderLine line = true ↔ ∃ r, trimLeft line = '[' :: r := by
  rw [isHeaderLine, beq_iff_eq, List.head?_eq_some_iff]

theorem isHeaderLine_of_blank {line : List Char} (blank : allBlank line = true) :
    isHeaderLine line = false := by
  rw [isHeaderLine, (Text.trimLeft_eq_nil_iff line).mpr blank]
  rfl

/-- Of a text within a line there is at most that line. -/
theorem filter_lines_of_free {s : List Char} (free : '\n' ∉ s) :
    (lines s).filter isHeaderLine = if isHeaderLine s then [s] else [] := by
  by_cases empty : s = []
  · subst empty
    rfl
  · rw [lines_of_free free empty, List.filter_singleton]
    cases isHeaderLine s <;> rfl

/-! ## The headers before a key -/

/-- The line on which the search starts, as far as it matters: to its end, or up to the key
if the key is on it. -/
structure StartLine (rest : List Char) (o : Nat) (start : List Char) : Prop where
  begins : start <+: rest
  free : ∀ p q, start = p ++ q → q ≠ [] → '\n' ∉ p
  here : allBlank start = true ∧ (∀ line, (lines rest).head? = some line → o < byteLength line) ∨
    (lines rest).head? = some start ∧ byteLength start ≤ o

theorem searchedLines_eq_cons {ls more : List (List Char)} {first : List Char}
    (h : searchedLines ls = first :: more) :
    ls.head? = some first ∧ ∀ l ∈ more, isHeaderLine l = false := by
  cases ls with
  | nil => cases h
  | cons line rest =>
      obtain ⟨rfl, rfl⟩ := List.cons.inj h
      refine ⟨rfl, fun l stands => ?_⟩
      simpa using List.mem_takeWhile_imp stands

/-- Behind any beginning of a line the text has no header but the line, which `start` goes
on with. -/
def HeadedBy (start text : List Char) : Prop :=
  ∀ t, '\n' ∉ t → (lines (t ++ text)).filter isHeaderLine =
    if isHeaderLine (t ++ start) then [t ++ start] else []

theorem headedBy_self {s : List Char} (free : '\n' ∉ s) : HeadedBy s s := by
  intro t outside
  refine filter_lines_of_free ?_
  rw [List.mem_append, not_or]
  exact ⟨outside, free⟩

/-- Behind the start no line that was searched is a header, nor are the blanks before a key. -/
theorem filter_lines_eq_nil {ls : List (List Char)} {blanks : List Char} (lined : Lined ls)
    (ended : Ended ls.flatten) (plain : ∀ l ∈ ls, isHeaderLine l = false)
    (blank : allBlank blanks = true) (free : '\n' ∉ blanks) :
    (lines (ls.flatten ++ blanks)).filter isHeaderLine = [] := by
  rw [lines_append ended, lined.lines_flatten, List.filter_append, filter_lines_of_free free,
    isHeaderLine_of_blank blank, List.filter_eq_nil_iff.mpr (by simpa using plain)]
  rfl

theorem headedBy_line {line below : List Char} (free : '\n' ∉ line)
    (plain : (lines below).filter isHeaderLine = []) :
    HeadedBy (line ++ ['\n']) (line ++ '\n' :: below) := by
  intro t outside
  have alone : '\n' ∉ t ++ line := by
    rw [List.mem_append, not_or]
    exact ⟨outside, free⟩
  rw [← List.append_assoc, lines_line alone, List.filter_cons, plain, List.append_assoc]

/-- Where the key's line starts with blanks, what is searched before the key has at most one
header, and that is on the line on which the search started. -/
theorem exists_startLine {rest blanks tail more : List Char} {earlier later : List (List Char)}
    (cut : searchedLines (lines rest) = earlier ++ (blanks ++ tail) :: later)
    (text : rest = earlier.flatten ++ blanks ++ more) (blank : allBlank blanks = true)
    (filled : tail ≠ []) :
    ∃ start, StartLine rest (byteLength (earlier.flatten ++ blanks)) start ∧
      HeadedBy start (earlier.flatten ++ blanks) := by
  have lined := lined_searchedLines rest
  rw [cut] at lined
  have free : '\n' ∉ blanks := lined.free rfl filled
  cases earlier with
  | nil =>
      obtain ⟨first, -⟩ := searchedLines_eq_cons cut
      refine ⟨blanks, ⟨⟨more, text.symm⟩, ?_, .inl ⟨blank, fun line other => ?_⟩⟩,
        headedBy_self free⟩
      · rintro p q rfl -
        exact fun stands => free (List.mem_append_left q stands)
      · rw [first, Option.some.injEq] at other
        have behind := Instant.byteLength_pos filled
        rw [← other, List.flatten_nil, List.nil_append, Instant.byteLength_append]
        omega
  | cons first earlier =>
      obtain ⟨here, plain⟩ := searchedLines_eq_cons cut
      have within : ∀ p q, first = p ++ q → q ≠ [] → '\n' ∉ p :=
        fun p q => @Lined.free first [] _ lined p q
      rw [List.cons_append] at lined
      generalize lower : earlier ++ (blanks ++ tail) :: later = below at lined
      cases lined with
      | last => simp at lower
      | @line line _ inside lined =>
          rw [← lower] at lined
          have below := filter_lines_eq_nil lined.of_append lined.ended
            (fun l stands => plain l (List.mem_append_left _ stands)) blank free
          have joined : ((line ++ ['\n']) :: earlier).flatten ++ blanks =
              line ++ '\n' :: (earlier.flatten ++ blanks) := by simp
          refine ⟨line ++ ['\n'], ⟨?_, within, .inr ⟨here, ?_⟩⟩, ?_⟩
          · rw [text, List.flatten_cons, List.append_assoc, List.append_assoc]
            exact List.prefix_append _ _
          · rw [List.flatten_cons, List.append_assoc, Instant.byteLength_append (line ++ ['\n'])]
            exact Nat.le_add_right _ _
          · rw [joined]
            exact headedBy_line inside below

/-- **The headers before a key that was found** are those of the lines before the one on
which the search started, and that one. -/
theorem headersBefore_found {content field : String} {path : List String} {o : Nat}
    (found : keyOffset? content path field = some o) :
    ∃ passed rest above start n, SearchFrom content.toList path passed rest ∧
      o = byteLength passed + n ∧ StartLine rest n start ∧ passed = above ++ lastLine passed ∧
      headersBefore content o = (lines above).filter isHeaderLine ++
        if isHeaderLine (lastLine passed ++ start) then [lastLine passed ++ start] else [] := by
  obtain ⟨passed, rest, n, begins, assigns, rfl⟩ := keyOffset?_eq_some.mp found
  obtain ⟨above, whole, ended, free⟩ := exists_lastLine passed
  obtain ⟨behind, split⟩ := exists_searchedLines (lines rest)
  obtain ⟨earlier, line, later, gap, assigned, cut, -, parts, -, rfl⟩ :=
    line_of_assignedIn? assigns
  have blank : allBlank (line.takeWhile isBlank) = true := List.all_takeWhile
  generalize line.takeWhile isBlank = blanks at parts blank
  subst parts
  have text : rest = earlier.flatten ++ blanks ++
      (field.toList ++ gap ++ '=' :: assigned ++ later.flatten ++ behind.flatten) := by
    rw [← flatten_lines rest, split, cut]
    simp
  obtain ⟨start, first, headers⟩ := exists_startLine cut text blank (by simp)
  refine ⟨passed, rest, above, start, _, begins, rfl, first, whole, ?_⟩
  have before : Report.takeBytes (byteLength passed + byteLength (earlier.flatten ++ blanks))
      content.toList = passed ++ (earlier.flatten ++ blanks) := by
    rw [begins.whole, text, ← List.append_assoc, ← Instant.byteLength_append, takeBytes_append]
  rw [headersBefore, before]
  conv_lhs => rw [whole, List.append_assoc]
  rw [lines_append ended, List.filter_append, headers _ free]

/-! ## The first mention of a header -/

section Mentions

variable {name : String} {content before rest : List Char}

theorem trimLeft_header (name : String) (r : List Char) :
    trimLeft (header name ++ r) = header name ++ r := by
  rw [header, List.cons_append, Text.trimLeft_cons (by decide)]

theorem getLast?_header (name : String) : (header name).getLast? = some ']' := by
  rw [header, ← List.cons_append, List.getLast?_concat]

/-- The closing bracket of the mention is on the last line. -/
theorem solid_lastLine (name : String) (before : List Char) :
    trimLeft (lastLine (before ++ header name)) ≠ [] := by
  obtain ⟨above, whole, ended, -⟩ := exists_lastLine (before ++ header name)
  have last : (before ++ header name).getLast? = some ']' := by
    rw [List.getLast?_append, getLast?_header, Option.some_or]
  rw [ne_eq, Text.trimLeft_eq_nil_iff, allBlank, List.all_eq_true]
  intro blank
  cases tail : (lastLine (before ++ header name)).getLast? with
  | none =>
      rw [List.getLast?_eq_none_iff] at tail
      rw [tail, List.append_nil] at whole
      exact absurd (ended ']' (whole ▸ last)) (by decide)
  | some c =>
      rw [whole, List.getLast?_append, tail, Option.some_or, Option.some.injEq] at last
      have stands := blank c (List.mem_of_getLast? tail)
      rw [last] at stands
      exact absurd stands (by decide)

/-- No line above the first mention starts with the header, for it would be a mention. -/
theorem FirstMention.not_headerOf_above (mention : FirstMention (header name) content before rest)
    {above : List Char}
    (whole : before ++ header name = above ++ lastLine (before ++ header name)) :
    ∀ line ∈ lines above, ¬ HeaderOf name line := by
  intro line stands ⟨w, starts⟩
  obtain ⟨ls, ms, split⟩ := List.append_of_mem stands
  have parts : line = line.takeWhile isBlank ++ header name ++ w := by
    rw [List.append_assoc, starts, Text.trimLeft_append_suffix]
  generalize line.takeWhile isBlank = blanks at parts
  have text : above = ls.flatten ++ blanks ++ header name ++ (w ++ ms.flatten) := by
    rw [← flatten_lines above, split, parts]
    simp
  have behind := List.length_pos_iff.mpr (solid_lastLine name before)
  generalize lastLine (before ++ header name) = last at whole behind
  have earlier := mention.first (ls.flatten ++ blanks) (w ++ ms.flatten ++ last ++ rest) (by
    rw [mention.whole, whole, text]
    simp)
  have size := congrArg List.length whole
  have shorter := (List.dropWhile_sublist (p := isBlank) (l := last)).length_le
  rw [text] at size
  simp only [trimLeft, List.length_append] at size earlier behind
  omega

/-- A header without a line feed is on the last line up to its end. -/
theorem length_header_le (free : '\n' ∉ header name) (before : List Char) :
    (header name).length ≤ (trimLeft (lastLine (before ++ header name))).length := by
  obtain ⟨above, whole, ended, alone⟩ := exists_lastLine before
  have tail : lastLine (before ++ header name) = lastLine before ++ header name := by
    conv_lhs => rw [whole, List.append_assoc]
    refine lastLine_eq ended ?_
    rw [List.mem_append, not_or]
    exact ⟨alone, free⟩
  rw [tail]
  by_cases blank : trimLeft (lastLine before) = []
  · rw [Text.trimLeft_append_of_blank ((Text.trimLeft_eq_nil_iff _).mp blank),
      ← List.append_nil (header name), trimLeft_header]
  · rw [Text.trimLeft_append_of_solid blank, List.length_append]
    exact Nat.le_add_left _ _

/-- A header that a line ends and another one begins is within a line, as its bracket is no
line feed. -/
theorem header_free {t v w : List Char} (whole : header name = t ++ v) (outer : '\n' ∉ t)
    (free : ∀ p q, v ++ w = p ++ q → q ≠ [] → '\n' ∉ p) : '\n' ∉ header name := by
  rw [whole, List.mem_append, not_or]
  refine ⟨outer, ?_⟩
  by_cases empty : v = []
  · rw [empty]
    exact List.not_mem_nil
  · have closing := getLast?_header name
    rw [whole, List.getLast?_append_of_ne_nil _ empty, List.getLast?_eq_some_getLast empty,
      Option.some.injEq] at closing
    have inner := free v.dropLast (v.getLast empty :: w)
      (by rw [List.append_cons, List.dropLast_append_getLast]) (List.cons_ne_nil _ _)
    rw [← List.dropLast_append_getLast empty, closing, List.mem_append, not_or]
    exact ⟨inner, by decide⟩

/-- **The line on which the search starts is the section's header exactly if nothing but
blanks stands before the mention on it.** -/
theorem FirstMention.headerOf_start_iff
    (mention : FirstMention (header name) content before rest) {start : List Char}
    (begins : start <+: rest) (free : ∀ p q, start = p ++ q → q ≠ [] → '\n' ∉ p) :
    HeaderOf name (lastLine (before ++ header name) ++ start) ↔
      trimLeft (lastLine (before ++ header name)) = header name := by
  obtain ⟨above, whole, -, alone⟩ := exists_lastLine (before ++ header name)
  rw [HeaderOf, Text.trimLeft_append_of_solid (solid_lastLine name before)]
  have long := fun free : '\n' ∉ header name => length_header_le free before
  generalize tail : lastLine (before ++ header name) = last at *
  have parts := Text.trimLeft_append_suffix last
  generalize last.takeWhile isBlank = blanks at parts
  constructor
  · rintro ⟨w, starts⟩
    obtain ⟨z, rfl⟩ := begins
    have earlier := mention.first (above ++ blanks) (w ++ z) (by
      rw [mention.whole, whole, ← parts, List.append_assoc _ _ (w ++ z), ← List.append_assoc _ w,
        starts]
      simp)
    have cut : before ++ header name = (above ++ blanks) ++ trimLeft last := by
      rw [whole, List.append_assoc, parts]
    have size := congrArg List.length cut
    simp only [List.length_append] at size earlier
    -- What is left of the line is a beginning of the header, and a proper one is too short.
    rcases List.append_eq_append_iff.mp starts with ⟨v, more, -⟩ | ⟨v, less, same⟩
    · have empty : v = [] := by
        rw [more] at size
        rw [← List.length_eq_zero_iff]
        simp only [List.length_append] at size
        omega
      rw [more, empty, List.append_nil]
    · by_cases empty : v = []
      · rw [less, empty, List.append_nil]
      · have outer : '\n' ∉ trimLeft last :=
          fun stands => alone (parts ▸ List.mem_append_right blanks stands)
        have size := long (header_free less outer fun p q => free p q ∘ same.trans)
        have filled := List.length_pos_iff.mpr empty
        rw [less, List.length_append] at size
        omega
  · intro same
    rw [same]
    exact List.prefix_append _ _

end Mentions

/-! ## Keys in their own section -/

/-- The last header before the place is that of the section that the path starts with;
there is none if the path is empty. -/
def InOwnSection (content : String) (path : List String) (o : Nat) : Prop :=
  match path with
  | [] => lastHeader? content o = none
  | name :: _ => ∃ line, lastHeader? content o = some line ∧ HeaderOf name line

/-- The search for the key starts in its section: nothing but blanks stands before the first
mention of the header on its line.  Without a section, the document does not start with a
header, or the key is on that line. -/
def StartsInSection (content : String) (path : List String) (o : Nat) : Prop :=
  match path with
  | [] => ∀ line, (lines content.toList).head? = some line → isHeaderLine line = true →
      o < byteLength line
  | name :: _ => ∃ before rest, FirstMention (header name) content.toList before rest ∧
      trimLeft (lastLine (before ++ header name)) = header name

section Places

variable {content field : String} {o : Nat}

theorem isHeaderLine_of_headerOf {name : String} {line : List Char} (starts : HeaderOf name line) :
    isHeaderLine line = true := by
  obtain ⟨w, whole⟩ := starts
  exact isHeaderLine_iff.mpr ⟨name.toList ++ [']'] ++ w, whole.symm⟩

theorem inOwnSection_below_iff {name : String} {names : List String}
    (found : keyOffset? content (name :: names) field = some o) :
    InOwnSection content (name :: names) o ↔ StartsInSection content (name :: names) o := by
  obtain ⟨passed, rest, above, start, n, begins, -, first, whole, headers⟩ :=
    headersBefore_found found
  cases begins with
  | @below _ _ before _ mention =>
      have unique : StartsInSection content (name :: names) o ↔
          trimLeft (lastLine (before ++ header name)) = header name := by
        constructor
        · rintro ⟨before', rest', mention', same⟩
          obtain ⟨rfl, -⟩ := mention.unique mention'
          exact same
        · exact fun same => ⟨before, rest, mention, same⟩
      rw [unique, ← mention.headerOf_start_iff first.begins first.free, InOwnSection, lastHeader?,
        headers]
      by_cases here : isHeaderLine (lastLine (before ++ header name) ++ start) = true
      · rw [if_pos here, List.getLast?_concat]
        simp only [Option.some.injEq, exists_eq_left']
      · rw [if_neg here, List.append_nil]
        refine iff_of_false ?_ fun starts => here (isHeaderLine_of_headerOf starts)
        rintro ⟨line, last, starts⟩
        have stands := List.mem_of_mem_filter (List.mem_of_getLast? last)
        exact mention.not_headerOf_above whole line stands starts

theorem inOwnSection_top_iff (found : keyOffset? content [] field = some o) :
    InOwnSection content [] o ↔ StartsInSection content [] o := by
  obtain ⟨passed, rest, above, start, n, begins, rfl, first, whole, headers⟩ :=
    headersBefore_found found
  cases begins with
  | top =>
      obtain ⟨rfl, empty⟩ := List.append_eq_nil_iff.mp whole.symm
      have single : InOwnSection content [] (byteLength [] + n) ↔ isHeaderLine start = false := by
        rw [InOwnSection, lastHeader?, headers, empty, List.nil_append]
        cases isHeaderLine start <;> simp [lines]
      rw [single, StartsInSection, byteLength, Nat.zero_add]
      rcases first.here with ⟨blank, on⟩ | ⟨here, behind⟩
      · exact iff_of_true (isHeaderLine_of_blank blank) fun line same _ => on line same
      · rw [here]
        constructor
        · intro plain line same heads
          cases same
          rw [plain] at heads
          cases heads
        · intro on
          have only := on start rfl
          cases heads : isHeaderLine start with
          | false => rfl
          | true => exact absurd (only heads) (Nat.not_lt.mpr behind)

theorem inOwnSection_iff {path : List String} (found : keyOffset? content path field = some o) :
    InOwnSection content path o ↔ StartsInSection content path o := by
  cases path with
  | nil => exact inOwnSection_top_iff found
  | cons name names => exact inOwnSection_below_iff found

end Places

/-- **Where keys and labels are in their own section.**  A key that was found is in its own
section exactly if the search for it started there, and so is the label of an unknown
key. -/
theorem found_in_section_iff (path : List String) (key : String) :
    (∀ content o, keyOffset? content path key = some o →
        (InOwnSection content path o ↔ StartsInSection content path o)) ∧
      ∀ documents directory valid source label,
        (Fault.diagnostic documents directory (.unknownKey path key valid source)).label? =
            some label →
          (InOwnSection label.document.content path label.offset ↔
            StartsInSection label.document.content path label.offset) := by
  refine ⟨fun content o => inOwnSection_iff, ?_⟩
  intro documents directory valid source label labelled
  obtain ⟨-, placed, -⟩ := labelOf?_eq_some labelled
  exact inOwnSection_iff placed

/-- Behind a comment that mentions its section, an unknown key is taken for a key of the
section with the comment; without a section, for one of the section at the top. -/
theorem found_in_section_iff_behind_a_comment :
    let text := "[logging]\n# not [storage]\nlevel = \"info\"\n\n[storage]\nlevel = \"debug\"\n"
    let document : Document := ⟨"<inline>", text⟩
    let path := ["storage", "level"]
    let fault : Fault := .unknownKey path "level" storageSection.keyNames .given
    let top := "[logging]\nlevel = \"info\"\n"
    (keyOffset? text ["logging"] "level" = some 26 ∧ StartsInSection text ["logging"] 26) ∧
      ((fault.diagnostic [document] "").label? = some ⟨document, 26, 5⟩ ∧
        lastHeader? text 26 = some "[logging]\n".toList ∧ ¬ StartsInSection text path 26) ∧
      keyOffset? top [] "level" = some 10 ∧ lastHeader? top 10 = some "[logging]\n".toList ∧
        ¬ StartsInSection top [] 10 := by
  intro text document path fault top
  have found : keyOffset? text ["logging"] "level" = some 26 := by decide +kernel
  have last : lastHeader? text 26 = some "[logging]\n".toList := by decide +kernel
  have labelled : labelOf? [document] .given path "level" = some ⟨document, 26, 5⟩ := by
    decide +kernel
  have told : (fault.diagnostic [document] "").label? = some ⟨document, 26, 5⟩ := labelled
  have foundTop : keyOffset? top [] "level" = some 10 := by decide +kernel
  have lastTop : lastHeader? top 10 = some "[logging]\n".toList := by decide +kernel
  refine ⟨⟨found, ?_⟩, ⟨told, last, fun starts => ?_⟩, foundTop, lastTop, fun starts => ?_⟩
  · exact ((found_in_section_iff ["logging"] "level").1 _ _ found).mp ⟨_, last, by decide +kernel⟩
  · obtain ⟨line, same, heads⟩ :=
      ((found_in_section_iff path "level").2 _ _ _ _ _ told).mpr starts
    rw [last, Option.some.injEq] at same
    rw [← same] at heads
    revert heads
    decide +kernel
  · have none := ((found_in_section_iff [] "level").1 _ _ foundTop).mpr starts
    rw [InOwnSection, lastTop] at none
    cases none

end AccountStore.Config
