/-
# AccountStore.Proofs.Validate.Grammar -- which usernames and email addresses are taken

A username and an email address are given twice more here: as a pattern, built
from classes of characters by sequence, choice and repetition, and as a shape,
which says what stands at which position.  The check of usernames walks along
the text and looks one character ahead at a separator; that walk accepts the
words of the pattern (`isUsernameTail_iff_mem`) and the texts whose separators
stand alone and inside (`isUsernameTail_iff`).  The check of addresses cuts twice
at the first character outside a class.  Neither `@` nor the first point is in
the class before it, so each cut is at the first of them (`Text.span_eq_iff`).
-/
import AccountStore.Validate.Account
import AccountStore.Proofs.Instant.StoredBytes
import AccountStore.Proofs.Text.Span
import Mathlib.Computability.Language
import Mathlib.Data.List.Chain

namespace AccountStore.Validate

set_option autoImplicit false

open Computability

/-! ## Patterns -/

/-- A single character of a class. -/
def oneOf (p : Char → Bool) : Language Char := {s | ∃ c, p c = true ∧ s = [c]}

/-- One character of a class, or more of them. -/
def someOf (p : Char → Bool) : Language Char := oneOf p * (oneOf p)∗

theorem mem_oneOf {p : Char → Bool} {s : List Char} : s ∈ oneOf p ↔ ∃ c, p c = true ∧ s = [c] :=
  Iff.rfl

theorem mem_kstar_oneOf {p : Char → Bool} {s : List Char} :
    s ∈ (oneOf p)∗ ↔ ∀ c ∈ s, p c = true := by
  rw [Language.mem_kstar]
  constructor
  · rintro ⟨words, rfl, single⟩ c hc
    obtain ⟨w, hw, hc⟩ := List.mem_flatten.mp hc
    obtain ⟨d, hd, rfl⟩ := single w hw
    rwa [List.mem_singleton.mp hc]
  · intro all
    refine ⟨s.map (fun c => [c]), by rw [← List.flatMap_def, List.flatMap_singleton'], fun w hw => ?_⟩
    obtain ⟨c, hc, rfl⟩ := List.mem_map.mp hw
    exact ⟨c, all c hc, rfl⟩

theorem mem_someOf {p : Char → Bool} {s : List Char} :
    s ∈ someOf p ↔ s ≠ [] ∧ ∀ c ∈ s, p c = true := by
  rw [someOf, Language.mem_mul]
  constructor
  · rintro ⟨_, ⟨c, hc, rfl⟩, r, hr, rfl⟩
    exact ⟨List.cons_ne_nil _ _, List.forall_mem_cons.mpr ⟨hc, mem_kstar_oneOf.mp hr⟩⟩
  · rintro ⟨filled, all⟩
    obtain ⟨c, r, rfl⟩ := List.exists_cons_of_ne_nil filled
    obtain ⟨hc, hr⟩ := List.forall_mem_cons.mp all
    exact ⟨[c], ⟨c, hc, rfl⟩, r, mem_kstar_oneOf.mpr hr, rfl⟩

/-! ## Usernames -/

/-- The characters that may separate the parts of a username. -/
def isMark (c : Char) : Bool := c == '_' || c == '.'

/-- A letter or digit, or a separator and a letter or digit. -/
def usernameStep : Language Char := oneOf isAlphanumeric + oneOf isMark * oneOf isAlphanumeric

/-- A letter and any number of steps. -/
def usernamePattern : Language Char := oneOf isAsciiLetter * usernameStep∗

/-- Separators stand alone, and none is last. -/
structure WellSpaced (s : List Char) : Prop where
  chars : ∀ c ∈ s, isAlphanumeric c = true ∨ isMark c = true
  apart : s.IsChain (fun c d => ¬ (isMark c = true ∧ isMark d = true))
  last : ∀ c, s.getLast? = some c → isMark c = false

/-- A username, position by position. -/
structure UsernameShape (s : List Char) : Prop extends WellSpaced s where
  filled : s ≠ []
  first : ∀ c, s.head? = some c → isAsciiLetter c = true

theorem isMark_of_isAlphanumeric {c : Char} (h : isAlphanumeric c = true) : isMark c = false := by
  rw [← Bool.not_eq_true]
  intro mark
  simp only [isMark, Bool.or_eq_true, beq_iff_eq] at mark
  rcases mark with rfl | rfl <;> exact absurd h (by decide)

theorem wellSpaced_nil : WellSpaced [] := ⟨nofun, .nil, nofun⟩

/-- A letter or digit in front changes nothing. -/
theorem wellSpaced_cons {c : Char} {r : List Char} (h : isAlphanumeric c = true) :
    WellSpaced (c :: r) ↔ WellSpaced r := by
  have plain := isMark_of_isAlphanumeric h
  constructor
  · rintro ⟨chars, apart, last⟩
    refine ⟨(List.forall_mem_cons.mp chars).2, apart.tail, fun d hd => last d ?_⟩
    cases r with
    | nil => cases hd
    | cons e t => rwa [List.getLast?_cons_cons]
  · rintro ⟨chars, apart, last⟩
    refine ⟨List.forall_mem_cons.mpr ⟨.inl h, chars⟩, ?_, fun d hd => ?_⟩
    · exact List.isChain_cons.mpr ⟨fun d _ both => by simp [plain] at both, apart⟩
    · cases r with
      | nil =>
          obtain rfl : c = d := by simpa using hd
          exact plain
      | cons e t => exact last d (by rwa [List.getLast?_cons_cons] at hd)

/-- After a separator in front there is a letter or digit. -/
theorem wellSpaced_mark {c : Char} {r : List Char} (h : isMark c = true) :
    WellSpaced (c :: r) ↔ ∃ d t, r = d :: t ∧ isAlphanumeric d = true ∧ WellSpaced t := by
  constructor
  · rintro ⟨chars, apart, last⟩
    cases r with
    | nil => exact absurd (last c rfl) (by simp [h])
    | cons d t =>
        obtain ⟨-, later⟩ := List.forall_mem_cons.mp chars
        obtain ⟨next, apart⟩ := List.isChain_cons_cons.mp apart
        have plain : isAlphanumeric d = true :=
          (later d (List.mem_cons_self ..)).resolve_right fun mark => next ⟨h, mark⟩
        have rest : WellSpaced (d :: t) :=
          ⟨later, apart, fun e he => last e (by rwa [List.getLast?_cons_cons])⟩
        exact ⟨d, t, rfl, plain, (wellSpaced_cons plain).mp rest⟩
  · rintro ⟨d, t, rfl, plain, rest⟩
    obtain ⟨chars, apart, last⟩ := (wellSpaced_cons plain).mpr rest
    refine ⟨List.forall_mem_cons.mpr ⟨.inr h, chars⟩, ?_, fun e he => last e ?_⟩
    · exact List.isChain_cons_cons.mpr
        ⟨fun both => by simp [isMark_of_isAlphanumeric plain] at both, apart⟩
    · rwa [List.getLast?_cons_cons] at he

/-- **The walk accepts the texts whose separators stand alone and inside.** -/
theorem isUsernameTail_iff (s : List Char) : isUsernameTail s = true ↔ WellSpaced s := by
  fun_induction isUsernameTail s with
  | case1 => exact iff_of_true rfl wellSpaced_nil
  | case2 c r plain ih => rw [ih, wellSpaced_cons plain]
  | case3 c plain mark =>
      have : ¬ WellSpaced [c] := by
        rw [wellSpaced_mark mark]
        rintro ⟨d, t, he, -⟩
        cases he
      simp [this]
  | case4 c plain mark d t ih =>
      rw [wellSpaced_mark mark, Bool.and_eq_true, ih]
      simp
  | case5 c r plain mark =>
      refine iff_of_false nofun fun spaced => ?_
      rcases spaced.chars c (List.mem_cons_self ..) with h | h
      · exact plain h
      · exact mark h

theorem isUsernameTail_plain {c : Char} (h : isAlphanumeric c = true) (r : List Char) :
    isUsernameTail (c :: r) = isUsernameTail r := by
  rw [isUsernameTail.eq_def]
  exact if_pos h

theorem isUsernameTail_mark {c d : Char} (h : isMark c = true) (r : List Char) :
    isUsernameTail (c :: d :: r) = (isAlphanumeric d && isUsernameTail r) := by
  have other : ¬ isAlphanumeric c = true := by
    intro plain
    rw [isMark_of_isAlphanumeric plain] at h
    cases h
  rw [isUsernameTail, if_neg other]
  exact if_pos h

/-- A step in front leaves the walk where it was. -/
theorem isUsernameTail_step {w : List Char} (h : w ∈ usernameStep) (r : List Char) :
    isUsernameTail (w ++ r) = isUsernameTail r := by
  rcases h with ⟨c, plain, rfl⟩ | ⟨_, ⟨c, mark, rfl⟩, _, ⟨d, plain, rfl⟩, rfl⟩
  · exact isUsernameTail_plain plain r
  · exact (isUsernameTail_mark mark r).trans (by rw [plain, Bool.true_and])

/-- One word and any number of them. -/
theorem append_mem_kstar {l : Language Char} {w r : List Char} (hw : w ∈ l) (hr : r ∈ l∗) :
    w ++ r ∈ l∗ := by
  obtain ⟨words, rfl, later⟩ := Language.mem_kstar.mp hr
  exact Language.mem_kstar.mpr ⟨w :: words, rfl, List.forall_mem_cons.mpr ⟨hw, later⟩⟩

/-- **The walk accepts the steps of the pattern, any number of them.** -/
theorem isUsernameTail_iff_mem (s : List Char) :
    isUsernameTail s = true ↔ s ∈ usernameStep∗ := by
  constructor
  · intro taken
    fun_induction isUsernameTail s with
    | case1 => exact Language.nil_mem_kstar _
    | case2 c r plain ih =>
        exact append_mem_kstar (.inl ⟨c, plain, rfl⟩) (ih taken)
    | case3 => cases taken
    | case4 c plain mark d t ih =>
        obtain ⟨hd, ht⟩ := Bool.and_eq_true_iff.mp taken
        have step : [c, d] ∈ usernameStep := .inr ⟨[c], ⟨c, mark, rfl⟩, [d], ⟨d, hd, rfl⟩, rfl⟩
        exact append_mem_kstar step (ih ht)
    | case5 => cases taken
  · intro h
    obtain ⟨words, rfl, steps⟩ := Language.mem_kstar.mp h
    clear h
    induction words with
    | nil => rfl
    | cons w words ih =>
        obtain ⟨first, later⟩ := List.forall_mem_cons.mp steps
        rw [List.flatten_cons, isUsernameTail_step first]
        exact ih later

theorem isUsername_iff (s : List Char) : isUsername s = true ↔ UsernameShape s := by
  cases s with
  | nil => exact iff_of_false nofun fun shape => shape.filled rfl
  | cons c r =>
      rw [isUsername, Bool.and_eq_true, isUsernameTail_iff]
      constructor
      · rintro ⟨letter, spaced⟩
        have plain : isAlphanumeric c = true := by simp [isAlphanumeric, letter]
        exact ⟨(wellSpaced_cons plain).mpr spaced, List.cons_ne_nil _ _, by simpa using letter⟩
      · rintro ⟨spaced, -, first⟩
        have letter := first c rfl
        have plain : isAlphanumeric c = true := by simp [isAlphanumeric, letter]
        exact ⟨letter, (wellSpaced_cons plain).mp spaced⟩

theorem isUsername_iff_mem (s : List Char) : isUsername s = true ↔ s ∈ usernamePattern := by
  rw [usernamePattern, Language.mem_mul]
  cases s with
  | nil =>
      refine iff_of_false nofun ?_
      rintro ⟨_, ⟨c, -, rfl⟩, r, -, he⟩
      cases he
  | cons c r =>
      rw [isUsername, Bool.and_eq_true, isUsernameTail_iff_mem]
      constructor
      · rintro ⟨letter, steps⟩
        exact ⟨[c], ⟨c, letter, rfl⟩, r, steps, rfl⟩
      · rintro ⟨_, ⟨d, letter, rfl⟩, t, steps, he⟩
        cases he
        exact ⟨letter, steps⟩

theorem accept_eq_error_iff (b : Bool) (e : ValidationError) : accept b e = .error e ↔ b = false := by
  cases b <;> simp [accept]

theorem usernameSyntax_eq_ok_iff (s : String) :
    usernameSyntax s = .ok () ↔ UsernameShape s.toList := by
  rw [usernameSyntax, accept_eq_ok_iff, isUsername_iff]

theorem usernameSyntax_eq_error_iff (s : String) :
    usernameSyntax s = .error .invalidUsernameSyntax ↔ ¬ UsernameShape s.toList := by
  rw [usernameSyntax, accept_eq_error_iff, ← isUsername_iff, Bool.not_eq_true]

theorem isAscii_of_isAlphanumeric {c : Char} (h : isAlphanumeric c = true) : IsAscii c := by
  simp only [isAlphanumeric, isAsciiLetter, isAsciiUpper, isAsciiLower, isDigit, Bool.or_eq_true,
    Bool.and_eq_true, decide_eq_true_eq] at h
  have upper : c ≤ 'Z' → IsAscii c := fun h => Nat.lt_of_le_of_lt h (by decide)
  have lower : c ≤ 'z' → IsAscii c := fun h => Nat.lt_of_le_of_lt h (by decide)
  have digit : c ≤ '9' → IsAscii c := fun h => Nat.lt_of_le_of_lt h (by decide)
  rcases h with (⟨-, h⟩ | ⟨-, h⟩) | ⟨-, h⟩
  · exact upper h
  · exact lower h
  · exact digit h

theorem WellSpaced.isAscii {s : List Char} (h : WellSpaced s) : ∀ c ∈ s, IsAscii c := by
  intro c hc
  rcases h.chars c hc with plain | mark
  · exact isAscii_of_isAlphanumeric plain
  · simp only [isMark, Bool.or_eq_true, beq_iff_eq] at mark
    rcases mark with rfl | rfl <;> decide

/-- **A username is taken exactly when it has the shape of one**, which is to match
the pattern; any other text is refused with the fault of usernames, so is every
text with a character outside ASCII, and so is every text that ends a line. -/
theorem usernames_taken_by_shape (s : String) :
    (usernameSyntax s = .ok () ↔ UsernameShape s.toList) ∧
      (usernameSyntax s = .ok () ↔ s.toList ∈ usernamePattern) ∧
      (usernameSyntax s = .error .invalidUsernameSyntax ↔ ¬ UsernameShape s.toList) ∧
      ((∃ c ∈ s.toList, ¬ IsAscii c) → usernameSyntax s = .error .invalidUsernameSyntax) ∧
      usernameSyntax (s ++ "\n") = .error .invalidUsernameSyntax := by
  refine ⟨usernameSyntax_eq_ok_iff s, ?_, usernameSyntax_eq_error_iff s, ?_, ?_⟩
  · rw [usernameSyntax, accept_eq_ok_iff, isUsername_iff_mem]
  · rintro ⟨c, hc, foreign⟩
    exact (usernameSyntax_eq_error_iff s).mpr fun shape => foreign (shape.isAscii c hc)
  · refine (usernameSyntax_eq_error_iff _).mpr fun shape => ?_
    have stands : '\n' ∈ (s ++ "\n").toList := by simp
    exact absurd (shape.chars _ stands) (by decide)

/-- Separators inside are taken; a letter of another script and a line end are not. -/
theorem usernames_taken_by_shape_at_look_alikes :
    usernameSyntax "ada.b_9" = .ok () ∧
      usernameSyntax "ad\u0430" = .error .invalidUsernameSyntax ∧
      usernameSyntax "ada.b_9\n" = .error .invalidUsernameSyntax := by
  have foreign : ∃ c ∈ "ad\u0430".toList, ¬ IsAscii c := ⟨'\u0430', by simp, by decide⟩
  refine ⟨by decide +kernel, (usernames_taken_by_shape "ad\u0430").2.2.2.1 foreign, ?_⟩
  exact (usernames_taken_by_shape "ada.b_9").2.2.2.2

/-! ## Email addresses -/

/-- A text of local characters, an `@`, a label, a point, and a text of domain
characters. -/
def emailPattern : Language Char :=
  someOf isLocalChar * oneOf (· == '@') * someOf isLabelChar * oneOf (· == '.') *
    someOf isDomainChar

/-- What stands before the first `@`. -/
def localPart (s : List Char) : List Char := s.takeWhile (· != '@')

/-- What stands after the first `@`. -/
def domainPart (s : List Char) : List Char := (s.dropWhile (· != '@')).tail

/-- The first point of a domain is neither its first character nor its last. -/
structure DomainShape (s : List Char) : Prop where
  chars : ∀ c ∈ s, isDomainChar c = true
  dotted : '.' ∈ s
  labelled : s.idxOf '.' ≠ 0
  continued : s.idxOf '.' + 1 ≠ s.length

/-- An email address, part by part. -/
structure EmailShape (s : List Char) : Prop where
  once : s.count '@' = 1
  named : localPart s ≠ []
  localChars : ∀ c ∈ localPart s, isLocalChar c = true
  domain : DomainShape (domainPart s)

theorem isDomain_iff (s : List Char) :
    isDomain s = true ↔ ∃ label rest, s = label ++ '.' :: rest ∧
      (label ≠ [] ∧ ∀ c ∈ label, isLabelChar c = true) ∧
      rest ≠ [] ∧ ∀ c ∈ rest, isDomainChar c = true := by
  have outside : isLabelChar '.' = false := by decide
  constructor
  · intro taken
    obtain ⟨filled, following⟩ := Bool.and_eq_true_iff.mp taken
    split at following
    · next rest cut =>
        obtain ⟨whole, inside⟩ := (Text.span_eq_iff outside).mp ⟨rfl, cut⟩
        obtain ⟨more, all⟩ := Bool.and_eq_true_iff.mp following
        exact ⟨_, rest, whole, ⟨by simpa using filled, inside⟩, by simpa using more,
          List.all_eq_true.mp all⟩
    · cases following
  · rintro ⟨label, rest, whole, ⟨filled, inside⟩, more, all⟩
    obtain ⟨before, cut⟩ := (Text.span_eq_iff outside).mpr ⟨whole, inside⟩
    rw [isDomain, before, cut]
    simpa [filled, more] using all

theorem isEmail_iff (s : List Char) :
    isEmail s = true ↔ ∃ name domain, s = name ++ '@' :: domain ∧
      (name ≠ [] ∧ ∀ c ∈ name, isLocalChar c = true) ∧ isDomain domain = true := by
  have outside : isLocalChar '@' = false := by decide
  constructor
  · intro taken
    obtain ⟨filled, following⟩ := Bool.and_eq_true_iff.mp taken
    split at following
    · next domain cut =>
        obtain ⟨whole, inside⟩ := (Text.span_eq_iff outside).mp ⟨rfl, cut⟩
        exact ⟨_, domain, whole, ⟨by simpa using filled, inside⟩, following⟩
    · cases following
  · rintro ⟨name, domain, whole, ⟨filled, inside⟩, rest⟩
    obtain ⟨before, cut⟩ := (Text.span_eq_iff outside).mpr ⟨whole, inside⟩
    rw [isEmail, before, cut]
    simpa [filled] using rest

/-- **The check of addresses accepts the words of the pattern.** -/
theorem isEmail_iff_mem (s : List Char) : isEmail s = true ↔ s ∈ emailPattern := by
  simp only [isEmail_iff, isDomain_iff, emailPattern, Language.mem_mul, mem_someOf, mem_oneOf,
    beq_iff_eq]
  constructor
  · rintro ⟨name, _, rfl, hname, label, rest, rfl, hlabel, hrest⟩
    exact ⟨_, ⟨_, ⟨_, ⟨name, hname, _, ⟨_, rfl, rfl⟩, rfl⟩, label, hlabel, rfl⟩, _, ⟨_, rfl, rfl⟩, rfl⟩,
      rest, hrest, by simp⟩
  · rintro ⟨_, ⟨_, ⟨_, ⟨name, hname, _, ⟨_, rfl, rfl⟩, rfl⟩, label, hlabel, rfl⟩, _, ⟨_, rfl, rfl⟩,
      rfl⟩, rest, hrest, rfl⟩
    exact ⟨name, _, by simp, hname, label, rest, rfl, hlabel, hrest⟩

theorem idxOf_first {c : Char} {a : List Char} (h : c ∉ a) (b : List Char) :
    (a ++ c :: b).idxOf c = a.length := by
  rw [List.idxOf_append_of_notMem h, List.idxOf_cons_self, Nat.add_zero]

/-- **A domain has a label before its first point and a rest after it.** -/
theorem domainShape_iff (s : List Char) : DomainShape s ↔ isDomain s = true := by
  rw [isDomain_iff]
  constructor
  · rintro ⟨chars, dotted, labelled, continued⟩
    obtain ⟨label, rest, rfl, free⟩ := List.eq_append_cons_of_mem dotted
    rw [idxOf_first free] at labelled continued
    obtain ⟨before, -, after⟩ :=
      (List.forall_mem_append.trans (and_congr_right' List.forall_mem_cons)).mp chars
    refine ⟨label, rest, rfl, ⟨by simpa using labelled, fun c hc => ?_⟩, ?_, after⟩
    · have other : c ≠ '.' := fun same => free (same ▸ hc)
      simpa [isDomainChar, other] using before c hc
    · rintro rfl
      exact continued (by simp)
  · rintro ⟨label, rest, rfl, ⟨filled, inside⟩, more, all⟩
    have free : '.' ∉ label := fun h => absurd (inside '.' h) (by decide)
    have point : isDomainChar '.' = true := by decide
    have before : ∀ c ∈ label, isDomainChar c = true := fun c hc => by
      simp [isDomainChar, inside c hc]
    refine ⟨?_, by simp, ?_, ?_⟩
    · exact List.forall_mem_append.mpr ⟨before, List.forall_mem_cons.mpr ⟨point, all⟩⟩
    · rw [idxOf_first free]
      simpa using filled
    · rw [idxOf_first free]
      simpa using more

/-- The parts of a text around its only `@`. -/
theorem parts_eq {name : List Char} (h : '@' ∉ name) (domain : List Char) :
    localPart (name ++ '@' :: domain) = name ∧ domainPart (name ++ '@' :: domain) = domain := by
  have other : ∀ c ∈ name, (c != '@') = true := fun c hc => bne_iff_ne.mpr fun same => h (same ▸ hc)
  obtain ⟨before, cut⟩ := (Text.span_eq_iff (p := (· != '@')) (c := '@') (by decide)).mpr ⟨rfl, other⟩
  exact ⟨before, by rw [domainPart, cut, List.tail_cons]⟩

/-- **The check of addresses accepts the texts with the shape of one.** -/
theorem emailShape_iff (s : List Char) : EmailShape s ↔ isEmail s = true := by
  rw [isEmail_iff]
  constructor
  · rintro ⟨once, named, localChars, domain⟩
    have stands : '@' ∈ s := List.count_pos_iff.mp (by omega)
    obtain ⟨name, rest, rfl, free⟩ := List.eq_append_cons_of_mem stands
    obtain ⟨before, after⟩ := parts_eq free rest
    rw [before] at named localChars
    rw [after] at domain
    exact ⟨name, rest, rfl, ⟨named, localChars⟩, (domainShape_iff rest).mp domain⟩
  · rintro ⟨name, rest, rfl, ⟨named, localChars⟩, taken⟩
    have domain := (domainShape_iff rest).mpr taken
    have free : '@' ∉ name := fun h => absurd (localChars '@' h) (by decide)
    have free' : '@' ∉ rest := fun h => absurd (domain.chars '@' h) (by decide)
    obtain ⟨before, after⟩ := parts_eq free rest
    refine ⟨?_, by rwa [before], by rwa [before], by rwa [after]⟩
    rw [List.count_append, List.count_cons_self, List.count_eq_zero_of_not_mem free,
      List.count_eq_zero_of_not_mem free']

theorem emailSyntax_eq_ok_iff (s : String) : emailSyntax s = .ok () ↔ EmailShape s.toList := by
  rw [emailSyntax, accept_eq_ok_iff, emailShape_iff]

/-- **An address is taken exactly when it has the shape of one**: one `@`, a local
part before it, and after it a domain whose first point stands inside.  That is to
match the pattern, and any other text is refused with the fault of addresses. -/
theorem emails_taken_by_shape (s : String) :
    (emailSyntax s = .ok () ↔ EmailShape s.toList) ∧
      (emailSyntax s = .ok () ↔ s.toList ∈ emailPattern) ∧
      (emailSyntax s = .error .invalidEmailSyntax ↔ ¬ EmailShape s.toList) := by
  refine ⟨emailSyntax_eq_ok_iff s, ?_, ?_⟩
  · rw [emailSyntax, accept_eq_ok_iff, isEmail_iff_mem]
  · rw [emailSyntax, accept_eq_error_iff, emailShape_iff, Bool.not_eq_true]

/-- Points may end a domain, after its first one. -/
example : isEmail "ada@example..".toList = true ∧ isEmail "ada@.example".toList = false := by
  decide +kernel

end AccountStore.Validate
