/-
# AccountStore.Proofs.Instant.Offsets -- instants written away from UTC

RFC 3339 lets a writer show the clock of any place, as long as the text says how
far that clock is from UTC.  The clock of a place shows what UTC shows so many
minutes later (`atOffset`): a shift by whole minutes keeps a leap second at the
end of a minute, and one of less than a day leads out of the years 1 to 9998 by
one year at most, so the date has four digits on both sides of the shift.  The
reader undoes the shift (`ofLocal_atOffset`), whatever the spelling of the
fraction and of the offset, so every text of an instant decodes to it.
-/
import AccountStore.Proofs.Instant.StoredBytes

namespace AccountStore

set_option autoImplicit false

namespace Instant

/-! ## Clocks away from UTC -/

/-- The instant at which UTC shows what a clock so many minutes ahead of it shows
now. -/
def atOffset (t : Instant) (minutes : Int) : Instant := ⟨t.seconds + minutes * 60, t.nanos⟩

theorem IsProper.atOffset {t : Instant} (h : t.IsProper) (minutes : Int) :
    (t.atOffset minutes).IsProper := by
  unfold IsProper Instant.atOffset at *
  dsimp only
  omega

/-- A shift of less than a day leaves the year with four digits. -/
theorem hasPlainYear_atOffset {t : Instant} (low : 1 ≤ t.year) (high : t.year ≤ 9998)
    {minutes : Int} (behind : -1440 < minutes) (ahead : minutes < 1440) :
    (t.atOffset minutes).HasPlainYear := by
  have first : 1 ≤ t.year ↔ -62135596800 ≤ t.seconds := le_year_iff t rfl rfl
  have next : 9999 ≤ t.year ↔ 253370764800 ≤ t.seconds := le_year_iff t rfl rfl
  rw [hasPlainYear_iff, atOffset]
  dsimp only
  omega

/-- **The reader shifts a local reading back.** -/
theorem ofLocal_atOffset {t : Instant} (proper : t.IsProper) (calendar : t.HasCalendarYear)
    (minutes : Int) : ofLocal (t.atOffset minutes).reading (minutes * 60) = .ok t := by
  have back : (⟨(t.atOffset minutes).seconds - minutes * 60, (t.atOffset minutes).nanos⟩ :
      Instant) = t := by
    simp only [atOffset, Int.add_sub_cancel]
  unfold HasCalendarYear year at calendar
  rw [ofLocal, ofReading_reading (proper.atOffset minutes), back]
  exact if_pos (by simpa only [Bool.and_eq_true, decide_eq_true_eq] using calendar)

/-! ## Spellings -/

/-- Nanoseconds past a second, in one to nine digits after a point; whole seconds
may go without. -/
inductive SpellsFraction : Nat → List Char → Prop
  | whole : SpellsFraction 0 []
  | digits {width n : Nat} (some : 1 ≤ width) (few : width ≤ 9) (short : n < 10 ^ width) :
      SpellsFraction (n * 10 ^ (9 - width)) ('.' :: paddedDigits width n)

/-- Hours and minutes with a colon between them. -/
def clockOffset (minutes : Nat) : List Char :=
  paddedDigits 2 (minutes / 60) ++ ':' :: paddedDigits 2 (minutes % 60)

/-- How many minutes a clock is ahead of UTC.  No offset at all is a `Z`, and it
may have either sign. -/
inductive SpellsOffset : Int → List Char → Prop
  | utc {c : Char} (zulu : c = 'Z' ∨ c = 'z') : SpellsOffset 0 [c]
  | ahead (minutes : Nat) : SpellsOffset minutes ('+' :: clockOffset minutes)
  | behind (minutes : Nat) : SpellsOffset (-minutes) ('-' :: clockOffset minutes)

/-- A text of the instant, as a clock so many minutes ahead of UTC shows it. -/
inductive Spells (t : Instant) (minutes : Int) : List Char → Prop
  | text {mark : Char} {fraction zone : List Char} (between : mark = 'T' ∨ mark = 't')
      (past : SpellsFraction (t.atOffset minutes).reading.nanos fraction)
      (offset : SpellsOffset minutes zone) :
      Spells t minutes ((t.atOffset minutes).clockChars mark ++ (fraction ++ zone))

/-- Nothing in the spelling of an offset could belong to a fraction. -/
theorem SpellsOffset.ends_fraction {minutes : Int} {zone : List Char}
    (h : SpellsOffset minutes zone) :
    zone.takeWhile isDigit = [] ∧ readOptionalFraction zone = .ok (0, zone) := by
  cases h with
  | utc zulu => rcases zulu with rfl | rfl <;> exact ⟨rfl, rfl⟩
  | ahead minutes => exact ⟨rfl, rfl⟩
  | behind minutes => exact ⟨rfl, rfl⟩

theorem SpellsFraction.reads {n : Nat} {fraction : List Char} (h : SpellsFraction n fraction)
    {minutes : Int} {zone : List Char} (offset : SpellsOffset minutes zone) :
    readOptionalFraction (fraction ++ zone) = .ok (n, zone) := by
  obtain ⟨stop, none⟩ := offset.ends_fraction
  cases h with
  | whole => exact none
  | digits some few short =>
      rw [List.cons_append, readOptionalFraction, readFraction_paddedDigits some few short stop]

theorem paddedDigits_two {n : Nat} (h : n < 100) :
    paddedDigits 2 n = [(n / 10).digitChar, (n % 10).digitChar] := by
  rw [paddedDigits_succ 1 n (by decide), paddedDigits_one (by omega), List.singleton_append]

theorem isDigit_digitChar {n : Nat} (h : n < 10) : isDigit n.digitChar = true := by
  have all : ∀ n < 10, isDigit (Nat.digitChar n) = true := by decide
  exact all n h

theorem readOffsetHours_paddedDigits {n : Nat} (h : n < 100) (rest : List Char) :
    readOffsetHours (paddedDigits 2 n ++ rest) = .ok (n, rest) := by
  have tens : n / 10 < 10 := by omega
  have ones : n % 10 < 10 := by omega
  rw [paddedDigits_two h]
  simp only [readOffsetHours, List.cons_append, List.nil_append, readPair, bind, Except.bind,
    isDigit_digitChar tens, isDigit_digitChar ones, Bool.and_self, if_true,
    digitValue_digitChar tens, digitValue_digitChar ones]
  rw [Nat.div_add_mod']

theorem readOffsetMinutes_paddedDigits {n : Nat} (h : n < 60) (rest : List Char) :
    readOffsetMinutes (paddedDigits 2 n ++ rest) = .ok (n, rest) := by
  have tens : n / 10 < 6 := by omega
  have ones : n % 10 < 10 := by omega
  have low : (n / 10).digitChar ≤ '5' := by
    have all : ∀ n < 6, Nat.digitChar n ≤ '5' := by decide
    exact all _ tens
  rw [paddedDigits_two (by omega)]
  simp only [readOffsetMinutes, List.cons_append, List.nil_append, readPair, bind, Except.bind,
    isDigit_digitChar (show n / 10 < 10 by omega), isDigit_digitChar ones, Bool.and_self, if_true,
    low, digitValue_digitChar (show n / 10 < 10 by omega), digitValue_digitChar ones]
  rw [Nat.div_add_mod']

/-- The reader of an offset after its sign. -/
theorem clockOffset_reads {minutes : Nat} (short : minutes < 1440) {sign : Char}
    (hsign : sign = '+' ∨ sign = '-') :
    readOffset (readChar ':') (sign :: clockOffset minutes) =
      .ok (if sign = '-' then -(minutes * 60 : Int) else minutes * 60, []) := by
  have hours := readOffsetHours_paddedDigits (show minutes / 60 < 100 by omega)
    (':' :: paddedDigits 2 (minutes % 60))
  have rest := readOffsetMinutes_paddedDigits (show minutes % 60 < 60 by omega) []
  rw [List.append_nil] at rest
  have whole : (minutes : Int) / 60 * 3600 + minutes % 60 * 60 = minutes * 60 := by omega
  rcases hsign with rfl | rfl <;>
    simp [readOffset, readSign, clockOffset, hours, readChar_self, rest, whole, bind, Except.bind]

theorem SpellsOffset.reads {minutes : Int} {zone : List Char} (h : SpellsOffset minutes zone)
    (behind : -1440 < minutes) (ahead : minutes < 1440) :
    readOffset (readChar ':') zone = .ok (minutes * 60, []) := by
  cases h with
  | utc zulu => rcases zulu with rfl | rfl <;> rfl
  | ahead minutes => exact clockOffset_reads (by omega) (.inl rfl)
  | behind minutes =>
      rw [clockOffset_reads (by omega) (.inr rfl), if_pos rfl, Int.neg_mul]

/-- **A text of an instant reads as the instant, wherever its clock stands.** -/
theorem Spells.parseStrict {t : Instant} {minutes : Int} {text : List Char}
    (h : Spells t minutes text) (proper : t.IsProper) (low : 1 ≤ t.year) (high : t.year ≤ 9998)
    (behind : -1440 < minutes) (ahead : minutes < 1440) :
    Instant.parseStrict text = .ok t := by
  obtain ⟨between, past, offset⟩ := h
  have plain := hasPlainYear_atOffset low high behind ahead
  have calendar : t.HasCalendarYear := HasPlainYear.calendar ⟨by omega, by omega⟩
  have near : -maxOffset ≤ minutes * 60 ∧ minutes * 60 ≤ maxOffset := by
    unfold maxOffset
    omega
  rw [parseStrict_clockChars (proper.atOffset minutes) plain between (past.reads offset)
    (offset.reads behind ahead) near]
  exact ofLocal_atOffset proper calendar minutes

end Instant

namespace Bridge

open Instant

/-- **Instants do not depend on the clock that shows them.**  In the years 1 to 9998,
leap seconds included, a text of an instant decodes to it, wherever its clock stands
and however its fraction is spelled; so two texts of one instant decode alike and go
back to the database as one text. -/
theorem texts_of_an_instant_decode_to_it {t : Instant} (proper : t.IsProper) (low : 1 ≤ t.year)
    (high : t.year ≤ 9998) {a b : Int} {s r : String} (behindA : -1440 < a) (aheadA : a < 1440)
    (behindB : -1440 < b) (aheadB : b < 1440) (spelledA : Spells t a s.toList)
    (spelledB : Spells t b r.toList) :
    textual.decode (.text s) = .ok t ∧
      textual.decode (.text s) = textual.decode (.text r) ∧
      (textual.decode (.text s)).map textual.encode = .ok (.text t.storedText) ∧
      (textual.decode (.text r)).map textual.encode = .ok (.text t.storedText) := by
  have readA : textual.decode (.text s) = .ok t := by
    simp only [textual, decodeText, spelledA.parseStrict proper low high behindA aheadA]
  have readB : textual.decode (.text r) = .ok t := by
    simp only [textual, decodeText, spelledB.parseStrict proper low high behindB aheadB]
  rw [readA, readB]
  exact ⟨rfl, rfl, rfl, rfl⟩

/-- The leap second at the end of 2016, shown east and west of UTC: in the next year
already, and a minute before its end. -/
theorem texts_of_an_instant_decode_to_it_at_a_leap_second :
    let t : Instant := ⟨1483228799, 1500000000⟩
    let s := "2017-01-01T05:29:60.5+05:30"
    let r := "2016-12-31t23:58:60.500000-00:01"
    t.IsProper ∧ (1 ≤ t.year ∧ t.year ≤ 9998) ∧ Spells t 330 s.toList ∧ Spells t (-1) r.toList ∧
      textual.decode (.text s) = .ok t ∧
      textual.decode (.text s) = textual.decode (.text r) ∧
      (textual.decode (.text s)).map textual.encode = .ok (.text t.storedText) ∧
      (textual.decode (.text r)).map textual.encode = .ok (.text t.storedText) := by
  intro t s r
  have east : Spells t 330 s.toList := by
    have chars : s.toList = (t.atOffset 330).clockChars 'T' ++
        ('.' :: paddedDigits 1 5 ++ '+' :: clockOffset 330) := by decide +kernel
    have past : (t.atOffset 330).reading.nanos = 5 * 10 ^ (9 - 1) := by decide
    rw [chars]
    refine .text (.inl rfl) ?_ (.ahead 330)
    rw [past]
    exact .digits (by decide) (by decide) (by decide)
  have west : Spells t (-1) r.toList := by
    have chars : r.toList = (t.atOffset (-1)).clockChars 't' ++
        ('.' :: paddedDigits 6 500000 ++ '-' :: clockOffset 1) := by decide +kernel
    have past : (t.atOffset (-1)).reading.nanos = 500000 * 10 ^ (9 - 6) := by decide
    rw [chars]
    refine .text (.inr rfl) ?_ (.behind 1)
    rw [past]
    exact .digits (by decide) (by decide) (by decide)
  exact ⟨by decide, by decide, east, west,
    texts_of_an_instant_decode_to_it (by decide) (by decide) (by decide) (by decide) (by decide)
      (by decide) (by decide) east west⟩

end Bridge

end AccountStore
