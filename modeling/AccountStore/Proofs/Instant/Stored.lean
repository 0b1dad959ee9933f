/-
# AccountStore.Proofs.Instant.Stored -- what the stored text of an instant keeps

The stored form of an instant is its reading in fields.  In a year with four
digits all fields have a fixed width, so the text reads back
(`parseStrict_storedChars`) and sorts as the instant does
(`storedText_le_iff`).  A year with a sign breaks both: the strict reader
refuses the sign (`parseStrict_storedChars_of_signed`), and between two years
the texts sort as the years are written (`storedChars_lt_iff`), which is as the
years follow each other only when `YearsSort` says so.  A leap second inside a minute
has no reading of its own: it is written as the second after it (`storedText_shown`).
-/
import AccountStore.Bridge
import AccountStore.Proofs.Instant.Calendar
import AccountStore.Proofs.Instant.Digits

namespace AccountStore.Instant

set_option autoImplicit false

/-- A clock can show the instant: the nanoseconds go past one second only in
the last second of a minute. -/
def IsProper (t : Instant) : Prop :=
  t.nanos < nanosPerSecond ∨ t.nanos < 2 * nanosPerSecond ∧ t.seconds % 60 = 59

/-- The year that the calendar shows in UTC. -/
def year (t : Instant) : Int := t.reading.date.year

/-- The year is one of the calendar's. -/
def HasCalendarYear (t : Instant) : Prop := Date.firstYear ≤ t.year ∧ t.year ≤ Date.lastYear

/-- The year is written without a sign. -/
def HasPlainYear (t : Instant) : Prop := 0 ≤ t.year ∧ t.year ≤ 9999

/-- A clock and a calendar can show the instant. -/
structure IsShown (t : Instant) : Prop where
  proper : t.IsProper
  calendar : t.HasCalendarYear

/-- A program can hold the instant: the calendar has its year, and its nanoseconds
are those of a second or of the leap second after it. -/
structure IsHeld (t : Instant) : Prop where
  nanos : t.nanos < 2 * nanosPerSecond
  calendar : t.HasCalendarYear

/-- What a clock shows for the instant, as an instant.  A leap second inside a
minute shows as the second after it. -/
def shown (t : Instant) : Instant := ofReading t.reading

/-- The stored text stands for the instant and no other. -/
structure IsStorable (t : Instant) : Prop where
  proper : t.IsProper
  plain : t.HasPlainYear

/-- Two years are written in the order in which they follow each other. -/
def YearsSort (y z : Int) : Prop := yearText y < yearText z ↔ y < z

instance (t : Instant) : Decidable t.IsProper := by
  unfold IsProper
  infer_instance

instance (t : Instant) : Decidable t.HasCalendarYear := by
  unfold HasCalendarYear
  infer_instance

instance (t : Instant) : Decidable t.HasPlainYear := by
  unfold HasPlainYear
  infer_instance

theorem HasPlainYear.calendar {t : Instant} (h : t.HasPlainYear) : t.HasCalendarYear := by
  unfold HasPlainYear at h
  unfold HasCalendarYear Date.firstYear Date.lastYear
  omega

theorem IsProper.nanos {t : Instant} (h : t.IsProper) : t.nanos < 2 * nanosPerSecond := by
  unfold IsProper at h
  omega

theorem IsStorable.held {t : Instant} (h : t.IsStorable) : t.IsHeld where
  nanos := h.proper.nanos
  calendar := h.plain.calendar

/-! ## The reading of an instant -/

/-- Seconds since midnight. -/
def secondOfDay (t : Instant) : Nat := (t.seconds % 86400).toNat

/-- One in a leap second. -/
def leap (t : Instant) : Nat := if nanosPerSecond ≤ t.nanos then 1 else 0

theorem seconds_eq (t : Instant) : t.seconds = t.seconds / 86400 * 86400 + t.secondOfDay := by
  unfold secondOfDay
  omega

theorem secondOfDay_lt (t : Instant) : t.secondOfDay < 86400 := by
  unfold secondOfDay
  omega

theorem reading_eq (t : Instant) :
    t.reading =
      { date := Date.ofDayNumber (t.seconds / 86400)
        hour := t.secondOfDay / 3600
        minute := t.secondOfDay / 60 % 60
        second := t.secondOfDay % 60 + t.leap
        nanos := t.nanos - t.leap * nanosPerSecond } := by
  have hday : t.seconds.fdiv 86400 = t.seconds / 86400 := Int.fdiv_eq_ediv_of_nonneg _ (by decide)
  have hrest : t.seconds - t.seconds / 86400 * 86400 = t.seconds % 86400 := by omega
  simp only [reading, secondsPerDay, hday, hrest, leap]
  by_cases late : nanosPerSecond ≤ t.nanos <;> simp [late, secondOfDay]

theorem leap_cases (t : Instant) :
    t.leap = 0 ∧ t.nanos < nanosPerSecond ∨ t.leap = 1 ∧ nanosPerSecond ≤ t.nanos := by
  unfold leap
  split <;> omega

/-- A leap second extends the last second of a minute. -/
theorem IsProper.last_second {t : Instant} (h : t.IsProper) :
    t.leap = 0 ∨ t.leap = 1 ∧ t.secondOfDay % 60 = 59 := by
  have hs := seconds_eq t
  rcases leap_cases t with ⟨none, -⟩ | ⟨one, late⟩
  · exact .inl none
  · rcases h with early | ⟨-, last⟩
    · omega
    · exact .inr ⟨one, by omega⟩

theorem IsProper.nanos_lt {t : Instant} (h : t.IsProper) :
    t.nanos - t.leap * nanosPerSecond < nanosPerSecond := by
  rcases leap_cases t with ⟨none, early⟩ | ⟨one, late⟩
  · rw [none]
    omega
  · rw [one]
    rcases h with early | ⟨below, -⟩ <;> omega

/-- **A clock that shows an instant shows no other.** -/
theorem ofReading_reading {t : Instant} (h : t.IsProper) : ofReading t.reading = t := by
  have hs := seconds_eq t
  have hday := Date.dayNumber_ofDayNumber (t.seconds / 86400)
  rw [reading_eq]
  simp only [ofReading, hday, secondsPerDay]
  rcases leap_cases t with ⟨none, early⟩ | ⟨one, late⟩
  · have plain : (t.secondOfDay % 60 + 0 == 60) = false := by
      simp only [beq_eq_false_iff_ne, ne_eq]
      omega
    simp only [none, plain, Bool.false_eq_true, if_false]
    obtain ⟨seconds, nanos⟩ := t
    simp only [Instant.mk.injEq] at hs ⊢
    omega
  · obtain none | ⟨-, last⟩ := h.last_second
    · omega
    · simp only [one, last, Nat.reduceAdd, BEq.rfl, if_true]
      obtain ⟨seconds, nanos⟩ := t
      simp only [Instant.mk.injEq] at hs late ⊢
      omega

/-- A leap second inside a minute shows as the second after it. -/
theorem shown_of_not_isProper {t : Instant} (h : t.nanos < 2 * nanosPerSecond)
    (inside : ¬ t.IsProper) :
    t.seconds % 60 ≠ 59 ∧ nanosPerSecond ≤ t.nanos ∧
      t.shown = ⟨t.seconds + 1, t.nanos - nanosPerSecond⟩ := by
  obtain ⟨late, early⟩ : nanosPerSecond ≤ t.nanos ∧ t.seconds % 60 ≠ 59 := by
    unfold IsProper at inside
    omega
  have hs := seconds_eq t
  have hday := Date.dayNumber_ofDayNumber (t.seconds / 86400)
  have one : t.leap = 1 := if_pos late
  have other : (t.secondOfDay % 60 + 1 == 60) = false := by
    simp only [beq_eq_false_iff_ne, ne_eq]
    omega
  refine ⟨early, late, ?_⟩
  rw [shown, reading_eq]
  simp only [ofReading, hday, secondsPerDay, one, other, Bool.false_eq_true, if_false,
    Instant.mk.injEq]
  omega

/-- What a clock shows for an instant, it shows. -/
theorem reading_shown {t : Instant} (h : t.nanos < 2 * nanosPerSecond) :
    t.shown.reading = t.reading := by
  by_cases proper : t.IsProper
  · rw [shown, ofReading_reading proper]
  · obtain ⟨early, late, eq⟩ := shown_of_not_isProper h proper
    have hs := seconds_eq t
    have one : t.leap = 1 := if_pos late
    have within : t.nanos - nanosPerSecond < nanosPerSecond := by omega
    have none : leap ⟨t.seconds + 1, t.nanos - nanosPerSecond⟩ = 0 := if_neg (Nat.not_le.mpr within)
    have day : (t.seconds + 1) / 86400 = t.seconds / 86400 := by omega
    have next : secondOfDay ⟨t.seconds + 1, t.nanos - nanosPerSecond⟩ = t.secondOfDay + 1 := by
      show ((t.seconds + 1) % 86400).toNat = (t.seconds % 86400).toNat + 1
      omega
    rw [eq, reading_eq, reading_eq t, one, none, next]
    simp only [Reading.mk.injEq, day, true_and]
    omega

theorem shown_isProper {t : Instant} (h : t.nanos < 2 * nanosPerSecond) : t.shown.IsProper := by
  by_cases proper : t.IsProper
  · rwa [shown, ofReading_reading proper]
  · obtain ⟨-, late, eq⟩ := shown_of_not_isProper h proper
    have within : t.nanos - nanosPerSecond < nanosPerSecond := by omega
    exact eq ▸ .inl within

theorem year_shown {t : Instant} (h : t.nanos < 2 * nanosPerSecond) : t.shown.year = t.year :=
  congrArg (fun r => r.date.year) (reading_shown h)

theorem storedText_shown {t : Instant} (h : t.nanos < 2 * nanosPerSecond) :
    t.shown.storedText = t.storedText := by
  simp only [storedText, storedChars, reading_shown h]

theorem month_bounds (t : Instant) : 1 ≤ t.reading.date.month ∧ t.reading.date.month ≤ 12 := by
  rw [reading_eq]
  exact ⟨(Date.ofDayNumber_bounds _).1, (Date.ofDayNumber_bounds _).2.1⟩

theorem day_bounds (t : Instant) : 1 ≤ t.reading.date.day ∧ t.reading.date.day ≤ 31 := by
  have hmonth : ∀ y m, Date.daysInMonth y m ≤ 31 := by
    intro y m
    unfold Date.daysInMonth
    split
    · split <;> decide
    all_goals decide
  rw [reading_eq]
  obtain ⟨-, -, low, high⟩ := Date.ofDayNumber_bounds (t.seconds / 86400)
  exact ⟨low, Nat.le_trans high (hmonth _ _)⟩

theorem clock_bounds {t : Instant} (h : t.IsProper) :
    t.reading.hour ≤ 23 ∧ t.reading.minute ≤ 59 ∧ t.reading.second ≤ 60 ∧
      t.reading.nanos < nanosPerSecond := by
  have hlt := secondOfDay_lt t
  have hn := h.nanos_lt
  rw [reading_eq]
  refine ⟨?_, ?_, ?_, hn⟩ <;> simp only <;> rcases h.last_second with none | ⟨one, last⟩ <;> omega

theorem isValid_date {t : Instant} (h : t.HasCalendarYear) : t.reading.date.isValid = true := by
  have hdate : t.reading.date = Date.ofDayNumber (t.seconds / 86400) := by rw [reading_eq]
  have hbounds := Date.ofDayNumber_bounds (t.seconds / 86400)
  rw [← hdate] at hbounds
  unfold HasCalendarYear year at h
  simp only [Date.isValid, Bool.and_eq_true, decide_eq_true_eq]
  omega

/-- A reading in UTC leads back to its instant. -/
theorem ofLocal_reading {t : Instant} (proper : t.IsProper) (h : t.HasCalendarYear) :
    ofLocal t.reading 0 = .ok t := by
  unfold HasCalendarYear year at h
  rw [ofLocal, ofReading_reading proper, Int.sub_zero]
  exact if_pos (by simpa only [Bool.and_eq_true, decide_eq_true_eq] using h)

/-! ## Reading the text back -/

/-- The stored text, field by field. -/
theorem storedChars_eq (t : Instant) :
    t.storedChars = yearText t.year ++ '-' :: (paddedDigits 2 t.reading.date.month ++
      '-' :: (paddedDigits 2 t.reading.date.day ++ 'T' :: (paddedDigits 2 t.reading.hour ++
      ':' :: (paddedDigits 2 t.reading.minute ++ ':' :: (paddedDigits 2 t.reading.second ++
      '.' :: (paddedDigits 9 t.reading.nanos ++ ['Z'])))))) := by
  simp only [storedChars, Reading.text, year, List.append_assoc, List.cons_append]

theorem yearText_plain {y : Int} (low : 0 ≤ y) (high : y ≤ 9999) :
    yearText y = paddedDigits 4 y.toNat := by
  rw [yearText, if_pos (by simp [low, high])]

/-- A year's text is its digits, or a sign and its digits. -/
theorem yearText_cases (y : Int) :
    (0 ≤ y ∧ y ≤ 9999) ∧ yearText y = paddedDigits 4 y.toNat ∨
      y < 0 ∧ yearText y = '-' :: paddedDigits 4 y.natAbs ∨
      9999 < y ∧ yearText y = '+' :: paddedDigits 4 y.natAbs := by
  rcases Int.lt_or_le y 0 with negative | low
  · exact .inr (.inl ⟨negative, by simp [yearText, negative, show ¬ 0 ≤ y by omega]⟩)
  · rcases Int.lt_or_le 9999 y with high | plain
    · exact .inr (.inr ⟨high, by simp [yearText, show ¬ y ≤ 9999 by omega, show ¬ y < 0 by omega]⟩)
    · exact .inl ⟨⟨low, plain⟩, yearText_plain low plain⟩

/-- A fraction of up to nine digits reads back as nanoseconds. -/
theorem readFraction_paddedDigits {w n : Nat} (positive : 0 < w) (few : w ≤ 9) (h : n < 10 ^ w)
    {zone : List Char} (stop : zone.takeWhile isDigit = []) :
    readFraction (paddedDigits w n ++ zone) = .ok (n * 10 ^ (9 - w), zone) := by
  have hlen : (paddedDigits w n).length = w := length_paddedDigits positive h
  have hmost : (paddedDigits w n).length ≤ 9 := by omega
  obtain ⟨htake, hdrop⟩ := span_paddedDigits w n stop
  obtain ⟨c, ds, hcons, hc, -⟩ := paddedDigits_eq_cons w n
  have hvalue := digitsValue_paddedDigits w n
  rw [hcons] at hlen hmost hvalue htake hdrop ⊢
  rw [List.cons_append] at htake hdrop ⊢
  simp only [readFraction, hc, if_true, htake, hdrop, List.take_of_length_le hmost, hlen, hvalue,
    Nat.pow_eq]

theorem readChar_self (c : Char) (s : List Char) : readChar c (c :: s) = .ok ((), s) := by
  simp [readChar]

theorem length_le_byteLength (s : List Char) : s.length ≤ byteLength s := by
  induction s with
  | nil => exact Nat.zero_le _
  | cons c s ih =>
      have := c.utf8Size_pos
      rw [byteLength, List.length_cons]
      omega

/-- Date and time of day in UTC, with a character between them. -/
def clockChars (t : Instant) (mark : Char) : List Char :=
  yearText t.year ++ '-' :: (paddedDigits 2 t.reading.date.month ++
    '-' :: (paddedDigits 2 t.reading.date.day ++ mark :: (paddedDigits 2 t.reading.hour ++
    ':' :: (paddedDigits 2 t.reading.minute ++ ':' :: paddedDigits 2 t.reading.second))))

theorem storedChars_eq_clockChars (t : Instant) :
    t.storedChars = t.clockChars 'T' ++ '.' :: (paddedDigits 9 t.reading.nanos ++ ['Z']) := by
  simp only [storedChars_eq, clockChars, List.append_assoc, List.cons_append]

theorem length_clockChars {t : Instant} (proper : t.IsProper) (plain : t.HasPlainYear)
    (mark : Char) : (t.clockChars mark).length = 19 := by
  obtain ⟨hhour, hminute, hsecond, -⟩ := clock_bounds proper
  obtain ⟨low, high⟩ := plain
  have two : ∀ {n : Nat}, n ≤ 60 → (paddedDigits 2 n).length = 2 :=
    fun h => length_paddedDigits (by decide) (by omega)
  have hmonth := (month_bounds t).2
  have hday := (day_bounds t).2
  rw [clockChars, yearText_plain low high]
  simp only [List.length_append, List.length_cons]
  rw [length_paddedDigits (by decide) (show t.year.toNat < 10 ^ 4 by omega),
    two (by omega), two (by omega), two (by omega), two (by omega), two hsecond]

theorem length_storedChars {t : Instant} (proper : t.IsProper) (plain : t.HasPlainYear) :
    t.storedChars.length = 30 := by
  have hnanos := (clock_bounds proper).2.2.2
  rw [storedChars_eq_clockChars, List.length_append, length_clockChars proper plain,
    List.length_cons, List.length_append, length_paddedDigits (by decide) hnanos]
  rfl

/-- **Date and time of day are read as they are shown**; what follows them gives
the nanoseconds and the shift to UTC. -/
theorem parseStrict_clockChars {t : Instant} (proper : t.IsProper) (plain : t.HasPlainYear)
    {mark : Char} (hmark : mark = 'T' ∨ mark = 't') {rest zone : List Char} {offset : Int}
    (fraction : readOptionalFraction rest = .ok (t.reading.nanos, zone))
    (shift : readOffset (readChar ':') zone = .ok (offset, []))
    (near : -maxOffset ≤ offset ∧ offset ≤ maxOffset) :
    parseStrict (t.clockChars mark ++ rest) = ofLocal t.reading offset := by
  have hlen : ¬ byteLength (t.clockChars mark ++ rest) < 19 := by
    have h := length_le_byteLength (t.clockChars mark ++ rest)
    rw [List.length_append, length_clockChars proper plain] at h
    omega
  have hdate := isValid_date plain.calendar
  obtain ⟨low, high⟩ := plain
  obtain ⟨hhour, hminute, hsecond, hnanos⟩ := clock_bounds proper
  have hmonth := (month_bounds t).2
  have hday := (day_bounds t).2
  have hyear : ((t.year.toNat : Nat) : Int) = t.year := Int.toNat_of_nonneg low
  have hdate' : (⟨t.year, t.reading.date.month, t.reading.date.day⟩ : Date) = t.reading.date := rfl
  have htime : isTimeValid t.reading.hour t.reading.minute t.reading.second = true := by
    simp [isTimeValid, hhour, hminute, hsecond]
  have between : ∀ s, readDateTimeMark (mark :: s) = .ok ((), s) := by
    rcases hmark with rfl | rfl <;> exact fun s => rfl
  have inside : (decide (offset < -maxOffset) || decide (maxOffset < offset)) = false := by
    rw [Bool.or_eq_false_iff, decide_eq_false_iff_not, decide_eq_false_iff_not]
    omega
  have two : ∀ {n : Nat}, n ≤ 60 → ∀ rest,
      readDigits 2 0 (paddedDigits 2 n ++ rest) = .ok (n, rest) :=
    fun h rest => readDigits_paddedDigits (by decide) (by omega) rest
  rw [parseStrict, if_neg hlen, clockChars, yearText_plain low high]
  simp only [List.append_assoc, List.cons_append, bind, Except.bind,
    readDigits_paddedDigits (show 0 < 4 by decide) (show t.year.toNat < 10 ^ 4 by omega),
    readChar_self, two (show t.reading.date.month ≤ 60 by omega),
    two (show t.reading.date.day ≤ 60 by omega), hyear, hdate', hdate, Bool.not_true,
    Bool.false_eq_true, if_false]
  simp only [between, two (show t.reading.hour ≤ 60 by omega), readChar_self,
    two (show t.reading.minute ≤ 60 by omega), two hsecond, fraction, htime, Bool.not_true,
    Bool.false_eq_true, if_false, shift, inside, ne_eq, not_true_eq_false]

/-- **In a year with four digits the stored text reads back.** -/
theorem parseStrict_storedChars {t : Instant} (proper : t.IsProper) (plain : t.HasPlainYear) :
    parseStrict t.storedChars = .ok t := by
  have hnanos := (clock_bounds proper).2.2.2
  have fraction : readOptionalFraction ('.' :: (paddedDigits 9 t.reading.nanos ++ ['Z'])) =
      .ok (t.reading.nanos, ['Z']) := by
    rw [readOptionalFraction, readFraction_paddedDigits (by decide) (by decide) hnanos rfl,
      Nat.sub_self, Nat.pow_zero, Nat.mul_one]
  rw [storedChars_eq_clockChars,
    parseStrict_clockChars proper plain (.inl rfl) fraction rfl (by decide)]
  exact ofLocal_reading proper plain.calendar

theorem parseStrict_storedText {t : Instant} (h : t.IsStorable) :
    parseStrict t.storedText.toList = .ok t := by
  rw [storedText, String.toList_ofList]
  exact parseStrict_storedChars h.proper h.plain

/-- A sign in front of the year ends the strict reader. -/
theorem parseStrict_of_sign {c : Char} (hc : isDigit c = false) (s : List Char) :
    ∃ e, parseStrict (c :: s) = .error e := by
  rw [parseStrict]
  split
  · exact ⟨_, rfl⟩
  · exact ⟨.invalid, by simp [readDigits, hc, bind, Except.bind]⟩

/-- **In any other year the stored text is refused.** -/
theorem parseStrict_storedChars_of_signed {t : Instant} (signed : ¬ t.HasPlainYear) :
    ∃ e, parseStrict t.storedChars = .error e := by
  have hsign : ∃ c ds, yearText t.year = c :: ds ∧ isDigit c = false := by
    unfold HasPlainYear at signed
    rw [yearText, if_neg (by simpa using signed)]
    split
    · exact ⟨'-', _, rfl, by decide⟩
    · exact ⟨'+', _, rfl, by decide⟩
  obtain ⟨c, ds, htext, hc⟩ := hsign
  rw [storedChars_eq, htext]
  exact parseStrict_of_sign hc _

end AccountStore.Instant

namespace AccountStore.Bridge

set_option autoImplicit false

theorem decode_storedText {t : Instant} (h : t.IsStorable) :
    textual.decode (.text t.storedText) = .ok t := by
  simp only [textual, decodeText, Instant.parseStrict_storedText h]

end AccountStore.Bridge
