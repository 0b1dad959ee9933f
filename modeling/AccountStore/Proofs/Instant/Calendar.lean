/-
# AccountStore.Proofs.Instant.Calendar -- dates sort as their day numbers do

A year that starts on 1 March ends with its leap day, so the days before such
a year are a closed formula (`marchStart`) and the day of the year alone gives
the month.  `ofDayNumber` finds that year and that day (`ofDayNumber_eq`);
everything else follows from the pair: the date exists (`ofDayNumber_bounds`),
`dayNumber` undoes the reading (`dayNumber_ofDayNumber`), and a later day has a
later date, field by field (`ofDayNumber_before`).
-/
import AccountStore.Instant.Basic

namespace AccountStore.Date

set_option autoImplicit false

/-- Days from 1 March of the year 0 to 1 March of a year. -/
def marchStart (y : Int) : Int := 365 * y + y / 4 - y / 100 + y / 400

/-- The date of a day, counted from 0, of a year that starts on 1 March. -/
def ofMarch (y day : Int) : Date :=
  let monthOfYear := (5 * day + 2) / 153
  let month := if monthOfYear < 10 then monthOfYear + 3 else monthOfYear - 9
  ⟨y + (if month ≤ 2 then 1 else 0), month.toNat, (day - (153 * monthOfYear + 2) / 5 + 1).toNat⟩

/-- A day of a year that starts on 1 March. -/
def IsMarchDay (y day : Int) : Prop := 0 ≤ day ∧ marchStart y + day < marchStart (y + 1)

theorem isLeapYear_iff (y : Int) :
    isLeapYear y = true ↔ y % 4 = 0 ∧ (y % 100 ≠ 0 ∨ y % 400 = 0) := by
  simp [isLeapYear]

theorem marchStart_succ (y : Int) :
    marchStart (y + 1) = marchStart y + 365 + (if isLeapYear (y + 1) then 1 else 0) := by
  by_cases leap : isLeapYear (y + 1) = true
  · rw [if_pos leap]
    rw [isLeapYear_iff] at leap
    unfold marchStart
    omega
  · rw [if_neg leap]
    rw [isLeapYear_iff] at leap
    unfold marchStart
    omega

theorem IsMarchDay.le {y day : Int} (h : IsMarchDay y day) : day ≤ 365 := by
  have hs := marchStart_succ y
  unfold IsMarchDay at h
  split at hs <;> omega

/-- The last day of the year needs a leap year. -/
theorem IsMarchDay.isLeapYear {y day : Int} (h : IsMarchDay y day) (last : day = 365) :
    isLeapYear (y + 1) = true := by
  have hs := marchStart_succ y
  unfold IsMarchDay at h
  by_cases leap : Date.isLeapYear (y + 1) = true
  · exact leap
  · rw [if_neg leap] at hs
    omega

/-! ## The year of a day -/

/-- A day of an era is a day of a year of a four-year cycle of a century.  Only
the last year of a cycle has a day 365, and in the last cycle of a century only
when the century ends the era. -/
theorem exists_cycles (n : Int) (low : 0 ≤ n) (high : n < 146097) :
    ∃ c q s t : Int, (0 ≤ c ∧ c ≤ 3) ∧ (0 ≤ q ∧ q ≤ 24) ∧ (0 ≤ s ∧ s ≤ 3) ∧ 0 ≤ t ∧
      (t ≤ 364 ∨ t = 365 ∧ s = 3 ∧ (q ≤ 23 ∨ c = 3)) ∧
      n = 36524 * c + 1461 * q + 365 * s + t := by
  let c := min (n / 36524) 3
  let q := (n - 36524 * c) / 1461
  let s := min ((n - 36524 * c) % 1461 / 365) 3
  refine ⟨c, q, s, (n - 36524 * c) % 1461 - 365 * s, ?_⟩
  omega

/-- The estimate of `ofDayNumber` is the year of the era. -/
theorem yearOfEra_eq {n c q s t : Int} (hc : 0 ≤ c ∧ c ≤ 3) (hq : 0 ≤ q ∧ q ≤ 24)
    (hs : 0 ≤ s ∧ s ≤ 3) (ht : 0 ≤ t) (last : t ≤ 364 ∨ t = 365 ∧ s = 3 ∧ (q ≤ 23 ∨ c = 3))
    (hn : n = 36524 * c + 1461 * q + 365 * s + t) :
    (n - n / 1460 + n / 36524 - n / 146096) / 365 = 100 * c + 4 * q + s := by
  have centuries : n / 36524 - n / 146096 = c := by
    by_cases final : n = 146096
    · subst final
      omega
    · have h₁ : n / 36524 = c := (Int.ediv_eq_iff_of_pos (by decide)).2 (by omega)
      have h₂ : n / 146096 = 0 := (Int.ediv_eq_iff_of_pos (by decide)).2 (by omega)
      rw [h₁, h₂, Int.sub_zero]
  by_cases late : 1460 ≤ 24 * c + q + 365 * s + t
  · have h : n / 1460 = 25 * c + q + 1 := (Int.ediv_eq_iff_of_pos (by decide)).2 (by omega)
    exact (Int.ediv_eq_iff_of_pos (by decide)).2 (by omega)
  · have h : n / 1460 = 25 * c + q := (Int.ediv_eq_iff_of_pos (by decide)).2 (by omega)
    exact (Int.ediv_eq_iff_of_pos (by decide)).2 (by omega)

theorem marchStart_era {e y : Int} (low : 0 ≤ y) (high : y < 400) :
    marchStart (400 * e + y) = 146097 * e + (365 * y + y / 4 - y / 100) := by
  have h₁ : (400 * e + y) / 4 = 100 * e + y / 4 := by omega
  have h₂ : (400 * e + y) / 100 = 4 * e + y / 100 := by omega
  have h₃ : (400 * e + y) / 400 = e := by omega
  rw [marchStart, h₁, h₂, h₃]
  omega

/-- A day of a year of a four-year cycle of a century is a day of that year. -/
theorem isMarchDay_of_cycles {e c q s t : Int} (hq : 0 ≤ q ∧ q ≤ 24) (ht : 0 ≤ t)
    (last : t ≤ 364 ∨ t = 365 ∧ s = 3 ∧ (q ≤ 23 ∨ c = 3)) :
    IsMarchDay (400 * e + (100 * c + 4 * q + s)) t := by
  refine ⟨ht, ?_⟩
  rw [marchStart_succ]
  generalize marchStart (400 * e + (100 * c + 4 * q + s)) = start
  rcases last with common | ⟨rfl, rfl, late⟩
  · split <;> omega
  · have leap : isLeapYear (400 * e + (100 * c + 4 * q + 3) + 1) = true := by
      rw [isLeapYear_iff]
      omega
    rw [if_pos leap]
    omega

/-- **The date of a day number is the date of one day of one March year.** -/
theorem ofDayNumber_eq (n : Int) :
    ∃ y day, ofDayNumber n = ofMarch y day ∧ IsMarchDay y day ∧ n + 719468 = marchStart y + day := by
  have hera : (n + 719468).fdiv 146097 = (n + 719468) / 146097 :=
    Int.fdiv_eq_ediv_of_nonneg _ (by decide)
  have low : 0 ≤ n + 719468 - (n + 719468) / 146097 * 146097 := by omega
  have high : n + 719468 - (n + 719468) / 146097 * 146097 < 146097 := by omega
  unfold ofDayNumber
  simp only [hera]
  generalize (n + 719468) / 146097 = e at low high
  generalize hd : n + 719468 - e * 146097 = d at low high
  obtain ⟨c, q, s, t, hc, hq, hs, ht, last, hn⟩ := exists_cycles d low high
  have hday : d - (365 * (100 * c + 4 * q + s) + (25 * c + q) - c) = t := by omega
  have hsum : 100 * c + 4 * q + s + e * 400 = 400 * e + (100 * c + 4 * q + s) := by omega
  have htotal : n + 719468 = 146097 * e + (365 * (100 * c + 4 * q + s) + (25 * c + q) - c) + t := by
    omega
  have hy : 0 ≤ 100 * c + 4 * q + s ∧ 100 * c + 4 * q + s < 400 := by omega
  have h₄ : (100 * c + 4 * q + s) / 4 = 25 * c + q := by omega
  have h₁₀₀ : (100 * c + 4 * q + s) / 100 = c := by omega
  have hyear := yearOfEra_eq hc hq hs ht last hn
  refine ⟨400 * e + (100 * c + 4 * q + s), t, ?_, isMarchDay_of_cycles hq ht last, ?_⟩
  · simp only [ofMarch, hyear, h₄, h₁₀₀, hday, hsum]
  · rw [marchStart_era hy.1 hy.2, h₄, h₁₀₀, htotal]

/-! ## Dates -/

/-- The months of a March year, one case each: the first day of the month and
the days before the next. -/
theorem monthOfYear_cases {day : Int} (low : 0 ≤ day) (high : day ≤ 365) :
    ∃ m : Int, (5 * day + 2) / 153 = m ∧ 0 ≤ m ∧ m ≤ 11 ∧ (153 * m + 2) / 5 ≤ day ∧
      day < (153 * (m + 1) + 2) / 5 := by
  refine ⟨(5 * day + 2) / 153, rfl, ?_⟩
  omega

theorem dayNumber_ofMarch {y day : Int} (low : 0 ≤ day) (high : day ≤ 365) :
    (ofMarch y day).dayNumber = marchStart y + day - 719468 := by
  obtain ⟨m, hm, m0, m11, first, next⟩ := monthOfYear_cases low high
  have hera : ∀ y : Int, y.fdiv 400 = y / 400 := fun y => Int.fdiv_eq_ediv_of_nonneg y (by decide)
  have hstart : marchStart y = 146097 * (y / 400) + ((y - y / 400 * 400) * 365 +
      (y - y / 400 * 400) / 4 - (y - y / 400 * 400) / 100) := by
    have h := marchStart_era (e := y / 400) (y := y - y / 400 * 400) (by omega) (by omega)
    rw [show 400 * (y / 400) + (y - y / 400 * 400) = y by omega] at h
    omega
  unfold dayNumber ofMarch
  simp only [hm]
  by_cases spring : m < 10
  · have late : ¬ (m + 3 ≤ 2) := by omega
    have late' : ¬ ((m + 3).toNat ≤ 2) := by omega
    simp only [if_pos spring, if_neg late, if_neg late', hera, Int.add_zero]
    omega
  · have early : m - 9 ≤ 2 := by omega
    have early' : (m - 9).toNat ≤ 2 := by omega
    simp only [if_neg spring, if_pos early, if_pos early', hera, Int.add_sub_cancel]
    omega

theorem ofMarch_bounds {y day : Int} (h : IsMarchDay y day) :
    1 ≤ (ofMarch y day).month ∧ (ofMarch y day).month ≤ 12 ∧ 1 ≤ (ofMarch y day).day ∧
      (ofMarch y day).day ≤ daysInMonth (ofMarch y day).year (ofMarch y day).month := by
  obtain ⟨m, hm, m0, m11, first, next⟩ := monthOfYear_cases h.1 h.le
  simp only [ofMarch, hm]
  have months : m = 0 ∨ m = 1 ∨ m = 2 ∨ m = 3 ∨ m = 4 ∨ m = 5 ∨ m = 6 ∨ m = 7 ∨ m = 8 ∨ m = 9 ∨
      m = 10 ∨ m = 11 := by omega
  rcases months with rfl | rfl | rfl | rfl | rfl | rfl | rfl | rfl | rfl | rfl | rfl | rfl
  case inr.inr.inr.inr.inr.inr.inr.inr.inr.inr.inr =>
    -- February: day 365 of the year is its day 29
    have hle := h.le
    by_cases last : day = 365
    · simp [daysInMonth, h.isLeapYear last, last]
    · simp [daysInMonth] at first next ⊢
      split <;> omega
  all_goals
    simp [daysInMonth] at first next ⊢
    omega

/-- One date is earlier than another: by year, then month, then day. -/
def Before (a b : Date) : Prop :=
  a.year < b.year ∨ a.year = b.year ∧ (a.month < b.month ∨ a.month = b.month ∧ a.day < b.day)

theorem ofMarch_before {y day y' day' : Int} (h : IsMarchDay y day) (h' : IsMarchDay y' day')
    (before : y < y' ∨ y = y' ∧ day < day') : (ofMarch y day).Before (ofMarch y' day') := by
  obtain ⟨m, hm, m0, m11, first, next⟩ := monthOfYear_cases h.1 h.le
  obtain ⟨m', hm', m0', m11', first', next'⟩ := monthOfYear_cases h'.1 h'.le
  simp only [Before, ofMarch, hm, hm']
  rcases before with earlier | ⟨rfl, earlier⟩
  · by_cases spring : m < 10 <;> by_cases spring' : m' < 10 <;>
      simp only [spring, spring', if_true, if_false] <;> (repeat' split) <;> omega
  · have hle : m ≤ m' := by omega
    by_cases spring : m < 10 <;> by_cases spring' : m' < 10 <;>
      simp only [spring, spring', if_true, if_false] <;> (repeat' split) <;> omega

theorem marchStart_le {y y' : Int} (h : y ≤ y') : marchStart y ≤ marchStart y' := by
  unfold marchStart
  omega

/-- **A later day has a later date.** -/
theorem ofDayNumber_before {a b : Int} (h : a < b) : (ofDayNumber a).Before (ofDayNumber b) := by
  obtain ⟨y, day, ha, hday, hsum⟩ := ofDayNumber_eq a
  obtain ⟨y', day', hb, hday', hsum'⟩ := ofDayNumber_eq b
  rw [ha, hb]
  refine ofMarch_before hday hday' ?_
  rcases Int.lt_trichotomy y y' with earlier | rfl | later
  · exact .inl earlier
  · exact .inr ⟨rfl, by omega⟩
  · -- the day would lie after the end of the later year
    have hle := marchStart_le (show y' + 1 ≤ y by omega)
    have := hday.1
    have := hday'.2
    omega

/-- **Reading a day number as a date loses nothing.** -/
theorem dayNumber_ofDayNumber (n : Int) : (ofDayNumber n).dayNumber = n := by
  obtain ⟨y, day, hn, hday, hsum⟩ := ofDayNumber_eq n
  rw [hn, dayNumber_ofMarch hday.1 hday.le]
  omega

theorem ofDayNumber_bounds (n : Int) :
    1 ≤ (ofDayNumber n).month ∧ (ofDayNumber n).month ≤ 12 ∧ 1 ≤ (ofDayNumber n).day ∧
      (ofDayNumber n).day ≤ daysInMonth (ofDayNumber n).year (ofDayNumber n).month := by
  obtain ⟨y, day, hn, hday, -⟩ := ofDayNumber_eq n
  rw [hn]
  exact ofMarch_bounds hday

end AccountStore.Date
