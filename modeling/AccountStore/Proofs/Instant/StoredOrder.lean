/-
# AccountStore.Proofs.Instant.StoredOrder -- stored texts sort as their instants

Instants are ordered field by field, and so are their stored texts, as long as
the years are equal (`storedChars_lt_iff_fields`).  Between different years the year texts
decide alone, because the dash that ends them comes before every digit
(`separated_lt_iff`).  The main statement is `storedChars_lt_iff`; for years of
four digits it says that the text is an order embedding (`storedText_le_iff`).
-/
import AccountStore.Proofs.Instant.Stored

namespace AccountStore.Instant

set_option autoImplicit false

theorem lt_def (a b : Instant) :
    a < b ↔ a.seconds < b.seconds ∨ a.seconds = b.seconds ∧ a.nanos < b.nanos := by
  show lt a b = true ↔ _
  simp [lt]

theorem lt_asymm {a b : Instant} (h : a < b) : ¬ b < a := by
  rw [lt_def] at h ⊢
  omega

/-- The time of day of one reading is before that of another. -/
def Reading.ClockBefore (r s : Reading) : Prop :=
  r.hour < s.hour ∨ r.hour = s.hour ∧ (r.minute < s.minute ∨ r.minute = s.minute ∧
    (r.second < s.second ∨ r.second = s.second ∧ r.nanos < s.nanos))

/-- A second of the day as hour, minute and second. -/
theorem clock_split (x : Nat) :
    x = 3600 * (x / 3600) + 60 * (x / 60 % 60) + x % 60 ∧ x / 60 % 60 ≤ 59 ∧ x % 60 ≤ 59 := by
  omega

/-- On one day a clock that goes on shows a later time, leap seconds included. -/
theorem clockBefore_iff {a b : Instant} (ha : a.IsProper) (hb : b.IsProper)
    (day : a.seconds / 86400 = b.seconds / 86400) :
    a.reading.ClockBefore b.reading ↔ a < b := by
  have hsa := seconds_eq a
  have hsb := seconds_eq b
  have seconds : a.seconds < b.seconds ↔ a.secondOfDay < b.secondOfDay := by omega
  have seconds' : a.seconds = b.seconds ↔ a.secondOfDay = b.secondOfDay := by omega
  have lasta := ha.last_second
  have lastb := hb.last_second
  rw [lt_def, seconds, seconds', reading_eq a, reading_eq b]
  simp only [Reading.ClockBefore]
  clear hsa hsb seconds seconds'
  obtain ⟨hx, mx, sx⟩ := clock_split a.secondOfDay
  obtain ⟨hy, my, sy⟩ := clock_split b.secondOfDay
  generalize a.secondOfDay = x at *
  generalize b.secondOfDay = y at *
  generalize x / 3600 = h at *
  generalize x / 60 % 60 = m at *
  generalize x % 60 = s at *
  generalize y / 3600 = h' at *
  generalize y / 60 % 60 = m' at *
  generalize y % 60 = s' at *
  subst hx hy
  rcases leap_cases a with ⟨hla, na⟩ | ⟨hla, na⟩ <;> rcases leap_cases b with ⟨hlb, nb⟩ | ⟨hlb, nb⟩ <;>
    rw [hla, hlb] <;> rw [hla] at lasta <;> rw [hlb] at lastb <;> omega

/-- Fields of fixed width sort one after the other. -/
theorem field_lt_iff {w n m : Nat} (positive : 0 < w) (hn : n < 10 ^ w) (hm : m < 10 ^ w)
    (c : Char) (x y : List Char) :
    c :: (paddedDigits w n ++ x) < c :: (paddedDigits w m ++ y) ↔ n < m ∨ n = m ∧ x < y := by
  rw [List.cons_lt_cons_iff, append_lt_append_iff
    (by rw [length_paddedDigits positive hn, length_paddedDigits positive hm]),
    paddedDigits_lt_iff positive hn hm, paddedDigits_inj]
  simp

/-- In one year texts sort by month, day and time of day. -/
theorem storedChars_lt_iff_fields {a b : Instant} (ha : a.IsProper) (hb : b.IsProper)
    (years : a.year = b.year) :
    a.storedChars < b.storedChars ↔
      a.reading.date.month < b.reading.date.month ∨ a.reading.date.month = b.reading.date.month ∧
        (a.reading.date.day < b.reading.date.day ∨ a.reading.date.day = b.reading.date.day ∧
          a.reading.ClockBefore b.reading) := by
  obtain ⟨hh, hm, hs, hn⟩ := clock_bounds ha
  obtain ⟨hh', hm', hs', hn'⟩ := clock_bounds hb
  have mo := (month_bounds a).2
  have mo' := (month_bounds b).2
  have da := (day_bounds a).2
  have da' := (day_bounds b).2
  have two : ∀ {n m : Nat}, n ≤ 60 → m ≤ 60 → ∀ (c : Char) (x y : List Char),
      (c :: (paddedDigits 2 n ++ x) < c :: (paddedDigits 2 m ++ y) ↔ n < m ∨ n = m ∧ x < y) :=
    fun hn hm => field_lt_iff (by decide) (by omega) (by omega)
  rw [storedChars_eq, storedChars_eq, years, append_lt_append_iff rfl]
  rw [two (by omega) (by omega), two (by omega) (by omega), two (by omega) (by omega),
    two (by omega) (by omega), two hs hs', field_lt_iff (by decide) hn hn']
  simp only [Std.lt_irrefl, false_or, true_and, and_false, or_false, Reading.ClockBefore]

/-- **In one year texts sort as instants.** -/
theorem storedChars_lt_of_year_eq {a b : Instant} (ha : a.IsProper) (hb : b.IsProper)
    (years : a.year = b.year) : a.storedChars < b.storedChars ↔ a < b := by
  rw [storedChars_lt_iff_fields ha hb years]
  have hsa := seconds_eq a
  have hsb := seconds_eq b
  have la := secondOfDay_lt a
  have lb := secondOfDay_lt b
  have date : ∀ t : Instant, t.reading.date = Date.ofDayNumber (t.seconds / 86400) :=
    fun t => by rw [reading_eq]
  unfold year at years
  rw [date a, date b] at years
  rcases Int.lt_trichotomy (a.seconds / 86400) (b.seconds / 86400) with before | same | after
  · have hdate := Date.ofDayNumber_before before
    have hlt : a < b := by
      rw [lt_def]
      omega
    simp only [date, hlt, iff_true]
    rcases hdate with earlier | ⟨-, later⟩
    · omega
    · rcases later with m | ⟨m, d⟩
      · exact .inl m
      · exact .inr ⟨m, .inl d⟩
  · rw [clockBefore_iff ha hb same, date a, date b, same]
    simp
  · have hdate := Date.ofDayNumber_before after
    have hlt : ¬ a < b := by
      rw [lt_def]
      omega
    simp only [date, hlt, iff_false]
    unfold Date.Before at hdate
    omega

/-! ## Different years -/

/-- A dash ends the shorter of two texts before any digit does. -/
theorem separated_lt_iff {a b : List Char} (x y : List Char) (ha : ∀ c ∈ a, '-' < c)
    (hb : ∀ c ∈ b, '-' < c) (ne : a ≠ b) : a ++ '-' :: x < b ++ '-' :: y ↔ a < b := by
  induction a generalizing b with
  | nil =>
      cases b with
      | nil => exact absurd rfl ne
      | cons d b =>
          have hd := hb d List.mem_cons_self
          simp [List.cons_lt_cons_iff, hd]
  | cons c a ih =>
      have hc := ha c List.mem_cons_self
      cases b with
      | nil =>
          have hne : c ≠ '-' := fun eq => absurd (eq ▸ hc) (Char.lt_irrefl _)
          have hnot : ¬ c < '-' := fun lt => Char.lt_asymm hc lt
          simp [List.cons_lt_cons_iff, hne, hnot]
      | cons d b =>
          simp only [List.cons_append, List.cons_lt_cons_iff]
          by_cases same : c = d
          · subst same
            have hrest : a ≠ b := fun eq => ne (eq ▸ rfl)
            rw [ih (fun c hc => ha c (List.mem_cons_of_mem _ hc))
              (fun c hc => hb c (List.mem_cons_of_mem _ hc)) hrest]
          · simp [same]

theorem yearText_inj {y z : Int} (same : yearText y = yearText z) : y = z := by
  have noSign : ∀ {n m : Nat} {c : Char}, isDigit c = false →
      paddedDigits 4 n ≠ c :: paddedDigits 4 m := by
    intro n m c hc eq
    have := all_isDigit_paddedDigits 4 n c (eq ▸ List.mem_cons_self)
    rw [hc] at this
    exact Bool.false_ne_true this
  rcases yearText_cases y with ⟨hy, ty⟩ | ⟨hy, ty⟩ | ⟨hy, ty⟩ <;>
    rcases yearText_cases z with ⟨hz, tz⟩ | ⟨hz, tz⟩ | ⟨hz, tz⟩ <;> rw [ty, tz] at same
  · have := paddedDigits_inj.1 same
    omega
  · exact absurd same (noSign (by decide))
  · exact absurd same (noSign (by decide))
  · exact absurd same.symm (noSign (by decide))
  · have := paddedDigits_inj.1 (List.cons.inj same).2
    omega
  · exact absurd (List.cons.inj same).1 (by decide)
  · exact absurd same.symm (noSign (by decide))
  · exact absurd (List.cons.inj same).1 (by decide)
  · have := paddedDigits_inj.1 (List.cons.inj same).2
    omega

/-- A year's text is a character, perhaps a sign, and digits. -/
theorem yearText_eq_cons (y : Int) : ∃ c ds, yearText y = c :: ds ∧ ∀ d ∈ ds, '-' < d := by
  have digits : ∀ n, ∀ d ∈ paddedDigits 4 n, '-' < d :=
    fun n d hd => dash_lt_of_isDigit (all_isDigit_paddedDigits 4 n d hd)
  rcases yearText_cases y with ⟨-, text⟩ | ⟨-, text⟩ | ⟨-, text⟩
  · obtain ⟨c, ds, hcons, -, hds⟩ := paddedDigits_eq_cons 4 y.toNat
    exact ⟨c, ds, text.trans hcons, fun d hd => dash_lt_of_isDigit (hds d hd)⟩
  · exact ⟨_, _, text, digits _⟩
  · exact ⟨_, _, text, digits _⟩

/-- Between different years the year texts decide. -/
theorem storedChars_lt_of_year_ne {a b : Instant} (years : a.year ≠ b.year) :
    a.storedChars < b.storedChars ↔ yearText a.year < yearText b.year := by
  obtain ⟨c, ds, ha, hds⟩ := yearText_eq_cons a.year
  obtain ⟨d, es, hb, hes⟩ := yearText_eq_cons b.year
  have hne : yearText a.year ≠ yearText b.year := fun same => years (yearText_inj same)
  rw [storedChars_eq, storedChars_eq, ha, hb]
  rw [ha, hb] at hne
  simp only [List.cons_append, List.cons_lt_cons_iff]
  by_cases same : c = d
  · subst same
    rw [separated_lt_iff _ _ hds hes (fun eq => hne (eq ▸ rfl))]
  · simp [same]

theorem lt_of_year_lt {a b : Instant} (years : a.year < b.year) : a < b := by
  have date : ∀ t : Instant, t.reading.date = Date.ofDayNumber (t.seconds / 86400) :=
    fun t => by rw [reading_eq]
  unfold year at years
  rw [date a, date b] at years
  rw [lt_def]
  rcases Int.lt_trichotomy (a.seconds / 86400) (b.seconds / 86400) with before | same | after
  · omega
  · rw [same] at years
    omega
  · have hdate := Date.ofDayNumber_before after
    unfold Date.Before at hdate
    omega

/-- **Stored texts sort by instant in one year and by written year else.** -/
theorem storedChars_lt_iff {a b : Instant} (ha : a.IsProper) (hb : b.IsProper) :
    a.storedChars < b.storedChars ↔
      if a.year = b.year then a < b else yearText a.year < yearText b.year := by
  split
  · exact storedChars_lt_of_year_eq ha hb ‹_›
  · exact storedChars_lt_of_year_ne ‹_›

/-- **Two texts compare as their instants exactly when their years are written
in order.** -/
theorem storedText_le_iff_iff_yearsSort {a b : Instant} (ha : a.IsProper) (hb : b.IsProper) :
    (a.storedText ≤ b.storedText ↔ ¬ b < a) ↔ YearsSort b.year a.year := by
  have text : a.storedText ≤ b.storedText ↔ ¬ b.storedChars < a.storedChars := by
    simp only [storedText, LE.le, String.le, LT.lt, String.toList_ofList]
  rw [text, Decidable.not_iff_not, storedChars_lt_iff hb ha, YearsSort]
  by_cases years : b.year = a.year
  · rw [if_pos years, years]
    simp
  · have order : b < a ↔ b.year < a.year := by
      refine ⟨fun lt => ?_, lt_of_year_lt⟩
      rcases Int.lt_or_gt_of_ne years with before | after
      · exact before
      · exact absurd lt (lt_asymm (lt_of_year_lt after))
    rw [if_neg years, order]

/-- Years of four digits are written in order, and before them come the years
with a minus sign. -/
theorem yearsSort_of_plain {y z : Int} (hy : y ≤ 9999) (hz : 0 ≤ z ∧ z ≤ 9999) : YearsSort y z := by
  unfold YearsSort
  rw [yearText_plain hz.1 hz.2]
  rcases yearText_cases y with ⟨⟨low, high⟩, text⟩ | ⟨negative, text⟩ | ⟨high, -⟩
  · rw [text, paddedDigits_lt_iff (by decide) (by omega) (by omega)]
    omega
  · obtain ⟨c, ds, hcons, hc, -⟩ := paddedDigits_eq_cons 4 z.toNat
    rw [text, hcons, List.cons_lt_cons_iff]
    simp only [dash_lt_of_isDigit hc, true_or, true_iff]
    omega
  · omega

/-- **In years of four digits texts compare as their instants.** -/
theorem storedText_le_iff {a b : Instant} (ha : a.IsProper) (hb : b.IsProper)
    (plainA : a.HasPlainYear) (plainB : b.HasPlainYear) :
    a.storedText ≤ b.storedText ↔ ¬ b < a :=
  (storedText_le_iff_iff_yearsSort ha hb).2 (yearsSort_of_plain plainB.2 plainA)

end AccountStore.Instant
