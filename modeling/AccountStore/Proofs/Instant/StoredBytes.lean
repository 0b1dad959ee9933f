/-
# AccountStore.Proofs.Instant.StoredBytes -- stored texts, byte by byte

A database may compare texts byte by byte.  The stored text of an instant has
only ASCII characters, each of which is one byte and sorts as that byte
(`map_toUInt8_lt_iff`), so the thirty characters are thirty bytes and the order
of the bytes is the order of the characters.  The instants with a year of four
digits are those between two seconds (`hasPlainYear_iff`).
-/
import AccountStore.Proofs.Instant.StoredOrder

namespace AccountStore

set_option autoImplicit false

/-- The bytes of a text in UTF-8. -/
def utf8Bytes (s : String) : List UInt8 := s.toByteArray.data.toList

/-- The character is one of the first 128. -/
def IsAscii (c : Char) : Prop := c.toNat < 128

instance (c : Char) : Decidable (IsAscii c) := inferInstanceAs (Decidable (c.toNat < 128))

/-! ## Bytes of ASCII texts -/

theorem IsAscii.utf8Size {c : Char} (h : IsAscii c) : c.utf8Size = 1 := by
  rw [Char.utf8Size_eq_one_iff, UInt32.le_iff_toNat_le]
  exact Nat.le_of_lt_succ h

theorem IsAscii.toNat_toUInt8 {c : Char} (h : IsAscii c) : c.toUInt8.toNat = c.toNat := by
  have byte : c.toUInt8.toNat = c.toNat % 256 := rfl
  unfold IsAscii at h
  omega

theorem utf8Bytes_ofList {cs : List Char} (ascii : ∀ c ∈ cs, IsAscii c) :
    utf8Bytes (String.ofList cs) = cs.map Char.toUInt8 := by
  rw [utf8Bytes, String.toByteArray_ofList]
  induction cs with
  | nil => rfl
  | cons c cs ih =>
      obtain ⟨first, later⟩ := List.forall_mem_cons.mp ascii
      have one : List.utf8Encode [c] = [c.toUInt8].toByteArray := by
        rw [List.utf8Encode_singleton, String.utf8EncodeChar_eq_singleton first.utf8Size]
        rfl
      rw [List.utf8Encode_cons, one, ByteArray.data_append, Array.toList_append, ih later]
      rfl

/-- ASCII texts sort as their bytes. -/
theorem map_toUInt8_lt_iff {cs ds : List Char} (hc : ∀ c ∈ cs, IsAscii c)
    (hd : ∀ d ∈ ds, IsAscii d) : cs.map Char.toUInt8 < ds.map Char.toUInt8 ↔ cs < ds := by
  induction cs generalizing ds with
  | nil => cases ds <;> simp
  | cons c cs ih =>
      cases ds with
      | nil => simp
      | cons d ds =>
          obtain ⟨hc, hcs⟩ := List.forall_mem_cons.mp hc
          obtain ⟨hd, hds⟩ := List.forall_mem_cons.mp hd
          have before : c.toUInt8 < d.toUInt8 ↔ c < d := by
            rw [UInt8.lt_iff_toNat_lt, hc.toNat_toUInt8, hd.toNat_toUInt8]
            rfl
          have same : c.toUInt8 = d.toUInt8 ↔ c = d := by
            rw [← UInt8.toNat_inj, hc.toNat_toUInt8, hd.toNat_toUInt8]
            exact Char.toNat_inj
          rw [List.map_cons, List.map_cons, List.cons_lt_cons_iff, List.cons_lt_cons_iff, before,
            same, ih hcs hds]

namespace Instant

/-! ## Bytes of stored texts -/

theorem isAscii_of_isDigit {c : Char} (h : isDigit c = true) : IsAscii c := by
  simp only [isDigit, Bool.and_eq_true, decide_eq_true_eq] at h
  have top : c.toNat ≤ '9'.toNat := h.2
  have nine : '9'.toNat = 57 := rfl
  unfold IsAscii
  omega

theorem isAscii_paddedDigits (w n : Nat) : ∀ c ∈ paddedDigits w n, IsAscii c :=
  fun c hc => isAscii_of_isDigit (all_isDigit_paddedDigits w n c hc)

theorem isAscii_yearText (y : Int) : ∀ c ∈ yearText y, IsAscii c := by
  rcases yearText_cases y with ⟨-, text⟩ | ⟨-, text⟩ | ⟨-, text⟩ <;> rw [text]
  · exact isAscii_paddedDigits _ _
  · exact List.forall_mem_cons.mpr ⟨by decide, isAscii_paddedDigits _ _⟩
  · exact List.forall_mem_cons.mpr ⟨by decide, isAscii_paddedDigits _ _⟩

theorem isAscii_storedChars (t : Instant) : ∀ c ∈ t.storedChars, IsAscii c := by
  have dash : IsAscii '-' := by decide
  have mark : IsAscii 'T' := by decide
  have colon : IsAscii ':' := by decide
  have point : IsAscii '.' := by decide
  have zulu : IsAscii 'Z' := by decide
  have digits := isAscii_paddedDigits
  rw [storedChars_eq]
  simp only [List.forall_mem_append, List.forall_mem_cons, dash, mark, colon, point, zulu,
    true_and]
  exact ⟨isAscii_yearText _, digits _ _, digits _ _, digits _ _, digits _ _, digits _ _,
    digits _ _, nofun⟩

theorem utf8Bytes_storedText (t : Instant) :
    utf8Bytes t.storedText = t.storedChars.map Char.toUInt8 :=
  utf8Bytes_ofList (isAscii_storedChars t)

/-- Stored texts compare as their bytes do. -/
theorem utf8Bytes_storedText_le_iff (a b : Instant) :
    utf8Bytes a.storedText ≤ utf8Bytes b.storedText ↔ a.storedText ≤ b.storedText := by
  have chars : a.storedText ≤ b.storedText ↔ ¬ b.storedChars < a.storedChars := by
    simp only [storedText, LE.le, String.le, LT.lt, String.toList_ofList]
  rw [chars, ← List.not_lt, utf8Bytes_storedText, utf8Bytes_storedText,
    map_toUInt8_lt_iff (isAscii_storedChars b) (isAscii_storedChars a)]

/-! ## The years of four digits -/

/-- As seconds go on, so do years. -/
theorem year_le {a b : Instant} (h : a.seconds ≤ b.seconds) : a.year ≤ b.year := by
  have days : a.seconds / 86400 ≤ b.seconds / 86400 := Int.ediv_le_ediv (by decide) h
  rw [year, year, reading_eq, reading_eq]
  dsimp only
  rcases Int.lt_or_eq_of_le days with earlier | same
  · have before := Date.ofDayNumber_before earlier
    unfold Date.Before at before
    omega
  · exact Int.le_of_eq (by rw [same])

/-- A year has begun once its first second has. -/
theorem le_year_iff (t : Instant) {first n : Int} (before : year ⟨first - 1, 0⟩ = n - 1)
    (start : year ⟨first, 0⟩ = n) : n ≤ t.year ↔ first ≤ t.seconds := by
  constructor
  · intro begun
    rcases Int.lt_or_le t.seconds first with early | late
    · have : t.year ≤ year ⟨first - 1, 0⟩ := year_le (Int.le_sub_one_of_lt early)
      omega
    · exact late
  · intro late
    exact start ▸ year_le (a := ⟨first, 0⟩) late

/-- The years 0 to 9999 are the seconds between their first and their last. -/
theorem hasPlainYear_iff (t : Instant) :
    t.HasPlainYear ↔ -62167219200 ≤ t.seconds ∧ t.seconds ≤ 253402300799 := by
  have first : 0 ≤ t.year ↔ -62167219200 ≤ t.seconds := le_year_iff t rfl rfl
  have next : 10000 ≤ t.year ↔ 253402300800 ≤ t.seconds := le_year_iff t rfl rfl
  unfold HasPlainYear
  omega

end Instant

namespace Bridge

/-- **A database that compares bytes compares instants.**  In years of four digits,
leap seconds included, the text of an instant has thirty bytes and reads back as
the instant, and two texts compare byte by byte as the seconds and then the
nanoseconds do. -/
theorem textual_reads_back_and_sorts {a b : Instant} (ha : a.IsProper) (hb : b.IsProper)
    (plainA : a.HasPlainYear) (plainB : b.HasPlainYear) :
    ∃ s r, textual.encode a = .text s ∧ textual.encode b = .text r ∧
      (utf8Bytes s).length = 30 ∧ textual.decode (textual.encode a) = .ok a ∧
      (utf8Bytes s ≤ utf8Bytes r ↔
        a.seconds < b.seconds ∨ a.seconds = b.seconds ∧ a.nanos ≤ b.nanos) := by
  refine ⟨a.storedText, b.storedText, rfl, rfl, ?_, decode_storedText ⟨ha, plainA⟩, ?_⟩
  · rw [Instant.utf8Bytes_storedText, List.length_map, Instant.length_storedChars ha plainA]
  · rw [Instant.utf8Bytes_storedText_le_iff, Instant.storedText_le_iff ha hb plainA plainB,
      Instant.lt_def]
    omega

/-- The last nanosecond of a leap second and the second after it. -/
theorem textual_reads_back_and_sorts_at_a_leap_second :
    let a : Instant := ⟨1483228799, 1999999999⟩
    let b : Instant := ⟨1483228800, 0⟩
    a.IsProper ∧ b.IsProper ∧ a.HasPlainYear ∧ b.HasPlainYear ∧
      ∃ s r, textual.encode a = .text s ∧ textual.encode b = .text r ∧
        (utf8Bytes s).length = 30 ∧ textual.decode (textual.encode a) = .ok a ∧
        utf8Bytes s ≤ utf8Bytes r := by
  intro a b
  have plainA : a.HasPlainYear := (Instant.hasPlainYear_iff a).mpr (by decide)
  have plainB : b.HasPlainYear := (Instant.hasPlainYear_iff b).mpr (by decide)
  obtain ⟨s, r, hs, hr, bytes, back, sorted⟩ :=
    textual_reads_back_and_sorts (a := a) (b := b) (by decide) (by decide) plainA plainB
  exact ⟨by decide, by decide, plainA, plainB, s, r, hs, hr, bytes, back,
    sorted.mpr (.inl (by decide))⟩

end Bridge

end AccountStore
