/-
# AccountStore.Text.Blank -- blank characters, and trimming them

A character is blank when Unicode gives it the property `White_Space`.  A text
is blank when it holds nothing else; the empty text is blank.
-/
import AccountStore.Text.Ranges

namespace AccountStore.Text

set_option autoImplicit false

/-- Unicode `White_Space`. -/
def blankRanges : Ranges :=
  [(0x9, 0xD), (0x20, 0x20), (0x85, 0x85), (0xA0, 0xA0), (0x1680, 0x1680), (0x2000, 0x200A),
    (0x2028, 0x2029), (0x202F, 0x202F), (0x205F, 0x205F), (0x3000, 0x3000)]

def isBlank (c : Char) : Bool := blankRanges.contains c.toNat

/-- Every character is blank. -/
def allBlank (s : List Char) : Bool := s.all isBlank

/-- The text without its leading blanks. -/
def trimLeft (s : List Char) : List Char := s.dropWhile isBlank

/-- The text without its trailing blanks. -/
def trimRight (s : List Char) : List Char := (s.reverse.dropWhile isBlank).reverse

def trim (s : List Char) : List Char := trimRight (trimLeft s)

/-- No visible character of ASCII is blank. -/
theorem isBlank_of_visible {c : Char} (low : 32 < c.toNat) (high : c.toNat < 133) :
    isBlank c = false := by
  have space : ¬ c.toNat ≤ 32 := by omega
  have control : ¬ c.toNat ≤ 13 := by omega
  simp [isBlank, blankRanges, Ranges.contains, high, space, control]

theorem trimLeft_append_suffix (s : List Char) :
    s.takeWhile isBlank ++ trimLeft s = s := List.takeWhile_append_dropWhile

theorem trimLeft_cons {c : Char} (solid : isBlank c = false) (r : List Char) :
    trimLeft (c :: r) = c :: r := List.dropWhile_cons_of_neg (by simp [solid])

/-- A text is blank exactly when nothing is left of it after its leading blanks. -/
theorem trimLeft_eq_nil_iff (s : List Char) : trimLeft s = [] ↔ allBlank s = true := by
  induction s with
  | nil => simp [trimLeft, allBlank]
  | cons c r ih =>
      by_cases h : isBlank c = true
      · simp_all [trimLeft, allBlank]
      · simp [trimLeft, allBlank, h]

end AccountStore.Text
