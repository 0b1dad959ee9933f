/-
# AccountStore.Proofs.Store.KeyBits -- what of the random bytes is in a key

A byte is eight bits and a character of a key is six, its place in the alphabet.
Bytes in threes come out even; one or two left over are filled up with zero bits to
the end of a character, and this is all that a text says (`textBits_encode`): the
bits of the characters are those of the bytes, in order, and then the filling.  So
the length of a text follows from counting bits, and bytes that differ make texts
that differ (`encode_injective`).
-/
import AccountStore.SessionKey
import AccountStore.Validate.Grammar
import Mathlib.Algebra.Group.Nat.Defs
import Mathlib.Data.List.Nodup

namespace AccountStore

set_option autoImplicit false

/-! ## Bits of a number -/

/-- The low bits of a number, the highest of them first. -/
def lowBits : Nat → Nat → List Bool
  | 0, _ => []
  | w + 1, n => n.testBit w :: lowBits w n

theorem length_lowBits (w n : Nat) : (lowBits w n).length = w := by
  induction w with
  | zero => rfl
  | succ w ih => rw [lowBits, List.length_cons, ih]

theorem lowBits_eq_iff {w m n : Nat} :
    lowBits w m = lowBits w n ↔ ∀ i < w, m.testBit i = n.testBit i := by
  induction w with
  | zero => simp [lowBits]
  | succ w ih =>
      rw [lowBits, lowBits, List.cons.injEq, ih, Nat.forall_lt_succ_right, and_comm]

theorem lowBits_inj {w m n : Nat} (hm : m < 2 ^ w) (hn : n < 2 ^ w)
    (same : lowBits w m = lowBits w n) : m = n := by
  refine Nat.eq_of_testBit_eq fun i => ?_
  by_cases low : i < w
  · exact lowBits_eq_iff.mp same i low
  · have high : 2 ^ w ≤ 2 ^ i := Nat.pow_le_pow_right (by decide) (Nat.le_of_not_lt low)
    rw [Nat.testBit_lt_two_pow (Nat.lt_of_lt_of_le hm high),
      Nat.testBit_lt_two_pow (Nat.lt_of_lt_of_le hn high)]

theorem lowBits_mod (w n : Nat) : lowBits w (n % 2 ^ w) = lowBits w n := by
  rw [lowBits_eq_iff]
  intro i low
  rw [Nat.testBit_mod_two_pow, decide_eq_true low, Bool.true_and]

theorem lowBits_zero (w : Nat) : lowBits w 0 = List.replicate w false := by
  induction w with
  | zero => rfl
  | succ w ih => rw [lowBits, ih, Nat.zero_testBit, List.replicate_succ]

/-- **A number falls into a quotient and a remainder bit by bit.** -/
theorem lowBits_add (v w n : Nat) :
    lowBits (v + w) n = lowBits v (n / 2 ^ w) ++ lowBits w n := by
  induction v with
  | zero => rw [Nat.zero_add]; rfl
  | succ v ih =>
      rw [Nat.succ_add, lowBits, lowBits, ih, Nat.testBit_div_two_pow, List.cons_append,
        Nat.add_comm v w]

/-- Bits of a number put in front of those of another. -/
theorem lowBits_join {v w m n : Nat} (small : n < 2 ^ w) :
    lowBits (v + w) (m * 2 ^ w + n) = lowBits v m ++ lowBits w n := by
  have quotient : (m * 2 ^ w + n) / 2 ^ w = m := by
    rw [Nat.add_comm, Nat.add_mul_div_right _ _ (Nat.two_pow_pos w), Nat.div_eq_of_lt small,
      Nat.zero_add]
  have remainder : (m * 2 ^ w + n) % 2 ^ w = n := by
    rw [Nat.add_comm, Nat.add_mul_mod_self_right, Nat.mod_eq_of_lt small]
  rw [lowBits_add, quotient, ← lowBits_mod w (m * 2 ^ w + n), remainder]

/-- Zero bits put behind a number. -/
theorem lowBits_shift (v w m : Nat) :
    lowBits (v + w) (m * 2 ^ w) = lowBits v m ++ List.replicate w false := by
  rw [← lowBits_zero, ← lowBits_join (Nat.two_pow_pos w), Nat.add_zero]

/-! ## Bits of bytes and of texts -/

namespace Base64

def byteBits (bytes : List UInt8) : List Bool := bytes.flatMap fun b => lowBits 8 b.toNat

def textBits (s : List Char) : List Bool := s.flatMap fun c => lowBits 6 (alphabet.idxOf c)

/-- The zero bits behind so many bytes, up to the end of a character. -/
def filling (count : Nat) : List Bool := List.replicate ((6 - 8 * count % 6) % 6) false

theorem byteBits_cons (b : UInt8) (bytes : List UInt8) :
    byteBits (b :: bytes) = lowBits 8 b.toNat ++ byteBits bytes := List.flatMap_cons

theorem byteBits_append (x y : List UInt8) : byteBits (x ++ y) = byteBits x ++ byteBits y :=
  List.flatMap_append

theorem length_byteBits (bytes : List UInt8) : (byteBits bytes).length = 8 * bytes.length := by
  induction bytes with
  | nil => rfl
  | cons b bytes ih =>
      rw [byteBits_cons, List.length_append, length_lowBits, ih, List.length_cons]
      omega

theorem length_textBits (s : List Char) : (textBits s).length = 6 * s.length := by
  induction s with
  | nil => rfl
  | cons c s ih =>
      rw [textBits, List.flatMap_cons, List.length_append, length_lowBits, ← textBits, ih,
        List.length_cons]
      omega

theorem byteBits_injective : Function.Injective byteBits := by
  intro x
  induction x with
  | nil =>
      intro y same
      have lengths := congrArg List.length same
      rw [length_byteBits, length_byteBits, List.length_nil] at lengths
      exact (List.eq_nil_of_length_eq_zero (by omega)).symm
  | cons a x ih =>
      intro y same
      cases y with
      | nil =>
          have lengths := congrArg List.length same
          rw [length_byteBits, length_byteBits, List.length_cons, List.length_nil] at lengths
          omega
      | cons b y =>
          rw [byteBits_cons, byteBits_cons] at same
          obtain ⟨first, rest⟩ := List.append_inj same (by rw [length_lowBits, length_lowBits])
          rw [UInt8.toNat_inj.mp (lowBits_inj a.toNat_lt b.toNat_lt first), ih rest]

theorem nodup_alphabet : alphabet.Nodup := by decide

theorem idxOf_digit (n : Nat) : alphabet.idxOf (digit n) = n % 64 := by
  have inside : n % 64 < alphabet.length := Nat.mod_lt _ (by decide)
  rw [digit, List.getD_eq_getElem?_getD, List.getElem?_eq_getElem inside, Option.getD_some,
    nodup_alphabet.idxOf_getElem]

/-- A character says the low six bits of its number. -/
theorem textBits_digit (n : Nat) (s : List Char) :
    textBits (digit n :: s) = lowBits 6 n ++ textBits s := by
  have low : lowBits 6 (n % 64) = lowBits 6 n := lowBits_mod 6 n
  rw [textBits, List.flatMap_cons, idxOf_digit, low, ← textBits]

/-- A character in front of others says the six bits above theirs. -/
theorem textBits_above (w : Nat) {n : Nat} {s : List Char} {t : List Bool}
    (below : textBits s = lowBits w n ++ t) :
    textBits (digit (n / 2 ^ w) :: s) = lowBits (6 + w) n ++ t := by
  rw [textBits_digit, below, lowBits_add, List.append_assoc]

/-- Two bytes as one number say the bits of the first and then of the second. -/
theorem lowBits_two_bytes (a b : UInt8) :
    lowBits 16 (a.toNat * 256 + b.toNat) = byteBits [a, b] := by
  have parts : lowBits 16 (a.toNat * 256 + b.toNat) = lowBits 8 a.toNat ++ lowBits 8 b.toNat :=
    lowBits_join b.toNat_lt
  rw [parts, byteBits_cons, byteBits_cons]
  rfl

theorem lowBits_three_bytes (a b c : UInt8) :
    lowBits 24 ((a.toNat * 256 + b.toNat) * 256 + c.toNat) = byteBits [a, b, c] := by
  have parts : lowBits 24 ((a.toNat * 256 + b.toNat) * 256 + c.toNat) =
      lowBits 16 (a.toNat * 256 + b.toNat) ++ lowBits 8 c.toNat := lowBits_join c.toNat_lt
  rw [parts, lowBits_two_bytes, byteBits_cons, byteBits_cons]
  rfl

theorem filling_add_three (count : Nat) : filling (count + 3) = filling count := by
  have same : 8 * (count + 3) % 6 = 8 * count % 6 := by omega
  rw [filling, same, ← filling]

/-- **A text says the bits of the bytes, and behind them nothing but the filling.** -/
theorem textBits_encode (bytes : List UInt8) :
    textBits (encode bytes) = byteBits bytes ++ filling bytes.length := by
  -- Three bytes come out even; only the one or two at the end are filled up.
  induction bytes using encode.induct with
  | case1 => rfl
  | case2 a =>
      have sextets : textBits (encode [a]) = lowBits 12 (a.toNat * 16) ++ textBits [] :=
        textBits_above 6 (textBits_digit _ [])
      have shifted : lowBits 12 (a.toNat * 16) = lowBits 8 a.toNat ++ filling 1 :=
        lowBits_shift 8 4 a.toNat
      rw [sextets, shifted, byteBits_cons]
      simp only [byteBits, textBits, List.flatMap_nil, List.append_nil, List.length_singleton]
  | case3 a b =>
      have sextets : textBits (encode [a, b]) =
          lowBits 18 ((a.toNat * 256 + b.toNat) * 4) ++ textBits [] :=
        textBits_above 12 (textBits_above 6 (textBits_digit _ []))
      have shifted : lowBits 18 ((a.toNat * 256 + b.toNat) * 4) = byteBits [a, b] ++ filling 2 := by
        rw [← lowBits_two_bytes]
        exact lowBits_shift 16 2 _
      rw [sextets, shifted]
      exact List.append_nil _
  | case4 a b c rest ih =>
      have sextets : textBits (encode (a :: b :: c :: rest)) =
          lowBits 24 ((a.toNat * 256 + b.toNat) * 256 + c.toNat) ++ textBits (encode rest) :=
        textBits_above 18 (textBits_above 12 (textBits_above 6 (textBits_digit _ _)))
      have behind : filling (a :: b :: c :: rest).length = filling rest.length :=
        filling_add_three rest.length
      rw [sextets, lowBits_three_bytes, ih, behind, ← List.append_assoc, ← byteBits_append,
        List.cons_append, List.cons_append, List.cons_append, List.nil_append]

theorem length_encode (bytes : List UInt8) :
    6 * (encode bytes).length = 8 * bytes.length + (6 - 8 * bytes.length % 6) % 6 := by
  have counted := congrArg List.length (textBits_encode bytes)
  rw [length_textBits, List.length_append, length_byteBits, filling, List.length_replicate]
    at counted
  exact counted

theorem encode_subset_alphabet (bytes : List UInt8) : encode bytes ⊆ alphabet := by
  induction bytes using encode.induct with
  | case1 => exact List.nil_subset _
  | case2 a => simp [encode, digit_mem_alphabet]
  | case3 a b => simp [encode, digit_mem_alphabet]
  | case4 a b c rest ih =>
      simp only [encode, List.cons_subset, digit_mem_alphabet, true_and]
      exact ih

/-- **Different bytes make different texts.** -/
theorem encode_injective : Function.Injective encode := by
  intro x y same
  have bits := congrArg textBits same
  rw [textBits_encode, textBits_encode] at bits
  -- Rounding up to whole characters loses no byte, so the lengths agree first.
  have count : x.length = y.length := by
    have hx := length_encode x
    have hy := length_encode y
    rw [same] at hx
    omega
  exact byteBits_injective (List.append_inj bits (by rw [length_byteBits, length_byteBits, count])).1

end Base64

/-! ## Keys -/

namespace SessionKey

/-- **A key is thirty-nine letters, digits, dashes and underscores, and has all bits of
its bytes.**  They are what its characters say, six bits each, but for two zero bits
at the end, so no other bytes make the same key. -/
theorem keys_carry_every_bit (block : Vector UInt8 byteCount) (rest : Entropy) :
    ∃ key, Entropy.draw (block.toList :: rest) = (.ok key, rest) ∧
      key.length = length ∧
      (∀ c ∈ key.toList,
        Validate.isAsciiLetter c = true ∨ isDigit c = true ∨ c = '-' ∨ c = '_') ∧
      Base64.textBits key.toList = Base64.byteBits block.toList ++ [false, false] ∧
      ∀ (other : Vector UInt8 byteCount) (rest' : Entropy),
        (Entropy.draw (other.toList :: rest')).1 = .ok key ↔ other = block := by
  have count : block.toList.length = 29 := block.length_toList
  have text : (ofBytes block.toList).toList = Base64.encode block.toList := String.toList_ofList
  refine ⟨ofBytes block.toList, rfl, ?_, ?_, ?_, ?_⟩
  · have bits := Base64.length_encode block.toList
    rw [count] at bits
    rw [← String.length_toList, text, length]
    omega
  · have listed : Base64.alphabet.all (fun c =>
        Validate.isAsciiLetter c || isDigit c || c == '-' || c == '_') = true := by decide
    intro c stands
    rw [text] at stands
    have kind := List.all_eq_true.mp listed c (Base64.encode_subset_alphabet _ stands)
    simpa [or_assoc] using kind
  · rw [text, Base64.textBits_encode, count]
    rfl
  · intro other rest'
    have drawn : (Entropy.draw (other.toList :: rest')).1 = .ok (ofBytes other.toList) := rfl
    rw [drawn, Except.ok.injEq, ofBytes, ofBytes, String.ofList_inj, Base64.encode_injective.eq_iff,
      Vector.toList_inj]

/-- Of ones there are two hundred and thirty-two in a key, and then the two zeros. -/
theorem keys_carry_every_bit_of_ones :
    let ones : Vector UInt8 byteCount := Vector.replicate byteCount 255
    ∃ key, Entropy.draw [ones.toList] = (.ok key, []) ∧ key.length = 39 ∧
      Base64.textBits key.toList = List.replicate 232 true ++ [false, false] := by
  intro ones
  obtain ⟨key, drawn, count, -, bits, -⟩ := keys_carry_every_bit ones []
  have all : Base64.byteBits ones.toList = List.replicate 232 true := by decide +kernel
  exact ⟨key, drawn, count, all ▸ bits⟩

end SessionKey

end AccountStore
