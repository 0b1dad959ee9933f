/-
# AccountStore.SessionKey -- session keys from random bytes

A session key is twenty-nine random bytes in the URL-safe base-64 alphabet
without padding, which makes thirty-nine characters.  Random bytes come from a
source that hands out one block at a time; an empty source is a failure.
-/
import AccountStore.Error

namespace AccountStore

set_option autoImplicit false

namespace Base64

def alphabet : List Char :=
  ['A', 'B', 'C', 'D', 'E', 'F', 'G', 'H', 'I', 'J', 'K', 'L', 'M', 'N', 'O', 'P', 'Q', 'R', 'S',
    'T', 'U', 'V', 'W', 'X', 'Y', 'Z', 'a', 'b', 'c', 'd', 'e', 'f', 'g', 'h', 'i', 'j', 'k', 'l',
    'm', 'n', 'o', 'p', 'q', 'r', 's', 't', 'u', 'v', 'w', 'x', 'y', 'z', '0', '1', '2', '3', '4',
    '5', '6', '7', '8', '9', '-', '_']

/-- The character of a six-bit number. -/
def digit (n : Nat) : Char := alphabet.getD (n % 64) 'A'

/-- Three bytes make four characters; one or two left over make two or three. -/
def encode : List UInt8 → List Char
  | [] => []
  | [a] =>
      let n := a.toNat * 16
      [digit (n / 64), digit n]
  | [a, b] =>
      let n := (a.toNat * 256 + b.toNat) * 4
      [digit (n / 4096), digit (n / 64), digit n]
  | a :: b :: c :: rest =>
      let n := (a.toNat * 256 + b.toNat) * 256 + c.toNat
      digit (n / 262144) :: digit (n / 4096) :: digit (n / 64) :: digit n :: encode rest

theorem digit_mem_alphabet (n : Nat) : digit n ∈ alphabet := by
  have h : n % 64 < alphabet.length := Nat.mod_lt _ (by decide)
  simp only [digit, List.getD_eq_getElem?_getD, List.getElem?_eq_getElem h, Option.getD_some]
  exact List.getElem_mem h

end Base64

namespace SessionKey

/-- The random bytes of a key. -/
def byteCount : Nat := 29

/-- The characters of a key. -/
def length : Nat := 39

def isKeyChar (c : Char) : Bool := Base64.alphabet.contains c

def ofBytes (bytes : List UInt8) : String := String.ofList (Base64.encode bytes)

end SessionKey

/-- Blocks of random bytes, not yet used. -/
abbrev Entropy := List (List UInt8)

/-- The next key of a source. -/
def Entropy.draw (source : Entropy) : Except StoreError String × Entropy :=
  match source with
  | [] => (.error (.keyGeneration "system random source unavailable"), [])
  | block :: rest => (.ok (SessionKey.ofBytes block), rest)

/-- A session of a user under a fresh key. -/
def Session.withNewKey (source : Entropy) (user : UserId) (expires : Instant) :
    Except StoreError Session × Entropy :=
  match source.draw with
  | (.error e, source) => (.error e, source)
  | (.ok key, source) => (.ok ⟨key, user, expires⟩, source)

end AccountStore
