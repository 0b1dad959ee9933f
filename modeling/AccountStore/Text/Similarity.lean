/-
# AccountStore.Text.Similarity -- how much alike two texts are

The score of two texts lies between zero and one.  Characters of the two texts
pair up when they are equal and not too far apart; the score is the mean of
three shares: of the first text that is paired, of the second, and of the pairs
that keep their order.  Texts that are alike already gain from a common
beginning of up to four characters.

Every step is rounded in double precision, so that ties between scores fall as
in that arithmetic.
-/
import AccountStore.Decimal.Binary64

namespace AccountStore.Text.Similarity

set_option autoImplicit false

/-- The characters of a text, each with a mark that tells whether it is paired. -/
abbrev Marked := List (Char × Bool)

/-- Pairs `c` with the first equal unpaired character among the `width`
characters after the first `low`. -/
def claim? (c : Char) : Nat → Nat → Marked → Option Marked
  | _, _, [] => none
  | low + 1, width, x :: rest => (claim? c low width rest).map (x :: ·)
  | 0, 0, _ :: _ => none
  | 0, width + 1, (d, paired) :: rest =>
      if !paired && c == d then some ((d, true) :: rest)
      else (claim? c 0 width rest).map ((d, paired) :: ·)

/-- The paired characters of the first text in order, and the second text with
its marks.  The first text starts at position `i`, and pairs are at most
`reach` positions apart. -/
def pairUp (reach : Nat) : Nat → List Char → Marked → List Char × Marked
  | _, [], b => ([], b)
  | i, c :: rest, b =>
      let low := i - reach
      match claim? c low (i + reach + 1 - low) b with
      | some b =>
          let (paired, b) := pairUp reach (i + 1) rest b
          (c :: paired, b)
      | none => pairUp reach (i + 1) rest b

/-- How far apart the characters of a pair may be. -/
def reach (a b : List Char) : Nat := max a.length b.length / 2 - 1

/-- Pairs whose two characters differ when both sides are read in order, two of
them counting as one. -/
def transpositions (a b : List Char) : Nat :=
  ((a.zip b).filter (fun p => p.1 != p.2)).length / 2

def ratio (a b : Nat) : Binary64 := Binary64.nearest false a b

def one : Binary64 := ratio 1 1

/-- The score without the gain for a common beginning. -/
def base (a b : List Char) : Binary64 :=
  if a.isEmpty && b.isEmpty then one
  else
    let (paired, marked) := pairUp (reach a b) 0 a (b.map (fun c => (c, false)))
    let matched := (marked.filter (fun p => p.2)).map (fun p => p.1)
    let m := paired.length
    if m = 0 then Binary64.zero false
    else
      let shares := Binary64.addMagnitude (ratio m a.length) (ratio m b.length)
      Binary64.divMagnitude
        (Binary64.addMagnitude shares (ratio (m - transpositions paired matched) m)) (ratio 3 1)

/-- The length of the common beginning, at most `n`. -/
def commonStart : Nat → List Char → List Char → Nat
  | n + 1, c :: a, d :: b => if c == d then commonStart n a b + 1 else 0
  | _, _, _ => 0

/-- Above this score a common beginning counts. -/
def gainThreshold : Binary64 := ratio 7 10

def score (a b : List Char) : Binary64 :=
  let s := base a b
  if Binary64.ltMagnitude gainThreshold s then
    let weight := Binary64.mulMagnitude (ratio 1 10) (ratio (commonStart 4 a b) 1)
    Binary64.addMagnitude s (Binary64.mulMagnitude weight (Binary64.subMagnitude one s))
  else s

/-- The later of the highest scores wins. -/
def better (best : Option (String × Binary64)) (next : String × Binary64) :
    Option (String × Binary64) :=
  match best with
  | none => some next
  | some b => if Binary64.ltMagnitude next.2 b.2 then some b else some next

/-- The candidate most like `text` among those that score above `threshold`. -/
def closest? (threshold : Binary64) (text : String) (candidates : List String) : Option String :=
  let scored := candidates.map (fun c => (c, score text.toList c.toList))
  let close := scored.filter (fun p => Binary64.ltMagnitude threshold p.2)
  (close.foldl better none).map (fun p => p.1)

end AccountStore.Text.Similarity
