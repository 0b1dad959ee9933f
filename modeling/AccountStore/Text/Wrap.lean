/-
# AccountStore.Text.Wrap -- breaking long lines

A line may be broken where Unicode's line breaking rules let it: after blanks,
between ideographs, after a slash before a letter, and at few other places.  A
hyphen lets a line break only between letters or digits.  A word that is wider
than a line is cut where the line ends.  Lines take as many words as fit, and
blanks at their ends are dropped.
-/
import AccountStore.Text.Letter
import AccountStore.Text.Width

namespace AccountStore.Text.Wrap

set_option autoImplicit false

/-! Where a line may break. -/

/-- Characters by how they break. -/
inductive BreakClass where
  | letter
  | digit
  | opening
  | closing
  /-- A closing bracket that sticks to a letter after it. -/
  | bracket
  | quotation
  | exclamation
  /-- Commas, points and colons. -/
  | infixMark
  | slash
  | hyphen
  /-- A line may break after it, but not before it. -/
  | trailing
  /-- Signs in front of numbers, and after them. -/
  | beforeNumber
  | afterNumber
  | ideograph
  | glue
  deriving DecidableEq, Repr

/-- Brackets of the ideographic scripts. -/
def wideOpening : List Char :=
  ['〈', '《', '「', '『', '【', '〔', '〖', '〘', '〚', '（', '［', '｛', '｢']

def wideClosing : List Char :=
  ['、', '。', '〉', '》', '」', '』', '】', '〕', '〗', '〙', '〛', '，', '．', '）', '］', '｝', '｡', '｣']

def classOf (c : Char) : BreakClass :=
  match c with
  | '(' => .opening
  | '[' => .opening
  | '\x7b' => .opening
  | ')' => .bracket
  | ']' => .bracket
  | '\x7d' => .closing
  | '"' => .quotation
  | '\'' => .quotation
  | '!' => .exclamation
  | '?' => .exclamation
  | ',' => .infixMark
  | '.' => .infixMark
  | ':' => .infixMark
  | ';' => .infixMark
  | '/' => .slash
  | '-' => .hyphen
  | '|' => .trailing
  | '\t' => .trailing
  | '$' => .beforeNumber
  | '+' => .beforeNumber
  | '\\' => .beforeNumber
  | '%' => .afterNumber
  | '\u00A0' => .glue
  | '\u2060' => .glue
  | '\uFEFF' => .glue
  | c =>
      if c.isDigit then .digit
      else if wideOpening.contains c then .opening
      else if wideClosing.contains c then .closing
      else if isWide c then .ideograph
      else .letter

/-- Letters and digits. -/
def isWordClass (k : BreakClass) : Bool := k == .letter || k == .digit

def isNumberSign (k : BreakClass) : Bool := k == .beforeNumber || k == .afterNumber

/-- These stay with what is before them even after blanks. -/
def staysBack (k : BreakClass) : Bool :=
  k == .closing || k == .bracket || k == .exclamation || k == .infixMark || k == .slash

/-- Whether a line may break between two neighbours. -/
def breaksNext (a b : BreakClass) : Bool :=
  if a == .glue || a == .quotation || b == .quotation then false
  else if b == .glue then a == .trailing || a == .hyphen
  else if b == .trailing || b == .hyphen then false
  else
    !(isWordClass a && isWordClass b ||
      isWordClass a && b == .opening ||
      a == .bracket && isWordClass b ||
      a == .infixMark && isWordClass b ||
      (a == .hyphen || a == .slash) && b == .digit ||
      (isWordClass a || a == .closing || a == .bracket) && isNumberSign b ||
      isNumberSign a && (isWordClass b || b == .opening) ||
      a == .beforeNumber && b == .ideograph ||
      a == .ideograph && b == .afterNumber)

/-- Whether a line may break between two characters, with blanks between them
or without. -/
def breaksBetween (a b : BreakClass) (spaced : Bool) : Bool :=
  if staysBack b || a == .opening || (a == .quotation && b == .opening) then false
  else spaced || breaksNext a b

/-! Words. -/

/-- Characters that stay on a line, and how many blanks follow them. -/
structure Word where
  chars : List Char
  blanks : Nat
  deriving DecidableEq, Repr

namespace Word

/-- Adds a character in front. -/
def cons (c : Char) (w : Word) : Word := { w with chars := c :: w.chars }

/-- Adds blanks that stand before the first character. -/
def pad (n : Nat) (w : Word) : Word :=
  if w.chars.isEmpty then { w with blanks := w.blanks + n }
  else { w with chars := List.replicate n ' ' ++ w.chars }

def text (w : Word) : List Char := w.chars ++ List.replicate w.blanks ' '

end Word

/-- The words of a line.  `previous` is the class of the last character that is
no blank. -/
def words : Option BreakClass → List Char → List Word
  | _, [] => []
  | previous, c :: r =>
      let current := if c = ' ' || isZeroWidth c then previous else some (classOf c)
      let rest := words current r
      let ends :=
        match r with
        | [] => true
        | d :: _ =>
            if d = ' ' || isZeroWidth d then false
            else
              match current with
              | none => c = ' '
              | some a => c != '-' && breaksBetween a (classOf d) (c == ' ')
      if c = ' ' then
        match rest with
        | w :: ws => if ends then ⟨[], 1⟩ :: w :: ws else w.pad 1 :: ws
        | [] => [⟨[], 1⟩]
      else
        match rest with
        | w :: ws => if ends then ⟨[c], 0⟩ :: w :: ws else w.cons c :: ws
        | [] => [⟨[c], 0⟩]

def isWordChar (c : Char) : Bool := isLetter c || c.isDigit

/-- The parts of a word that hyphens between letters or digits divide. -/
def hyphenParts : List Char → List (List Char)
  | [] => [[]]
  | a :: r =>
      match r, hyphenParts r with
      | '-' :: b :: _, (_ :: tail) :: rest =>
          if isWordChar a && isWordChar b then [a, '-'] :: tail :: rest
          else (a :: '-' :: tail) :: rest
      | _, part :: rest => (a :: part) :: rest
      | _, [] => [[a]]

/-- The pieces of a word, each at most `columns` wide; `used` columns of the
first piece are taken already. -/
def cut (columns : Nat) : Nat → List Char → List (List Char)
  | _, [] => [[]]
  | used, c :: r =>
      if 0 < used && columns < used + charWidth c then
        match cut columns (charWidth c) r with
        | piece :: rest => [] :: (c :: piece) :: rest
        | [] => [[], [c]]
      else
        match cut columns (used + charWidth c) r with
        | piece :: rest => (c :: piece) :: rest
        | [] => [[c]]

/-- The pieces of a word; blanks follow the last one. -/
def pieces (columns : Nat) (w : Word) : List Word :=
  match ((hyphenParts w.chars).flatMap (cut columns 0)).reverse with
  | [] => [w]
  | last :: rest => (rest.reverse.map (fun p => ⟨p, 0⟩)) ++ [⟨last, w.blanks⟩]

/-! Lines. -/

/-- Puts words into lines; `line` holds the words of the current one, the last
first, and `used` is its width. -/
def fill (columns : Nat) : List Word → Nat → List Word → List (List Word)
  | line, _, [] => [line.reverse]
  | line, used, w :: rest =>
      if columns < used + width w.chars && !line.isEmpty then
        line.reverse :: fill columns [w] (width w.text) rest
      else fill columns (w :: line) (used + width w.text) rest

/-- The text of a line without the blanks at its end. -/
def lineText (ws : List Word) : List Char :=
  match ws.reverse with
  | [] => []
  | last :: rest => rest.reverse.flatMap Word.text ++ last.chars

/-- The lines of a text that holds no line feed. -/
def wrapLine (columns : Nat) (s : List Char) : List (List Char) :=
  (fill columns [] 0 ((words none s).flatMap (pieces columns))).map lineText

end AccountStore.Text.Wrap
