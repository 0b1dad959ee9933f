/-
# AccountStore.Proofs.Database.Scan -- texts that are written word by word

A statement is put together from words, marks, parameters and blanks.  Written
as a list of such lexemes, with no word right behind another word or a
parameter, a text scans to the tokens of its lexemes and to nothing else
(`scan_render`); blanks leave no trace.  A name that stands between them, such
as a table's, is one token whatever its letters are.
-/
import AccountStore.Database.Token

namespace AccountStore.Database

set_option autoImplicit false

theorem forall_mem_intercalate {α : Type} {P : α → Prop} {sep : List α} (hs : ∀ a ∈ sep, P a) :
    ∀ {ls : List (List α)}, (∀ l ∈ ls, ∀ a ∈ l, P a) → ∀ a ∈ sep.intercalate ls, P a
  | [], _ => by simp
  | [l], h => by simpa using h
  | l :: m :: rest, h => by
      have later := forall_mem_intercalate hs (fun k hk => h k (List.mem_cons_of_mem _ hk))
      rw [List.intercalate_cons_cons]
      intro a ha
      rcases List.mem_append.mp ha with ha | ha
      · rcases List.mem_append.mp ha with ha | ha
        · exact h l List.mem_cons_self a ha
        · exact hs a ha
      · exact later a ha

inductive Lexeme where
  | blank (c : Char)
  | word (s : String)
  | mark (c : Char)
  | atMost
  | parameter (digits : String)
  deriving DecidableEq, Repr

namespace Lexeme

/-- A letter, `_` or what is beyond ASCII, then these or digits or `$`. -/
def isName (s : String) : Bool :=
  match s.toList with
  | [] => false
  | c :: rest => Token.isNameStart c && rest.all Token.isNameChar

def chars : Lexeme → List Char
  | .blank c => [c]
  | .word s => s.toList
  | .mark c => [c]
  | .atMost => ['<', '=']
  | .parameter digits => '?' :: digits.toList

def token? : Lexeme → Option Token
  | .blank _ => none
  | .word s => some (.word s)
  | .mark c => some (.mark (String.singleton c))
  | .atMost => some (.mark "<=")
  | .parameter digits =>
      some (.parameter (String.ofList ('?' :: digits.toList)) (digitsValue digits.toList))

def fits : Lexeme → Bool
  | .blank c => Token.isSpace c
  | .word s => isName s
  | .mark c => ['(', ')', ',', '='].contains c
  | .atMost => true
  | .parameter digits => digits.toList.all isDigit

def isWord : Lexeme → Bool
  | .word _ => true
  | _ => false

/-- Words and parameters go on as long as characters of names follow. -/
def isOpen : Lexeme → Bool
  | .word _ | .parameter _ => true
  | _ => false

def isParameter : Lexeme → Bool
  | .parameter _ => true
  | _ => false

def separated : List Lexeme → Bool
  | l :: m :: rest => !(l.isOpen && m.isWord) && separated (m :: rest)
  | _ => true

def render (ls : List Lexeme) : List Char := ls.flatMap chars

def tokens (ls : List Lexeme) : List Token := ls.filterMap token?

@[simp] theorem render_nil : render [] = [] := rfl

@[simp] theorem render_cons (l : Lexeme) (ls : List Lexeme) :
    render (l :: ls) = l.chars ++ render ls := rfl

@[simp] theorem render_append (ls ms : List Lexeme) :
    render (ls ++ ms) = render ls ++ render ms := List.flatMap_append

@[simp] theorem tokens_append (ls ms : List Lexeme) :
    tokens (ls ++ ms) = tokens ls ++ tokens ms := List.filterMap_append

/-- One list may stand right before another: no word follows what is open. -/
def joins (ls ms : List Lexeme) : Bool :=
  !(ls.getLast?.any isOpen && ms.head?.any isWord)

theorem joins_append (ls : List Lexeme) (m : Lexeme) (ms ns : List Lexeme) :
    joins (ls ++ m :: ms) ns = joins (m :: ms) ns := by
  have last : (ls ++ m :: ms).getLast? = (m :: ms).getLast? := by
    rw [List.getLast?_append, List.getLast?_cons]
    rfl
  rw [joins, joins, last]

theorem separated_append {ms : List Lexeme} (hm : separated ms) :
    ∀ {ls : List Lexeme}, separated ls → joins ls ms → separated (ls ++ ms)
  | [], _, _ => hm
  | [l], _, h => by
      cases ms with
      | nil => rfl
      | cons m rest => exact (Bool.and_eq_true _ _).mpr ⟨h, hm⟩
  | l :: l' :: rest, h, h' => by
      have later := (Bool.and_eq_true _ _).mp h
      refine (Bool.and_eq_true _ _).mpr ⟨later.1, separated_append hm later.2 ?_⟩
      simpa [joins] using h'

theorem separated_cons {l : Lexeme} (h : l.isOpen = false) (rest : List Lexeme) :
    separated (l :: rest) = separated rest := by
  cases rest <;> simp [separated, h]

/-! ### Lists with separators -/

theorem render_intercalate (sep : List Lexeme) :
    ∀ lss : List (List Lexeme), render (sep.intercalate lss) =
      (render sep).intercalate (lss.map render)
  | [] => rfl
  | [ls] => by simp
  | ls :: ls' :: rest => by
      have ih := render_intercalate sep (ls' :: rest)
      simp only [List.map_cons] at ih ⊢
      rw [List.intercalate_cons_cons, List.intercalate_cons_cons, render_append, render_append, ih]

theorem tokens_intercalate (sep : List Lexeme) :
    ∀ lss : List (List Lexeme), tokens (sep.intercalate lss) =
      (tokens sep).intercalate (lss.map tokens)
  | [] => rfl
  | [ls] => by simp
  | ls :: ls' :: rest => by
      have ih := tokens_intercalate sep (ls' :: rest)
      simp only [List.map_cons] at ih ⊢
      rw [List.intercalate_cons_cons, List.intercalate_cons_cons, tokens_append, tokens_append, ih]

/-- Between a comma and a blank, what is separated stays so. -/
theorem separated_intercalate {c d : Char} :
    ∀ {lss : List (List Lexeme)}, (∀ ls ∈ lss, separated ls) →
      separated ([Lexeme.mark c, .blank d].intercalate lss)
  | [], _ => rfl
  | [ls], h => by simpa using h
  | ls :: ls' :: rest, h => by
      have later := separated_intercalate (c := c) (d := d)
        (fun ms hm => h ms (List.mem_cons_of_mem _ hm))
      rw [List.intercalate_cons_cons, List.append_assoc]
      refine separated_append ?_ (h ls List.mem_cons_self) ?_
      · rw [List.cons_append, List.singleton_append, separated_cons rfl, separated_cons rfl]
        exact later
      · simp [joins, isWord]

end Lexeme

/-! ## Spelling -/

/-- The lexemes of a text. -/
structure Spelled (s : String) (ls : List Lexeme) : Prop where
  chars : s.toList = Lexeme.render ls
  fits : ∀ l ∈ ls, l.fits = true
  apart : Lexeme.separated ls

namespace Spelled

open Lexeme

theorem name {s : String} (h : isName s = true) : Spelled s [.word s] :=
  ⟨by simp [Lexeme.chars], by simpa [Lexeme.fits] using h, rfl⟩

theorem append {s t : String} {ls ms : List Lexeme} (hs : Spelled s ls) (ht : Spelled t ms)
    (h : joins ls ms) : Spelled (s ++ t) (ls ++ ms) where
  chars := by rw [String.toList_append, hs.chars, ht.chars, render_append]
  fits := by
    intro l hl
    rcases List.mem_append.mp hl with hl | hl
    · exact hs.fits l hl
    · exact ht.fits l hl
  apart := separated_append ht.apart hs.apart h

/-- A comma and a blank between the items of a list. -/
theorem listed {α : Type} {sep : String} {d : Char} (chars : sep.toList = [',', d])
    (space : Token.isSpace d = true) {f : α → String} {g : α → List Lexeme} {xs : List α}
    (h : ∀ x ∈ xs, Spelled (f x) (g x)) :
    Spelled (sep.intercalate (xs.map f)) ([Lexeme.mark ',', .blank d].intercalate (xs.map g)) where
  chars := by
    have parts : (xs.map f).map String.toList = (xs.map g).map render := by
      rw [List.map_map, List.map_map]
      exact List.map_congr_left (fun x hx => (h x hx).chars)
    rw [String.toList_intercalate, render_intercalate, parts, chars]
    rfl
  fits := by
    refine forall_mem_intercalate ?_ ?_
    · simp only [List.forall_mem_cons]
      exact ⟨rfl, space, nofun⟩
    · simp only [List.mem_map, forall_exists_index, and_imp, forall_apply_eq_imp_iff₂]
      exact fun x hx => (h x hx).fits
  apart := by
    refine separated_intercalate ?_
    simp only [List.mem_map, forall_exists_index, and_imp, forall_apply_eq_imp_iff₂]
    exact fun x hx => (h x hx).apart

/-- `, ` between the items of a list. -/
def comma : List Lexeme := [.mark ',', .blank ' ']

theorem intercalate {α : Type} {f : α → String} {g : α → List Lexeme} {xs : List α}
    (h : ∀ x ∈ xs, Spelled (f x) (g x)) :
    Spelled (", ".intercalate (xs.map f)) (comma.intercalate (xs.map g)) :=
  listed rfl rfl h

end Spelled

namespace Token

open Lexeme

/-- What cannot go on with the name before it. -/
def Stops (r : List Char) : Prop := ∀ c ∈ r.head?, isNameChar c = false

theorem takeWhile_append_stops {p : Char → Bool} {s r : List Char} (all : ∀ c ∈ s, p c = true)
    (stops : ∀ c ∈ r.head?, p c = false) : (s ++ r).takeWhile p = s := by
  rw [List.takeWhile_append_of_pos all]
  cases r with
  | nil => simp
  | cons c r => simp [stops c rfl]

theorem isNameStart_not_space {c : Char} (h : isNameStart c = true) : isSpace c = false := by
  cases space : isSpace c with
  | false => rfl
  | true =>
      simp only [isSpace, Bool.or_eq_true, beq_iff_eq] at space
      rcases space with (((rfl | rfl) | rfl) | rfl) | rfl <;> exact absurd h (by decide)

/-- Nothing that starts a name starts a comment. -/
theorem comment?_of_isNameStart {c : Char} (h : isNameStart c = true) (r : List Char) :
    comment? c r = none := by
  have dash : c ≠ '-' := by
    rintro rfl
    exact absurd h (by decide)
  have slash : c ≠ '/' := by
    rintro rfl
    exact absurd h (by decide)
  simp [comment?, dash, slash]

theorem scan_word {s : String} (h : isName s = true) {r : List Char} (stops : Stops r) :
    scan (s.toList ++ r) = .word s :: scan r := by
  unfold isName at h
  split at h
  · cases h
  · next c rest eq =>
      simp only [Bool.and_eq_true, List.all_eq_true] at h
      have tail : (rest ++ r).takeWhile isNameChar = rest := takeWhile_append_stops h.2 stops
      rw [eq, List.cons_append, scan, isNameStart_not_space h.1, comment?_of_isNameStart h.1]
      simp only [Bool.false_eq_true, if_false, next, h.1, if_true, tail, List.drop_left]
      rw [← eq, String.ofList_toList]

theorem scan_blank {c : Char} (h : isSpace c = true) (r : List Char) : scan (c :: r) = scan r := by
  rw [scan, if_pos h]

theorem scan_mark {c : Char} (h : ['(', ')', ',', '='].contains c = true) (r : List Char) :
    scan (c :: r) = .mark (String.singleton c) :: scan r := by
  simp only [List.contains_eq_mem, List.mem_cons, List.not_mem_nil, or_false, decide_eq_true_eq] at h
  rcases h with rfl | rfl | rfl | rfl <;>
    (rw [scan]; simp [isSpace, comment?, next, isNameStart, isDigit])

theorem scan_atMost (r : List Char) : scan ('<' :: '=' :: r) = .mark "<=" :: scan r := by
  rw [scan]
  simp [isSpace, comment?, next, isNameStart, isDigit]

theorem isDigit_isNameChar {c : Char} (h : isDigit c = true) : isNameChar c = true := by
  simp [isNameChar, h]

theorem scan_parameter {digits : List Char} (h : ∀ c ∈ digits, isDigit c = true) {r : List Char}
    (stops : Stops r) :
    scan ('?' :: (digits ++ r)) =
      .parameter (String.ofList ('?' :: digits)) (digitsValue digits) :: scan r := by
  have tail : (digits ++ r).takeWhile isDigit = digits := by
    refine takeWhile_append_stops h ?_
    intro c hc
    cases digit : isDigit c with
    | false => rfl
    | true => rw [← stops c hc, isDigit_isNameChar digit]
  rw [scan]
  simp [isSpace, comment?, next, isNameStart, isDigit, tail]

/-- What is rendered starts with no character of a name unless with a word. -/
theorem stops_render {ls : List Lexeme} (fit : ∀ l ∈ ls, l.fits = true)
    (starts : ∀ l ∈ ls.head?, l.isWord = false) : Stops (render ls) := by
  cases ls with
  | nil => simp [Stops]
  | cons l rest =>
      have fit := fit l List.mem_cons_self
      have starts := starts l rfl
      cases l with
      | blank c =>
          simp only [fits, isSpace, Bool.or_eq_true, beq_iff_eq] at fit
          rcases fit with (((rfl | rfl) | rfl) | rfl) | rfl <;> simp [Stops, chars] <;> decide
      | word s => cases starts
      | mark c =>
          simp only [fits, List.contains_eq_mem, List.mem_cons, List.not_mem_nil, or_false,
            decide_eq_true_eq] at fit
          rcases fit with rfl | rfl | rfl | rfl <;> simp [Stops, chars] <;> decide
      | atMost => simp [Stops, chars]; decide
      | parameter digits => simp [Stops, chars]; decide

/-- **A text scans to the tokens of its lexemes.** -/
theorem scan_render : ∀ {ls : List Lexeme}, (∀ l ∈ ls, l.fits = true) → separated ls →
    scan (render ls) = tokens ls
  | [], _, _ => by simp [scan, tokens]
  | l :: rest, fit, apart => by
      have fit_rest : ∀ m ∈ rest, m.fits = true := fun m hm => fit m (List.mem_cons_of_mem _ hm)
      have apart_rest : separated rest := by
        cases rest with
        | nil => rfl
        | cons m rest => exact (Bool.and_eq_true _ _ ▸ apart).2
      have stops : l.isOpen = true → Stops (render rest) := by
        intro opens
        refine stops_render fit_rest ?_
        intro m hm
        cases rest with
        | nil => cases hm
        | cons m' rest =>
            cases hm
            have := (Bool.and_eq_true _ _ ▸ apart).1
            simpa [opens] using this
      have ih := scan_render fit_rest apart_rest
      have fit := fit l List.mem_cons_self
      rw [render_cons]
      cases l with
      | blank c => rw [chars, List.singleton_append, scan_blank fit, ih]; rfl
      | word s => rw [chars, scan_word fit (stops rfl), ih]; rfl
      | mark c => rw [chars, List.singleton_append, scan_mark fit, ih]; rfl
      | atMost => rw [chars, List.cons_append, List.singleton_append, scan_atMost, ih]; rfl
      | parameter digits =>
          rw [chars, List.cons_append, scan_parameter (List.all_eq_true.mp fit) (stops rfl), ih]
          rfl

/-! ## Statements -/

/-- What a lexeme scans to ends no statement. -/
theorem goes_on_of_mem_tokens {ls : List Lexeme} (fit : ∀ l ∈ ls, l.fits = true) {t : Token}
    (h : t ∈ tokens ls) : t ≠ .mark ";" ∧ isFinish t = false := by
  obtain ⟨l, hl, eq⟩ := List.mem_filterMap.mp h
  cases l with
  | blank c => cases eq
  | mark c =>
      cases eq
      have fit := fit _ hl
      simp only [fits, List.contains_eq_mem, List.mem_cons, List.not_mem_nil, or_false,
        decide_eq_true_eq] at fit
      rcases fit with rfl | rfl | rfl | rfl <;> decide
  | word s => cases eq; exact ⟨nofun, rfl⟩
  | atMost => cases eq; decide
  | parameter digits => cases eq; exact ⟨nofun, rfl⟩

theorem statements_eq : ∀ {ts : List Token}, (∀ t ∈ ts, t ≠ .mark ";") →
    statements ts = [ts ++ [.finish false]]
  | [], _ => rfl
  | t :: rest, h => by
      have first := h t List.mem_cons_self
      have later := statements_eq (fun u hu => h u (List.mem_cons_of_mem _ hu))
      unfold statements
      split
      · simp_all
      · next eq =>
          cases eq
          exact absurd rfl first
      · next eq =>
          cases eq
          rw [later]
          rfl

/-- A text that has tokens at all is one statement. -/
theorem ofText_of_spelled {s : String} {ls : List Lexeme} (h : Spelled s ls)
    (some : tokens ls ≠ []) : ofText s = [numbered 0 (tokens ls ++ [.finish false])] := by
  have goes_on : ∀ t ∈ tokens ls, t ≠ .mark ";" := fun t ht => (goes_on_of_mem_tokens h.fits ht).1
  have kept : (tokens ls ++ [Token.finish false]).all isFinish = false := by
    obtain ⟨t, rest, eq⟩ := List.exists_cons_of_ne_nil some
    have first : isFinish t = false := (goes_on_of_mem_tokens h.fits (eq ▸ List.mem_cons_self)).2
    simp [eq, first]
  rw [ofText, h.chars, scan_render h.fits h.apart, statements_eq goes_on]
  simp [kept]

/-! ## Numbers of parameters -/

/-- Without parameters nothing is numbered. -/
theorem numbered_append {ts : List Token} (h : ∀ t ∈ ts, ∀ s n, t ≠ .parameter s n) (k : Nat)
    (us : List Token) : numbered k (ts ++ us) = ts ++ numbered k us := by
  induction ts with
  | nil => rfl
  | cons t rest ih =>
      have later := ih (fun u hu => h u (List.mem_cons_of_mem _ hu))
      cases t with
      | parameter s n => exact absurd rfl (h _ List.mem_cons_self s n)
      | _ => exact congrArg (List.cons _) later

/-- Lexemes without parameters keep their tokens. -/
theorem numbered_tokens {ls : List Lexeme} (h : ∀ l ∈ ls, l.isParameter = false) (k : Nat)
    (us : List Token) : numbered k (tokens ls ++ us) = tokens ls ++ numbered k us := by
  refine numbered_append ?_ k us
  intro t ht s n same
  obtain ⟨l, hl, eq⟩ := List.mem_filterMap.mp ht
  have plain := h l hl
  subst same
  cases l with
  | parameter digits => cases plain
  | _ => cases eq

/-- In a list with commas each item with one parameter has the next number. -/
theorem numbered_intercalate {α : Type} (token : α → Nat → List Token)
    (next : ∀ x k us, numbered k (token x 0 ++ us) = token x (k + 1) ++ numbered (k + 1) us) :
    ∀ (xs : List α) (k : Nat) (us : List Token),
      numbered k ([Token.mark ","].intercalate (xs.map (token · 0)) ++ us) =
        [Token.mark ","].intercalate ((xs.zipIdx (k + 1)).map fun p => token p.1 p.2) ++
          numbered (k + xs.length) us
  | [], _, _ => rfl
  | [x], k, us => by
      simp only [List.map_cons, List.map_nil, List.intercalate_singleton, next, List.zipIdx_cons,
        List.zipIdx_nil, List.length_singleton]
  | x :: y :: rest, k, us => by
      have later := numbered_intercalate token next (y :: rest) (k + 1) us
      have comma : ∀ vs, numbered (k + 1) (.mark "," :: vs) = .mark "," :: numbered (k + 1) vs :=
        fun _ => rfl
      simp only [List.map_cons, List.zipIdx_cons] at later ⊢
      rw [List.intercalate_cons_cons, List.intercalate_cons_cons, List.append_assoc,
        List.append_assoc, next, List.singleton_append, comma, later]
      simp only [List.append_assoc, List.cons_append, List.nil_append, List.length_cons]
      rw [show k + 1 + (rest.length + 1) = k + (rest.length + 1 + 1) by omega]

end Token

end AccountStore.Database
