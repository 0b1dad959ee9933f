/-
# AccountStore.Proofs.Statements.Words -- the words of a statement under other settings

A statement's text falls into words: runs of letters, digits and `_`, and other
characters one by one.  Every text of this library is put together from pieces
(`Piece`): literal text, the name of a table, and the constraint on email
addresses.  No two pieces of a text run into one word (`Spaced`), so its words are
those of its pieces (`words_spell`), and a table's name is one word whatever it
is, since it is an identifier.  Hence two settings give the same words up to the
names that they choose and the one constraint (`words_under_settings`): no
choice of names can make a statement say something else.
-/
import AccountStore.Proofs.Statements.Creation
import AccountStore.Statements.Session
import Mathlib.Data.List.SplitBy

namespace AccountStore

set_option autoImplicit false

namespace StatementText

/-! ## Words -/

def isWordChar (c : Char) : Bool := c.isAlphanum || c == '_'

/-- Two neighbouring characters belong to one word. -/
def glued (a b : Char) : Bool := isWordChar a && isWordChar b

/-- The words and marks of a text, without blanks. -/
def words (text : String) : List String :=
  ((text.toList.splitBy glued).filter fun w => !(w.all Char.isWhitespace)).map String.ofList

/-- A text that does not end inside a word. -/
abbrev EndsOpen (text : String) : Prop :=
  text.toList.getLast?.all (fun c => !isWordChar c) = true

/-- A text that begins with something else than a word. -/
abbrev StartsOpen (text : String) : Prop :=
  text.toList.head?.any (fun c => !isWordChar c) = true

theorem words_append {a b : String} (apart : EndsOpen a ∨ StartsOpen b) :
    words (a ++ b) = words a ++ words b := by
  have seam : ∀ x ∈ a.toList.getLast?, ∀ y ∈ b.toList.head?, glued x y = false := by
    intro x last y first
    rw [glued, Bool.and_eq_false_iff, ← Bool.not_eq_true', ← Bool.not_eq_true' (isWordChar y)]
    rcases apart with ends | starts
    · rw [EndsOpen, last] at ends
      exact .inl ends
    · rw [StartsOpen, first] at starts
      exact .inr starts
  rw [words, String.toList_append, List.splitBy_append seam, List.filter_append, List.map_append]
  rfl

theorem isWhitespace_of_isWordChar {c : Char} (inside : isWordChar c = true) :
    c.isWhitespace = false := by
  rw [Bool.eq_false_iff]
  intro blank
  simp only [Char.isWhitespace, Bool.or_eq_true, decide_eq_true_eq] at blank
  rcases blank with ((rfl | rfl) | rfl) | rfl <;> revert inside <;> decide

/-- An identifier is one word. -/
theorem words_identifier {name : String} (nonempty : name ≠ "")
    (inside : ∀ c ∈ name.toList, isWordChar c = true) : words name = [name] := by
  have letters : name.toList ≠ [] := fun empty => nonempty (String.toList_inj.mp empty)
  have chain : name.toList.IsChain fun a b => glued a b = true := by
    refine List.Pairwise.isChain (List.pairwise_of_forall_mem_list fun a ha b hb => ?_)
    rw [glued, inside a ha, inside b hb]
    rfl
  have solid : (name.toList.all Char.isWhitespace) = false := by
    obtain ⟨c, rest, eq⟩ := List.exists_cons_of_ne_nil letters
    rw [eq, List.all_cons, isWhitespace_of_isWordChar (inside c (eq ▸ List.mem_cons_self)),
      Bool.false_and]
  rw [words, List.splitBy_of_isChain letters chain, List.filter_cons_of_pos (by rw [solid]; rfl)]
  simp

/-! ## Pieces of a text -/

/-- Literal text, the name of a table, with what is glued to it, or the
constraint on email addresses. -/
inductive Piece where
  | literal (text : String)
  | users
  | sessions (suffix : String)
  | unique

namespace Piece

/-- A piece before substitution. -/
def source : Piece → String
  | .literal text => text
  | .users => Template.usersTable
  | .sessions suffix => Template.sessionsTable ++ suffix
  | .unique => Template.emailUnique

def text (s : StorageSettings) : Piece → String
  | .literal text => text
  | .users => s.usersTable
  | .sessions suffix => s.sessionsTable ++ suffix
  | .unique => s.uniqueWord

def words (s : StorageSettings) : Piece → List String
  | .literal text => StatementText.words text
  | .users => [s.usersTable]
  | .sessions suffix => [s.sessionsTable ++ suffix]
  | .unique => if s.emailUnique then ["UNIQUE"] else []

/-- Literal text without `$`, or a name with more of a name glued to it. -/
def Literal : Piece → Prop
  | .literal text => '$' ∉ text.toList
  | .sessions suffix => '$' ∉ suffix.toList ∧ suffix.toList.all isWordChar = true
  | .users | .unique => True

instance : DecidablePred Literal := fun p => by
  cases p <;> unfold Literal <;> infer_instance

/-- Whether two pieces can stand side by side without making one word. -/
def Apart : Piece → Piece → Prop
  | .literal a, .literal b => EndsOpen a ∨ StartsOpen b
  | .literal a, _ => EndsOpen a
  | _, .literal b => StartsOpen b
  | _, _ => False

instance (p q : Piece) : Decidable (Apart p q) := by
  cases p <;> cases q <;> unfold Apart <;> infer_instance

end Piece

def source : List Piece → String
  | [] => ""
  | p :: rest => p.source ++ source rest

def spell (s : StorageSettings) : List Piece → String
  | [] => ""
  | p :: rest => p.text s ++ spell s rest

/-- No two neighbouring pieces make one word. -/
abbrev Spaced (ps : List Piece) : Prop := ps.IsChain Piece.Apart

/-! ## The words of pieces -/

section Words

variable {s : StorageSettings} {t : Template}

theorem isWordChar_of_identifier {name : String} (h : isTableIdentifier name = true) :
    name ≠ "" ∧ ∀ c ∈ name.toList, isWordChar c = true := by
  unfold isTableIdentifier at h
  cases eq : name.toList with
  | nil => simp [eq] at h
  | cons c rest =>
      simp only [eq, Bool.and_eq_true, List.all_eq_true] at h
      refine ⟨?_, ?_⟩
      · rintro rfl
        cases eq
      · rintro d hd
        rcases List.mem_cons.mp hd with rfl | later
        · rw [isWordChar, Char.isAlphanum, Bool.or_assoc, Bool.or_comm (Char.isDigit d),
            ← Bool.or_assoc, h.1, Bool.true_or]
        · exact h.2 d later

theorem not_dollar_of_isWordChar {text : String}
    (inside : ∀ c ∈ text.toList, isWordChar c = true) : '$' ∉ text.toList :=
  fun dollar => absurd (inside '$' dollar) (by decide)

theorem Piece.words_text (h : Template.OfSettings s t) {p : Piece} (literal : p.Literal) :
    StatementText.words (p.text s) = p.words s := by
  cases p with
  | literal text => rfl
  | users =>
      obtain ⟨nonempty, inside⟩ := isWordChar_of_identifier h.users
      exact words_identifier nonempty inside
  | sessions suffix =>
      obtain ⟨nonempty, inside⟩ := isWordChar_of_identifier h.sessions
      refine words_identifier (fun empty => nonempty (String.append_eq_empty_iff.mp empty).1) ?_
      simp only [Piece.text, String.toList_append, List.forall_mem_append]
      exact ⟨inside, List.all_eq_true.mp literal.2⟩
  | unique =>
      rw [Piece.text, Piece.words, StorageSettings.uniqueWord]
      cases s.emailUnique <;> decide

theorem Piece.Apart.seam {p q : Piece} (apart : p.Apart q) (rest : List Piece) :
    EndsOpen (p.text s) ∨ StartsOpen (spell s (q :: rest)) := by
  have starts : ∀ {b : String}, StartsOpen b → StartsOpen (b ++ spell s rest) := by
    intro b starts
    rw [StartsOpen, String.toList_append, List.head?_append]
    cases first : b.toList.head? with
    | none =>
        rw [StartsOpen, first] at starts
        cases starts
    | some c =>
        rw [StartsOpen, first] at starts
        exact starts
  cases p with
  | literal a =>
      cases q with
      | literal b => exact apart.imp_right starts
      | users | sessions | unique => exact .inl apart
  | users | sessions | unique =>
      cases q with
      | literal b => exact .inr (starts apart)
      | users | sessions | unique => exact absurd apart id

/-- **The words of a text are those of its pieces.** -/
theorem words_spell (h : Template.OfSettings s t) : ∀ {ps : List Piece}, Spaced ps →
    (∀ p ∈ ps, p.Literal) → words (spell s ps) = ps.flatMap (Piece.words s)
  | [], _, _ => rfl
  | [p], _, literal => by
      have whole := p.words_text h (literal p List.mem_cons_self)
      simpa [spell] using whole
  | p :: q :: rest, spaced, literal => by
      obtain ⟨first, others⟩ := List.forall_mem_cons.mp literal
      obtain ⟨apart, later⟩ := List.isChain_cons_cons.mp spaced
      rw [spell, words_append (apart.seam rest), p.words_text h first, words_spell h later others]
      rfl

/-- Substitution spells every piece under the settings. -/
theorem apply_source (h : Template.OfSettings s t) {ps : List Piece}
    (literal : ∀ p ∈ ps, p.Literal) : t.apply (source ps) = spell s ps := by
  refine String.toList_inj.mp ?_
  rw [Template.apply_toList]
  induction ps with
  | nil => exact Substitution.run_nil _
  | cons p rest ih =>
      obtain ⟨first, later⟩ := List.forall_mem_cons.mp literal
      rw [source, spell, String.toList_append, String.toList_append, ← ih later]
      cases p with
      | literal text => exact h.run_literal first _
      | users => exact h.run_usersTable _
      | unique => exact h.run_emailUnique _
      | sessions suffix =>
          simp only [Piece.source, Piece.text, String.toList_append, List.append_assoc]
          rw [h.run_sessionsTable, h.run_literal first.1]

theorem not_dollar_spell (h : Template.OfSettings s t) {ps : List Piece}
    (literal : ∀ p ∈ ps, p.Literal) : '$' ∉ (spell s ps).toList := by
  induction ps with
  | nil => exact List.not_mem_nil
  | cons p rest ih =>
      obtain ⟨first, later⟩ := List.forall_mem_cons.mp literal
      rw [spell, String.toList_append, List.mem_append, not_or]
      refine ⟨?_, ih later⟩
      cases p with
      | literal text => exact first
      | users => exact not_dollar_of_isWordChar (isWordChar_of_identifier h.users).2
      | sessions suffix =>
          rw [Piece.text, String.toList_append, List.mem_append, not_or]
          exact ⟨not_dollar_of_isWordChar (isWordChar_of_identifier h.sessions).2, first.1⟩
      | unique =>
          rw [Piece.text, StorageSettings.uniqueWord]
          cases s.emailUnique <;> decide

end Words

/-! ## The statements in pieces -/

/-- The texts of all statements, the update being for these fields. -/
def texts (t : Template) (fields : Option (List UserField)) : List String :=
  let users := UserStatements.ofColumns t {}
  let sessions := SessionStatements.ofTemplate t
  users.init ++ [users.byId, users.byUsername, users.byEmail, users.insert, users.update fields,
    users.delete] ++ sessions.init ++ [sessions.byKey, sessions.insert, sessions.delete,
    sessions.deleteExpired, sessions.deleteForUser]

namespace Pieces

/-- The columns up to the constraint on email addresses. -/
def openingColumns : String :=
  String.ofList (Database.Lexeme.render UserStatements.openingLexemes)

def closingColumns : String :=
  String.ofList (Database.Lexeme.render UserStatements.closingLexemes)

def usersCreation : List Piece :=
  [.literal "CREATE TABLE IF NOT EXISTS ", .users, .literal openingColumns, .unique,
    .literal closingColumns]

def usersLookup (key : String) : List Piece :=
  [.literal ("SELECT " ++ UserColumns.id {} ++ ", " ++ ", ".intercalate (UserColumns.names {})
      ++ " FROM "), .users, .literal (" WHERE " ++ key ++ " = ?")]

def usersInsert : List Piece :=
  [.literal "INSERT INTO ", .users,
    .literal (" (" ++ ", ".intercalate (UserColumns.names {}) ++ ") VALUES ("
      ++ ", ".intercalate ((UserColumns.names {}).map fun _ => "?") ++ ")")]

/-- The assignments of an update, with a comma before each but the first. -/
def assignments : List UserField → List Piece
  | [] => []
  | [f] => [.literal (f.column ++ " = ?")]
  | f :: g :: rest => .literal (f.column ++ " = ?") :: .literal ", " :: assignments (g :: rest)

def usersUpdate (fields : List UserField) : List Piece :=
  .literal "UPDATE " :: .users :: .literal " SET " ::
    (assignments fields ++ [.literal (" WHERE " ++ UserColumns.id {} ++ " = ?")])

def usersDelete : List Piece :=
  [.literal "DELETE FROM ", .users, .literal (" WHERE " ++ UserColumns.id {} ++ " = ?")]

def sessionsCreation : List Piece :=
  [.literal "CREATE TABLE IF NOT EXISTS ", .sessions "",
    .literal (" (\n" ++ "        session_key TEXT NOT NULL PRIMARY KEY,\n"
      ++ "        user_id INTEGER NOT NULL,\n" ++ "        expire_date TEXT NOT NULL\n    )")]

def indexCreation : List Piece :=
  [.literal "CREATE INDEX IF NOT EXISTS ", .sessions SessionStatements.indexSuffix,
    .literal "\n        ON ", .sessions "", .literal " (expire_date)"]

def sessionsLookup : List Piece :=
  [.literal "SELECT session_key, user_id, expire_date FROM ", .sessions "",
    .literal " WHERE session_key = ?1"]

def sessionsInsert : List Piece :=
  [.literal "INSERT INTO ", .sessions "",
    .literal " (session_key, user_id, expire_date) VALUES (?1, ?2, ?3)"]

def sessionsDelete (condition : String) : List Piece :=
  [.literal "DELETE FROM ", .sessions "", .literal (" WHERE " ++ condition ++ " ?1")]

/-- All statements but the one that creates the table of users. -/
def others (fields : Option (List UserField)) : List (List Piece) :=
  [usersLookup "id", usersLookup "username", usersLookup "email", usersInsert,
    usersUpdate (UserStatements.touched fields), usersDelete, sessionsCreation, indexCreation,
    sessionsLookup, sessionsInsert, sessionsDelete "session_key =", sessionsDelete "expire_date <=",
    sessionsDelete "user_id ="]

end Pieces

section Statements

variable {s : StorageSettings} {t : Template}

theorem spell_append (s : StorageSettings) (ps qs : List Piece) :
    spell s (ps ++ qs) = spell s ps ++ spell s qs := by
  induction ps with
  | nil => simp [spell]
  | cons p rest ih => rw [List.cons_append, spell, ih, spell, String.append_assoc]

theorem spell_assignments (s : StorageSettings) : ∀ fields : List UserField,
    spell s (Pieces.assignments fields) = ", ".intercalate (fields.map fun f => f.column ++ " = ?")
  | [] => rfl
  | [f] => by simp [Pieces.assignments, spell, Piece.text]
  | f :: g :: rest => by
      have more : (g :: rest).map (fun f => f.column ++ " = ?") ≠ [] := List.cons_ne_nil _ _
      calc spell s (Pieces.assignments (f :: g :: rest))
          = f.column ++ " = ?" ++
              (", " ++ ", ".intercalate ((g :: rest).map fun f => f.column ++ " = ?")) := by
            rw [← spell_assignments s (g :: rest)]
            rfl
        _ = ", ".intercalate
              ((f.column ++ " = ?") :: (g :: rest).map fun f => f.column ++ " = ?") := by
            rw [String.intercalate_cons_of_ne_nil more, String.append_assoc, String.append_assoc,
              String.append_assoc]

theorem tableName_eq (h : Template.OfSettings s t) : UserStatements.tableName t = s.usersTable := by
  have spelled : t.apply (source [.users]) = spell s [.users] := apply_source h (by decide)
  rw [source, source, spell, spell, String.append_empty, String.append_empty] at spelled
  exact spelled

theorem usersCreation_eq : UserStatements.createText {} = source Pieces.usersCreation := by
  refine String.toList_inj.mp ?_
  rw [UserStatements.createText_toList]
  simp only [Pieces.usersCreation, Pieces.openingColumns, Pieces.closingColumns, source,
    Piece.source, String.toList_append, String.toList_ofList, String.toList_empty]

theorem sessionsSource_eq :
    SessionStatements.createText = source Pieces.sessionsCreation ∧
      SessionStatements.indexText = source Pieces.indexCreation ∧
      SessionStatements.selectText = source Pieces.sessionsLookup ∧
      SessionStatements.insertText = source Pieces.sessionsInsert := by
  unfold SessionStatements.createText Pieces.sessionsCreation SessionStatements.indexText
    Pieces.indexCreation SessionStatements.selectText Pieces.sessionsLookup
    SessionStatements.insertText Pieces.sessionsInsert
  simp only [source, Piece.source, String.append_assoc, String.append_empty, and_self]

theorem usersLookup_eq (s : StorageSettings) (key : String) :
    UserStatements.selectText s.usersTable {} key = spell s (Pieces.usersLookup key) := by
  unfold UserStatements.selectText Pieces.usersLookup
  simp only [spell, Piece.text, String.append_assoc, String.append_empty]

theorem usersInsert_eq (s : StorageSettings) :
    UserStatements.insertText s.usersTable {} = spell s Pieces.usersInsert := by
  unfold UserStatements.insertText Pieces.usersInsert
  simp only [spell, Piece.text, String.append_assoc, String.append_empty]

theorem usersUpdate_eq (s : StorageSettings) (fields : List UserField) :
    UserStatements.updateText s.usersTable {} fields = spell s (Pieces.usersUpdate fields) := by
  unfold UserStatements.updateText Pieces.usersUpdate
  simp only [spell, spell_append, spell_assignments, Piece.text, String.append_assoc,
    String.append_empty]

theorem usersDelete_eq (s : StorageSettings) :
    UserStatements.deleteText s.usersTable {} = spell s Pieces.usersDelete := by
  unfold UserStatements.deleteText Pieces.usersDelete
  simp only [spell, Piece.text, String.append_assoc, String.append_empty]

theorem sessionsDelete_eq (condition : String) :
    SessionStatements.deleteText condition = source (Pieces.sessionsDelete condition) := by
  unfold SessionStatements.deleteText Pieces.sessionsDelete
  simp only [source, Piece.source, String.append_assoc, String.append_empty]

end Statements

/-! ## The same words under other settings -/

/-- The words that the default settings choose, under other settings. -/
def rename (s : StorageSettings) (w : String) : String :=
  if w = "auth_user" then s.usersTable
  else if w = "auth_session" then s.sessionsTable
  else if w = "auth_session_expire_date_idx" then s.sessionsTable ++ SessionStatements.indexSuffix
  else w

/-- The declaration of the column of email addresses. -/
def emailClause : List String := ["email", "TEXT", "NOT", "NULL", "UNIQUE"]

/-- Words without the constraint on email addresses. -/
def withoutEmailUnique : List String → List String
  | [] => []
  | w :: rest =>
      if emailClause <+: w :: rest then ["email", "TEXT", "NOT", "NULL"] ++ rest.drop 4
      else w :: withoutEmailUnique rest

/-- What the words of a statement become under settings. -/
def wordsUnder (s : StorageSettings) (ws : List String) : List String :=
  (if s.emailUnique then ws else withoutEmailUnique ws).map (rename s)

/-- The names that the default settings choose. -/
def chosenNames : List String := ["auth_user", "auth_session", "auth_session_expire_date_idx"]

/-- A piece that has none of these words, other than as a name by its place. -/
def Piece.Avoids (ws : List String) : Piece → Prop
  | .literal text => ∀ w ∈ StatementText.words text, w ∉ ws
  | .sessions suffix => suffix = "" ∨ suffix = SessionStatements.indexSuffix
  | .users => True
  | .unique => "UNIQUE" ∉ ws

instance (ws : List String) : DecidablePred (Piece.Avoids ws) := fun p => by
  cases p <;> unfold Piece.Avoids <;> infer_instance

/-- Literal text, or the name of a table, with no word else that settings decide on. -/
def Piece.Inert (p : Piece) : Prop := p.Literal ∧ p.Avoids ("UNIQUE" :: chosenNames)

instance : DecidablePred Piece.Inert := fun p =>
  inferInstanceAs (Decidable (p.Literal ∧ p.Avoids ("UNIQUE" :: chosenNames)))

theorem Piece.Avoids.of_cons {w : String} {ws : List String} {p : Piece} (h : p.Avoids (w :: ws)) :
    p.Avoids ws := by
  cases p with
  | literal text => exact fun v member later => h v member (List.mem_cons_of_mem w later)
  | users => trivial
  | sessions suffix => exact h
  | unique => exact fun later => h (List.mem_cons_of_mem w later)

theorem withoutEmailUnique_eq_self : ∀ {ws : List String}, "UNIQUE" ∉ ws →
    withoutEmailUnique ws = ws
  | [], _ => rfl
  | w :: rest, absent => by
      have clause : ¬ emailClause <+: w :: rest :=
        fun starts => absent (starts.subset (by decide))
      rw [withoutEmailUnique, if_neg clause,
        withoutEmailUnique_eq_self fun later => absent (List.mem_cons_of_mem w later)]

theorem rename_of_not_mem {s : StorageSettings} {w : String} (other : w ∉ chosenNames) :
    rename s w = w := by
  simp only [chosenNames, List.mem_cons, List.not_mem_nil, or_false, not_or] at other
  obtain ⟨users, sessions, index⟩ := other
  rw [rename, if_neg users, if_neg sessions, if_neg index]

theorem map_rename_eq_self {s : StorageSettings} {ws : List String}
    (others : ∀ w ∈ ws, w ∉ chosenNames) : ws.map (rename s) = ws := by
  rw [List.map_congr_left fun w member => rename_of_not_mem (others w member), List.map_id']

section Renaming

variable {s : StorageSettings} (path : String)

theorem Piece.words_eq {p : Piece} (avoids : p.Avoids chosenNames)
    (kept : p = .unique → s.emailUnique = true) :
    p.words s = (p.words { databasePath := path }).map (rename s) := by
  cases p with
  | literal text => exact (map_rename_eq_self avoids).symm
  | users => rfl
  | sessions suffix =>
      rcases avoids with rfl | rfl
      · rw [Piece.words, String.append_empty]
        rfl
      · rfl
  | unique =>
      rw [Piece.words, kept rfl]
      rfl

theorem flatMap_words_eq {ps : List Piece} (avoids : ∀ p ∈ ps, p.Avoids chosenNames)
    (kept : .unique ∈ ps → s.emailUnique = true) :
    ps.flatMap (Piece.words s) =
      (ps.flatMap (Piece.words { databasePath := path })).map (rename s) := by
  rw [List.map_flatMap]
  exact List.flatMap_congr fun p member => p.words_eq path (avoids p member)
    fun unique => kept (unique ▸ member)

/-- Words without the constraint stay, but for the names. -/
theorem flatMap_words_of_avoids {ps : List Piece}
    (avoids : ∀ p ∈ ps, p.Avoids ("UNIQUE" :: chosenNames)) :
    ps.flatMap (Piece.words s) =
      wordsUnder s (ps.flatMap (Piece.words { databasePath := path })) := by
  have absent : "UNIQUE" ∉ ps.flatMap (Piece.words { databasePath := path }) := by
    rw [List.mem_flatMap]
    rintro ⟨p, member, unique⟩
    cases p with
    | literal text => exact avoids _ member _ unique List.mem_cons_self
    | users => exact absurd (List.mem_singleton.mp unique) (show "UNIQUE" ≠ "auth_user" by decide)
    | sessions suffix =>
        rcases avoids _ member with rfl | rfl
        · exact absurd (List.mem_singleton.mp unique)
            (show "UNIQUE" ≠ "auth_session" ++ "" by decide)
        · exact absurd (List.mem_singleton.mp unique)
            (show "UNIQUE" ≠ "auth_session" ++ SessionStatements.indexSuffix by decide)
    | unique => exact avoids _ member List.mem_cons_self
  rw [wordsUnder, withoutEmailUnique_eq_self absent, ite_self]
  refine flatMap_words_eq path (fun p member => (avoids p member).of_cons) fun member => ?_
  exact absurd List.mem_cons_self (avoids _ member)

end Renaming

/-! ## All statements -/

theorem of_mem_assignments : ∀ {fields : List UserField} {p : Piece},
    p ∈ Pieces.assignments fields → p = .literal ", " ∨ ∃ f : UserField,
      p = .literal (f.column ++ " = ?")
  | [f], p, member => .inr ⟨f, List.mem_singleton.mp member⟩
  | f :: g :: rest, p, member => by
      rcases List.mem_cons.mp member with rfl | member
      · exact .inr ⟨f, rfl⟩
      · rcases List.mem_cons.mp member with rfl | member
        · exact .inl rfl
        · exact of_mem_assignments member

/-- Every piece between the name and the end of an update is literal text that
does not end inside a word. -/
theorem literal_of_mem_assignments {fields : List UserField} {p : Piece}
    (member : p ∈ Pieces.assignments fields) :
    p.Inert ∧ ∃ text, p = .literal text ∧ EndsOpen text := by
  rcases of_mem_assignments member with rfl | ⟨f, rfl⟩
  · exact ⟨by decide +kernel, _, rfl, by decide⟩
  · refine ⟨?_, _, rfl, ?_⟩
    · cases f <;> decide +kernel
    · cases f <;> decide

theorem spaced_append {ps qs : List Piece}
    (ends : ∀ p ∈ ps, ∃ text, p = .literal text ∧ EndsOpen text) (spaced : Spaced qs) :
    Spaced (ps ++ qs) := by
  induction ps with
  | nil => exact spaced
  | cons p rest ih =>
      obtain ⟨⟨text, rfl, stops⟩, later⟩ := List.forall_mem_cons.mp ends
      refine List.isChain_cons.mpr ⟨fun q _ => ?_, ih later⟩
      cases q with
      | literal b => exact .inl stops
      | users | sessions | unique => exact stops

theorem usersUpdate_sound (fields : List UserField) :
    Spaced (Pieces.usersUpdate fields) ∧ ∀ p ∈ Pieces.usersUpdate fields, p.Inert := by
  constructor
  · have assigned : Spaced (Pieces.assignments fields ++
        [.literal (" WHERE " ++ UserColumns.id {} ++ " = ?")]) :=
      spaced_append (fun p member => (literal_of_mem_assignments member).2)
        (List.isChain_singleton _)
    have set : Spaced ([.literal " SET "] ++ (Pieces.assignments fields ++
        [.literal (" WHERE " ++ UserColumns.id {} ++ " = ?")])) :=
      spaced_append (List.forall_mem_singleton.mpr ⟨_, rfl, by decide⟩) assigned
    refine List.isChain_cons_cons.mpr ⟨?_, List.isChain_cons_cons.mpr ⟨?_, set⟩⟩
    · decide
    · decide
  · simp only [Pieces.usersUpdate, List.forall_mem_cons, List.forall_mem_append]
    exact ⟨by decide +kernel, by decide, by decide +kernel,
      fun p member => (literal_of_mem_assignments member).1, by decide +kernel, nofun⟩

/-- The pieces of all statements but one are spaced, and settings decide only on
the names among them. -/
theorem others_sound (fields : Option (List UserField)) :
    ∀ ps ∈ Pieces.others fields, Spaced ps ∧ ∀ p ∈ ps, p.Inert := by
  simp only [Pieces.others, List.forall_mem_cons]
  refine ⟨?_, ?_, ?_, ?_, usersUpdate_sound _, ?_, ?_, ?_, ?_, ?_, ?_, ?_, ?_, nofun⟩ <;>
    decide +kernel

/-! ## The creation of the table of users -/

/-- The words of the columns up to the constraint on email addresses. -/
def openingWords : List String :=
  ["(", "id", "INTEGER", "PRIMARY", "KEY", "AUTOINCREMENT", ",", "username", "TEXT", "NOT", "NULL",
    "UNIQUE", ",", "password", "TEXT", "NOT", "NULL", ",", "email", "TEXT", "NOT", "NULL"]

def closingWords : List String :=
  [",", "first_name", "TEXT", "NOT", "NULL", ",", "last_name", "TEXT", "NOT", "NULL",
    ",", "is_superuser", "INTEGER", "NOT", "NULL", ",", "is_staff", "INTEGER", "NOT", "NULL",
    ",", "is_active", "INTEGER", "NOT", "NULL", ",", "date_joined", "TEXT", "NOT", "NULL",
    ",", "last_login", "TEXT", "NOT", "NULL", ")"]

theorem words_create :
    words "CREATE TABLE IF NOT EXISTS " = ["CREATE", "TABLE", "IF", "NOT", "EXISTS"] := by
  decide +kernel

theorem words_opening : words Pieces.openingColumns = openingWords := by
  rw [words, Pieces.openingColumns, String.toList_ofList]
  decide +kernel

theorem words_closing : words Pieces.closingColumns = closingWords := by
  rw [words, Pieces.closingColumns, String.toList_ofList]
  decide +kernel

theorem usersCreation_literal : ∀ p ∈ Pieces.usersCreation, p.Literal := by
  simp only [Pieces.usersCreation, Pieces.openingColumns, Pieces.closingColumns,
    List.forall_mem_cons, Piece.Literal, String.toList_ofList]
  exact ⟨by decide, trivial, by decide, trivial, by decide, nofun⟩

theorem usersCreation_spaced : Spaced Pieces.usersCreation := by
  have create : EndsOpen "CREATE TABLE IF NOT EXISTS " := by decide
  have opening : StartsOpen Pieces.openingColumns ∧ EndsOpen Pieces.openingColumns := by
    unfold StartsOpen EndsOpen Pieces.openingColumns
    rw [String.toList_ofList]
    decide
  have closing : StartsOpen Pieces.closingColumns := by
    unfold StartsOpen Pieces.closingColumns
    rw [String.toList_ofList]
    decide
  have ends : Spaced [.literal Pieces.openingColumns, .unique, .literal Pieces.closingColumns] :=
    .cons_cons opening.2 (.cons_cons closing (.singleton _))
  exact .cons_cons create (.cons_cons opening.1 ends)

section Creation

variable {s : StorageSettings} {t : Template}

theorem words_usersCreation (h : Template.OfSettings s t) :
    words (spell s Pieces.usersCreation) =
      ["CREATE", "TABLE", "IF", "NOT", "EXISTS", s.usersTable] ++ openingWords ++
        (if s.emailUnique then ["UNIQUE"] else []) ++ closingWords := by
  rw [words_spell h usersCreation_spaced usersCreation_literal, Pieces.usersCreation]
  simp only [List.flatMap_cons, List.flatMap_nil, Piece.words, words_create, words_opening,
    words_closing, List.append_nil]
  simp only [List.append_assoc, List.cons_append, List.nil_append]

theorem words_usersCreation_under (h : Template.OfSettings s t) {t₀ : Template} {path : String}
    (h₀ : Template.OfSettings { databasePath := path } t₀) :
    words (spell s Pieces.usersCreation) =
      wordsUnder s (words (spell { databasePath := path } Pieces.usersCreation)) := by
  have constrained : words (spell { databasePath := path } Pieces.usersCreation) =
      ["CREATE", "TABLE", "IF", "NOT", "EXISTS"] ++ "auth_user" ::
        (openingWords ++ "UNIQUE" :: closingWords) := words_usersCreation h₀
  have dropped : withoutEmailUnique (["CREATE", "TABLE", "IF", "NOT", "EXISTS"] ++ "auth_user" ::
      (openingWords ++ "UNIQUE" :: closingWords)) =
        ["CREATE", "TABLE", "IF", "NOT", "EXISTS"] ++ "auth_user" ::
          (openingWords ++ closingWords) := by decide
  have created : ∀ rest : List String, (∀ w ∈ rest, w ∉ chosenNames) →
      (["CREATE", "TABLE", "IF", "NOT", "EXISTS"] ++ "auth_user" :: rest).map (rename s) =
        ["CREATE", "TABLE", "IF", "NOT", "EXISTS"] ++ s.usersTable :: rest := by
    intro rest others
    have start : ["CREATE", "TABLE", "IF", "NOT", "EXISTS"].map (rename s) =
        ["CREATE", "TABLE", "IF", "NOT", "EXISTS"] := map_rename_eq_self (by decide)
    rw [List.map_append, start, List.map_cons, map_rename_eq_self others]
    rfl
  rw [words_usersCreation h, constrained, wordsUnder]
  cases s.emailUnique with
  | true =>
      rw [if_pos rfl, if_pos rfl, created _ (by decide)]
      rfl
  | false =>
      rw [if_neg Bool.false_ne_true, if_neg Bool.false_ne_true, dropped, created _ (by decide)]
      rfl

/-- The column of email addresses is declared unique where the settings ask for it. -/
theorem emailClause_infix_iff (h : Template.OfSettings s t) :
    emailClause <:+: words (spell s Pieces.usersCreation) ↔ s.emailUnique = true := by
  rw [words_usersCreation h]
  cases s.emailUnique with
  | true =>
      refine iff_of_true ?_ rfl
      refine ⟨["CREATE", "TABLE", "IF", "NOT", "EXISTS", s.usersTable] ++ openingWords.take 18,
        closingWords, rfl⟩
  | false =>
      refine iff_of_false ?_ Bool.false_ne_true
      simp [emailClause, openingWords, closingWords, List.infix_cons_iff]

end Creation

/-- Every statement is spelled from its pieces. -/
theorem texts_eq {s : StorageSettings} {t : Template} (h : Template.OfSettings s t)
    (fields : Option (List UserField)) :
    texts t fields = spell s Pieces.usersCreation :: (Pieces.others fields).map (spell s) := by
  have users : t.apply (UserStatements.createText {}) = spell s Pieces.usersCreation := by
    rw [usersCreation_eq]
    exact apply_source h usersCreation_literal
  have applied : ∀ ps ∈ Pieces.others fields, t.apply (source ps) = spell s ps :=
    fun ps member => apply_source h fun p hp => ((others_sound fields ps member).2 p hp).1
  simp only [Pieces.others, List.forall_mem_cons] at applied
  obtain ⟨-, -, -, -, -, -, creation, index, lookup, insert, delete, expired, forUser, -⟩ := applied
  obtain ⟨creation', index', lookup', insert'⟩ := sessionsSource_eq
  simp only [texts, UserStatements.ofColumns, SessionStatements.ofTemplate, tableName_eq h, users,
    creation', index', lookup', insert', sessionsDelete_eq, usersLookup_eq, usersInsert_eq,
    usersUpdate_eq, usersDelete_eq, creation, index, lookup, insert, delete, expired, forUser]
  rfl

/-- **Settings decide on names and on one constraint, and on nothing else.**  Every
statement has the words that it has under the default settings, but with the
chosen names in place of the default ones and with the constraint on email
addresses as asked; no placeholder is left. -/
theorem words_under_settings {s : StorageSettings} {path : String} {t t₀ : Template}
    (accepted : Template.ofSettings s = .ok t)
    (default : Template.ofSettings { databasePath := path } = .ok t₀)
    (fields : Option (List UserField)) :
    (texts t fields).map words = (texts t₀ fields).map (fun text => wordsUnder s (words text)) ∧
      (∀ create ∈ (UserStatements.ofColumns t {}).init,
        emailClause <:+: words create ↔ s.emailUnique = true) ∧
      ∀ text ∈ texts t fields, '$' ∉ text.toList := by
  have h := Template.ofSettings_eq_ok accepted
  have h₀ := Template.ofSettings_eq_ok default
  have sound := others_sound fields
  rw [texts_eq h, texts_eq h₀]
  refine ⟨?_, ?_, ?_⟩
  · rw [List.map_cons, List.map_cons, List.map_map, List.map_map,
      words_usersCreation_under h h₀]
    refine congrArg _ (List.map_congr_left fun ps member => ?_)
    obtain ⟨spaced, each⟩ := sound ps member
    have literal : ∀ p ∈ ps, p.Literal := fun p hp => (each p hp).1
    rw [Function.comp_apply, Function.comp_apply, words_spell h spaced literal,
      words_spell h₀ spaced literal]
    exact flatMap_words_of_avoids path fun p hp => (each p hp).2
  · have users : (UserStatements.ofColumns t {}).init = [spell s Pieces.usersCreation] := by
      rw [← apply_source h usersCreation_literal, ← usersCreation_eq]
      rfl
    rw [users, List.forall_mem_singleton]
    exact emailClause_infix_iff h
  · simp only [List.forall_mem_cons, List.forall_mem_map]
    exact ⟨not_dollar_spell h usersCreation_literal, fun ps member =>
      not_dollar_spell h fun p hp => ((sound ps member).2 p hp).1⟩

/-- Names that are words of the language are no exception. -/
theorem words_under_keyword_names :
    ∃ t t₀, Template.ofSettings ⟨"a.db", true, "UNIQUE", "select_1", false⟩ = .ok t ∧
      Template.ofSettings { databasePath := "a.db" } = .ok t₀ ∧
      (texts t (some [.email, .email])).map words =
        (texts t₀ (some [.email, .email])).map (fun text =>
          wordsUnder ⟨"a.db", true, "UNIQUE", "select_1", false⟩ (words text)) := by
  obtain ⟨t, accepted⟩ := @Template.exists_ofSettings ⟨"a.db", true, "UNIQUE", "select_1", false⟩
    (by decide) (by decide)
  obtain ⟨t₀, default⟩ := @Template.exists_ofSettings { databasePath := "a.db" } (by decide)
    (by decide)
  exact ⟨t, t₀, accepted, default, (words_under_settings accepted default _).1⟩

end StatementText

end AccountStore
