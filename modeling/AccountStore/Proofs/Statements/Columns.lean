/-
# AccountStore.Proofs.Statements.Columns -- the names of the columns

Callers choose the names of the columns.  Five kinds of statement are put together
around them; the sixth, which creates the table, goes through the template as a
whole, and so do the names in it.  No placeholder reaches past a blank, and blanks
stand on both sides of every name, so each name is substituted on its own
(`apply_createText_eq`).  It is kept exactly if no placeholder stands in it, and the
schema then has the columns that all other statements name
(`column_names_kept_iff`).  With other names the table that is made lacks some
column that the lookups, the inserts and the updates ask for.
-/
import Mathlib.Algebra.Order.BigOperators.Group.List
import AccountStore.Proofs.Statements.Users
import AccountStore.Proofs.Statements.Words
import AccountStore.Proofs.Template.Entries
import AccountStore.Proofs.Text.Passage

namespace AccountStore

set_option autoImplicit false

open Database Database.Lexeme
open Substitution (Becomes)

/-! ## Placeholders of settings -/

namespace StorageSettings

theorem blank_not_in_keys (s : StorageSettings) : ∀ p ∈ s.placeholders, ' ' ∉ p.1.toList := by
  simp only [placeholders, List.forall_mem_cons]
  exact ⟨by decide, by decide, by decide, List.forall_mem_nil _⟩

end StorageSettings

theorem count_dollar_of_isTableIdentifier {name : String} (h : isTableIdentifier name = true) :
    name.toList.count '$' = 0 := by
  rw [List.count_eq_zero]
  intro inside
  unfold isTableIdentifier at h
  cases eq : name.toList with
  | nil =>
      rw [eq] at inside
      cases inside
  | cons c rest =>
      simp only [eq, Bool.and_eq_true, List.all_eq_true] at h
      rw [eq] at inside
      rcases List.mem_cons.mp inside with rfl | later
      · exact absurd h.1 (by decide)
      · exact absurd (h.2 '$' later) (by decide)

namespace Template.OfSettings

variable {s : StorageSettings} {t : Template}

/-- Every placeholder has dollar signs, and what is put in its place has none. -/
theorem sheds (h : OfSettings s t) : Glossary.Sheds s.placeholders.get? '$' := by
  have users := count_dollar_of_isTableIdentifier h.users
  have sessions := count_dollar_of_isTableIdentifier h.sessions
  have unique : s.uniqueWord.toList.count '$' = 0 := by
    unfold StorageSettings.uniqueWord
    cases s.emailUnique <;> decide
  intro k v found
  simp only [StorageSettings.placeholders, Placeholders.get?_cons] at found
  split at found
  next key =>
    cases found
    rw [users, ← key]
    decide
  next =>
    split at found
    next key =>
      cases found
      rw [sessions, ← key]
      decide
    next =>
      split at found
      next key =>
        cases found
        rw [unique, ← key]
        decide
      next => cases found

/-- A name with a blank behind it is substituted on its own. -/
theorem becomes_name (h : OfSettings s t) (name : String) :
    Becomes t.compiled (name ++ " ") (t.apply name ++ " ") := by
  rw [Template.apply, h.compiled]
  exact Substitution.becomes_before (d := ' ') h.sheds.solid s.blank_not_in_keys
    (Substitution.becomes_literal s.placeholders_delimited (by decide)) name

theorem becomes_literal (h : OfSettings s t) {text : String} (free : '$' ∉ text.toList) :
    Becomes t.compiled text text := by
  rw [h.compiled]
  exact Substitution.becomes_literal s.placeholders_delimited free

/-- A name is kept if and only if no placeholder stands in it. -/
theorem apply_eq_self_iff (h : OfSettings s t) {name : String} :
    t.apply name = name ↔ ∀ key ∈ s.placeholders.map Prod.fst, ¬ key.toList <:+: name.toList := by
  rw [← String.toList_inj, apply_toList, h.compiled, Substitution.run_eq_self_iff h.sheds]
  exact forall_congr' fun key => imp_congr_left Placeholders.isSome_get?_iff

end Template.OfSettings

/-! ## The text of the schema -/

namespace UserColumns

/-- The columns by their places: the id, and then the fields. -/
def places : List (Option UserField) := none :: UserField.all.map some

def nameAt (c : UserColumns) : Option UserField → String
  | none => c.id
  | some f => c.column f

theorem map_nameAt (c : UserColumns) : places.map c.nameAt = c.selected := rfl

/-- Every name as substitution leaves it. -/
def under (t : Template) (c : UserColumns) : UserColumns :=
  ⟨t.apply c.id, fun f => t.apply (c.column f)⟩

theorem nameAt_under (t : Template) (c : UserColumns) (p : Option UserField) :
    (c.under t).nameAt p = t.apply (c.nameAt p) := by
  cases p <;> rfl

end UserColumns

namespace UserStatements

/-- What is declared of the column at a place, with the constraint on email addresses. -/
def typeText (unique : String) : Option UserField → String
  | none => "INTEGER PRIMARY KEY AUTOINCREMENT"
  | some .email => "TEXT NOT NULL " ++ unique
  | some f => columnType f

def columnLine (unique : String) (c : UserColumns) (p : Option UserField) : String :=
  "    " ++ (c.nameAt p ++ " ") ++ typeText unique p

/-- The text that creates the table, one line per column. -/
def schemaText (table unique : String) (c : UserColumns) : String :=
  "CREATE TABLE IF NOT EXISTS " ++ table ++ " (\n" ++
    ",\n".intercalate (UserColumns.places.map (columnLine unique c)) ++ "\n)"

theorem createText_eq (c : UserColumns) :
    createText c = schemaText Template.usersTable Template.emailUnique c := by
  have first : " (\n    " = " (\n" ++ "    " := by decide +kernel
  have last : " INTEGER PRIMARY KEY AUTOINCREMENT,\n" =
      " " ++ ("INTEGER PRIMARY KEY AUTOINCREMENT" ++ ",\n") := by decide +kernel
  have lines : definitions c =
      (UserField.all.map some).map (columnLine Template.emailUnique c) := by
    rw [definitions, List.map_map]
    refine List.map_congr_left fun f _ => ?_
    have type : typeText Template.emailUnique (some f) = columnType f := by
      cases f <;> simp only [typeText, columnType]
    simp only [Function.comp_apply, columnLine, type, UserColumns.nameAt, String.append_assoc]
  unfold createText schemaText
  rw [UserColumns.places, List.map_cons, String.intercalate_cons_of_ne_nil
    (by simp [UserField.all]), ← lines, first, last]
  simp only [columnLine, typeText, UserColumns.nameAt, String.append_assoc]

variable {s : StorageSettings} {t : Template}

/-- **Each name is substituted on its own.** -/
theorem apply_createText_eq (h : Template.OfSettings s t) (c : UserColumns) :
    t.apply (createText c) = schemaText s.usersTable s.uniqueWord (c.under t) := by
  have unique : Becomes t.compiled Template.emailUnique s.uniqueWord := h.run_emailUnique
  have type : ∀ p, Becomes t.compiled (typeText Template.emailUnique p)
      (typeText s.uniqueWord p) := by
    intro p
    cases p with
    | none => exact h.becomes_literal (by decide)
    | some f =>
        cases f with
        | email => exact (h.becomes_literal (by decide)).append unique
        | _ => exact h.becomes_literal (by decide)
  have line : ∀ p ∈ UserColumns.places, Becomes t.compiled (columnLine Template.emailUnique c p)
      (columnLine s.uniqueWord (c.under t) p) := by
    intro p _
    rw [columnLine, columnLine, UserColumns.nameAt_under]
    exact ((h.becomes_literal (by decide)).append (h.becomes_name _)).append (type p)
  have whole : Becomes t.compiled (schemaText Template.usersTable Template.emailUnique c)
      (schemaText s.usersTable s.uniqueWord (c.under t)) :=
    ((((h.becomes_literal (by decide)).append h.run_usersTable).append
      (h.becomes_literal (by decide))).append
        (Becomes.intercalate (h.becomes_literal (by decide)) line)).append
          (h.becomes_literal (by decide))
  rw [createText_eq, Template.apply, whole.run_eq, String.ofList_toList]

/-! ## Names that are kept -/

theorem count_dollar_schemaText (table unique : String) (c : UserColumns) :
    (schemaText table unique c).toList.count '$' =
      table.toList.count '$' + unique.toList.count '$' +
        (c.selected.map fun name => name.toList.count '$').sum := by
  have line : ∀ p, (columnLine unique c p).toList.count '$' =
      (c.nameAt p).toList.count '$' + (typeText unique p).toList.count '$' := by
    intro p
    simp [columnLine, List.count_append]
  have types : (UserColumns.places.map fun p => (typeText unique p).toList.count '$').sum =
      unique.toList.count '$' := by
    have id : "INTEGER PRIMARY KEY AUTOINCREMENT".toList.count '$' = 0 := by decide +kernel
    have field : ∀ f, f ≠ .email → (columnType f).toList.count '$' = 0 := by
      intro f
      cases f <;> decide +kernel
    have type : ∀ p, (typeText unique p).toList.count '$' =
        if p = some .email then unique.toList.count '$' else 0 := by
      intro p
      cases p with
      | none => exact id
      | some f =>
          cases f with
          | email =>
              have words : "TEXT NOT NULL ".toList.count '$' = 0 := by decide +kernel
              change ("TEXT NOT NULL " ++ unique).toList.count '$' = _
              rw [String.toList_append, List.count_append, words, Nat.zero_add, if_pos rfl]
          | _ => exact field _ (by decide)
    simp [UserColumns.places, UserField.all, type]
  have commas : '$' ∉ ",\n".toList := by decide
  have start : "CREATE TABLE IF NOT EXISTS ".toList.count '$' = 0 := by decide +kernel
  have opening : " (\n".toList.count '$' = 0 := by decide +kernel
  have closing : "\n)".toList.count '$' = 0 := by decide +kernel
  unfold schemaText
  simp only [String.toList_append, List.count_append, start, opening, closing,
    count_intercalate commas, List.map_map, Function.comp_def, line,
    List.sum_map_add, types, ← UserColumns.map_nameAt]
  omega

/-- Of two lists that are nowhere more than another, and not less in total. -/
theorem eq_of_sum_map_eq {α : Type} {f g : α → Nat} : ∀ {xs : List α}, (∀ x ∈ xs, f x ≤ g x) →
    (xs.map f).sum = (xs.map g).sum → ∀ x ∈ xs, f x = g x
  | [], _, _ => List.forall_mem_nil _
  | y :: rest, le, same => by
      have least : (rest.map f).sum ≤ (rest.map g).sum :=
        List.sum_le_sum fun x hx => le x (List.mem_cons_of_mem y hx)
      have first : f y ≤ g y := le y List.mem_cons_self
      rw [List.map_cons, List.map_cons, List.sum_cons, List.sum_cons] at same
      rw [List.forall_mem_cons]
      refine ⟨by omega, eq_of_sum_map_eq (fun x hx => le x (List.mem_cons_of_mem y hx)) ?_⟩
      omega

/-- **The text of the schema has the chosen names if and only if each is kept.** -/
theorem schemaText_under_iff (h : Template.OfSettings s t) (table unique : String)
    (c : UserColumns) :
    schemaText table unique (c.under t) = schemaText table unique c ↔
      ∀ name ∈ c.selected, t.apply name = name := by
  constructor
  · intro same name member
    have counts := congrArg (fun text : String => text.toList.count '$') same
    simp only [count_dollar_schemaText, ← UserColumns.map_nameAt, List.map_map,
      Nat.add_left_cancel_iff] at counts
    rw [← UserColumns.map_nameAt] at member
    obtain ⟨p, hp, rfl⟩ := List.mem_map.mp member
    have sheds : Glossary.Sheds (Placeholders.get? t.compiled) '$' := h.compiled ▸ h.sheds
    have as_many := eq_of_sum_map_eq (fun p _ => ?_) counts p hp
    · simp only [Function.comp_apply, UserColumns.nameAt_under, Template.apply_toList] at as_many
      rw [← String.toList_inj, Template.apply_toList, Substitution.run_eq_self_iff sheds,
        ← Substitution.count_run_eq_iff sheds]
      exact as_many
    · simp only [Function.comp_apply, UserColumns.nameAt_under, Template.apply_toList]
      exact Substitution.count_run_le sheds _
  · intro kept
    have same : ∀ p ∈ UserColumns.places, (c.under t).nameAt p = c.nameAt p := by
      intro p hp
      rw [UserColumns.nameAt_under]
      exact kept _ (UserColumns.map_nameAt c ▸ List.mem_map_of_mem hp)
    have lines : UserColumns.places.map (columnLine unique (c.under t)) =
        UserColumns.places.map (columnLine unique c) :=
      List.map_congr_left fun p hp => by rw [columnLine, columnLine, same p hp]
    unfold schemaText
    rw [lines]

/-! ## What the schema declares -/

/-- One line of a declaration and the column that is read of it. -/
structure ReadsColumn (line : String) (ls : List Lexeme) (d : ColumnDefinition) : Prop where
  spelled : Spelled line ls
  unnumbered : ∀ l ∈ ls, l.isParameter = false
  inner : ∀ t ∈ tokens ls, Statement.Inner Statement.isClosing t
  read : ∀ after, Statement.readColumn ⟨tokens ls, after⟩ = .ok d
  /-- It is read alike behind other columns. -/
  later : ∀ after, Statement.readLaterColumn ⟨tokens ls, after⟩ = .ok d

section Lines

variable {α : Type} {line : α → String} {ls : α → List Lexeme} {d : α → ColumnDefinition}

theorem closedItems_cons (t : Token) (ts : List Token) (more : List (List Token)) :
    ∃ after, Statement.closedItems t (ts :: more) = ⟨ts, after⟩ :: Statement.closedItems t more := by
  cases more with
  | nil => exact ⟨t, rfl⟩
  | cons us more => exact ⟨.mark ",", rfl⟩

theorem columnsUntilFault_later (t : Token) : ∀ {xs : List α},
    (∀ x ∈ xs, ReadsColumn (line x) (ls x) (d x)) →
    Statement.columnsUntilFault
        ((Statement.closedItems t (xs.map fun x => tokens (ls x))).map
          fun i => (i, Statement.readLaterColumn i)) = (xs.map d, none)
  | [], _ => rfl
  | x :: rest, each => by
      have first := each x List.mem_cons_self
      have behind := columnsUntilFault_later t fun y hy => each y (List.mem_cons_of_mem x hy)
      obtain ⟨after, items⟩ := closedItems_cons t (tokens (ls x)) (rest.map fun y => tokens (ls y))
      rw [List.map_cons, items, List.map_cons, first.later, Statement.columnsUntilFault, behind]
      rfl

/-- Lines between parentheses read as their columns. -/
theorem readColumns_lines {xs : List α} (some : xs ≠ [])
    (each : ∀ x ∈ xs, ReadsColumn (line x) (ls x) (d x)) :
    Statement.readColumns (.mark "(" :: ([Token.mark ","].intercalate (xs.map fun x => tokens (ls x))
        ++ .mark ")" :: [.finish false])) = (xs.map d, .ok ()) := by
  have lines : xs.map (fun x => tokens (ls x)) ≠ [] := by simpa using some
  have inner : ∀ ts ∈ xs.map (fun x => tokens (ls x)), ∀ t ∈ ts,
      Statement.Inner Statement.isClosing t := by
    intro ts hts
    obtain ⟨x, hx, rfl⟩ := List.mem_map.mp hts
    exact (each x hx).inner
  have split := Statement.items_intercalate Statement.isClosing rfl (t := .mark ")") rfl
    [.finish false] lines inner
  have opened : ∀ ts, Statement.skipMark "(" (.mark "(" :: ts) = .ok ts := fun _ => rfl
  have last := Statement.getLast?_closedItems (.mark ")") lines
  have columns : Statement.columnsUntilFault (Statement.columnReads
      (Statement.closedItems (.mark ")") (xs.map fun x => tokens (ls x)))) = (xs.map d, none) := by
    obtain ⟨x, rest, rfl⟩ := List.exists_cons_of_ne_nil some
    have first := each x List.mem_cons_self
    have behind := columnsUntilFault_later (.mark ")")
      fun y hy => each y (List.mem_cons_of_mem x hy)
    obtain ⟨after, items⟩ :=
      closedItems_cons (.mark ")") (tokens (ls x)) (rest.map fun y => tokens (ls y))
    rw [List.map_cons, items, Statement.columnReads, first.read, Statement.columnsUntilFault, behind]
    rfl
  simp only [Statement.readColumns, opened, split, columns, last]
  rfl

/-- A table is declared line by line. -/
theorem reads_createTable {xs : List α} (some : xs ≠ [])
    (each : ∀ x ∈ xs, ReadsColumn (line x) (ls x) (d x)) {table : String} (ht : PlainName table) :
    ∃ ts, Reads ("CREATE TABLE IF NOT EXISTS " ++ table ++ " (\n" ++
      ",\n".intercalate (xs.map line) ++ "\n)") ts (.createTable ⟨true, table, xs.map d⟩) := by
  have start : Spelled "CREATE TABLE IF NOT EXISTS " [.word "CREATE", .blank ' ', .word "TABLE",
      .blank ' ', .word "IF", .blank ' ', .word "NOT", .blank ' ', .word "EXISTS", .blank ' '] :=
    ⟨rfl, by decide, rfl⟩
  have opening : Spelled " (\n" [.blank ' ', .mark '(', .blank '\n'] := ⟨rfl, by decide, rfl⟩
  have closing : Spelled "\n)" [.blank '\n', .mark ')'] := ⟨rfl, by decide, rfl⟩
  have commas : ",\n".toList = [',', '\n'] := rfl
  have listed := Spelled.listed commas rfl fun x hx => (each x hx).spelled
  have spelled := (((start.append (.name ht.word) rfl).append opening rfl).append listed
    (by rw [joins_append]; rfl)).append closing (by simp [joins, isWord])
  have unnumbered : ∀ l ∈ [Lexeme.mark ',', .blank '\n'].intercalate (xs.map ls),
      l.isParameter = false := by
    refine forall_mem_intercalate (by decide) ?_
    simp only [List.mem_map, forall_exists_index, and_imp, forall_apply_eq_imp_iff₂]
    exact fun x hx => (each x hx).unnumbered
  have first : ∀ ms : List Lexeme, tokens (.word "CREATE" :: ms) ≠ [] :=
    fun _ => List.cons_ne_nil _ _
  refine ⟨_, (Token.ofText_of_spelled spelled (first _)).trans (congrArg (fun ts => [ts])
    (Token.numbered_tokens ?_ 0 [.finish false])), ?_⟩
  · simp only [List.forall_mem_append]
    exact ⟨⟨⟨⟨by decide, by simp [isParameter]⟩, by decide⟩, unnumbered⟩, by decide⟩
  · have read := Statement.ofTokens_createTable ht.free (readColumns_lines some each)
    simp only [tokens_append, tokens_intercalate, List.map_map, List.append_assoc]
    exact read

end Lines

/-- The type at a place, word by word. -/
def typeLexemes (emailUnique : Bool) : Option UserField → List Lexeme
  | none => [.word "INTEGER", .blank ' ', .word "PRIMARY", .blank ' ', .word "KEY", .blank ' ',
      .word "AUTOINCREMENT"]
  | some .username => [.word "TEXT", .blank ' ', .word "NOT", .blank ' ', .word "NULL", .blank ' ',
      .word "UNIQUE"]
  | some .email => [.word "TEXT", .blank ' ', .word "NOT", .blank ' ', .word "NULL", .blank ' '] ++
      if emailUnique then [.word "UNIQUE"] else []
  | some .isSuperuser | some .isStaff | some .isActive =>
      [.word "INTEGER", .blank ' ', .word "NOT", .blank ' ', .word "NULL"]
  | some _ => [.word "TEXT", .blank ' ', .word "NOT", .blank ' ', .word "NULL"]

/-- The column at a place as the database takes it. -/
def definitionAt (emailUnique : Bool) (c : UserColumns) : Option UserField → ColumnDefinition
  | none => { name := c.id, typeWords := ["INTEGER"], primaryKey := true, autoIncrement := true }
  | some .username =>
      { name := c.column .username, typeWords := ["TEXT"], notNull := true, unique := true }
  | some .email =>
      { name := c.column .email, typeWords := ["TEXT"], notNull := true, unique := emailUnique }
  | some .isSuperuser => { name := c.column .isSuperuser, typeWords := ["INTEGER"], notNull := true }
  | some .isStaff => { name := c.column .isStaff, typeWords := ["INTEGER"], notNull := true }
  | some .isActive => { name := c.column .isActive, typeWords := ["INTEGER"], notNull := true }
  | some f => { name := c.column f, typeWords := ["TEXT"], notNull := true }

theorem name_definitionAt (emailUnique : Bool) (c : UserColumns) (p : Option UserField) :
    (definitionAt emailUnique c p).name = c.nameAt p := by
  cases p with
  | none => rfl
  | some f => cases f <;> rfl

/-- A type is words with blanks between them. -/
theorem word_of_mem_typeLexemes {emailUnique : Bool} {p : Option UserField} {l : Lexeme}
    (member : l ∈ typeLexemes emailUnique p) : l.isWord = true ∨ l = .blank ' ' := by
  have all : (typeLexemes emailUnique p).all (fun l => l.isWord || l == .blank ' ') = true := by
    cases p with
    | none => rfl
    | some f => cases f <;> cases emailUnique <;> rfl
  simpa using List.all_eq_true.mp all l member

theorem spelled_type (s : StorageSettings) (p : Option UserField) :
    Spelled (typeText s.uniqueWord p) (typeLexemes s.emailUnique p) := by
  have number : Spelled "INTEGER PRIMARY KEY AUTOINCREMENT" [.word "INTEGER", .blank ' ',
      .word "PRIMARY", .blank ' ', .word "KEY", .blank ' ', .word "AUTOINCREMENT"] :=
    ⟨rfl, by decide, rfl⟩
  have distinct : Spelled "TEXT NOT NULL UNIQUE" [.word "TEXT", .blank ' ', .word "NOT", .blank ' ',
      .word "NULL", .blank ' ', .word "UNIQUE"] := ⟨rfl, by decide, rfl⟩
  have text : Spelled "TEXT NOT NULL" [.word "TEXT", .blank ' ', .word "NOT", .blank ' ',
      .word "NULL"] := ⟨rfl, by decide, rfl⟩
  have flag : Spelled "INTEGER NOT NULL" [.word "INTEGER", .blank ' ', .word "NOT", .blank ' ',
      .word "NULL"] := ⟨rfl, by decide, rfl⟩
  have address : Spelled "TEXT NOT NULL " [.word "TEXT", .blank ' ', .word "NOT", .blank ' ',
      .word "NULL", .blank ' '] := ⟨rfl, by decide, rfl⟩
  have unique : Spelled s.uniqueWord (if s.emailUnique then [.word "UNIQUE"] else []) := by
    unfold StorageSettings.uniqueWord
    cases s.emailUnique <;> exact ⟨rfl, by decide, rfl⟩
  cases p with
  | none => exact number
  | some f =>
      cases f with
      | username => exact distinct
      | email => exact address.append unique (by cases s.emailUnique <;> rfl)
      | isSuperuser | isStaff | isActive => exact flag
      | password | firstName | lastName | dateJoined | lastLogin => exact text

theorem readColumn_at (emailUnique : Bool) {c : UserColumns} {p : Option UserField}
    (free : Statement.Free (c.nameAt p)) (after : Token) :
    Statement.readColumn ⟨.word (c.nameAt p) :: tokens (typeLexemes emailUnique p), after⟩ =
      .ok (definitionAt emailUnique c p) := by
  simp only [Statement.readColumn, Statement.nameOf_word free, bind, Except.bind]
  cases p with
  | none => rfl
  | some f =>
      cases f with
      | email => cases emailUnique <;> rfl
      | _ => rfl

/-- A name that is no reserved word starts no constraint on the table. -/
theorem readLaterColumn_name {name : String} (free : Statement.Free name) (ts : List Token)
    (after : Token) :
    Statement.readLaterColumn ⟨.word name :: ts, after⟩ =
      Statement.readColumn ⟨.word name :: ts, after⟩ := by
  have other : ∀ w ∈ Statement.reserved, (Token.word name).isWord w = false :=
    fun w reserved => Statement.isWord_of_free free reserved
  simp only [Statement.readLaterColumn, Statement.startsTableConstraint,
    other "primary" (by decide), other "unique" (by decide), other "check" (by decide),
    other "foreign" (by decide), other "constraint" (by decide), Bool.or_self, Bool.false_eq_true,
    if_false]

theorem readsColumn_line (s : StorageSettings) {c : UserColumns} (hc : c.Plain)
    (p : Option UserField) :
    ReadsColumn (columnLine s.uniqueWord c p)
      ([.blank ' ', .blank ' ', .blank ' ', .blank ' '] ++ ([.word (c.nameAt p)] ++ [.blank ' ']) ++
        typeLexemes s.emailUnique p)
      (definitionAt s.emailUnique c p) := by
  have plain : PlainName (c.nameAt p) := by
    cases p with
    | none => exact hc.id
    | some f => exact hc.column f
  have indent : Spelled "    " [.blank ' ', .blank ' ', .blank ' ', .blank ' '] :=
    ⟨rfl, by decide, rfl⟩
  have blank : Spelled " " [.blank ' '] := ⟨rfl, by decide, rfl⟩
  refine ⟨(indent.append ((Spelled.name plain.word).append blank rfl) rfl).append (spelled_type s p)
    rfl, ?_, ?_, readColumn_at s.emailUnique plain.free, fun after => ?_⟩
  · simp only [List.forall_mem_append]
    refine ⟨⟨by decide, by simp [isParameter], by decide⟩, fun l member => ?_⟩
    rcases word_of_mem_typeLexemes member with word | rfl
    · cases l with
      | word w => rfl
      | _ => cases word
    · rfl
  · change ∀ t ∈ .word (c.nameAt p) :: tokens (typeLexemes s.emailUnique p), _
    refine List.forall_mem_cons.mpr ⟨⟨rfl, nofun⟩, fun t member => ?_⟩
    obtain ⟨l, inside, shown⟩ := List.mem_filterMap.mp member
    rcases word_of_mem_typeLexemes inside with word | rfl
    · cases l with
      | word w =>
          cases shown
          exact ⟨rfl, nofun⟩
      | _ => cases word
    · cases shown
  · exact (readLaterColumn_name plain.free _ after).trans (readColumn_at s.emailUnique plain.free after)

/-- **The schema declares the columns, name for name and in their order.** -/
theorem reads_schema (s : StorageSettings) {c : UserColumns} (hc : c.Plain) {table : String}
    (ht : PlainName table) :
    ∃ ts d, Reads (schemaText table s.uniqueWord c) ts (.createTable d) ∧ d.name = table ∧
      d.columns.map ColumnDefinition.name = c.selected := by
  have some : UserColumns.places ≠ [] := List.cons_ne_nil _ _
  obtain ⟨ts, reads⟩ := reads_createTable some (fun p _ => readsColumn_line s hc p) ht
  refine ⟨ts, _, reads, rfl, ?_⟩
  rw [List.map_map, ← UserColumns.map_nameAt]
  exact List.map_congr_left fun p _ => name_definitionAt s.emailUnique c p

/-! ## All statements -/

/-- The statements go by these columns: the table is declared with `declared`, and every
other statement names `c`. -/
structure NamesColumns (q : UserStatements) (table : String) (declared c : UserColumns) : Prop where
  init : ∃ text ts d, q.init = [text] ∧ Reads text ts (.createTable d) ∧ d.name = table ∧
    d.columns.map ColumnDefinition.name = declared.selected
  lookup : ∀ p ∈ [(q.byId, c.id), (q.byUsername, c.column .username), (q.byEmail, c.column .email)],
    ∃ ts, Reads p.1 ts (.select (c.selected.map fun s => (s, none)) table (equals p.2 1))
  insert : ∃ ts values, Reads q.insert ts (.insert table c.names values)
  update : ∀ fields, ∃ ts assignments n,
    Reads (q.update fields) ts (.update table assignments (equals c.id n)) ∧
      assignments.map Prod.fst = (touched fields).map c.column
  delete : ∃ ts, Reads q.delete ts (.delete table (equals c.id 1))

theorem assignments_names (c : UserColumns) (fields : List UserField) :
    ((assignments c fields).map fun a => (a.1, Operand.parameter a.2)).map Prod.fst =
      fields.map c.column := by
  rw [assignments, List.map_map, List.map_map]
  have columns := congrArg (List.map c.column) (List.zipIdx_map_fst 1 fields)
  rw [List.map_map] at columns
  exact columns

theorem touched_ne_nil (fields : Option (List UserField)) : touched fields ≠ [] := by
  unfold touched
  split
  · exact List.cons_ne_nil _ _
  · exact List.cons_ne_nil _ _
  next listed => exact listed

/-- **The schema and the statements agree on the columns exactly as far as no
placeholder stands in a name.**  The text that creates the table has every name as
substitution leaves it, and leaves it alone if and only if none of the three
placeholders stands in it; all other texts have the names as they were chosen.  Where
the names are plain, the database reads the same of them: the columns declared, and
the columns selected, inserted, assigned and compared. -/
theorem column_names_kept_iff (accepted : Template.ofSettings s = .ok t) (c : UserColumns) :
    let q := ofColumns t c
    let kept := ∀ name ∈ c.selected, ∀ key ∈ s.placeholders.map Prod.fst,
      ¬ key.toList <:+: name.toList
    q.init = [schemaText s.usersTable s.uniqueWord (c.under t)] ∧
      (q.init = [schemaText s.usersTable s.uniqueWord c] ↔ kept) ∧
      ((c.under t).selected = c.selected ↔ kept) ∧
      q.byId = selectText s.usersTable c c.id ∧
      q.byUsername = selectText s.usersTable c (c.column .username) ∧
      q.byEmail = selectText s.usersTable c (c.column .email) ∧
      q.insert = insertText s.usersTable c ∧
      (∀ fields, q.update fields = updateText s.usersTable c (touched fields)) ∧
      q.delete = deleteText s.usersTable c ∧
      (Statement.Free s.usersTable → c.Plain → (c.under t).Plain →
        NamesColumns q s.usersTable (c.under t) c) := by
  intro q kept
  have h := Template.ofSettings_eq_ok accepted
  have table := StatementText.tableName_eq h
  have created : q.init = [schemaText s.usersTable s.uniqueWord (c.under t)] :=
    congrArg (fun text => [text]) (apply_createText_eq h c)
  have each : (∀ name ∈ c.selected, t.apply name = name) ↔ kept :=
    forall₂_congr fun name _ => h.apply_eq_self_iff
  have others : q.byId = selectText s.usersTable c c.id ∧
      q.byUsername = selectText s.usersTable c (c.column .username) ∧
      q.byEmail = selectText s.usersTable c (c.column .email) ∧
      q.insert = insertText s.usersTable c ∧
      (∀ fields, q.update fields = updateText s.usersTable c (touched fields)) ∧
      q.delete = deleteText s.usersTable c := by
    rw [← table]
    exact ⟨rfl, rfl, rfl, rfl, fun _ => rfl, rfl⟩
  obtain ⟨byId, byUsername, byEmail, insert, update, delete⟩ := others
  refine ⟨created, ?_, ?_, byId, byUsername, byEmail, insert, update, delete, ?_⟩
  · rw [created, List.singleton_inj, schemaText_under_iff h]
    exact each
  · rw [← each, ← UserColumns.map_nameAt, ← UserColumns.map_nameAt, List.map_inj_left,
      List.forall_mem_map]
    exact forall₂_congr fun p _ => by rw [UserColumns.nameAt_under]
  · intro free plain plainUnder
    have name : PlainName s.usersTable := ⟨isName_of_isTableIdentifier h.users, free⟩
    refine ⟨?_, ?_, ?_, fun fields => ?_, ?_⟩
    · obtain ⟨ts, d, reads, named, columns⟩ := reads_schema s plainUnder name
      exact ⟨_, ts, d, created, reads, named, columns⟩
    · simp only [List.forall_mem_cons, byId, byUsername, byEmail]
      exact ⟨⟨_, reads_select plain name plain.id⟩, ⟨_, reads_select plain name (plain.column _)⟩,
        ⟨_, reads_select plain name (plain.column _)⟩, List.forall_mem_nil _⟩
    · rw [insert]
      exact ⟨_, _, reads_insert plain name⟩
    · rw [update]
      exact ⟨_, _, _, reads_update plain name (touched_ne_nil fields),
        assignments_names c (touched fields)⟩
    · rw [delete]
      exact ⟨_, reads_delete plain name⟩

/-- A column that is named after a placeholder is declared under another name than the
one it is looked up by. -/
theorem column_names_differ_at_a_placeholder :
    let s : StorageSettings := { databasePath := "db" }
    let c : UserColumns := { id := "pk_$EMAIL_UNIQUE$" }
    ∃ t, Template.ofSettings s = .ok t ∧
      (ofColumns t c).init ≠ [schemaText "auth_user" "UNIQUE" c] ∧ (c.under t).id = "pk_UNIQUE" ∧
      NamesColumns (ofColumns t c) "auth_user" (c.under t) c := by
  intro s c
  obtain ⟨t, accepted⟩ := Template.exists_ofSettings (s := s) (by decide) (by decide)
  have h := Template.ofSettings_eq_ok accepted
  have id : (c.under t).id = "pk_UNIQUE" := by
    have whole : Becomes t.compiled ("pk_" ++ Template.emailUnique) ("pk_" ++ s.uniqueWord) :=
      (h.becomes_literal (by decide)).append h.run_emailUnique
    rw [← String.toList_inj]
    exact (Template.apply_toList t c.id).trans whole.run_eq
  have columns : ∀ f, (c.under t).column f = c.column f := by
    intro f
    rw [← String.toList_inj]
    refine (Template.apply_toList t _).trans (h.becomes_literal ?_).run_eq
    cases f <;> decide
  have plain : (c.under t).Plain :=
    ⟨id ▸ by decide, fun f => columns f ▸ UserColumns.default_plain.column f⟩
  obtain ⟨-, kept, -, -, -, -, -, -, -, reads⟩ := column_names_kept_iff accepted c
  refine ⟨t, accepted, fun same => ?_, id, reads (by decide) ⟨by decide, ?_⟩ plain⟩
  · have free := kept.mp same c.id List.mem_cons_self Template.emailUnique
      (by simp [StorageSettings.placeholders])
    exact free ⟨"pk_".toList, [], by decide⟩
  · exact UserColumns.default_plain.column

end UserStatements

end AccountStore
