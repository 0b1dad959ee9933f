/-
# AccountStore.Proofs.Statements.Sessions -- what the statements for sessions say

Every text has the table's name in it where its key stands, and nothing else is
substituted.  So the texts read as a lookup by key, an insert of key, user and
expiry, and three deletes that compare one column with their parameter, the
sweep being the one that asks for at most.
-/
import AccountStore.Proofs.Statements.Creation
import AccountStore.Proofs.Text.Case
import AccountStore.Statements.Session

namespace AccountStore.SessionStatements

set_option autoImplicit false

open Database Database.Lexeme

variable {s : StorageSettings} {t : Template}

/-- What stands around the name of the table stays. -/
theorem apply_around (h : Template.OfSettings s t) {before after : String}
    (freeb : '$' ∉ before.toList) (freea : '$' ∉ after.toList) :
    t.apply (before ++ Template.sessionsTable ++ after) = before ++ s.sessionsTable ++ after := by
  rw [← String.toList_inj, Template.apply_toList]
  simp only [String.toList_append, List.append_assoc]
  rw [h.run_literal freeb, h.run_sessionsTable, ← List.append_nil after.toList,
    h.run_literal freea, Substitution.run_nil]

/-- A text around the name of the table. -/
theorem spelled_apply (h : Template.OfSettings s t) {before after : String} {ls ms : List Lexeme}
    (hb : Spelled before ls) (ha : Spelled after ms) (freeb : '$' ∉ before.toList)
    (freea : '$' ∉ after.toList) (joinb : joins ls [.word s.sessionsTable])
    (joina : joins [.word s.sessionsTable] ms) :
    Spelled (t.apply (before ++ Template.sessionsTable ++ after))
      (ls ++ [.word s.sessionsTable] ++ ms) := by
  rw [apply_around h freeb freea]
  refine (hb.append (.name (isName_of_isTableIdentifier h.sessions)) joinb).append ha ?_
  rw [joins_append]
  exact joina

/-! ## Looking up -/

/-- What a column is compared with, in every statement the first parameter. -/
def compared (column : String) (comparison : Comparison) : Condition :=
  ⟨column, comparison, .parameter 1⟩

def selectStatement (table : String) : Statement :=
  .select [("session_key", none), ("user_id", none), ("expire_date", none)] table
    (compared "session_key" .equal)

theorem parse_select (h : Template.OfSettings s t) (free : Statement.Free s.sessionsTable)
    (k : Connection) : k.parse (t.apply selectText) = .ok (selectStatement s.sessionsTable) := by
  have before : Spelled "SELECT session_key, user_id, expire_date FROM "
      [.word "SELECT", .blank ' ', .word "session_key", .mark ',', .blank ' ', .word "user_id",
        .mark ',', .blank ' ', .word "expire_date", .blank ' ', .word "FROM", .blank ' '] :=
    ⟨rfl, by decide, rfl⟩
  have after : Spelled " WHERE session_key = ?1"
      [.blank ' ', .word "WHERE", .blank ' ', .word "session_key", .blank ' ', .mark '=',
        .blank ' ', .parameter "1"] :=
    ⟨rfl, by decide, rfl⟩
  have spelled := spelled_apply h before after (by decide) (by decide) rfl rfl
  have columns : ∀ c ∈ ["session_key", "user_id", "expire_date"], Statement.Free c := by decide
  have key : Statement.Free "session_key" := rfl
  have condition := Statement.readCondition_equal key "?1" 1 false
  have read := Statement.ofTokens_select (List.cons_ne_nil _ _) columns free condition
  exact Reads.parse ⟨Token.ofText_of_spelled spelled nofun, read⟩ rfl k

/-! ## Inserting -/

def insertStatement (table : String) : Statement :=
  .insert table ["session_key", "user_id", "expire_date"]
    [.parameter 1, .parameter 2, .parameter 3]

theorem parse_insert (h : Template.OfSettings s t) (free : Statement.Free s.sessionsTable)
    (k : Connection) : k.parse (t.apply insertText) = .ok (insertStatement s.sessionsTable) := by
  have before : Spelled "INSERT INTO " [.word "INSERT", .blank ' ', .word "INTO", .blank ' '] :=
    ⟨rfl, by decide, rfl⟩
  have after : Spelled " (session_key, user_id, expire_date) VALUES (?1, ?2, ?3)"
      [.blank ' ', .mark '(', .word "session_key", .mark ',', .blank ' ', .word "user_id",
        .mark ',', .blank ' ', .word "expire_date", .mark ')', .blank ' ', .word "VALUES",
        .blank ' ', .mark '(', .parameter "1", .mark ',', .blank ' ', .parameter "2", .mark ',',
        .blank ' ', .parameter "3", .mark ')'] :=
    ⟨rfl, by decide, rfl⟩
  have spelled := spelled_apply h before after (by decide) (by decide) rfl rfl
  have columns : ∀ c ∈ ["session_key", "user_id", "expire_date"], Statement.Free c := by decide
  have read := Statement.ofTokens_insert (List.cons_ne_nil _ _) columns free
    [("?1", 1), ("?2", 2), ("?3", 3)] (List.cons_ne_nil _ _) false
  exact Reads.parse ⟨Token.ofText_of_spelled spelled nofun, read⟩ rfl k

/-! ## Removing -/

def deleteStatement (table column : String) (comparison : Comparison) : Statement :=
  .delete table (compared column comparison)

def sign : Comparison → Lexeme
  | .equal => .mark '='
  | .atMost => .atMost

theorem deleteText_eq (condition : String) :
    deleteText condition =
      "DELETE FROM " ++ Template.sessionsTable ++ (" WHERE " ++ condition ++ " ?1") := by
  unfold deleteText
  simp only [String.append_assoc]

theorem parse_deleteText (h : Template.OfSettings s t) (free : Statement.Free s.sessionsTable)
    {condition column : String} {comparison : Comparison} (plain : Statement.Free column)
    (spelled : Spelled (" WHERE " ++ condition ++ " ?1") [.blank ' ', .word "WHERE", .blank ' ',
      .word column, .blank ' ', sign comparison, .blank ' ', .parameter "1"])
    (dollars : '$' ∉ (" WHERE " ++ condition ++ " ?1").toList) (k : Connection) :
    k.parse (t.apply (deleteText condition)) =
      .ok (deleteStatement s.sessionsTable column comparison) := by
  have before : Spelled "DELETE FROM " [.word "DELETE", .blank ' ', .word "FROM", .blank ' '] :=
    ⟨rfl, by decide, rfl⟩
  have whole := spelled_apply h before spelled (by decide) dollars rfl rfl
  rw [deleteText_eq]
  cases comparison with
  | equal =>
      have read := Statement.ofTokens_delete free (Statement.readCondition_equal plain "?1" 1 false)
      exact Reads.parse ⟨Token.ofText_of_spelled whole nofun, read⟩ rfl k
  | atMost =>
      have read := Statement.ofTokens_delete free (Statement.readCondition_atMost plain "?1" 1 false)
      exact Reads.parse ⟨Token.ofText_of_spelled whole nofun, read⟩ rfl k

theorem parse_delete (h : Template.OfSettings s t) (free : Statement.Free s.sessionsTable)
    (k : Connection) :
    k.parse (t.apply (deleteText "session_key =")) =
      .ok (deleteStatement s.sessionsTable "session_key" .equal) :=
  parse_deleteText h free (by decide) ⟨rfl, by decide, rfl⟩ (by decide) k

theorem parse_deleteExpired (h : Template.OfSettings s t) (free : Statement.Free s.sessionsTable)
    (k : Connection) :
    k.parse (t.apply (deleteText "expire_date <=")) =
      .ok (deleteStatement s.sessionsTable "expire_date" .atMost) :=
  parse_deleteText h free (by decide) ⟨rfl, by decide, rfl⟩ (by decide) k

theorem parse_deleteForUser (h : Template.OfSettings s t) (free : Statement.Free s.sessionsTable)
    (k : Connection) :
    k.parse (t.apply (deleteText "user_id =")) =
      .ok (deleteStatement s.sessionsTable "user_id" .equal) :=
  parse_deleteText h free (by decide) ⟨rfl, by decide, rfl⟩ (by decide) k

/-! ## One name -/

/-- Apart from the texts that prepare the table, the statements depend on its name. -/
theorem ofTemplate_congr {s' : StorageSettings} {t' : Template} (h : Template.OfSettings s t)
    (h' : Template.OfSettings s' t') (same : s.sessionsTable = s'.sessionsTable) :
    ofTemplate t = { ofTemplate t' with init := (ofTemplate t).init } := by
  have agree : ∀ {before after : String}, '$' ∉ before.toList → '$' ∉ after.toList →
      t.apply (before ++ Template.sessionsTable ++ after) =
        t'.apply (before ++ Template.sessionsTable ++ after) := by
    intro before after freeb freea
    rw [apply_around h freeb freea, apply_around h' freeb freea, same]
  have select : t.apply selectText = t'.apply selectText := agree (by decide) (by decide)
  have insert : t.apply insertText = t'.apply insertText := agree (by decide) (by decide)
  have delete : ∀ condition, '$' ∉ (" WHERE " ++ condition ++ " ?1").toList →
      t.apply (deleteText condition) = t'.apply (deleteText condition) := by
    intro condition dollars
    rw [deleteText_eq]
    exact agree (by decide) dollars
  simp only [ofTemplate, select, insert, delete "session_key =" (by decide),
    delete "expire_date <=" (by decide), delete "user_id =" (by decide)]

/-! ## Preparing -/

def columnLexemes : List Lexeme :=
  [.blank ' ', .mark '('] ++ definitionLexemes 8 "session_key" ["TEXT", "NOT", "NULL", "PRIMARY", "KEY"] ++
    .mark ',' :: definitionLexemes 8 "user_id" ["INTEGER", "NOT", "NULL"] ++
    .mark ',' :: definitionLexemes 8 "expire_date" ["TEXT", "NOT", "NULL"] ++
    [.blank '\n', .blank ' ', .blank ' ', .blank ' ', .blank ' ', .mark ')']

/-- The columns as the database takes them. -/
def columnDefinitions : List ColumnDefinition :=
  [{ name := "session_key", typeWords := ["TEXT"], notNull := true, primaryKey := true },
    { name := "user_id", typeWords := ["INTEGER"], notNull := true },
    { name := "expire_date", typeWords := ["TEXT"], notNull := true }]

/-- What is read of the text that creates the table of sessions. -/
theorem ofText_createText (h : Template.OfSettings s t) :
    Token.ofText (t.apply createText) =
      [createTokens s.sessionsTable (tokens columnLexemes ++ [.finish false])] := by
  have before : Spelled "CREATE TABLE IF NOT EXISTS " [.word "CREATE", .blank ' ', .word "TABLE",
      .blank ' ', .word "IF", .blank ' ', .word "NOT", .blank ' ', .word "EXISTS", .blank ' '] :=
    ⟨rfl, by decide, rfl⟩
  have after : Spelled (" (\n" ++ "        session_key TEXT NOT NULL PRIMARY KEY,\n" ++
      "        user_id INTEGER NOT NULL,\n" ++ "        expire_date TEXT NOT NULL\n    )")
      columnLexemes := ⟨by decide +kernel, by decide +kernel, rfl⟩
  have spelled := spelled_apply h before after (by decide) (by decide +kernel) rfl rfl
  have text : createText = "CREATE TABLE IF NOT EXISTS " ++ Template.sessionsTable ++
      (" (\n" ++ "        session_key TEXT NOT NULL PRIMARY KEY,\n" ++
      "        user_id INTEGER NOT NULL,\n" ++ "        expire_date TEXT NOT NULL\n    )") := by
    unfold createText
    simp only [String.append_assoc]
  rw [text]
  exact ofText_create spelled.chars (isName_of_isTableIdentifier h.sessions) (by decide +kernel)
    spelled.apart (by decide)

/-- The table of sessions as it is declared. -/
def declaration (table : String) : Declaration := ⟨true, table, columnDefinitions⟩

theorem solid_createText (h : Template.OfSettings s t) :
    Backend.isBlank (t.apply createText) = false := by
  unfold createText
  simp only [Backend.isBlank, Template.apply_toList, String.toList_append, List.append_assoc]
  rw [h.run_literal (by decide)]
  rfl

theorem declares_create (h : Template.OfSettings s t) (free : Statement.Free s.sessionsTable) :
    Declares (t.apply createText) (fun c => c.createTable (declaration s.sessionsTable)) where
  solid := solid_createText h
  reads := ⟨_, _, ⟨ofText_createText h, Statement.ofTokens_createTable free rfl⟩, rfl, fun _ => rfl⟩

/-- The name of the index that belongs to a table. -/
def indexName (table : String) : String := table ++ indexSuffix

theorem isName_indexName {table : String} (h : isName table = true) :
    isName (indexName table) = true := by
  unfold isName at h ⊢
  rw [indexName, String.toList_append]
  cases eq : table.toList with
  | nil => simp [eq] at h
  | cons c rest =>
      simp only [eq, Bool.and_eq_true] at h
      simp only [List.cons_append, List.all_append, Bool.and_eq_true]
      exact ⟨h.1, h.2, by decide⟩

/-- No reserved word has an underline. -/
theorem free_indexName (table : String) : Statement.Free (indexName table) := by
  have plain : ∀ w ∈ Statement.reserved, '_' ∉ w.toList := by decide +kernel
  rw [Statement.Free, Statement.isReserved, List.contains_eq_mem, decide_eq_false_iff_not]
  intro reserved
  refine plain _ reserved ?_
  have last : '_' ∈ (asciiLowerText indexSuffix).toList := by decide +kernel
  rw [indexName, asciiLowerText_append, String.toList_append]
  exact List.mem_append_right _ last

def indexLexemes (table : String) : List Lexeme :=
  [.word "CREATE", .blank ' ', .word "INDEX", .blank ' ', .word "IF", .blank ' ', .word "NOT",
    .blank ' ', .word "EXISTS", .blank ' ', .word (indexName table), .blank '\n'] ++
    List.replicate 8 (.blank ' ') ++
    [.word "ON", .blank ' ', .word table, .blank ' ', .mark '(', .word "expire_date", .mark ')']

theorem apply_indexText (h : Template.OfSettings s t) :
    (t.apply indexText).toList = render (indexLexemes s.sessionsTable) := by
  rw [Template.apply_toList]
  unfold indexText
  simp only [String.toList_append, List.append_assoc]
  rw [h.run_literal (by decide), h.run_sessionsTable, h.run_literal (by decide),
    h.run_literal (by decide), h.run_sessionsTable, ← List.append_nil " (expire_date)".toList,
    h.run_literal (by decide), Substitution.run_nil]
  simp [indexLexemes, indexName, chars]

theorem ofText_indexText (h : Template.OfSettings s t) :
    Token.ofText (t.apply indexText) =
      [tokens (indexLexemes s.sessionsTable) ++ [.finish false]] := by
  have name := isName_of_isTableIdentifier h.sessions
  have fits : ∀ l ∈ indexLexemes s.sessionsTable, l.fits = true := by
    simp only [indexLexemes, List.forall_mem_append, List.forall_mem_cons]
    refine ⟨⟨⟨by decide, rfl, by decide, rfl, by decide, rfl, by decide, rfl, by decide, rfl,
      isName_indexName name, rfl, nofun⟩, by decide⟩, by decide, rfl, name, rfl, rfl, by decide,
      rfl, nofun⟩
  have spelled : Spelled (t.apply indexText) (indexLexemes s.sessionsTable) :=
    ⟨apply_indexText h, fits, rfl⟩
  exact Token.ofText_of_spelled spelled nofun

theorem declares_index (h : Template.OfSettings s t) (free : Statement.Free s.sessionsTable) :
    Declares (t.apply indexText) (fun c =>
      c.createIndex true (indexName s.sessionsTable) s.sessionsTable ["expire_date"]) where
  solid := by
    rw [Backend.isBlank, apply_indexText h]
    rfl
  reads := by
    have column : Statement.Free "expire_date" := rfl
    exact ⟨_, _, ⟨ofText_indexText h,
      Statement.ofTokens_createIndex (free_indexName _) free column false⟩, rfl, fun _ => rfl⟩

end AccountStore.SessionStatements
