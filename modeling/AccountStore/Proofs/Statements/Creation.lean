/-
# AccountStore.Proofs.Statements.Creation -- what the statements that prepare the tables say

After substitution the texts that create the tables and the index are words,
marks and blanks around the table's name, so they read as declarations of that
name unless it is a reserved word, and then not at all.
-/
import AccountStore.Proofs.Database.Preparing
import AccountStore.Proofs.Statements.Placeholders
import AccountStore.Statements.User

namespace AccountStore

set_option autoImplicit false

open Database Database.Lexeme

/-! ## Lexemes of a declaration -/

/-- A column on a line of its own. -/
def definitionLexemes (indent : Nat) (name : String) (type : List String) : List Lexeme :=
  .blank '\n' :: (List.replicate indent (.blank ' ') ++
    .word name :: type.flatMap fun w => [.blank ' ', .word w])

def createLexemes (table : String) (columns : List Lexeme) : List Lexeme :=
  [.word "CREATE", .blank ' ', .word "TABLE", .blank ' ', .word "IF", .blank ' ', .word "NOT",
    .blank ' ', .word "EXISTS", .blank ' ', .word table] ++ columns

def createTokens (table : String) (columns : List Token) : List Token :=
  .word "CREATE" :: .word "TABLE" :: .word "IF" :: .word "NOT" :: .word "EXISTS" :: .word table ::
    columns

/-- A text of these lexemes is read up to its columns. -/
theorem ofText_create {text table : String} {columns : List Lexeme}
    (chars : text.toList = render (createLexemes table columns)) (name : isName table = true)
    (fits : ∀ l ∈ columns, l.fits = true) (apart : separated (createLexemes table columns))
    (unnumbered : ∀ l ∈ columns, l.isParameter = false) :
    Token.ofText text = [createTokens table (tokens columns ++ [.finish false])] := by
  have spelled : Spelled text (createLexemes table columns) := by
    refine ⟨chars, ?_, apart⟩
    simp only [createLexemes, List.forall_mem_append, List.forall_mem_cons]
    exact ⟨⟨by decide, rfl, by decide, rfl, by decide, rfl, by decide, rfl, by decide, rfl, name,
      nofun⟩, fits⟩
  refine (Token.ofText_of_spelled spelled nofun).trans ?_
  exact congrArg (fun ts => [createTokens table ts])
    (Token.numbered_tokens unnumbered 0 [.finish false])

/-! ## Users -/

namespace UserStatements

/-- The columns up to the constraint on email addresses. -/
def openingLexemes : List Lexeme :=
  [.blank ' ', .mark '('] ++ definitionLexemes 4 "id" ["INTEGER", "PRIMARY", "KEY", "AUTOINCREMENT"] ++
    .mark ',' :: definitionLexemes 4 "username" ["TEXT", "NOT", "NULL", "UNIQUE"] ++
    .mark ',' :: definitionLexemes 4 "password" ["TEXT", "NOT", "NULL"] ++
    .mark ',' :: definitionLexemes 4 "email" ["TEXT", "NOT", "NULL"] ++ [.blank ' ']

def closingLexemes : List Lexeme :=
  .mark ',' :: definitionLexemes 4 "first_name" ["TEXT", "NOT", "NULL"] ++
    .mark ',' :: definitionLexemes 4 "last_name" ["TEXT", "NOT", "NULL"] ++
    .mark ',' :: definitionLexemes 4 "is_superuser" ["INTEGER", "NOT", "NULL"] ++
    .mark ',' :: definitionLexemes 4 "is_staff" ["INTEGER", "NOT", "NULL"] ++
    .mark ',' :: definitionLexemes 4 "is_active" ["INTEGER", "NOT", "NULL"] ++
    .mark ',' :: definitionLexemes 4 "date_joined" ["TEXT", "NOT", "NULL"] ++
    .mark ',' :: definitionLexemes 4 "last_login" ["TEXT", "NOT", "NULL"] ++
    [.blank '\n', .mark ')']

def columnLexemes (emailUnique : Bool) : List Lexeme :=
  openingLexemes ++ ((if emailUnique then [.word "UNIQUE"] else []) ++ closingLexemes)

/-- The columns as the database takes them. -/
def columnDefinitions (emailUnique : Bool) : List ColumnDefinition :=
  [{ name := "id", typeWords := ["INTEGER"], primaryKey := true, autoIncrement := true },
    { name := "username", typeWords := ["TEXT"], notNull := true, unique := true },
    { name := "password", typeWords := ["TEXT"], notNull := true },
    { name := "email", typeWords := ["TEXT"], notNull := true, unique := emailUnique },
    { name := "first_name", typeWords := ["TEXT"], notNull := true },
    { name := "last_name", typeWords := ["TEXT"], notNull := true },
    { name := "is_superuser", typeWords := ["INTEGER"], notNull := true },
    { name := "is_staff", typeWords := ["INTEGER"], notNull := true },
    { name := "is_active", typeWords := ["INTEGER"], notNull := true },
    { name := "date_joined", typeWords := ["TEXT"], notNull := true },
    { name := "last_login", typeWords := ["TEXT"], notNull := true }]

theorem createText_toList :
    (createText {}).toList = "CREATE TABLE IF NOT EXISTS ".toList ++
      (Template.usersTable.toList ++
        (render openingLexemes ++ (Template.emailUnique.toList ++ (render closingLexemes ++ [])))) := by
  unfold createText definitions
  simp only [String.toList_append, String.toList_intercalate, UserField.all, List.map_cons,
    List.map_nil, columnType]
  decide +kernel

variable {s : StorageSettings} {t : Template}

theorem apply_createText (h : Template.OfSettings s t) :
    (t.apply (createText {})).toList =
      render (createLexemes s.usersTable (columnLexemes s.emailUnique)) := by
  rw [Template.apply_toList, createText_toList, h.run_literal (by decide), h.run_usersTable,
    h.run_literal (by decide), h.run_emailUnique, h.run_literal (by decide), Substitution.run_nil]
  cases unique : s.emailUnique <;>
    simp [StorageSettings.uniqueWord, unique, createLexemes, columnLexemes, chars]

/-- What is read of the text that creates the table of users. -/
theorem ofText_createText (h : Template.OfSettings s t) :
    Token.ofText (t.apply (createText {})) =
      [createTokens s.usersTable (tokens (columnLexemes s.emailUnique) ++ [.finish false])] := by
  refine ofText_create (apply_createText h) (isName_of_isTableIdentifier h.users) ?_ ?_ ?_
  · cases s.emailUnique <;> decide +kernel
  · cases s.emailUnique <;> rfl
  · cases s.emailUnique <;> decide +kernel

theorem readColumns_users (emailUnique : Bool) :
    Statement.readColumns (tokens (columnLexemes emailUnique) ++ [.finish false]) =
      (columnDefinitions emailUnique, .ok ()) := by
  cases emailUnique <;> rfl

/-- The table of users as it is declared. -/
def declaration (table : String) (emailUnique : Bool) : Declaration :=
  ⟨true, table, columnDefinitions emailUnique⟩

theorem solid_createText (h : Template.OfSettings s t) :
    Backend.isBlank (t.apply (createText {})) = false := by
  rw [Backend.isBlank, apply_createText h]
  rfl

theorem declares_create (h : Template.OfSettings s t) (free : Statement.Free s.usersTable) :
    Declares (t.apply (createText {}))
      (fun c => c.createTable (declaration s.usersTable s.emailUnique)) where
  solid := solid_createText h
  reads := by
    have read := Statement.ofTokens_createTable free (readColumns_users s.emailUnique)
    refine ⟨_, _, ⟨ofText_createText h, read⟩, ?_, fun _ => rfl⟩
    cases s.emailUnique <;> rfl

end UserStatements

end AccountStore
