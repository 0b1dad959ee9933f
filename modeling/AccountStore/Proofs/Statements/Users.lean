/-
# AccountStore.Proofs.Statements.Users -- what the statements for users say

Whatever the table is called and whatever its columns are called, as long as
the names are plain, the database reads every text as the statement it is meant
to be: a lookup of the id and all fields, an insert of all fields in their
order, an update that sets the listed fields one after the other and looks the
id up last, a delete by id.
-/
import AccountStore.Statements.User
import AccountStore.Proofs.Database.Reads

namespace AccountStore

set_option autoImplicit false

open Database Database.Lexeme

/-- Columns that may stand in a statement. -/
structure UserColumns.Plain (c : UserColumns) : Prop where
  id : PlainName c.id
  column : ∀ f, PlainName (c.column f)

namespace UserColumns

theorem default_plain : Plain {} := ⟨by decide, fun f => by cases f <;> decide⟩

/-- The id and the fields, in the order of a lookup. -/
def selected (c : UserColumns) : List String := c.id :: c.names

theorem Plain.of_mem_names {c : UserColumns} (h : c.Plain) : ∀ s ∈ c.names, PlainName s := by
  intro s hs
  obtain ⟨f, -, rfl⟩ := List.mem_map.mp hs
  exact h.column f

theorem Plain.of_mem_selected {c : UserColumns} (h : c.Plain) : ∀ s ∈ c.selected, PlainName s := by
  intro s hs
  rcases List.mem_cons.mp hs with rfl | hs
  · exact h.id
  · exact h.of_mem_names s hs

end UserColumns

namespace UserStatements

variable {c : UserColumns} {table : String}

/-- ` WHERE column = ?`, with the blank before it. -/
def whereLexemes (column : String) : List Lexeme :=
  [.blank ' ', .word "WHERE", .blank ' ', .word column, .blank ' ', .mark '=', .blank ' ',
    .parameter ""]

theorem spelled_where {s column : String} {ls : List Lexeme} (h : Spelled s ls)
    (hc : PlainName column) :
    Spelled (s ++ " WHERE " ++ column ++ " = ?") (ls ++ whereLexemes column) := by
  have start : Spelled " WHERE " [.blank ' ', .word "WHERE", .blank ' '] := ⟨rfl, by decide, rfl⟩
  have finish : Spelled " = ?" [.blank ' ', .mark '=', .blank ' ', .parameter ""] :=
    ⟨rfl, by decide, rfl⟩
  have whole := ((h.append start (by simp [joins, isWord])).append (.name hc.word)
    (by simp [joins, isOpen])).append finish (by simp [joins, isWord])
  simpa [whereLexemes] using whole

def whereTokens (column : String) (n : Nat) : List Token :=
  [.word column, .mark "=", .parameter "?" n, .finish false]

theorem numbered_where (column : String) (k : Nat) :
    Token.numbered k (tokens (whereLexemes column) ++ [.finish false]) =
      .word "WHERE" :: whereTokens column (k + 1) := rfl

/-- What `WHERE column = ?` says, its parameter having this number. -/
def equals (column : String) (n : Nat) : Condition := ⟨column, .equal, .parameter n⟩

theorem readCondition_where {column : String} (h : PlainName column) (n : Nat) :
    Statement.readCondition (whereTokens column n) = .ok (equals column n) :=
  Statement.readCondition_equal h.free "?" n false

/-- Names are not numbered. -/
theorem numbered_names (names : List String) (k : Nat) (us : List Token) :
    Token.numbered k ([Token.mark ","].intercalate (names.map fun s => [.word s]) ++ us) =
      [Token.mark ","].intercalate (names.map fun s => [.word s]) ++ Token.numbered k us := by
  refine Token.numbered_append (forall_mem_intercalate ?_ ?_) k us
  · simp
  · simp

theorem tokens_names (names : List String) :
    tokens (Spelled.comma.intercalate (names.map fun s => [.word s])) =
      [Token.mark ","].intercalate (names.map fun s => [.word s]) := by
  rw [tokens_intercalate, List.map_map]
  rfl

theorem spelled_names {names : List String} (h : ∀ s ∈ names, PlainName s) :
    Spelled (", ".intercalate names) (Spelled.comma.intercalate (names.map fun s => [.word s])) := by
  have listed := Spelled.intercalate (f := fun s => s) (fun s hs => Spelled.name (h s hs).word)
  simpa using listed

/-! ## Lookups -/

def selectStatement (table : String) (c : UserColumns) (key : String) : Statement :=
  .select (c.selected.map fun s => (s, none)) table (equals key 1)

def selectTokens (table : String) (c : UserColumns) (key : String) : List Token :=
  .word "SELECT" :: ([Token.mark ","].intercalate (c.selected.map fun s => [.word s]) ++
    .word "FROM" :: .word table :: .word "WHERE" :: whereTokens key 1)

theorem intercalate_selected (c : UserColumns) :
    ", ".intercalate c.selected = c.id ++ ", " ++ ", ".intercalate c.names := by
  rw [UserColumns.selected, String.intercalate_cons_of_ne_nil]
  simp [UserColumns.names, UserField.all]

theorem reads_select (hc : c.Plain) (ht : PlainName table) {key : String} (hk : PlainName key) :
    Reads (selectText table c key) (selectTokens table c key) (selectStatement table c key) where
  scans := by
    have start : Spelled "SELECT " [.word "SELECT", .blank ' '] := ⟨rfl, by decide, rfl⟩
    have source : Spelled " FROM " [.blank ' ', .word "FROM", .blank ' '] := ⟨rfl, by decide, rfl⟩
    have spelled := spelled_where (((start.append
      (spelled_names hc.of_mem_selected) (by simp [joins, isOpen])).append source
        (by simp [joins, isWord])).append (.name ht.word) (by rw [joins_append]; rfl)) hk
    rw [intercalate_selected] at spelled
    have text : selectText table c key = "SELECT " ++ (c.id ++ ", " ++ ", ".intercalate c.names) ++
        " FROM " ++ table ++ " WHERE " ++ key ++ " = ?" := by
      unfold selectText
      simp only [String.append_assoc]
    have first : ∀ ls : List Lexeme, tokens (.word "SELECT" :: ls) ≠ [] :=
      fun _ => List.cons_ne_nil _ _
    rw [text]
    refine (Token.ofText_of_spelled spelled (first _)).trans ?_
    simp only [tokens_append, tokens_names, List.append_assoc]
    exact congrArg (fun ts => [Token.word "SELECT" :: ts]) (numbered_names _ _ _)
  read := Statement.ofTokens_select (by simp [UserColumns.selected])
    (fun s hs => (hc.of_mem_selected s hs).free) ht.free (readCondition_where hk 1)

/-! ## Inserts -/

def insertStatement (table : String) (c : UserColumns) : Statement :=
  .insert table c.names ((c.names.zipIdx 1).map fun p => .parameter p.2)

def insertTokens (table : String) (c : UserColumns) : List Token :=
  .word "INSERT" :: .word "INTO" :: .word table :: .mark "(" ::
    ([Token.mark ","].intercalate (c.names.map fun s => [.word s]) ++ .mark ")" ::
      .word "VALUES" :: .mark "(" ::
        ([Token.mark ","].intercalate ((c.names.zipIdx 1).map fun p => [.parameter "?" p.2]) ++
          .mark ")" :: [.finish false]))

theorem names_ne_nil (c : UserColumns) : c.names ≠ [] := by
  simp [UserColumns.names, UserField.all]

theorem reads_insert (hc : c.Plain) (ht : PlainName table) :
    Reads (insertText table c) (insertTokens table c) (insertStatement table c) where
  scans := by
    have start : Spelled "INSERT INTO " [.word "INSERT", .blank ' ', .word "INTO", .blank ' '] :=
      ⟨rfl, by decide, rfl⟩
    have opened : Spelled " (" [.blank ' ', .mark '('] := ⟨rfl, by decide, rfl⟩
    have between : Spelled ") VALUES (" [.mark ')', .blank ' ', .word "VALUES", .blank ' ', .mark '('] :=
      ⟨rfl, by decide, rfl⟩
    have closed : Spelled ")" [.mark ')'] := ⟨rfl, by decide, rfl⟩
    have holder : Spelled "?" [.parameter ""] := ⟨rfl, by decide, rfl⟩
    have holders : Spelled (", ".intercalate (c.names.map fun _ => "?"))
        (Spelled.comma.intercalate (c.names.map fun _ => [.parameter ""])) :=
      Spelled.intercalate (fun _ _ => holder)
    have spelled := (((((start.append (.name ht.word) rfl).append opened rfl).append
      (spelled_names hc.of_mem_names) (by rw [joins_append]; rfl)).append between
        (by simp [joins, isWord])).append holders (by rw [joins_append]; rfl)).append closed
          (by simp [joins, isWord])
    have number : ∀ (x : String) k us, Token.numbered k ([Token.parameter "?" 0] ++ us) =
        [Token.parameter "?" (k + 1)] ++ Token.numbered (k + 1) us := by
      intro x k us
      simp [Token.numbered]
    have values := Token.numbered_intercalate (fun _ n => [Token.parameter "?" n]) number c.names 0
    have first : ∀ ls : List Lexeme, tokens (.word "INSERT" :: ls) ≠ [] :=
      fun _ => List.cons_ne_nil _ _
    refine (Token.ofText_of_spelled spelled (first _)).trans ?_
    simp only [tokens_append, tokens_intercalate, List.map_map, List.append_assoc]
    refine congrArg (fun ts => [Token.word "INSERT" :: .word "INTO" :: .word table :: .mark "(" :: ts])
      ((numbered_names _ _ _).trans ?_)
    exact congrArg (fun ts => _ ++ Token.mark ")" :: .word "VALUES" :: .mark "(" :: ts) (values _)
  read := by
    have read := Statement.ofTokens_insert (names_ne_nil c)
      (fun s hs => (hc.of_mem_names s hs).free) ht.free ((c.names.zipIdx 1).map fun p => ("?", p.2))
      (by simp [UserColumns.names, UserField.all]) false
    simp only [List.map_map, Function.comp_def] at read
    exact read

/-! ## Updates -/

/-- The assignments of an update, numbered from one. -/
def assignments (c : UserColumns) (fields : List UserField) : List (String × Nat) :=
  (fields.zipIdx 1).map fun p => (c.column p.1, p.2)

def updateStatement (table : String) (c : UserColumns) (fields : List UserField) : Statement :=
  .update table ((assignments c fields).map fun a => (a.1, .parameter a.2))
    (equals c.id (fields.length + 1))

def updateTokens (table : String) (c : UserColumns) (fields : List UserField) : List Token :=
  .word "UPDATE" :: .word table :: .word "SET" ::
    ([Token.mark ","].intercalate ((assignments c fields).map fun a =>
        [.word a.1, .mark "=", .parameter "?" a.2]) ++
      .word "WHERE" :: whereTokens c.id (fields.length + 1))

theorem reads_update (hc : c.Plain) (ht : PlainName table) {fields : List UserField}
    (some : fields ≠ []) :
    Reads (updateText table c fields) (updateTokens table c fields)
      (updateStatement table c fields) where
  scans := by
    have start : Spelled "UPDATE " [.word "UPDATE", .blank ' '] := ⟨rfl, by decide, rfl⟩
    have set : Spelled " SET " [.blank ' ', .word "SET", .blank ' '] := ⟨rfl, by decide, rfl⟩
    have finish : Spelled " = ?" [.blank ' ', .mark '=', .blank ' ', .parameter ""] :=
      ⟨rfl, by decide, rfl⟩
    have listed : Spelled (", ".intercalate (fields.map fun f => c.column f ++ " = ?"))
        (Spelled.comma.intercalate (fields.map fun f =>
          [.word (c.column f)] ++ [.blank ' ', .mark '=', .blank ' ', .parameter ""])) :=
      Spelled.intercalate (fun f _ => (Spelled.name (hc.column f).word).append finish rfl)
    have spelled := spelled_where ((((start.append (.name ht.word) rfl).append set rfl).append
      listed (by rw [joins_append]; rfl))) hc.id
    have number : ∀ f k us,
        Token.numbered k ([Token.word (c.column f), .mark "=", .parameter "?" 0] ++ us) =
          [Token.word (c.column f), .mark "=", .parameter "?" (k + 1)] ++
            Token.numbered (k + 1) us := by
      intro f k us
      simp [Token.numbered]
    have values := Token.numbered_intercalate
      (fun f n => [Token.word (c.column f), .mark "=", .parameter "?" n]) number fields 0
    have first : ∀ ls : List Lexeme, tokens (.word "UPDATE" :: ls) ≠ [] :=
      fun _ => List.cons_ne_nil _ _
    refine (Token.ofText_of_spelled spelled (first _)).trans ?_
    simp only [tokens_append, tokens_intercalate, List.map_map, List.append_assoc]
    refine congrArg (fun ts => [Token.word "UPDATE" :: .word table :: .word "SET" :: ts])
      ((values _).trans ?_)
    rw [assignments, List.map_map, Nat.zero_add, Nat.zero_add, numbered_where]
    rfl
  read := by
    have read := Statement.ofTokens_update ((assignments c fields).map fun a => (a.1, "?", a.2))
      (by simpa [assignments] using some) (by
        simp only [assignments, List.map_map, List.forall_mem_map]
        exact fun p _ => (hc.column p.1).free) ht.free
      (readCondition_where hc.id (fields.length + 1))
    simp only [List.map_map, Function.comp_def] at read
    exact read

/-! ## Deletes -/

def deleteStatement (table : String) (c : UserColumns) : Statement := .delete table (equals c.id 1)

def deleteTokens (table : String) (c : UserColumns) : List Token :=
  .word "DELETE" :: .word "FROM" :: .word table :: .word "WHERE" :: whereTokens c.id 1

theorem reads_delete (hc : c.Plain) (ht : PlainName table) :
    Reads (deleteText table c) (deleteTokens table c) (deleteStatement table c) where
  scans := by
    have start : Spelled "DELETE FROM " [.word "DELETE", .blank ' ', .word "FROM", .blank ' '] :=
      ⟨rfl, by decide, rfl⟩
    have spelled := spelled_where (start.append (.name ht.word) rfl) hc.id
    exact Token.ofText_of_spelled spelled nofun
  read := Statement.ofTokens_delete ht.free (readCondition_where hc.id 1)

/-! ## Limits -/

theorem inLimit_where {column : String} {n : Nat} (h : n ≤ Statement.parameterLimit) :
    ∀ t ∈ whereTokens column n, Statement.InLimit t := by
  simp only [whereTokens, List.forall_mem_cons]
  exact ⟨trivial, trivial, h, trivial, nofun⟩

theorem inLimit_names (names : List String) :
    ∀ t ∈ [Token.mark ","].intercalate (names.map fun s => [.word s]), Statement.InLimit t := by
  refine forall_mem_intercalate (by simp [Statement.InLimit]) ?_
  simp [Statement.InLimit]

theorem le_of_mem_zipIdx {α : Type} {xs : List α} {p : α × Nat} (h : p ∈ xs.zipIdx 1) :
    p.2 ≤ xs.length := by
  have := (List.mem_zipIdx h).2.1
  omega

variable (k : Connection)

theorem parse_select (hc : c.Plain) (ht : PlainName table) {key : String} (hk : PlainName key) :
    k.parse (selectText table c key) = .ok (selectStatement table c key) := by
  refine (reads_select hc ht hk).parse ?_ k
  rw [Statement.excess?_eq]
  · simp [Statement.columnExcess?, selectStatement, UserColumns.selected, UserColumns.names,
      UserField.all, Statement.columnLimit]
  · simp only [selectTokens, List.forall_mem_cons, List.forall_mem_append]
    exact ⟨trivial, inLimit_names _, trivial, trivial, trivial, inLimit_where (by decide)⟩

theorem parse_insert (hc : c.Plain) (ht : PlainName table) :
    k.parse (insertText table c) = .ok (insertStatement table c) := by
  refine (reads_insert hc ht).parse ?_ k
  rw [Statement.excess?_eq]
  · rfl
  · simp only [insertTokens, List.forall_mem_cons, List.forall_mem_append]
    refine ⟨trivial, trivial, trivial, trivial, inLimit_names _, trivial, trivial, trivial, ?_,
      trivial, trivial, nofun⟩
    refine forall_mem_intercalate (by simp [Statement.InLimit]) ?_
    simp only [List.forall_mem_map, List.forall_mem_singleton]
    intro p hp
    have few : p.2 ≤ c.names.length := le_of_mem_zipIdx hp
    have ten : c.names.length = 10 := rfl
    simp only [Statement.InLimit, Statement.parameterLimit]
    omega

theorem parse_update (hc : c.Plain) (ht : PlainName table) {fields : List UserField}
    (some : fields ≠ []) (few : fields.length ≤ Statement.columnLimit) :
    k.parse (updateText table c fields) = .ok (updateStatement table c fields) := by
  have limits : Statement.columnLimit < Statement.parameterLimit := by decide
  refine (reads_update hc ht some).parse ?_ k
  rw [Statement.excess?_eq]
  · simp [Statement.columnExcess?, updateStatement, assignments, few]
  · simp only [updateTokens, List.forall_mem_cons, List.forall_mem_append]
    refine ⟨trivial, trivial, trivial, ?_, trivial, inLimit_where (by omega)⟩
    refine forall_mem_intercalate (by simp [Statement.InLimit]) ?_
    simp only [assignments, List.forall_mem_map, List.forall_mem_cons]
    intro p hp
    have least : p.2 ≤ fields.length := le_of_mem_zipIdx hp
    refine ⟨trivial, trivial, ?_, nofun⟩
    simp only [Statement.InLimit]
    omega

/-- A statement for more fields than it may set is refused. -/
theorem parse_update_of_lt (hc : c.Plain) (ht : PlainName table) {fields : List UserField}
    (many : Statement.columnLimit < fields.length) :
    ∃ message, k.parse (updateText table c fields) = .error (sqlFailure message) := by
  have some : fields ≠ [] := by
    rintro rfl
    cases many
  have much : (updateStatement table c fields).columnExcess? =
      Option.some "too many columns in set list" := by
    simp only [Statement.columnExcess?, updateStatement, assignments, List.length_map,
      List.length_zipIdx]
    exact if_neg (by omega)
  obtain ⟨message, excess⟩ := Statement.exists_excess (updateTokens table c fields) much
  exact ⟨message, (reads_update hc ht some).parse_of_excess excess k⟩

theorem parse_delete (hc : c.Plain) (ht : PlainName table) :
    k.parse (deleteText table c) = .ok (deleteStatement table c) := by
  refine (reads_delete hc ht).parse ?_ k
  rw [Statement.excess?_eq]
  · rfl
  · simp only [deleteTokens, List.forall_mem_cons]
    exact ⟨trivial, trivial, trivial, trivial, inLimit_where (by decide)⟩

end UserStatements

end AccountStore
