/-
# AccountStore.Proofs.Engine.Alignment -- every value meets its column

The statement of an update and the values bound to it are made in two places, and each
decides for itself what an empty list stands for.  They decide alike (`sent_agree`), so
the values stand in the order of the columns whose placeholders they fill, with the id in
the end.  A provider that cannot name fields is asked for all of them, and all are bound.
Where the names are plain, the database gives every column the value of its own field
(`updateStatement_bindings`, `insertStatement_bindings`).
-/
import AccountStore.Engine.Scripted
import AccountStore.Proofs.Engine.Exchanges
import AccountStore.Proofs.Statements.Bindings

namespace AccountStore

set_option autoImplicit false

open Database

/-! ## What a statement does with the values bound to it -/

/-- A write: the values that columns are given, and the value that a column must have. -/
structure Bindings where
  table : String
  given : List (String × SqlValue)
  condition? : Option (String × Comparison × SqlValue)

namespace Database.Statement

/-- What an insert or an update makes of the values bound to its parameters. -/
def bindings? (values : List SqlValue) : Statement → Option Bindings
  | .insert table columns operands =>
      if columns.length = operands.length then
        some ⟨table, columns.zip (operands.map (Table.operand values)), none⟩
      else none
  | .update table assignments condition =>
      some ⟨table, assignments.map fun a => (a.1, Table.operand values a.2),
        some (condition.column, condition.comparison, Table.operand values condition.operand)⟩
  | _ => none

end Database.Statement

namespace UserStatements

variable (table : String) (c : UserColumns)

/-- The values of the fields go to the columns of the fields, and what is bound behind
them is looked up in the column of the id. -/
theorem updateStatement_bindings (fields : List UserField) (value : UserField → SqlValue)
    (id : Int) :
    (updateStatement table c fields).bindings? (fields.map value ++ [.integer id]) =
      some ⟨table, fields.map fun f => (c.column f, Table.stored (value f)),
        some (c.id, .equal, .integer id)⟩ := by
  have numbered := congrArg (List.map (Prod.map c.column (fun v => v)))
    (Table.operands_numbered fields value [.integer id])
  have assigned : ((assignments c fields).map fun a => (a.1, Operand.parameter a.2)).map
      (fun a => (a.1, Table.operand (fields.map value ++ [.integer id]) a.2)) =
        fields.map fun f => (c.column f, Table.stored (value f)) := by
    simpa only [assignments, List.map_map, Function.comp_def, Prod.map] using numbered
  have last : Table.operand (fields.map value ++ [.integer id])
      (.parameter (fields.length + 1)) = .integer id := by
    simp [Table.operand, Table.stored]
  simp only [updateStatement, Statement.bindings?, assigned, equals, last]

/-- Every column gets the value of its own field. -/
theorem insertStatement_bindings (value : UserField → SqlValue) :
    (insertStatement table c).bindings? (UserField.all.map value) =
      some ⟨table, UserField.all.map fun f => (c.column f, Table.stored (value f)), none⟩ :=
  rfl

end UserStatements

/-! ## What is sent -/

namespace UserEngine

/-- The fields that an update is about: those that are listed, if any are and the provider
can name fields, and else all. -/
def sent (supports : Bool) (fields : List UserField) : List UserField :=
  if supports && !fields.isEmpty then fields else UserField.all

variable {σ : Type}

/-- **The values and the statement are about the same fields.** -/
theorem sent_agree (e : UserEngine σ) (fields : List UserField) :
    (e.updateList fields).getD UserField.all = sent e.statements.supportsFields fields ∧
      UserStatements.touched (e.updateList fields) = sent e.statements.supportsFields fields := by
  unfold updateList sent
  cases supported : e.statements.supportsFields with
  | false => exact ⟨rfl, rfl⟩
  | true =>
      cases fields with
      | nil => exact ⟨rfl, rfl⟩
      | cons f rest => exact ⟨rfl, rfl⟩

theorem sent_ne_nil (supports : Bool) (fields : List UserField) : sent supports fields ≠ [] := by
  unfold sent
  split
  · next named =>
      rintro rfl
      simp at named
  · exact List.cons_ne_nil _ _

/-- **Every value meets its column.**  Whatever the table and its columns are called,
whatever the bridge and whoever the user, an update sends one statement with as many
placeholders as values: each stands behind the column of its field, in the order of the
list, and the last behind the id.  An insert names all columns in the order of its values.
An empty list, and a provider that cannot name fields, mean all fields on both sides.
With plain names the database gives each column the value of its own field. -/
theorem values_meet_their_columns (backend : Backend σ) (b : Bridge) (t : Template)
    (c : UserColumns) (supports : Bool) :
    let q := { UserStatements.ofColumns t c with supportsFields := supports }
    let e : UserEngine σ := ⟨backend, q, b⟩
    let table := UserStatements.tableName t
    (∀ id u fields s log,
        let fragments := UserStatements.updateFragments table c (sent supports fields)
        let values := (sent supports fields).map (fun f => b.parameter (f.value u)) ++
          [.integer id.value]
        (∃ reply, (e.observed.update id u fields (s, log)).2.2 =
            log ++ [.execute (Fragment.text fragments) values reply]) ∧
          Fragment.bound "" fragments = (sent supports fields).map c.column ++ [c.id] ∧
          Fragment.holes fragments = values.length ∧
          (c.Plain → PlainName table → ∃ ts st, Reads (Fragment.text fragments) ts st ∧
            st.bindings? values = some ⟨table,
              (sent supports fields).map fun f =>
                (c.column f, Table.stored (b.parameter (f.value u))),
              some (c.id, .equal, .integer id.value)⟩)) ∧
      (∀ now u s log,
        let fragments := UserStatements.insertFragments table c
        let values := UserField.all.map fun f => b.parameter (f.value (u.prepared now))
        (∃ reply, (e.observed.insert now u (s, log)).2.2 =
            log ++ [.execute (Fragment.text fragments) values reply]) ∧
          Fragment.names fragments = table :: UserField.all.map c.column ∧
          Fragment.holes fragments = values.length ∧
          (c.Plain → PlainName table → ∃ ts st, Reads (Fragment.text fragments) ts st ∧
            st.bindings? values = some ⟨table,
              UserField.all.map fun f =>
                (c.column f, Table.stored (b.parameter (f.value (u.prepared now)))),
              none⟩)) ∧
      ∀ p : UserStatements, p.supportsFields = false → ∀ id u fields s log,
        ∃ reply, ((UserEngine.mk backend p b).observed.update id u fields (s, log)).2.2 =
          log ++ [.execute (p.update none)
            (UserField.all.map (fun f => b.parameter (f.value u)) ++ [.integer id.value])
            reply] := by
  intro q e table
  refine ⟨?_, ?_, ?_⟩
  · intro id u fields s log fragments values
    obtain ⟨valued, named⟩ := e.sent_agree fields
    have text : Fragment.text fragments = e.statements.update (e.updateList fields) := by
      rw [UserStatements.text_updateFragments, ← named]
      rfl
    have bound := UserStatements.bound_updateFragments table c (sent supports fields)
    refine ⟨⟨(backend.execute (Fragment.text fragments) values s).1, ?_⟩, bound, ?_, ?_⟩
    · rw [update_observed, text]
      simp only [valued]
      rfl
    · rw [← Fragment.length_bound "", bound]
      simp [values]
    · intro plain free
      rw [UserStatements.text_updateFragments]
      exact ⟨_, _, UserStatements.reads_update plain free (sent_ne_nil supports fields),
        UserStatements.updateStatement_bindings table c _ _ id.value⟩
  · intro now u s log fragments values
    refine ⟨⟨(backend.execute (Fragment.text fragments) values s).1, ?_⟩,
      UserStatements.names_insertFragments table c, ?_, ?_⟩
    · rw [insert_observed, UserStatements.text_insertFragments]
      rfl
    · rw [UserStatements.holes_insertFragments]
      rfl
    · intro plain free
      rw [UserStatements.text_insertFragments]
      exact ⟨_, _, UserStatements.reads_insert plain free,
        UserStatements.insertStatement_bindings table c _⟩
  · intro p whole id u fields s log
    have unlisted : (UserEngine.mk backend p b).updateList fields = none := by
      simp [updateList, whole]
    refine ⟨(backend.execute (p.update none)
      (UserField.all.map (fun f => b.parameter (f.value u)) ++ [.integer id.value]) s).1, ?_⟩
    rw [update_observed, unlisted]
    rfl

/-- Two fields, one of them twice, out of their order. -/
theorem values_meet_their_columns_out_of_order :
    let e : UserEngine Script :=
      ⟨Script.backend, UserStatements.ofColumns Template.defaults {}, Bridge.textual⟩
    let u : User := { User.new "ada" "a@b" with lastLogin := Instant.epoch, isStaff := true }
    let fragments := UserStatements.updateFragments (UserStatements.tableName Template.defaults) {}
      [.lastLogin, .isStaff, .lastLogin]
    let instant : SqlValue := .text "1970-01-01T00:00:00.000000000Z"
    let values : List SqlValue := [instant, .bool true, instant, .integer 3]
    (∃ reply, (e.observed.update ⟨3⟩ u [.lastLogin, .isStaff, .lastLogin] ({}, [])).2.2 =
        [.execute (Fragment.text fragments) values reply]) ∧
      Fragment.bound "" fragments = ["last_login", "is_staff", "last_login", "id"] ∧
      ∃ ts st, Reads (Fragment.text fragments) ts st ∧
        st.bindings? values = some ⟨"auth_user",
          [("last_login", instant), ("is_staff", .integer 1), ("last_login", instant)],
          some ("id", .equal, .integer 3)⟩ := by
  intro e u fragments instant values
  have table : UserStatements.tableName Template.defaults = "auth_user" := by decide +kernel
  have stored : Bridge.textual.parameter (.timestamp Instant.epoch) = instant :=
    congrArg SqlValue.text (by decide +kernel)
  obtain ⟨updates, -, -⟩ := values_meet_their_columns Script.backend Bridge.textual
    Template.defaults {} true
  obtain ⟨⟨reply, called⟩, bound, -, read⟩ :=
    updates ⟨3⟩ u [.lastLogin, .isStaff, .lastLogin] {} []
  have sentValues : (sent true [.lastLogin, .isStaff, .lastLogin]).map
      (fun f => Bridge.textual.parameter (f.value u)) ++ [.integer 3] = values :=
    congrArg (fun v => ([v, .bool true, v, .integer 3] : List SqlValue)) stored
  rw [sentValues] at called read
  refine ⟨⟨reply, called⟩, bound, ?_⟩
  obtain ⟨ts, st, reads, given⟩ := read UserColumns.default_plain (table ▸ by decide)
  refine ⟨ts, st, reads, given.trans ?_⟩
  rw [table]
  exact congrArg (fun v => some (Bindings.mk "auth_user"
    [("last_login", Table.stored v), ("is_staff", .integer 1), ("last_login", Table.stored v)]
    (some ("id", .equal, .integer 3)))) stored

end UserEngine

end AccountStore
