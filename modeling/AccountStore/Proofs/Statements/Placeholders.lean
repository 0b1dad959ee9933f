/-
# AccountStore.Proofs.Statements.Placeholders -- the names that settings put into statements

Settings that are taken over give a template with three keys, each a name
between dollar signs, and two table names that are identifiers.  So every
statement is substituted piece by piece, and each table's name is one word of
it.
-/
import AccountStore.Config.Settings
import AccountStore.Proofs.Database.Reads
import AccountStore.Proofs.Text.Substitution

namespace AccountStore

set_option autoImplicit false

open Database Database.Lexeme

namespace StorageSettings

/-- What the constraint on email addresses is called in a statement. -/
def uniqueWord (s : StorageSettings) : String := if s.emailUnique then "UNIQUE" else ""

def placeholders (s : StorageSettings) : Placeholders :=
  [(Template.usersTable, s.usersTable), (Template.sessionsTable, s.sessionsTable),
    (Template.emailUnique, s.uniqueWord)]

theorem placeholders_delimited (s : StorageSettings) : s.placeholders.Delimited := by
  simp only [Placeholders.Delimited, placeholders, List.forall_mem_cons]
  exact ⟨⟨"USERS_TABLE_NAME".toList, by decide, rfl⟩, ⟨"SESSIONS_TABLE_NAME".toList, by decide, rfl⟩,
    ⟨"EMAIL_UNIQUE".toList, by decide, rfl⟩, nofun⟩

end StorageSettings

namespace Template

theorem apply_toList (t : Template) (text : String) :
    (t.apply text).toList = Substitution.run t.compiled text.toList := by
  simp [apply]

/-- The template of settings that are taken over. -/
structure OfSettings (s : StorageSettings) (t : Template) : Prop where
  users : isTableIdentifier s.usersTable = true
  sessions : isTableIdentifier s.sessionsTable = true
  compiled : t.compiled = s.placeholders

theorem ofSettings_eq_ok {s : StorageSettings} {t : Template} (h : ofSettings s = .ok t) :
    OfSettings s t := by
  unfold ofSettings at h
  split at h
  · cases h
  · next users =>
      split at h
      · cases h
      · next sessions =>
          rw [Bool.not_eq_true, Bool.not_eq_false'] at users sessions
          refine ⟨users, sessions, ?_⟩
          cases h
          rfl

/-- Settings with two identifiers are taken over. -/
theorem exists_ofSettings {s : StorageSettings} (users : isTableIdentifier s.usersTable = true)
    (sessions : isTableIdentifier s.sessionsTable = true) : ∃ t, ofSettings s = .ok t := by
  rw [ofSettings, users, sessions]
  exact ⟨_, rfl⟩

variable {s : StorageSettings} {t : Template}

theorem OfSettings.run_literal (h : OfSettings s t) {text : List Char} (free : '$' ∉ text)
    (r : List Char) :
    Substitution.run t.compiled (text ++ r) = text ++ Substitution.run t.compiled r := by
  rw [h.compiled]
  exact Substitution.run_append_literal s.placeholders_delimited free r

theorem OfSettings.run_usersTable (h : OfSettings s t) (r : List Char) :
    Substitution.run t.compiled (usersTable.toList ++ r) =
      s.usersTable.toList ++ Substitution.run t.compiled r := by
  rw [h.compiled]
  exact Substitution.run_append_key s.placeholders_delimited
    ⟨"USERS_TABLE_NAME".toList, by decide, rfl⟩ rfl r

theorem OfSettings.run_sessionsTable (h : OfSettings s t) (r : List Char) :
    Substitution.run t.compiled (sessionsTable.toList ++ r) =
      s.sessionsTable.toList ++ Substitution.run t.compiled r := by
  rw [h.compiled]
  exact Substitution.run_append_key s.placeholders_delimited
    ⟨"SESSIONS_TABLE_NAME".toList, by decide, rfl⟩ rfl r

theorem OfSettings.run_emailUnique (h : OfSettings s t) (r : List Char) :
    Substitution.run t.compiled (emailUnique.toList ++ r) =
      s.uniqueWord.toList ++ Substitution.run t.compiled r := by
  rw [h.compiled]
  exact Substitution.run_append_key s.placeholders_delimited
    ⟨"EMAIL_UNIQUE".toList, by decide, rfl⟩ rfl r

end Template

/-! ## Identifiers -/

theorem isNameStart_of_isAlpha {c : Char} (h : (c.isAlpha || c == '_') = true) :
    Token.isNameStart c = true := by
  simp [Token.isNameStart, h]

theorem isNameChar_of_isAlphanum {c : Char} (h : (c.isAlphanum || c == '_') = true) :
    Token.isNameChar c = true := by
  simp only [Char.isAlphanum, Bool.or_eq_true] at h
  simp only [Token.isNameChar, Token.isNameStart, Bool.or_eq_true]
  rcases h with (alpha | digit) | line
  · exact .inl (.inl (.inl (.inl alpha)))
  · refine .inl (.inr ?_)
    simp only [Char.isDigit, Bool.and_eq_true, decide_eq_true_eq] at digit
    simp only [isDigit, Bool.and_eq_true, decide_eq_true_eq]
    exact digit
  · exact .inl (.inl (.inl (.inr line)))

/-- An identifier is one word of a statement. -/
theorem isName_of_isTableIdentifier {name : String} (h : isTableIdentifier name = true) :
    isName name = true := by
  unfold isTableIdentifier at h
  unfold isName
  cases eq : name.toList with
  | nil => simp [eq] at h
  | cons c rest =>
      simp only [eq, Bool.and_eq_true, List.all_eq_true] at h ⊢
      exact ⟨isNameStart_of_isAlpha h.1, fun d hd => isNameChar_of_isAlphanum (h.2 d hd)⟩

end AccountStore
