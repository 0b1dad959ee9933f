/-
# AccountStore.Proofs.Refinement.Inserts -- what an insert makes of the caller's user

An insert takes the account from the caller's user and nothing else: the id and the
two instants are the store's to assign.  Both stores of users do so before they can
fail, so however the call ends the caller has the user that was handed on or stored
(`User.Completed`), and two callers with the same account cannot be told apart
(`User.prepared_congr`).

Behind a backend the call is one exchange and its reply decides the id
(`insertAnswer_completed`).  In memory a table is left alone or has one more user,
whatever table it is (`UserTable.insert_outcome`, `UserTable.find?_put`).
-/
import AccountStore.Engine.Scripted
import AccountStore.Proofs.Engine.Exchanges
import AccountStore.Proofs.Memory.Writes

namespace AccountStore

set_option autoImplicit false

/-! ## Accounts -/

namespace User

/-- Two users differ in no field but those that a store assigns. -/
def SameAccount (u v : User) : Prop :=
  ∀ f : UserField, f.isTimestamp = false → f.value u = f.value v

/-- The caller's user after an insert with this result, the clock reading `now`. -/
structure Completed (now : Instant) (given : User) (result : Except StoreError UserId)
    (completed : User) : Prop where
  account : given.SameAccount completed
  joined : completed.dateJoined = now
  unused : completed.lastLogin = Instant.epoch
  refused : ∀ err, result = .error err → completed.id = UserId.invalid
  added : ∀ id, result = .ok id → completed.id = id

theorem sameAccount_prepared (u : User) (now : Instant) : u.SameAccount (u.prepared now) := by
  intro f assigned
  cases f <;> first | rfl | cases assigned

/-- Only the account of a user goes into a store. -/
theorem prepared_congr {u v : User} (same : u.SameAccount v) (now : Instant) :
    u.prepared now = v.prepared now := by
  refine eq_of_values rfl fun f => ?_
  cases assigned : f.isTimestamp with
  | true => cases f <;> first | rfl | cases assigned
  | false =>
      exact (u.sameAccount_prepared now f assigned).symm.trans
        ((same f assigned).trans (v.sameAccount_prepared now f assigned))

theorem value_withId (u : User) (id : UserId) (f : UserField) :
    f.value { u with id := id } = f.value u := by
  cases f <;> rfl

theorem completed_refused (now : Instant) (u : User) (err : StoreError) :
    Completed now u (.error err) (u.prepared now) :=
  ⟨u.sameAccount_prepared now, rfl, rfl, fun _ _ => rfl, nofun⟩

theorem completed_added (now : Instant) (u : User) (id : UserId) :
    Completed now u (.ok id) { u.prepared now with id := id } where
  account f assigned := (u.sameAccount_prepared now f assigned).trans (value_withId _ id f).symm
  joined := rfl
  unused := rfl
  refused := nofun
  added _ same := Except.ok.inj same

end User

/-! ## Behind a backend -/

namespace UserEngine

/-- Whatever a backend replies completes the user that was prepared, in no field that
was sent. -/
theorem insertAnswer_completed (b : Bridge) (now : Instant) (u : User)
    (reply : Except DriverError Outcome) :
    let answer := insertAnswer b (u.prepared now) reply
    u.Completed now answer.1 answer.2 ∧
      ∀ f : UserField, f.value answer.2 = f.value (u.prepared now) := by
  cases reply with
  | error err => exact ⟨u.completed_refused now _, fun _ => rfl⟩
  | ok outcome =>
      obtain ⟨affected, id⟩ := outcome
      cases id with
      | none => exact ⟨u.completed_refused now _, fun _ => rfl⟩
      | some id => exact ⟨u.completed_added now ⟨id⟩, (u.prepared now).value_withId ⟨id⟩⟩

variable {σ : Type} (e : UserEngine σ)

/-- An insert makes one exchange, which sends the values of the completed user. -/
theorem insert_completes (now : Instant) (u : User) (s : σ) (log : List Exchange) :
    let r := e.observed.insert now u (s, log)
    e.insert now u s = (r.1, r.2.1) ∧ u.Completed now r.1.1 r.1.2 ∧
      ∃ reply, r.2.2 = log ++ [.execute e.statements.insert
        (UserField.all.map fun f => e.bridge.parameter (f.value r.1.2)) reply] := by
  let sent := parameters e.bridge (u.prepared now) UserField.all
  let reply := (e.backend.execute e.statements.insert sent s).1
  obtain ⟨completed, kept⟩ := insertAnswer_completed e.bridge now u reply
  have values : UserField.all.map (fun f => e.bridge.parameter
      (f.value (insertAnswer e.bridge (u.prepared now) reply).2)) = sent := by
    simp only [kept]
    rfl
  rw [insert_observed, insert_split]
  refine ⟨rfl, completed, reply, ?_⟩
  rw [values]

theorem insert_congr {u v : User} (same : u.SameAccount v) (now : Instant) (s : σ) :
    e.insert now v s = e.insert now u s := by
  rw [insert_split, insert_split, User.prepared_congr same]

end UserEngine

/-! ## In memory -/

namespace UserTable

/-- A user that was put under an id is found there, and elsewhere nothing has changed. -/
theorem find?_put (t : UserTable) (id : UserId) (u : User) (k : UserId) :
    (t.put id u).find? k = if k = id then some u else t.find? k := by
  rw [find?, find?, put]
  induction t.entries with
  | nil => rw [putEntry, lookup_cons_ite]
  | cons e rest ih =>
      obtain ⟨k', v⟩ := e
      rw [putEntry, lookup_cons_ite k k']
      by_cases before : id.value < k'.value
      · rw [if_pos before, lookup_cons_ite, lookup_cons_ite]
      · rw [if_neg before]
        by_cases here : k' = id
        · subst here
          rw [if_pos rfl, lookup_cons_ite]
          split <;> rfl
        · rw [if_neg here, lookup_cons_ite, ih]
          by_cases first : k = k'
          · rw [if_pos first, if_pos first, if_neg (first ▸ here)]
          · rw [if_neg first, if_neg first]

/-- An insert leaves the table alone or puts the completed user under the next id. -/
theorem insert_outcome (emailUnique : Bool) (now : Instant) (u : User) (t : UserTable) :
    (∃ detail, insert emailUnique now u t = ((.error (.userExists detail), u.prepared now), t)) ∨
      let added : User := { u.prepared now with id := ⟨t.nextId⟩ }
      insert emailUnique now u t =
        ((.ok ⟨t.nextId⟩, added), { t with nextId := t.nextId + 1 }.put ⟨t.nextId⟩ added) := by
  simp only [insert]
  split
  · exact .inl ⟨_, rfl⟩
  · exact .inr rfl

variable (emailUnique : Bool)

/-- An insert that succeeds stores the completed user and nothing else, one that fails
stores nothing. -/
theorem insert_completes (now : Instant) (u : User) (t : UserTable) :
    let r := insert emailUnique now u t
    u.Completed now r.1.1 r.1.2 ∧ (∀ err, r.1.1 = .error err → r.2 = t) ∧
      ∀ id, r.1.1 = .ok id → ∀ k, r.2.find? k = if k = id then some r.1.2 else t.find? k := by
  rcases insert_outcome emailUnique now u t with ⟨detail, refused⟩ | added
  · rw [refused]
    exact ⟨u.completed_refused now _, fun _ _ => rfl, nofun⟩
  · rw [added]
    refine ⟨u.completed_added now ⟨t.nextId⟩, nofun, ?_⟩
    rintro id ⟨⟩ k
    exact find?_put _ _ _ k

theorem insert_congr {u v : User} (same : u.SameAccount v) (now : Instant) (t : UserTable) :
    insert emailUnique now v t = insert emailUnique now u t := by
  rw [insert, insert, User.prepared_congr same]

end UserTable

/-- **An insert completes the caller's user, and this is the user that is stored.**
For every engine over any backend, statements and bridge, in every state, and for every
table in memory: after the call the account is the caller's, the user joined at the
clock's reading and never logged in, and its id is the one answered, or no valid one if
the call failed.  The engine makes one exchange, and its ten values are those of this
user; the table has this user under the answered id and is otherwise as before, or has
not changed if the call failed.  A caller's id and instants have no part in any of it. -/
theorem inserts_complete_the_user :
    (∀ {σ : Type} (e : UserEngine σ) (now : Instant) (u : User) (s : σ) (log : List Exchange),
      let r := e.observed.store.insert now u (s, log)
      e.store.insert now u s = (r.1, r.2.1) ∧
        u.Completed now r.1.1 r.1.2 ∧
        (∃ reply, r.2.2 = log ++ [.execute e.statements.insert
          (UserField.all.map fun f => e.bridge.parameter (f.value r.1.2)) reply]) ∧
        ∀ v, u.SameAccount v → e.observed.store.insert now v (s, log) = r) ∧
    (∀ (emailUnique : Bool) (now : Instant) (u : User) (t : UserTable),
      let r := (UserTable.store emailUnique).insert now u t
      u.Completed now r.1.1 r.1.2 ∧
        (∀ err, r.1.1 = .error err → r.2 = t) ∧
        (∀ id, r.1.1 = .ok id →
          ∀ k, r.2.find? k = if k = id then some r.1.2 else t.find? k) ∧
        ∀ v, u.SameAccount v → (UserTable.store emailUnique).insert now v t = r) := by
  refine ⟨fun e now u s log => ?_, fun emailUnique now u t => ?_⟩
  · obtain ⟨unobserved, completed, exchange⟩ := e.insert_completes now u s log
    exact ⟨unobserved, completed, exchange, fun v same => e.observed.insert_congr same now _⟩
  · obtain ⟨completed, failed, stored⟩ := UserTable.insert_completes emailUnique now u t
    exact ⟨completed, failed, stored, fun v same => UserTable.insert_congr emailUnique same now t⟩

/-- A user that was stored and used before is inserted like a fresh one: without an id
where the backend reports none, and under the first id of an empty table. -/
theorem inserts_complete_a_user_again :
    let used : User := { User.new "ada" "ada@example.org" with id := ⟨9⟩, lastLogin := ⟨7, 0⟩ }
    let fresh := User.new "ada" "ada@example.org"
    let e : UserEngine Script :=
      ⟨Script.backend, UserStatements.ofColumns Template.defaults {}, Bridge.textual⟩
    let idless : Script := { executions := [.ok ⟨some 1, none⟩] }
    used.SameAccount fresh ∧
      (e.observed.store.insert ⟨100, 0⟩ used (idless, [])).1.2.id = UserId.invalid ∧
      e.observed.store.insert ⟨100, 0⟩ fresh (idless, []) =
        e.observed.store.insert ⟨100, 0⟩ used (idless, []) ∧
      ((UserTable.store true).insert ⟨100, 0⟩ used {}).2.find? ⟨1⟩ =
        some { fresh with id := ⟨1⟩, dateJoined := ⟨100, 0⟩ } := by
  intro used fresh e idless
  have same : used.SameAccount fresh := by
    intro f assigned
    cases f <;> first | rfl | cases assigned
  obtain ⟨engines, tables⟩ := inserts_complete_the_user
  obtain ⟨-, completed, -, alike⟩ := engines e ⟨100, 0⟩ used idless []
  obtain ⟨-, -, stored, -⟩ := tables true ⟨100, 0⟩ used {}
  refine ⟨same, completed.refused (.unsupported "last insert id") rfl, alike fresh same, ?_⟩
  rw [stored ⟨1⟩ rfl ⟨1⟩]
  rfl

end AccountStore
