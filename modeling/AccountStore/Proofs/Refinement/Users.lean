/-
# AccountStore.Proofs.Refinement.Users -- users in the database are users in memory

A connection stands for a table (`SimulatesUsers`) when its rows are the table's
users in their order, the last id given is the one before the next, and all stored
instants read back.  Every call that the database takes keeps this and answers
alike on both sides, down to the ids and the keys of the errors; only the words
about a collision differ.  The one call that it does not take is an update of more
columns than a statement may set.
-/
import AccountStore.Proofs.Engine.Users
import AccountStore.Proofs.Memory.Users

namespace AccountStore

set_option autoImplicit false

open Database

/-! ## What is compared -/

/-- An error without the words about the collision that caused it. -/
def StoreError.withoutDetail : StoreError → StoreError
  | .userExists _ => .userExists ""
  | .ambiguousUpdate _ => .ambiguousUpdate ""
  | e => e

def UserAnswer.withoutDetail : UserAnswer → UserAnswer
  | .done r => .done (r.mapError StoreError.withoutDetail)
  | .found r => .found (r.mapError StoreError.withoutDetail)
  | .inserted r u => .inserted (r.mapError StoreError.withoutDetail) u

/-- The user that a row stands for. -/
def UserEngine.readStored (b : Bridge) (r : StoredRow) : Except StoreError User :=
  match Connection.readColumns 0 (scanKinds b) (User.columnNames.zip r.values) with
  | .ok vs => readUser b ⟨vs⟩
  | .error e => .error (.driver (.failure e))

/-- The users in a table of a database, if there is such a table. -/
def Database.Connection.usersIn (k : Connection) (name : String) :
    Option (List (Except StoreError User)) :=
  (k.contents.findTable? name).map fun t => t.rows.map (UserEngine.readStored Bridge.textual)

/-- What is seen of a call on the database. -/
def Storage.seenUsers (name : String) (e : UserAnswer × Connection) :
    UserAnswer × Option (List (Except StoreError User)) :=
  (e.1.withoutDetail, e.2.usersIn name)

/-- What is seen of a call on a table in memory. -/
def UserTable.seen (e : UserAnswer × UserTable) :
    UserAnswer × Option (List (Except StoreError User)) :=
  (e.1.withoutDetail, some (e.2.users.map Except.ok))

/-! ## Instants that read back -/

theorem Instant.epoch_isStorable : Instant.epoch.IsStorable := ⟨by decide, by decide⟩

namespace User.Readable

theorem copy {f : UserField} {source target : User} (hs : source.Readable) (ht : target.Readable) :
    (f.copy source target).Readable := by
  cases f with
  | dateJoined => exact ⟨hs.dateJoined, ht.lastLogin⟩
  | lastLogin => exact ⟨ht.dateJoined, hs.lastLogin⟩
  | _ => exact ⟨ht.dateJoined, ht.lastLogin⟩

theorem copyAll {source : User} (hs : source.Readable) :
    ∀ (fields : List UserField) {target : User}, target.Readable →
      (UserField.copyAll fields source target).Readable
  | [], _, ht => ht
  | _ :: rest, _, ht => copyAll hs rest (hs.copy ht)

end User.Readable

theorem UserEngine.readStored_row {u : User} (h : u.Readable) :
    readStored Bridge.textual u.row = .ok u := by
  have columns : u.row.values = (List.range 11).map (Table.rowValue u.row) := rfl
  rw [readStored, columns, u.readColumns_row]
  exact User.readUser_scanned h

/-! ## Tables in memory as lists of users -/

namespace UserTable

variable {emailUnique : Bool} {t : UserTable} {id : UserId}

theorem Sound.find?_eq (sound : t.Sound emailUnique) (id : UserId) :
    t.find? id = t.users.find? (fun u => u.id == id) :=
  sound.own_id.lookup_eq id

/-- A user that is there stands between others, whose ids differ. -/
theorem Sound.split (sound : t.Sound emailUnique) {current : User}
    (found : t.find? id = some current) :
    ∃ pre post, t.users = pre ++ current :: post ∧ ∀ o, o ∈ pre ++ post ↔ o ∈ t.users ∧ o.id ≠ id := by
  obtain ⟨pre, post, split, before⟩ := List.lookup_eq_some_iff.mp found
  have users : t.users = pre.map Prod.snd ++ current :: post.map Prod.snd := by
    rw [UserTable.users, split, List.map_append, List.map_cons]
  have own := sound.own_id
  have sorted := sound.sorted
  rw [split, OwnKeys, List.forall_mem_append, List.forall_mem_cons] at own
  rw [split, List.pairwise_append, List.pairwise_cons] at sorted
  have earlier : ∀ o ∈ pre.map Prod.snd, o.id ≠ id := by
    simp only [List.forall_mem_map]
    intro e he same
    rw [own.1 e he] at same
    simpa [same] using before e he
  have later : ∀ o ∈ post.map Prod.snd, o.id ≠ id := by
    simp only [List.forall_mem_map]
    intro e he same
    rw [own.2.2 e he] at same
    have larger := sorted.2.1.1 e he
    simp [same] at larger
  refine ⟨_, _, users, fun o => ?_⟩
  rw [users, List.mem_append, List.mem_append, List.mem_cons]
  constructor
  · rintro (ho | ho)
    · exact ⟨.inl ho, earlier o ho⟩
    · exact ⟨.inr (.inr ho), later o ho⟩
  · rintro ⟨ho | rfl | ho, ne⟩
    · exact .inl ho
    · exact absurd own.2.1 ne
    · exact .inr ho

theorem users_added (t : UserTable) (u : User) :
    (Sound.added t u).users = t.users ++ [{ u with id := ⟨t.nextId⟩ }] := by
  simp [Sound.added, users]

theorem users_changed (sound : t.Sound emailUnique) {pre post : List User} {current : User}
    (split : t.users = pre ++ current :: post) (own : current.id = id)
    (others : ∀ o ∈ pre ++ post, o.id ≠ id) (u : User) :
    (Sound.changed t id u).users = pre ++ u :: post := by
  have changed : (Sound.changed t id u).users =
      t.users.map (fun o => if o.id = id then u else o) := by
    simp only [Sound.changed, users, List.map_map]
    refine List.map_congr_left fun e he => ?_
    simp only [Function.comp_apply, replaced, sound.own_id e he]
    split <;> rfl
  have kept : ∀ os : List User, (∀ o ∈ os, o.id ≠ id) →
      os.map (fun o => if o.id = id then u else o) = os := by
    intro os apart
    rw [List.map_congr_left (fun o ho => if_neg (apart o ho)), List.map_id']
  rw [List.forall_mem_append] at others
  rw [changed, split, List.map_append, List.map_cons, kept pre others.1, kept post others.2,
    if_pos own]

theorem users_delete (sound : t.Sound emailUnique) (id : UserId) :
    (t.delete id).2.users = t.users.filter (fun u => u.id != id) :=
  sound.own_id.map_filter_ne id

end UserTable

/-! ## The relation -/

/-- A connection holds what a table in memory holds. -/
structure SimulatesUsers (s : StorageSettings) (k : Connection) (t : UserTable) : Prop where
  held : HoldsUsers s k (t.nextId - 1) t.users
  sound : t.Sound s.emailUnique
  readable : ∀ u ∈ t.users, u.Readable

/-- Two calls answer alike and leave related states. -/
structure AgreeOnUsers (s : StorageSettings) (r : UserAnswer × Connection)
    (r' : UserAnswer × UserTable) : Prop where
  answer : r.1.withoutDetail = r'.1.withoutDetail
  states : SimulatesUsers s r.2 r'.2

namespace SimulatesUsers

variable {s : StorageSettings} {tpl : Template} {k : Connection} {t : UserTable}

theorem of_users {us : List User} {last : Int} (users : t.users = us) (next : t.nextId - 1 = last)
    (held : HoldsUsers s k last us) (sound : t.Sound s.emailUnique)
    (readable : ∀ u ∈ us, u.Readable) : SimulatesUsers s k t := by
  subst users next
  exact ⟨held, sound, readable⟩

/-- Related states hold the same users. -/
theorem usersIn_eq (sim : SimulatesUsers s k t) :
    k.usersIn s.usersTable = some (t.users.map Except.ok) := by
  have read : (t.users.map User.row).map (UserEngine.readStored Bridge.textual) =
      t.users.map Except.ok := by
    rw [List.map_map]
    exact List.map_congr_left fun u hu => UserEngine.readStored_row (sim.readable u hu)
  rw [Connection.usersIn, sim.held.found, Option.map_some]
  exact congrArg some read

/-- No id is larger than the last one given, and that is not negative. -/
theorem last_bounds (sim : SimulatesUsers s k t) :
    0 ≤ t.nextId - 1 ∧ ∀ u ∈ t.users, u.id.value ≤ t.nextId - 1 := by
  have positive := sim.sound.next_pos
  refine ⟨by omega, fun u hu => ?_⟩
  obtain ⟨e, he, rfl⟩ := List.mem_map.mp hu
  have range := (sim.sound.in_range e he).2
  rw [sim.sound.own_id e he]
  omega

/-! ## Lookups -/

theorem username_plain : PlainName "username" := by decide

theorem email_plain : PlainName "email" := by decide

/-- A lookup that finds the same on both sides. -/
theorem found_agrees (sim : SimulatesUsers s k t) {r : Except StoreError User × Connection}
    {r' : Except StoreError User × UserTable} {found : Option User} {lookup : UserLookup}
    (fetched : r = (lookup.answer found, k)) (looked : r' = (lookup.answer found, t)) :
    AgreeOnUsers s (r.map UserAnswer.found id) (r'.map UserAnswer.found id) := by
  subst fetched looked
  exact ⟨rfl, sim⟩

theorem get_agrees (h : UsableUsers s tpl) (sim : SimulatesUsers s k t) (id : UserId) :
    AgreeOnUsers s ((Storage.defaultUsers tpl).store.step (.get id) k)
      ((UserTable.store s.emailUnique).step (.get id) t) := by
  have hits : ∀ u : User, Table.equalValues (Table.rowValue u.row 0)
      (Table.stored (.integer id.value)) = (u.id == id) := usersTable.holds_idFilter id
  have fetched := h.fetch_eq sim.held sim.readable (by decide) usersTable.column_id
    (.integer id.value) (.byId id)
  simp only [hits, ← sim.sound.find?_eq] at fetched
  rw [← h.statements_eq.1] at fetched
  refine sim.found_agrees fetched ?_
  simp only [UserTable.store, UserTable.get]
  cases t.find? id <;> rfl

theorem getByName_agrees (h : UsableUsers s tpl) (sim : SimulatesUsers s k t) (name : String) :
    AgreeOnUsers s ((Storage.defaultUsers tpl).store.step (.getByName name) k)
      ((UserTable.store s.emailUnique).step (.getByName name) t) := by
  have hits : ∀ u : User, Table.equalValues (Table.rowValue u.row UserField.username.position)
      (Table.stored (.text name)) = (u.username == name) :=
    fun u => Table.equalValues_text u.username name
  have fetched := h.fetch_eq sim.held sim.readable username_plain
    (usersTable.column_field .username) (.text name) (.byUsername name)
  simp only [hits] at fetched
  rw [← h.statements_eq.2.1] at fetched
  refine sim.found_agrees fetched ?_
  simp only [UserTable.store, UserTable.getByName]
  cases t.users.find? (fun u => u.username == name) <;> rfl

theorem getByEmail_agrees (h : UsableUsers s tpl) (sim : SimulatesUsers s k t) (address : String) :
    AgreeOnUsers s ((Storage.defaultUsers tpl).store.step (.getByEmail address) k)
      ((UserTable.store s.emailUnique).step (.getByEmail address) t) := by
  have hits : ∀ u : User, Table.equalValues (Table.rowValue u.row UserField.email.position)
      (Table.stored (.text address)) = (u.email == address) :=
    fun u => Table.equalValues_text u.email address
  have fetched := h.fetch_eq sim.held sim.readable email_plain
    (usersTable.column_field .email) (.text address) (.byEmail address)
  simp only [hits] at fetched
  rw [← h.statements_eq.2.2.1] at fetched
  refine sim.found_agrees fetched ?_
  simp only [UserTable.store, UserTable.getByEmail]
  cases t.users.find? (fun u => u.email == address) <;> rfl

/-! ## Writes -/

theorem insert_agrees (h : UsableUsers s tpl) (sim : SimulatesUsers s k t) {now : Instant}
    (u : User) (storable : now.IsStorable) :
    AgreeOnUsers s ((Storage.defaultUsers tpl).store.step (.insert now u) k)
      ((UserTable.store s.emailUnique).step (.insert now u) t) := by
  obtain ⟨nonneg, largest⟩ := sim.last_bounds
  simp only [UserStore.step, UserEngine.store, UserTable.store]
  rcases UserTable.insert_cases sim.sound now u with ⟨e, he, hit, detail, refused⟩ | ⟨free, added⟩
  · have collision : t.users.any
        (fun o => UserTable.collides s.emailUnique o (u.prepared now)) = true :=
      List.any_eq_true.mpr ⟨e.2, List.mem_map.mpr ⟨e, he, rfl⟩, hit⟩
    obtain ⟨detail', refused'⟩ := h.insert_refused sim.held nonneg largest now u collision
    rw [refused, refused']
    exact ⟨rfl, sim⟩
  · have apart : t.users.any
        (fun o => UserTable.collides s.emailUnique o (u.prepared now)) = false := by
      rw [List.any_eq_false, UserTable.users, List.forall_mem_map]
      intro e he
      rw [Bool.not_eq_true]
      exact free e he
    obtain ⟨k', added', held'⟩ := h.insert_accepted sim.held nonneg largest now u apart
    rw [Int.sub_add_cancel] at added' held'
    rw [added, added']
    refine ⟨rfl, of_users (UserTable.users_added t _) (Int.add_sub_cancel _ _) held'
      (sim.sound.added_preserves free) ?_⟩
    rw [List.forall_mem_append, List.forall_mem_singleton]
    exact ⟨sim.readable, storable, Instant.epoch_isStorable⟩

/-- An update agrees as long as its list of fields is not too long. -/
theorem update_agrees (h : UsableUsers s tpl) (sim : SimulatesUsers s k t) (i : UserId) {u : User}
    (storable : u.Readable) {fields : List UserField}
    (few : fields.length ≤ Statement.columnLimit) :
    AgreeOnUsers s (((Storage.defaultUsers tpl).update i u fields k).map UserAnswer.done id)
      ((UserTable.update s.emailUnique i u fields t).map UserAnswer.done id) := by
  rcases UserTable.update_cases sim.sound i u fields with ⟨absent, done⟩ | ⟨current, found, rest⟩
  · have others : ∀ o ∈ t.users, o.id ≠ i := by
      rw [sim.sound.find?_eq, List.find?_eq_none] at absent
      simpa using absent
    obtain ⟨k', done', held'⟩ := h.update_absent sim.held others u few
    rw [done, done']
    exact ⟨rfl, held', sim.sound, sim.readable⟩
  · obtain ⟨pre, post, split, others⟩ := sim.sound.split found
    have own : current.id = i := (UserTable.find?_users_id sim.sound found).1
    have apart : ∀ o ∈ pre ++ post, o.id ≠ i := fun o ho => ((others o).mp ho).2
    have held := sim.held
    rw [split] at held
    rcases rest with ⟨e, he, ne, hit, detail, refused⟩ | ⟨free, done⟩
    · have other : e.2 ∈ pre ++ post := (others e.2).mpr ⟨List.mem_map.mpr ⟨e, he, rfl⟩, ne⟩
      obtain ⟨detail', refused'⟩ := h.update_refused held own apart u few
        (List.any_eq_true.mpr ⟨e.2, other, hit⟩)
      rw [refused, refused']
      exact ⟨rfl, sim⟩
    · have none : (pre ++ post).any (fun o => UserTable.collides s.emailUnique o
          (UserField.copyAll (UserTable.touched fields) u current)) = false := by
        rw [List.any_eq_false]
        intro o ho
        obtain ⟨stored, ne⟩ := (others o).mp ho
        obtain ⟨e, he, rfl⟩ := List.mem_map.mp stored
        rw [Bool.not_eq_true]
        exact free e he ne
      obtain ⟨k', done', held'⟩ := h.update_accepted held own apart u few none
      have users := UserTable.users_changed sim.sound split own apart
        (UserField.copyAll (UserTable.touched fields) u current)
      rw [done, done']
      refine ⟨rfl, of_users users rfl held' (sim.sound.changed_preserves ?_ free) ?_⟩
      · rw [UserTable.id_copyAll, own]
      · have readable := sim.readable
        rw [split, List.forall_mem_append, List.forall_mem_cons] at readable
        rw [List.forall_mem_append, List.forall_mem_cons]
        exact ⟨readable.1, storable.copyAll _ readable.2.1, readable.2.2⟩

theorem delete_agrees (h : UsableUsers s tpl) (sim : SimulatesUsers s k t) (id : UserId) :
    AgreeOnUsers s ((Storage.defaultUsers tpl).store.step (.delete id) k)
      ((UserTable.store s.emailUnique).step (.delete id) t) := by
  obtain ⟨k', deleted, held'⟩ := h.delete_eq sim.held id
  simp only [UserStore.step, UserEngine.store, UserTable.store]
  rw [deleted]
  refine ⟨rfl, of_users (UserTable.users_delete sim.sound id) rfl held'
    (sim.sound.delete_preserves id) ?_⟩
  exact fun o ho => sim.readable o (List.mem_filter.mp ho).1

/-! ## Steps -/

/-- What one call preserves when its fields fit into a statement. -/
theorem step_agrees (h : UsableUsers s tpl) (sim : SimulatesUsers s k t) {a : UserStep}
    (storable : a.Keeps Instant.IsStorable) (fits : a.fields.length ≤ Statement.columnLimit) :
    AgreeOnUsers s ((Storage.defaultUsers tpl).store.step a k)
      ((UserTable.store s.emailUnique).step a t) := by
  cases a with
  | init =>
      simp only [UserStore.step, UserTable.store, h.init_of_found sim.held]
      exact ⟨rfl, sim⟩
  | get i => exact get_agrees h sim i
  | getByName name => exact getByName_agrees h sim name
  | getByEmail address => exact getByEmail_agrees h sim address
  | insert now u => exact insert_agrees h sim u storable
  | update i u fields => exact update_agrees h sim i ⟨storable.1, storable.2⟩ fits
  | updateByNames i u names =>
      simp only [UserStore.step, UserStore.updateByNames]
      cases parsed : UserField.parseList names with
      | ok fields =>
          simp only [UserStep.fields, parsed] at fits
          exact update_agrees h sim i ⟨storable.1, storable.2⟩ fits
      | error e => exact ⟨rfl, sim⟩
  | delete i => exact delete_agrees h sim i

/-- In memory an update succeeds or reports a collision. -/
theorem update_results (sim : SimulatesUsers s k t) (i : UserId) (u : User)
    (fields : List UserField) :
    (UserTable.update s.emailUnique i u fields t).1 = .ok () ∨
      ∃ detail, (UserTable.update s.emailUnique i u fields t).1 = .error (.ambiguousUpdate detail) := by
  rcases UserTable.update_cases sim.sound i u fields with
    ⟨_, done⟩ | ⟨_, _, ⟨_, _, _, _, detail, refused⟩ | ⟨_, done⟩⟩
  · rw [done]
    exact .inl rfl
  · rw [refused]
    exact .inr ⟨detail, rfl⟩
  · rw [done]
    exact .inl rfl

theorem update_differs (h : UsableUsers s tpl) (sim : SimulatesUsers s k t) (i : UserId) (u : User)
    {fields : List UserField} (many : Statement.columnLimit < fields.length) :
    (UserAnswer.done ((Storage.defaultUsers tpl).update i u fields k).1).withoutDetail ≠
      (UserAnswer.done (UserTable.update s.emailUnique i u fields t).1).withoutDetail := by
  obtain ⟨message, refused⟩ := h.update_too_long (k := k) i u many
  rw [refused]
  rcases sim.update_results i u fields with done | ⟨detail, collides⟩
  · rw [done]
    exact nofun
  · rw [collides]
    exact nofun

/-- A call whose fields do not fit is refused by the database alone. -/
theorem step_differs (h : UsableUsers s tpl) (sim : SimulatesUsers s k t) {a : UserStep}
    (many : ¬ a.fields.length ≤ Statement.columnLimit) :
    ((Storage.defaultUsers tpl).store.step a k).1.withoutDetail ≠
      ((UserTable.store s.emailUnique).step a t).1.withoutDetail := by
  rw [Nat.not_le] at many
  cases a with
  | update i u fields => exact update_differs h sim i u many
  | updateByNames i u names =>
      simp only [UserStore.step, UserStore.updateByNames]
      cases parsed : UserField.parseList names with
      | ok fields =>
          simp only [UserStep.fields, parsed] at many
          exact update_differs h sim i u many
      | error e =>
          simp only [UserStep.fields, parsed] at many
          exact absurd many (Nat.not_lt_zero _)
  | _ => exact absurd many (Nat.not_lt_zero _)

/-! ## Runs -/

/-- A new table of users and an empty table in memory hold the same. -/
theorem start (s : StorageSettings) (held : HoldsUsers s k 0 []) : SimulatesUsers s k {} :=
  ⟨held, UserTable.Sound.empty s.emailUnique, nofun⟩

end SimulatesUsers

/-- **A run on the database looks like the same run in memory exactly when no
update lists more fields than a statement may set.**  From a new table of users
on, for any settings, all calls whose instants read back give the same results,
ids and users after the call, errors up to the words about a collision, and
after each of them both sides hold the same users.  An update of a longer list
fails on the database alone. -/
theorem users_look_alike_iff {s : StorageSettings} {tpl : Template} {k k₀ : Connection}
    (taken : Template.ofSettings s = .ok tpl) (settled : k.transaction = none)
    (fresh : k.contents.findTable? s.usersTable = none)
    (made : (Storage.userEngine tpl {}).store.init k = (.ok (), k₀)) (steps : List UserStep)
    (storable : ∀ a ∈ steps, a.Keeps Instant.IsStorable) :
    (trace (Storage.userEngine tpl {}).store.step steps k₀).map (Storage.seenUsers s.usersTable) =
        (trace (UserTable.store s.emailUnique).step steps {}).map UserTable.seen ↔
      ∀ a ∈ steps, a.fields.length ≤ Statement.columnLimit := by
  obtain ⟨usable, held⟩ := UsableUsers.of_init taken settled fresh made
  refine trace_map_eq_iff (fun a => a.fields.length ≤ Statement.columnLimit) ?_ ?_ steps k₀
    ({} : UserTable) storable (SimulatesUsers.start s held)
  · intro a k t keeps fits sim
    obtain ⟨answer, states⟩ := SimulatesUsers.step_agrees usable sim keeps fits
    exact ⟨Prod.ext answer states.usersIn_eq, states⟩
  · intro a k t keeps many sim same
    exact SimulatesUsers.step_differs usable sim many (congrArg Prod.fst same)

/-- Four calls under default names, one of them refused on both sides. -/
theorem users_look_alike_over_four_calls :
    let s : StorageSettings := { databasePath := "accounts.db" }
    let steps : List UserStep :=
      [.insert Instant.epoch (User.new "ada" "ada@example.org"),
        .updateByNames ⟨1⟩ { email := "ada@example.com", isStaff := true } ["Email", "IsStaff", "Email"],
        .insert ⟨1500000059, 1999999999⟩ (User.new "ada" ""), .get ⟨1⟩]
    ∃ tpl k₀, Template.ofSettings s = .ok tpl ∧
      (Storage.userEngine tpl {}).store.init (Connection.opened {}) = (.ok (), k₀) ∧
      (trace (Storage.userEngine tpl {}).store.step steps k₀).map (Storage.seenUsers s.usersTable) =
        (trace (UserTable.store s.emailUnique).step steps {}).map UserTable.seen := by
  intro s steps
  obtain ⟨tpl, taken⟩ := Template.exists_ofSettings (s := s) (by decide) (by decide)
  have usable : UsableUsers s tpl := ⟨Template.ofSettings_eq_ok taken, by decide, if_neg (by decide)⟩
  have made := usable.init_fresh (k := Connection.opened {}) rfl rfl rfl
  have storable : ∀ a ∈ steps, a.Keeps Instant.IsStorable := by
    simp only [steps, List.forall_mem_cons, UserStep.Keeps]
    exact ⟨Instant.epoch_isStorable, ⟨Instant.epoch_isStorable, Instant.epoch_isStorable⟩,
      ⟨by decide, by decide⟩, trivial, nofun⟩
  have fits : ∀ a ∈ steps, a.fields.length ≤ Statement.columnLimit := by decide
  exact ⟨_, _, taken, made,
    (users_look_alike_iff taken rfl rfl made steps storable).mpr fits⟩

end AccountStore
