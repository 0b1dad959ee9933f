/-
# AccountStore.Proofs.Config.Keys -- no table gives a key twice

Every table is filled by `Entries.put`, which keeps the keys in strictly rising
order (`rising_put`).  In a TOML document an assignment, a header and an inline
table each end in one `put` on the table that they change (`Puts`), so a path of
any length leaves the order alone at the two levels that a configuration has,
the document and its sections (`Toml.read?_sectioned`).  A variable gives one table
inside another, each with one key, around a value of its own notation.
-/
import AccountStore.Config.Toml.Document
import AccountStore.Config.Environment

namespace AccountStore.Config

set_option autoImplicit false

/-! ## Tables in order -/

/-- The keys of a table rise, so none stands twice. -/
def Rising {α : Type} (t : Entries α) : Prop := t.Pairwise fun p q => p.1 < q.1

namespace Entries

variable {α : Type}

theorem lt_of_not_lt {a b : String} (other : ¬ b = a) (h : ¬ b < a) : a < b :=
  Std.lt_of_le_of_ne (String.not_lt.mp h) (Ne.symm other)

theorem mem_put {t : Entries α} {key : String} {v : α} {p : String × α}
    (h : p ∈ t.put key v) : p = (key, v) ∨ p ∈ t := by
  induction t with
  | nil => exact .inl (List.mem_singleton.mp h)
  | cons q rest ih =>
      obtain ⟨k, w⟩ := q
      unfold put at h
      split at h
      · rcases List.mem_cons.mp h with here | later
        · exact .inl here
        · exact .inr (List.mem_cons_of_mem _ later)
      · split at h
        · exact List.mem_cons.mp h
        · rcases List.mem_cons.mp h with here | later
          · exact .inr (here ▸ List.mem_cons_self)
          · exact (ih later).imp_right (List.mem_cons_of_mem _)

/-- **A value is put where its key belongs.** -/
theorem rising_put {t : Entries α} (h : Rising t) (key : String) (v : α) :
    Rising (t.put key v) := by
  induction t with
  | nil => exact List.pairwise_singleton _ _
  | cons q rest ih =>
      obtain ⟨k, w⟩ := q
      obtain ⟨first, later⟩ := List.pairwise_cons.mp h
      unfold put
      split
      case isTrue same =>
        subst same
        exact List.pairwise_cons.mpr ⟨first, later⟩
      case isFalse other =>
        split
        case isTrue before =>
          refine List.pairwise_cons.mpr ⟨fun p hp => ?_, h⟩
          rcases List.mem_cons.mp hp with rfl | hp
          · exact before
          · exact String.lt_trans before (first p hp)
        case isFalse notBefore =>
          refine List.pairwise_cons.mpr ⟨fun p hp => ?_, ih later⟩
          rcases mem_put hp with rfl | hp
          · exact lt_of_not_lt other notBefore
          · exact first p hp

theorem get?_eq_none_iff {t : Entries α} {key : String} :
    t.get? key = none ↔ ∀ p ∈ t, p.1 ≠ key := by
  induction t with
  | nil => simp [get?]
  | cons q rest ih =>
      obtain ⟨k, w⟩ := q
      rw [get?, List.forall_mem_cons, ← ih]
      by_cases same : k = key <;> simp [same]

theorem mem_of_get? {t : Entries α} {key : String} {v : α} (h : t.get? key = some v) :
    (key, v) ∈ t := by
  induction t with
  | nil => cases h
  | cons q rest ih =>
      obtain ⟨k, w⟩ := q
      rw [get?] at h
      split at h
      · next same =>
          cases h
          exact same ▸ List.mem_cons_self
      · exact List.mem_cons_of_mem _ (ih h)

/-- In a table whose keys rise, a key has one value. -/
theorem get?_eq_some_iff {t : Entries α} (h : Rising t) {key : String} {v : α} :
    t.get? key = some v ↔ (key, v) ∈ t := by
  refine ⟨mem_of_get?, fun member => ?_⟩
  induction t with
  | nil => cases member
  | cons q rest ih =>
      obtain ⟨k, w⟩ := q
      obtain ⟨first, later⟩ := List.pairwise_cons.mp h
      rw [get?]
      rcases List.mem_cons.mp member with here | member
      · cases here
        exact if_pos rfl
      · have other : ¬ k = key := fun same => String.lt_irrefl k (same ▸ first _ member)
        rw [if_neg other, ih later member]

end Entries

open Entries

/-- The value is no table that gives a key twice. -/
def Value.Rising : Value → Prop
  | .table t => Config.Rising t
  | _ => True

/-- Neither the table nor a table in it gives a key twice. -/
def Sectioned (t : Entries Value) : Prop := Rising t ∧ ∀ p ∈ t, p.2.Rising

theorem Value.rising_single (key : String) (v : Value) : (Value.table [(key, v)]).Rising :=
  List.pairwise_singleton _ _

/-- Whatever is made of what was read gives no key twice. -/
theorem Value.rising_of_map {α : Type} {r : Option α} {f : α → Value × List Char} {v : Value}
    {rest : List Char} (h : r.map f = some (v, rest)) (each : ∀ a, (f a).1.Rising) : v.Rising := by
  obtain ⟨a, -, made⟩ := Option.map_eq_some_iff.mp h
  have := each a
  rwa [made] at this

namespace Toml

/-! ## Assignments and headers -/

def Item.Rising : Item → Prop
  | .value v => v.Rising
  | .table _ t => Config.Rising t
  | .tables _ => True

def Items.Sectioned (t : Items) : Prop := Rising t ∧ ∀ p ∈ t, p.2.Rising

/-- The change puts one item under one key; if the items before and what is new
have their keys in order, then so has this item. -/
def Puts (new : Prop) (t u : Items) : Prop :=
  ∃ key i, u = t.put key i ∧ (new → (∀ p ∈ t, p.2.Rising) → i.Rising)

theorem Puts.rising {new : Prop} {t u : Items} (h : Puts new t u) (rising : Rising t) :
    Rising u := by
  obtain ⟨key, i, rfl, -⟩ := h
  exact rising_put rising key i

theorem Puts.sectioned {new : Prop} {t u : Items} (h : Puts new t u) (hnew : new)
    (sound : Items.Sectioned t) : Items.Sectioned u := by
  obtain ⟨key, i, rfl, hi⟩ := h
  refine ⟨rising_put sound.1 key i, fun p hp => ?_⟩
  rcases mem_put hp with rfl | hp
  · exact hi hnew sound.2
  · exact sound.2 p hp

/-- A path changes the table below the first of its keys, and there it puts again. -/
theorem assign_puts {path : List String} {v : Value} {t u : Items}
    (h : assign path v t = some u) : Puts v.Rising t u := by
  induction path generalizing t u with
  | nil => cases h
  | cons key rest ih =>
      cases rest with
      | nil =>
          rw [assign] at h
          split at h
          · cases h
          · cases h
            exact ⟨key, .value v, rfl, fun hv _ => hv⟩
      | cons next rest =>
          rw [assign] at h
          · split at h
            · obtain ⟨w, made, rfl⟩ := Option.map_eq_some_iff.mp h
              exact ⟨key, _, rfl, fun _ _ => (ih made).rising .nil⟩
            · cases h
            · next found =>
                split at h
                · cases h
                · obtain ⟨w, made, rfl⟩ := Option.map_eq_some_iff.mp h
                  exact ⟨key, _, rfl, fun _ ht => (ih made).rising (ht _ (mem_of_get? found))⟩
            · split at h
              · cases h
              · obtain ⟨w, -, rfl⟩ := Option.map_eq_some_iff.mp h
                exact ⟨key, _, rfl, fun _ _ => trivial⟩
          · exact nofun

/-- What each step of a fold keeps, the fold keeps. -/
theorem foldlM_keeps {α β : Type} {P : β → Prop} {f : β → α → Option β} {xs : List α} {b c : β}
    (step : ∀ x ∈ xs, ∀ b c, P b → f b x = some c → P c) (start : P b)
    (h : xs.foldlM f b = some c) : P c := by
  induction xs generalizing b with
  | nil =>
      cases h
      exact start
  | cons x xs ih =>
      obtain ⟨first, later⟩ := List.forall_mem_cons.mp step
      obtain ⟨d, made, rest⟩ := Option.bind_eq_some_iff.mp h
      exact ih later (first b d start made) rest

theorem assignAll_rising {as : List Assignment} {t u : Items} (rising : Rising t)
    (h : assignAll as t = some u) : Rising u :=
  foldlM_keeps (fun _ _ _ _ ordered made => (assign_puts made).rising ordered) rising h

theorem assignAll_sectioned {as : List Assignment} {t u : Items} (hv : ∀ a ∈ as, a.2.Rising)
    (sound : Items.Sectioned t) (h : assignAll as t = some u) : Items.Sectioned u :=
  foldlM_keeps (fun a ha _ _ sound made => (assign_puts made).sectioned (hv a ha) sound) sound h

theorem Block.openIn_puts {b : Block} {key : String} {t u : Items} (h : b.openIn key t = some u) :
    Puts True t u := by
  unfold Block.openIn at h
  split at h
  · split at h
    · obtain ⟨w, -, rfl⟩ := Option.map_eq_some_iff.mp h
      exact ⟨key, _, rfl, fun _ _ => trivial⟩
    · obtain ⟨w, -, rfl⟩ := Option.map_eq_some_iff.mp h
      exact ⟨key, _, rfl, fun _ _ => trivial⟩
    · cases h
  · split at h
    · obtain ⟨w, made, rfl⟩ := Option.map_eq_some_iff.mp h
      exact ⟨key, _, rfl, fun _ _ => assignAll_rising .nil made⟩
    · next found =>
        obtain ⟨w, made, rfl⟩ := Option.map_eq_some_iff.mp h
        exact ⟨key, _, rfl, fun _ ht => assignAll_rising (ht _ (mem_of_get? found)) made⟩
    · cases h

/-- To change a table far down is to put something into the table at the top. -/
theorem changeAt_puts {f : Items → Option Items} (hf : ∀ t u, f t = some u → Puts True t u)
    {path : List String} {t u : Items} (h : changeAt f path t = some u) : Puts True t u := by
  induction path generalizing t u with
  | nil => exact hf t u h
  | cons key rest ih =>
      rw [changeAt] at h
      split at h
      · obtain ⟨w, made, rfl⟩ := Option.map_eq_some_iff.mp h
        exact ⟨key, _, rfl, fun _ _ => (ih made).rising .nil⟩
      · cases h
      · next found =>
          obtain ⟨w, made, rfl⟩ := Option.map_eq_some_iff.mp h
          exact ⟨key, _, rfl, fun _ ht => (ih made).rising (ht _ (mem_of_get? found))⟩
      · obtain ⟨w, -, rfl⟩ := Option.map_eq_some_iff.mp h
        exact ⟨key, _, rfl, fun _ _ => trivial⟩

theorem Block.addTo_puts {b : Block} {t u : Items} (h : b.addTo t = some u) : Puts True t u := by
  unfold Block.addTo at h
  split at h
  · cases h
  · exact changeAt_puts (fun _ _ => openIn_puts) h

/-! ## Items as values -/

theorem mem_toEntries {t : Items} {p : String × Value} (h : p ∈ toEntries t) :
    ∃ i, (p.1, i) ∈ t ∧ p.2 = i.toValue := by
  induction t with
  | nil => cases h
  | cons q rest ih =>
      obtain ⟨k, i⟩ := q
      rcases List.mem_cons.mp h with rfl | h
      · exact ⟨i, List.mem_cons_self, rfl⟩
      · obtain ⟨j, hj, same⟩ := ih h
        exact ⟨j, List.mem_cons_of_mem _ hj, same⟩

theorem rising_toEntries {t : Items} (h : Rising t) : Rising (toEntries t) := by
  induction t with
  | nil => exact .nil
  | cons q rest ih =>
      obtain ⟨k, i⟩ := q
      obtain ⟨first, later⟩ := List.pairwise_cons.mp h
      refine List.pairwise_cons.mpr ⟨fun p hp => ?_, ih later⟩
      obtain ⟨j, hj, -⟩ := mem_toEntries hp
      exact first _ hj

theorem Item.rising_toValue {i : Item} (h : i.Rising) : i.toValue.Rising := by
  cases i with
  | value v => exact h
  | table origin t => exact rising_toEntries h
  | tables ts => trivial

theorem Items.Sectioned.toEntries {t : Items} (h : Items.Sectioned t) :
    Config.Sectioned (Toml.toEntries t) := by
  refine ⟨rising_toEntries h.1, fun p hp => ?_⟩
  obtain ⟨i, hi, same⟩ := mem_toEntries hp
  rw [same]
  exact Item.rising_toValue (h.2 _ hi)

/-! ## Values of a document -/

theorem readBased?_rising {base : Nat} {s : List Char} {v : Value}
    (h : readBased? base s = some v) : v.Rising := by
  simp only [readBased?] at h
  split at h
  · cases h
  · split at h
    · cases h
      trivial
    · cases h

theorem readWhole?_rising {s : List Char} {v : Value} (h : readWhole? s = some v) : v.Rising := by
  unfold readWhole? at h
  split at h
  · cases h
  · obtain ⟨n, -, rfl⟩ := Option.map_eq_some_iff.mp h
    trivial

theorem readDecimal?_rising {s : List Char} {v : Value} (h : readDecimal? s = some v) :
    v.Rising := by
  unfold readDecimal? at h
  extract_lets body rest point fraction exponent at h
  split at h
  · cases h
  · split at h
    · split at h
      · split at h
        · cases h
        · cases h
          trivial
      · cases h
    · cases h

theorem readSpecial?_rising {s : List Char} {v : Value} (h : readSpecial? s = some v) :
    v.Rising := by
  simp only [readSpecial?] at h
  split at h
  · obtain ⟨x, -, rfl⟩ := Option.map_eq_some_iff.mp h
    trivial
  · cases h

theorem readNumber?_rising {s : List Char} {v : Value} (h : readNumber? s = some v) :
    v.Rising := by
  unfold readNumber? at h
  split at h
  · exact readBased?_rising h
  · exact readBased?_rising h
  · exact readBased?_rising h
  · rw [Option.orElse_eq_orElse, Option.orElse_eq_or, Option.or_eq_some_iff] at h
    rcases h with special | ⟨-, h⟩
    · exact readSpecial?_rising special
    · rw [Option.orElse_eq_or, Option.or_eq_some_iff] at h
      rcases h with decimal | ⟨-, whole⟩
      · exact readDecimal?_rising decimal
      · exact readWhole?_rising whole

theorem readWord_rising {s rest : List Char} {v : Value} (h : readWord s = some (v, rest)) :
    v.Rising := by
  simp only [readWord] at h
  split at h
  · cases h
    exact Value.rising_single _ _
  · obtain ⟨w, word, same⟩ := Option.map_eq_some_iff.mp h
    cases same
    unfold readWord? at word
    split at word
    · cases word
      trivial
    · split at word
      · cases word
        trivial
      · split at word
        · cases word
          exact Value.rising_single _ _
        · exact readNumber?_rising word

theorem readPlain_rising {s rest : List Char} {v : Value} (h : readPlain s = some (v, rest)) :
    v.Rising := by
  unfold readPlain at h
  split at h
  · exact Value.rising_of_map h fun _ => trivial
  · exact Value.rising_of_map h fun _ => trivial
  · exact readWord_rising h

/-- **A value of a document gives no key twice.** -/
theorem readValue_rising {depth : Nat} {s rest : List Char} {v : Value}
    (h : readValue depth s = some (v, rest)) : v.Rising := by
  cases depth with
  | zero => exact readPlain_rising h
  | succ depth =>
      rw [readValue] at h
      dsimp only at h
      split at h
      · exact Value.rising_of_map h fun _ => trivial
      · simp only [readInlineTable] at h
        split at h
        · cases h
        · obtain ⟨t, made, same⟩ := Option.map_eq_some_iff.mp h
          cases same
          exact rising_toEntries (assignAll_rising .nil made)
      · exact readPlain_rising h

/-! ## Whole documents -/

/-- The value on the line, if there is one, gives no key twice. -/
def Line.Rising : Line → Prop
  | .assignment a => a.2.Rising
  | _ => True

theorem readHeader_rising {repeated : Bool} {s rest : List Char} {line : Line}
    (h : readHeader repeated s = some (line, rest)) : line.Rising := by
  unfold readHeader at h
  split at h
  · cases h
  · extract_lets closing at h
    split at h
    · cases h
      trivial
    · cases h

theorem readContent_rising {s rest : List Char} {line : Line}
    (h : readContent s = some (line, rest)) : line.Rising := by
  unfold readContent at h
  split at h
  · cases h
    trivial
  · cases h
    trivial
  · cases h
    trivial
  · cases h
    trivial
  · exact readHeader_rising h
  · exact readHeader_rising h
  · obtain ⟨p, found, same⟩ := Option.map_eq_some_iff.mp h
    cases same
    unfold readAssignment at found
    split at found
    · obtain ⟨q, value, same⟩ := Option.map_eq_some_iff.mp found
      cases same
      exact readValue_rising value
    · cases found

theorem readLines_rising {fuel : Nat} {s : List Char} {lines : List Line}
    (h : readLines fuel s = some lines) : ∀ line ∈ lines, line.Rising := by
  induction fuel generalizing s lines with
  | zero =>
      cases h
      exact nofun
  | succ fuel ih =>
      rw [readLines] at h
      split at h
      · cases h
      · next found =>
          have first := readContent_rising found
          split at h
          · cases h
          · cases h
            exact List.forall_mem_singleton.mpr first
          · obtain ⟨later, made, rfl⟩ := Option.map_eq_some_iff.mp h
            exact List.forall_mem_cons.mpr ⟨first, ih made⟩

theorem blocks_rising {lines : List Line} (h : ∀ line ∈ lines, line.Rising) :
    (∀ a ∈ (blocks lines).1, a.2.Rising) ∧
      ∀ b ∈ (blocks lines).2, ∀ a ∈ b.assignments, a.2.Rising := by
  induction lines with
  | nil => exact ⟨nofun, nofun⟩
  | cons line rest ih =>
      obtain ⟨first, later⟩ := List.forall_mem_cons.mp h
      obtain ⟨assignments, headed⟩ := ih later
      cases line with
      | blank => exact ⟨assignments, headed⟩
      | assignment a => exact ⟨List.forall_mem_cons.mpr ⟨first, assignments⟩, headed⟩
      | header path repeated => exact ⟨nofun, List.forall_mem_cons.mpr ⟨assignments, headed⟩⟩

/-- **A document gives no key twice, and neither does a section of it.** -/
theorem read?_sectioned {text : String} {t : Entries Value} (h : read? text = some t) :
    Config.Sectioned t := by
  obtain ⟨lines, read, h⟩ := Option.bind_eq_some_iff.mp h
  obtain ⟨root, assigned, h⟩ := Option.bind_eq_some_iff.mp h
  obtain ⟨whole, headed, h⟩ := Option.bind_eq_some_iff.mp h
  cases h
  have start : Items.Sectioned [] := ⟨.nil, nofun⟩
  have first := assignAll_sectioned (blocks_rising (readLines_rising read)).1 start assigned
  have all : Items.Sectioned whole :=
    foldlM_keeps (fun _ _ _ _ sound made => (Block.addTo_puts made).sectioned trivial sound) first
      headed
  exact all.toEntries

end Toml

namespace Variable

/-! ## Values of a variable -/

theorem rising_tableOf (pairs : List (String × Value)) : Rising (tableOf pairs) := by
  have keeps : ∀ (t : Entries Value), Rising t →
      Rising (pairs.foldl (fun t p => t.put p.1 p.2) t) := by
    induction pairs with
    | nil => exact fun t ht => ht
    | cons p pairs ih => exact fun t ht => ih _ (rising_put ht _ _)
  exact keeps [] .nil

theorem ofUnquoted_rising (s : List Char) : (ofUnquoted s).Rising := by
  unfold ofUnquoted
  split
  · trivial
  · split
    · trivial
    · split <;> trivial

theorem readBody_rising {value : Reader Value} {s rest : List Char} {v : Value}
    (h : readBody value s = some (v, rest)) : v.Rising := by
  unfold readBody at h
  split at h
  · cases h
    trivial
  · cases h
    trivial
  · split at h
    · exact Value.rising_of_map h fun _ => rising_tableOf _
    · exact Value.rising_of_map h fun _ => trivial
    · exact Value.rising_of_map h fun _ => trivial
    · cases h
      trivial
    · cases h
    · cases h
      exact ofUnquoted_rising _

/-- **The value of a variable gives no key twice.** -/
theorem read_rising (text : String) : (read text).Rising := by
  unfold read
  split
  · next found =>
      obtain ⟨p, body, same⟩ := Option.map_eq_some_iff.mp found
      exact (Prod.mk.inj same).1 ▸ readBody_rising body
  · trivial

end Variable

end AccountStore.Config
