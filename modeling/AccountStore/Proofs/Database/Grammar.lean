/-
# AccountStore.Proofs.Database.Grammar -- what the reader makes of a statement

Most of a statement is a list with commas.  `items_intercalate` takes such a
list apart again and `readAll_closedItems` reads it item by item, for any way
of reading one item.  From these two come the forms of statements over any
names that are no reserved words, however many columns they list.
-/
import AccountStore.Database.Statement

namespace AccountStore.Database

set_option autoImplicit false

namespace Statement

/-! ## Lists with commas -/

/-- The items of a list with commas; after the last one comes `t`. -/
def closedItems (t : Token) : List (List Token) → List Item
  | [] => []
  | [ts] => [⟨ts, t⟩]
  | ts :: more => ⟨ts, .mark ","⟩ :: closedItems t more

/-- A token that neither ends an item nor a list. -/
def Inner (stop : Token → Bool) (t : Token) : Prop := stop t = false ∧ t ≠ .mark ","

theorem items_ne_nil (stop : Token → Bool) : ∀ ts : List Token, (items stop ts).1 ≠ []
  | [] => by simp [items]
  | t :: rest => by
      unfold items
      split
      · simp
      · simp only
        split
        · simp
        · split <;> simp

theorem items_inner {stop : Token → Bool} {t : Token} (h : Inner stop t) (rest : List Token) :
    ∃ i more, (items stop rest).1 = i :: more ∧
      items stop (t :: rest) = (⟨t :: i.tokens, i.after⟩ :: more, (items stop rest).2) := by
  cases found : (items stop rest).1 with
  | nil => exact absurd found (items_ne_nil stop rest)
  | cons i more =>
      refine ⟨i, more, rfl, ?_⟩
      rw [items, h.1, if_neg Bool.false_ne_true]
      simp only [h.2, if_false, found]

/-- One item ends where something stops it. -/
theorem items_append {stop : Token → Bool} :
    ∀ {ts : List Token}, (∀ t ∈ ts, Inner stop t) → ∀ {rest : List Token} {is left after},
      items stop rest = (⟨[], after⟩ :: is, left) →
      items stop (ts ++ rest) = (⟨ts, after⟩ :: is, left)
  | [], _, _, _, _, _, h => h
  | t :: ts, inner, rest, is, left, after, h => by
      have later := items_append (fun u hu => inner u (List.mem_cons_of_mem _ hu)) h
      obtain ⟨i, more, first, eq⟩ := items_inner (inner t List.mem_cons_self) (ts ++ rest)
      rw [later] at first eq
      cases first
      exact eq

theorem items_intercalate (stop : Token → Bool) (comma : stop (.mark ",") = false) {t : Token}
    (ends : stop t = true) (rest : List Token) :
    ∀ {tss : List (List Token)}, tss ≠ [] → (∀ ts ∈ tss, ∀ u ∈ ts, Inner stop u) →
      items stop ([Token.mark ","].intercalate tss ++ t :: rest) = (closedItems t tss, rest)
  | [], ne, _ => absurd rfl ne
  | [ts], _, inner => by
      rw [List.intercalate_singleton]
      exact items_append (inner ts List.mem_cons_self) (by rw [items, if_pos ends])
  | ts :: us :: more, _, inner => by
      have later := items_intercalate stop comma ends rest (List.cons_ne_nil us more)
        (fun vs hv => inner vs (List.mem_cons_of_mem _ hv))
      rw [List.intercalate_cons_cons, List.append_assoc, List.append_assoc]
      refine items_append (inner ts List.mem_cons_self) ?_
      rw [List.singleton_append, items, comma, if_neg Bool.false_ne_true]
      simp only [later, if_true]

theorem readAll_closedItems {α β : Type} {f : Item → Read β} {token : α → List Token}
    {g : α → β} (t : Token) :
    ∀ {xs : List α}, (∀ x ∈ xs, ∀ after, f ⟨token x, after⟩ = .ok (g x)) →
      readAll f (closedItems t (xs.map token)) = .ok (xs.map g)
  | [], _ => rfl
  | [x], h => by
      simp only [List.map_cons, List.map_nil, closedItems, readAll, h x List.mem_cons_self]
      rfl
  | x :: y :: more, h => by
      have later := readAll_closedItems t (fun z hz => h z (List.mem_cons_of_mem _ hz))
      simp only [List.map_cons] at later ⊢
      rw [closedItems, readAll, h x List.mem_cons_self, later]
      · rfl
      · exact nofun

theorem getLast?_closedItems (t : Token) :
    ∀ {tss : List (List Token)}, tss ≠ [] →
      (closedItems t tss).getLast?.map Item.after = some t
  | [], ne => absurd rfl ne
  | [_], _ => rfl
  | _ :: us :: more, _ => by
      have later := getLast?_closedItems t (List.cons_ne_nil us more)
      rw [closedItems]
      · rw [List.getLast?_cons]
        cases last : (closedItems t (us :: more)).getLast? with
        | none => rw [last] at later; cases later
        | some i => rw [last] at later; exact later
      · exact nofun

theorem readParenthesized_intercalate {α β : Type} {f : Item → Read β} {token : α → List Token}
    {g : α → β} {xs : List α} (ne : xs ≠ [])
    (inner : ∀ x ∈ xs, ∀ t ∈ token x, Inner isClosing t)
    (h : ∀ x ∈ xs, ∀ after, f ⟨token x, after⟩ = .ok (g x)) (rest : List Token) :
    readParenthesized f (.mark "(" ::
        ([Token.mark ","].intercalate (xs.map token) ++ .mark ")" :: rest)) =
      .ok (xs.map g, rest) := by
  have tokens_ne : xs.map token ≠ [] := by simpa using ne
  have split := items_intercalate isClosing rfl (t := .mark ")") rfl rest tokens_ne
    (by simpa using inner)
  have opened : ∀ ts, skipMark "(" (.mark "(" :: ts) = .ok ts := fun _ => rfl
  rw [readParenthesized, opened]
  simp only [bind, Except.bind, split, readAll_closedItems _ h, getLast?_closedItems _ tokens_ne]
  rfl

/-! ## Names -/

/-- A name that may stand in a statement as it is. -/
def Free (s : String) : Prop := isReserved s = false

instance (s : String) : Decidable (Free s) := inferInstanceAs (Decidable (isReserved s = false))

theorem nameOf_word {s : String} (h : Free s) : nameOf (.word s) = .ok s := by
  rw [Free] at h
  simp only [nameOf, h, Bool.false_eq_true, if_false]

theorem readName_word {s : String} (h : Free s) (rest : List Token) :
    readName (.word s :: rest) = .ok (s, rest) := by
  simp only [readName, nameOf_word h, Except.map]

/-- A free name is none of the reserved words. -/
theorem isWord_of_free {s w : String} (h : Free s) (reserved : w ∈ reserved) :
    (Token.word s).isWord w = false := by
  simp only [Token.isWord, beq_eq_false_iff_ne]
  rintro rfl
  simp [Free, isReserved, reserved] at h

theorem readSingle_name {s : String} (h : Free s) (after : Token) :
    readSingle nameOf ⟨[.word s], after⟩ = .ok s := nameOf_word h

theorem readSelected_name {s : String} (h : Free s) (after : Token) :
    readSelected ⟨[.word s], after⟩ = .ok (s, none) := by
  simp only [readSelected, nameOf_word h, Except.map]

theorem readAssignment_parameter {s : String} (h : Free s) (w : String) (n : Nat) (after : Token) :
    readAssignment ⟨[.word s, .mark "=", .parameter w n], after⟩ = .ok (s, .parameter n) := by
  simp only [readAssignment, nameOf_word h, bind, Except.bind, operandOf, if_true, pure, Except.pure]

/-! ## Statements -/

theorem skipWord_word {s w : String} (h : (Token.word s).isWord w = true) (rest : List Token) :
    skipWord w (.word s :: rest) = .ok rest := by
  rw [skipWord, if_pos h]

theorem readCondition_equal {column : String} (h : Free column) (w : String) (n : Nat)
    (marked : Bool) :
    readCondition [.word column, .mark "=", .parameter w n, .finish marked] =
      .ok ⟨column, .equal, .parameter n⟩ := by
  simp only [readCondition, readName_word h, bind, Except.bind, operandOf, if_true, finished, pure,
    Except.pure]

theorem readCondition_atMost {column : String} (h : Free column) (w : String) (n : Nat)
    (marked : Bool) :
    readCondition [.word column, .mark "<=", .parameter w n, .finish marked] =
      .ok ⟨column, .atMost, .parameter n⟩ := by
  have ne : "<=" ≠ "=" := by decide
  simp only [readCondition, readName_word h, bind, Except.bind, operandOf, ne, if_false, if_true,
    finished, pure, Except.pure]

theorem ofTokens_select {columns : List String} (some : columns ≠ [])
    (free : ∀ s ∈ columns, Free s) {table : String} (ht : Free table) {c : Condition}
    {condition : List Token} (hc : readCondition condition = .ok c) :
    ofTokens (.word "SELECT" :: ([Token.mark ","].intercalate (columns.map fun s => [.word s]) ++
        .word "FROM" :: .word table :: .word "WHERE" :: condition)) =
      .ok (.select (columns.map fun s => (s, none)) table c) := by
  have inner : ∀ ts ∈ columns.map (fun s => [Token.word s]), ∀ t ∈ ts,
      Inner (fun t => t.isWord "from" || t.isFinish) t := by
    intro ts hts t ht
    obtain ⟨s, hs, rfl⟩ := List.mem_map.mp hts
    rw [List.mem_singleton.mp ht]
    have other : (Token.word s).isWord "from" = false := isWord_of_free (free s hs) (by decide)
    exact ⟨by simp only [other, Token.isFinish, Bool.or_self], nofun⟩
  have split := items_intercalate (fun t => t.isWord "from" || t.isFinish) rfl
    (t := .word "FROM") rfl (.word table :: .word "WHERE" :: condition)
    (by simpa using some : columns.map (fun s => [Token.word s]) ≠ []) inner
  have start : ∀ ts, ofTokens (.word "SELECT" :: ts) = readSelect ts := fun _ => rfl
  rw [start, readSelect, split]
  simp only [List.isEmpty_cons, Bool.false_eq_true, if_false, bind, Except.bind,
    readAll_closedItems _ (fun s hs => readSelected_name (free s hs)), readName_word ht,
    skipWord_word (s := "WHERE") (w := "where") rfl, hc, pure, Except.pure]

theorem ofTokens_insert {columns : List String} (some : columns ≠ [])
    (free : ∀ s ∈ columns, Free s) {table : String} (ht : Free table)
    (operands : List (String × Nat)) (some' : operands ≠ []) (marked : Bool) :
    ofTokens (.word "INSERT" :: .word "INTO" :: .word table :: .mark "(" ::
        ([Token.mark ","].intercalate (columns.map fun s => [.word s]) ++ .mark ")" ::
          .word "VALUES" :: .mark "(" ::
            ([Token.mark ","].intercalate (operands.map fun p => [.parameter p.1 p.2]) ++
              .mark ")" :: [.finish marked]))) =
      .ok (.insert table columns (operands.map fun p => .parameter p.2)) := by
  have inner : ∀ s ∈ columns, ∀ t ∈ [Token.word s], Inner isClosing t := by
    intro s _ t ht
    rw [List.mem_singleton.mp ht]
    exact ⟨rfl, nofun⟩
  have inner' : ∀ p ∈ operands, ∀ t ∈ [Token.parameter p.1 p.2], Inner isClosing t := by
    intro p _ t ht
    rw [List.mem_singleton.mp ht]
    exact ⟨rfl, nofun⟩
  have start : ∀ ts, ofTokens (.word "INSERT" :: ts) = readInsert ts := fun _ => rfl
  rw [start, readInsert, skipWord_word (w := "into") rfl]
  simp only [bind, Except.bind, readName_word ht,
    readParenthesized_intercalate some inner (fun s hs => readSingle_name (free s hs)),
    skipWord_word (s := "VALUES") (w := "values") rfl,
    readParenthesized_intercalate (f := readSingle operandOf)
      (g := fun p : String × Nat => Operand.parameter p.2) some' inner' (fun _ _ _ => rfl),
    finished, pure, Except.pure, List.map_id']

theorem ofTokens_update (assignments : List (String × String × Nat)) (some : assignments ≠ [])
    (free : ∀ a ∈ assignments, Free a.1) {table : String} (ht : Free table) {c : Condition}
    {condition : List Token} (hc : readCondition condition = .ok c) :
    ofTokens (.word "UPDATE" :: .word table :: .word "SET" ::
        ([Token.mark ","].intercalate
            (assignments.map fun a => [.word a.1, .mark "=", .parameter a.2.1 a.2.2]) ++
          .word "WHERE" :: condition)) =
      .ok (.update table (assignments.map fun a => (a.1, .parameter a.2.2)) c) := by
  have inner : ∀ ts ∈ assignments.map
      (fun a => [Token.word a.1, .mark "=", .parameter a.2.1 a.2.2]), ∀ t ∈ ts,
      Inner (fun t => t.isWord "where" || t.isFinish) t := by
    intro ts hts t ht
    obtain ⟨a, ha, rfl⟩ := List.mem_map.mp hts
    simp only [List.mem_cons, List.not_mem_nil, or_false] at ht
    rcases ht with rfl | rfl | rfl
    · have other : (Token.word a.1).isWord "where" = false := isWord_of_free (free a ha) (by decide)
      exact ⟨by simp only [other, Token.isFinish, Bool.or_self], nofun⟩
    · exact ⟨rfl, by decide⟩
    · exact ⟨rfl, nofun⟩
  have split := items_intercalate (fun t => t.isWord "where" || t.isFinish) rfl
    (t := .word "WHERE") rfl condition (by simpa using some) inner
  have start : ∀ ts, ofTokens (.word "UPDATE" :: ts) = readUpdate ts := fun _ => rfl
  rw [start, readUpdate]
  simp only [bind, Except.bind, readName_word ht, skipWord_word (s := "SET") (w := "set") rfl,
    split, readAll_closedItems _ (fun a ha => readAssignment_parameter (free a ha) a.2.1 a.2.2),
    hc, pure, Except.pure]

theorem ofTokens_delete {table : String} (ht : Free table) {c : Condition} {condition : List Token}
    (hc : readCondition condition = .ok c) :
    ofTokens (.word "DELETE" :: .word "FROM" :: .word table :: .word "WHERE" :: condition) =
      .ok (.delete table c) := by
  have start : ∀ ts, ofTokens (.word "DELETE" :: ts) = readDelete ts := fun _ => rfl
  rw [start, readDelete, skipWord_word (w := "from") rfl]
  simp only [bind, Except.bind, readName_word ht, skipWord_word (s := "WHERE") (w := "where") rfl,
    hc, pure, Except.pure]

/-! ## Declarations -/

theorem nameOf_reserved {s : String} (h : isReserved s = true) : nameOf (.word s) = fail (.word s) := by
  simp only [nameOf, h, if_true]

theorem readIfNotExists_words (ts : List Token) :
    readIfNotExists (.word "IF" :: .word "NOT" :: .word "EXISTS" :: ts) = (true, ts) := rfl

theorem ofTokens_createTable {name : String} (h : Free name) {rest : List Token}
    {columns : List ColumnDefinition} (read : readColumns rest = (columns, .ok ())) :
    ofTokens (.word "CREATE" :: .word "TABLE" :: .word "IF" :: .word "NOT" :: .word "EXISTS" ::
        .word name :: rest) = .ok (.createTable ⟨true, name, columns⟩) := by
  have start : ∀ ts, ofTokens (.word "CREATE" :: .word "TABLE" :: ts) = readCreateTable ts :=
    fun _ => rfl
  rw [start, readCreateTable, readIfNotExists_words]
  simp only [bind, Except.bind, readName_word h, read, pure, Except.pure]

/-- A table cannot have a reserved word for its name. -/
theorem ofTokens_createTable_reserved {name : String} (h : isReserved name = true)
    (rest : List Token) :
    ofTokens (.word "CREATE" :: .word "TABLE" :: .word "IF" :: .word "NOT" :: .word "EXISTS" ::
        .word name :: rest) = fail (.word name) := by
  have start : ∀ ts, ofTokens (.word "CREATE" :: .word "TABLE" :: ts) = readCreateTable ts :=
    fun _ => rfl
  rw [start, readCreateTable, readIfNotExists_words]
  simp only [bind, Except.bind, readName, nameOf_reserved h]
  rfl

theorem ofTokens_createIndex {name table column : String} (hn : Free name) (ht : Free table)
    (hc : Free column) (marked : Bool) :
    ofTokens [.word "CREATE", .word "INDEX", .word "IF", .word "NOT", .word "EXISTS", .word name,
        .word "ON", .word table, .mark "(", .word column, .mark ")", .finish marked] =
      .ok (.createIndex true name table [column]) := by
  have inner : ∀ s ∈ [column], ∀ t ∈ [Token.word s], Inner isClosing t := by
    intro s _ t ht
    rw [List.mem_singleton.mp ht]
    exact ⟨rfl, nofun⟩
  have columns := readParenthesized_intercalate (List.cons_ne_nil column []) inner
    (fun s hs => readSingle_name (List.mem_singleton.mp hs ▸ hc)) [.finish marked]
  rw [List.map_singleton, List.intercalate_singleton] at columns
  have start : ∀ ts, ofTokens (.word "CREATE" :: .word "INDEX" :: ts) = readCreateIndex ts :=
    fun _ => rfl
  have whole : [Token.mark "(", .word column, .mark ")", .finish marked] =
    .mark "(" :: ([.word column] ++ .mark ")" :: [.finish marked]) := rfl
  rw [start, readCreateIndex, readIfNotExists_words, whole]
  simp only [bind, Except.bind, readName_word hn, readName_word ht,
    skipWord_word (s := "ON") (w := "on") rfl, columns, finished, pure, Except.pure, List.map_id']

end Statement

end AccountStore.Database
