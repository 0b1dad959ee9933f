/-
# AccountStore.Proofs.Store.Run -- runs of calls on a store

A step is one call with its arguments.  What a call takes from outside comes
with the step: an insert of a user brings the clock's reading, a retried insert
of a session the random bytes of its fresh keys.  So a step is the same step on
every store, and two stores can be held against each other call by call.

A trace lists the answer of every step with the state after it.  What one step
preserves holds along a trace (`forall_trace`), and two systems whose steps
correspond have traces that look alike (`trace_map_eq_iff_zip`).
-/
import AccountStore.Store.Retry

namespace AccountStore

set_option autoImplicit false

/-! ## Traces -/

section Trace

variable {α β γ δ σ τ : Type}

def trace (step : α → σ → β × σ) : List α → σ → List (β × σ)
  | [], _ => []
  | a :: rest, s => step a s :: trace step rest (step a s).2

/-- The state that a run ends in. -/
def after (step : α → σ → β × σ) (as : List α) (s : σ) : σ := as.foldl (fun s a => (step a s).2) s

theorem trace_append (step : α → σ → β × σ) : ∀ (as bs : List α) (s : σ),
    trace step (as ++ bs) s = trace step as s ++ trace step bs (after step as s)
  | [], _, _ => rfl
  | a :: as, bs, s => congrArg (step a s :: ·) (trace_append step as bs (step a s).2)

theorem after_append (step : α → σ → β × σ) (as bs : List α) (s : σ) :
    after step (as ++ bs) s = after step bs (after step as s) :=
  List.foldl_append

theorem trace_map (f : α → γ) (step : γ → σ → β × σ) : ∀ (as : List α) (s : σ),
    trace (fun a => step (f a)) as s = trace step (as.map f) s
  | [], _ => rfl
  | a :: as, s => congrArg (step (f a) s :: ·) (trace_map f step as (step (f a) s).2)

theorem after_map (f : α → γ) (step : γ → σ → β × σ) (as : List α) (s : σ) :
    after (fun a => step (f a)) as s = after step (as.map f) s := by
  rw [after, after, List.foldl_map]

/-- What the steps of a run preserve holds where it ends. -/
theorem holds_after {step : α → σ → β × σ} {Inv : σ → Prop}
    (preserved : ∀ a s, Inv s → Inv (step a s).2) :
    ∀ (as : List α) {s : σ}, Inv s → Inv (after step as s)
  | [], _, holds => holds
  | a :: as, _, holds => holds_after preserved as (preserved a _ holds)

/-- What the steps of a run preserve holds in every state of its trace. -/
theorem forall_trace {step : α → σ → β × σ} {Inv : σ → Prop} :
    ∀ {as : List α} {s : σ}, (∀ a ∈ as, ∀ s, Inv s → Inv (step a s).2) → Inv s →
      ∀ e ∈ trace step as s, Inv e.2
  | [], _, _, _ => by simp [trace]
  | a :: rest, s, preserved, holds => by
      intro e he
      obtain ⟨first, later⟩ := List.forall_mem_cons.mp preserved
      rcases List.mem_cons.mp he with rfl | he
      · exact first s holds
      · exact forall_trace later (first s holds) e he

/-- **Two systems look alike along a run exactly as far as its steps fit.**
From related states, a step that fits gives the same view on both sides and
related states; one that does not gives different views.  Whether a step fits is
decided by what the second system answers and becomes. -/
theorem trace_map_eq_iff_zip {step : α → σ → β × σ} {step' : α → τ → γ × τ} {view : β × σ → δ}
    {view' : γ × τ → δ} {Related : σ → τ → Prop} {Admitted : α → Prop} (Fits : α → γ × τ → Prop)
    (agree : ∀ a s t, Admitted a → Fits a (step' a t) → Related s t →
      view (step a s) = view' (step' a t) ∧ Related (step a s).2 (step' a t).2)
    (differ : ∀ a s t, Admitted a → ¬ Fits a (step' a t) → Related s t →
      view (step a s) ≠ view' (step' a t)) :
    ∀ (as : List α) (s : σ) (t : τ), (∀ a ∈ as, Admitted a) → Related s t →
      ((trace step as s).map view = (trace step' as t).map view' ↔
        ∀ p ∈ as.zip (trace step' as t), Fits p.1 p.2)
  | [], _, _, _, _ => by simp [trace]
  | a :: rest, s, t, admitted, related => by
      have first : Admitted a := admitted a List.mem_cons_self
      have later : ∀ b ∈ rest, Admitted b := fun b hb => admitted b (List.mem_cons_of_mem _ hb)
      simp only [trace, List.map_cons, List.cons.injEq, List.zip_cons_cons, List.forall_mem_cons]
      by_cases fits : Fits a (step' a t)
      · obtain ⟨same, related'⟩ := agree a s t first fits related
        rw [trace_map_eq_iff_zip Fits agree differ rest _ _ later related']
        exact and_congr (iff_of_true same fits) Iff.rfl
      · have unlike := differ a s t first fits related
        exact iff_of_false (fun h => unlike h.1) (fun h => fits h.1)

theorem forall_zip_trace {step : α → σ → β × σ} {P : α → Prop} : ∀ {as : List α} {s : σ},
    (∀ p ∈ as.zip (trace step as s), P p.1) ↔ ∀ a ∈ as, P a
  | [], _ => by simp [trace]
  | a :: rest, s => by
      simp only [trace, List.zip_cons_cons, List.forall_mem_cons, forall_zip_trace]

/-- Whether a step fits may be decided by the step alone. -/
theorem trace_map_eq_iff {step : α → σ → β × σ} {step' : α → τ → γ × τ} {view : β × σ → δ}
    {view' : γ × τ → δ} {Related : σ → τ → Prop} {Admitted : α → Prop} (Fits : α → Prop)
    (agree : ∀ a s t, Admitted a → Fits a → Related s t →
      view (step a s) = view' (step' a t) ∧ Related (step a s).2 (step' a t).2)
    (differ : ∀ a s t, Admitted a → ¬ Fits a → Related s t →
      view (step a s) ≠ view' (step' a t))
    (as : List α) (s : σ) (t : τ) (admitted : ∀ a ∈ as, Admitted a) (related : Related s t) :
    (trace step as s).map view = (trace step' as t).map view' ↔ ∀ a ∈ as, Fits a :=
  (trace_map_eq_iff_zip (fun a _ => Fits a) agree differ as s t admitted related).trans
    forall_zip_trace

/-- Two systems all of whose steps correspond have traces that look alike. -/
theorem trace_map_eq {step : α → σ → β × σ} {step' : α → τ → γ × τ} {view : β × σ → δ}
    {view' : γ × τ → δ} {Related : σ → τ → Prop} {Admitted : α → Prop}
    (agree : ∀ a s t, Admitted a → Related s t →
      view (step a s) = view' (step' a t) ∧ Related (step a s).2 (step' a t).2)
    {as : List α} {s : σ} {t : τ} (admitted : ∀ a ∈ as, Admitted a) (related : Related s t) :
    (trace step as s).map view = (trace step' as t).map view' :=
  (trace_map_eq_iff (fun _ => True) (fun a s t ha _ => agree a s t ha)
    (fun _ _ _ _ no => absurd trivial no) as s t admitted related).mpr (fun _ _ => trivial)

/-- What two systems whose steps correspond have in common at the start, they have
in common at the end. -/
theorem related_after {step : α → σ → β × σ} {step' : α → τ → γ × τ} {Related : σ → τ → Prop}
    (related : ∀ a s t, Related s t → Related (step a s).2 (step' a t).2) :
    ∀ (as : List α) {s : σ} {t : τ}, Related s t → Related (after step as s) (after step' as t)
  | [], _, _, start => start
  | a :: as, _, _, start => related_after related as (related a _ _ start)

/-- What every step answers, a run answers at each of its places. -/
theorem forall_answers {step : α → σ → β × σ} {Good : β → Prop} (good : ∀ a s, Good (step a s).1) :
    ∀ (as : List α) (s : σ), ∀ b ∈ (trace step as s).map Prod.fst, Good b
  | [], _ => by simp [trace]
  | a :: as, s => by
      rw [trace, List.map_cons, List.forall_mem_cons]
      exact ⟨good a s, forall_answers good as _⟩

/-- A system that stands inside another answers there as it does alone, and stands
there in the end. -/
theorem run_within {step : α → σ → β × σ} {step' : α → τ → β × τ} {place : τ → σ}
    (within : ∀ a t, step a (place t) = ((step' a t).1, place (step' a t).2)) :
    ∀ (as : List α) (t : τ),
      (trace step as (place t)).map Prod.fst = (trace step' as t).map Prod.fst ∧
        after step as (place t) = place (after step' as t)
  | [], _ => ⟨rfl, rfl⟩
  | a :: as, t => by
      obtain ⟨answers, ends⟩ := run_within within as (step' a t).2
      rw [trace, List.map_cons, after, List.foldl_cons, within]
      exact ⟨congrArg ((step' a t).1 :: ·) answers, ends⟩

end Trace

/-! ## Users -/

/-- One call on a store of users. -/
inductive UserStep where
  | init
  | get (id : UserId)
  | getByName (name : String)
  | getByEmail (address : String)
  /-- The clock reads `now`. -/
  | insert (now : Instant) (u : User)
  | update (id : UserId) (u : User) (fields : List UserField)
  | updateByNames (id : UserId) (u : User) (names : List String)
  | delete (id : UserId)
  deriving DecidableEq, Repr

inductive UserAnswer where
  | done (result : Except StoreError Unit)
  | found (result : Except StoreError User)
  /-- The caller's user is another after an insert. -/
  | inserted (result : Except StoreError UserId) (u : User)

def UserStore.step {σ : Type} (store : UserStore σ) : UserStep → σ → UserAnswer × σ
  | .init, s => (store.init s).map .done id
  | .get i, s => (store.get i s).map .found id
  | .getByName name, s => (store.getByName name s).map .found id
  | .getByEmail address, s => (store.getByEmail address s).map .found id
  | .insert now u, s => (store.insert now u s).map (fun a => .inserted a.1 a.2) id
  | .update i u fields, s => (store.update i u fields s).map .done id
  | .updateByNames i u names, s => (store.updateByNames i u names s).map .done id
  | .delete i, s => (store.delete i s).map .done id

/-- An update by names is an update of the fields they stand for, or nothing. -/
theorem UserStore.updateByNames_cases {σ : Type} (store : UserStore σ) (id : UserId) (u : User)
    (names : List String) (s : σ) :
    (∃ fields, UserField.parseList names = .ok fields ∧
        store.updateByNames id u names s = store.update id u fields s) ∨
      ∃ e, UserField.parseList names = .error e ∧ store.updateByNames id u names s = (.error e, s) := by
  unfold updateByNames
  cases UserField.parseList names with
  | ok fields => exact .inl ⟨fields, rfl, rfl⟩
  | error e => exact .inr ⟨e, rfl, rfl⟩

namespace UserStep

/-- The fields that reach an update of the store; none when a name is unknown. -/
def fields : UserStep → List UserField
  | .update _ _ fields => fields
  | .updateByNames _ _ names => (UserField.parseList names).toOption.getD []
  | _ => []

/-- A property of every instant that a step would have a store keep. -/
def Keeps (P : Instant → Prop) : UserStep → Prop
  | .insert now _ => P now
  | .update _ u _ | .updateByNames _ u _ => P u.dateJoined ∧ P u.lastLogin
  | _ => True

end UserStep

/-- The ids that a trace handed out, in order. -/
def insertedIds {σ : Type} (entries : List (UserAnswer × σ)) : List Int :=
  entries.filterMap (fun e =>
    match e.1 with
    | .inserted (.ok id) _ => some id.value
    | _ => none)

/-! ## Sessions -/

/-- One call on a store of sessions. -/
inductive SessionStep where
  | init
  | insert (session : Session)
  | get (key : String)
  | delete (key : String)
  | cleanUp (reference : Instant)
  | deleteForUser (user : UserId)
  | insertWithRetry (attempts : Nat) (session : Session) (source : Entropy)
  deriving DecidableEq, Repr

inductive SessionAnswer where
  | done (result : Except StoreError Unit)
  | found (result : Except StoreError Session)
  | counted (result : Except StoreError Nat)
  /-- The session as it was last tried, and the bytes that are left. -/
  | retried (result : Except StoreError Unit) (session : Session) (source : Entropy)

def SessionStore.step {σ : Type} (store : SessionStore σ) : SessionStep → σ → SessionAnswer × σ
  | .init, s => (store.init s).map .done id
  | .insert session, s => (store.insert session s).map .done id
  | .get key, s => (store.get key s).map .found id
  | .delete key, s => (store.delete key s).map .done id
  | .cleanUp reference, s => (store.cleanUp reference s).map .counted id
  | .deleteForUser user, s => (store.deleteForUser user s).map .counted id
  | .insertWithRetry attempts session source, s =>
      let r := store.insertWithRetry attempts session source s
      (.retried r.result r.session r.source, r.store)

/-- Stores whose inserts agree agree on retried inserts: they try the same
sessions, draw the same keys and end alike. -/
theorem SessionStore.insertAfter_agrees {σ τ : Type} {a : SessionStore σ} {b : SessionStore τ}
    {Related : σ → τ → Prop} {Admitted : Instant → Prop}
    (agree : ∀ x s t, Admitted x.expires → Related s t →
      (a.insert x s).1 = (b.insert x t).1 ∧ Related (a.insert x s).2 (b.insert x t).2) :
    ∀ (attempts : Nat) (collisions : List StoreError) (x : Session) (source : Entropy) (s : σ)
      (t : τ), Admitted x.expires → Related s t →
      let r := a.insertAfter attempts collisions x source s
      let r' := b.insertAfter attempts collisions x source t
      r.result = r'.result ∧ r.session = r'.session ∧ r.source = r'.source ∧
        Related r.store r'.store
  | 0, _, _, _, _, _, _, related => ⟨rfl, rfl, rfl, related⟩
  | attempts + 1, collisions, x, source, s, t, admitted, related => by
      obtain ⟨same, related'⟩ := agree x s t admitted related
      simp only [insertAfter]
      generalize a.insert x s = p at same related'
      generalize b.insert x t = q at same related'
      obtain ⟨result, s'⟩ := p
      obtain ⟨result', t'⟩ := q
      simp only at same related'
      subst same
      cases result with
      | ok u => exact ⟨rfl, rfl, rfl, related'⟩
      | error e =>
          cases e with
          | sessionExists key =>
              simp only
              split
              · exact ⟨rfl, rfl, rfl, related'⟩
              · generalize source.draw = d
                obtain ⟨drawn, source'⟩ := d
                cases drawn with
                | error e => exact ⟨rfl, rfl, rfl, related'⟩
                | ok key => exact insertAfter_agrees agree attempts _ _ source' s' t' admitted related'
          | _ => exact ⟨rfl, rfl, rfl, related'⟩

/-- Retried inserts are all that a store's insert makes of them. -/
theorem SessionStore.insertAfter_congr {σ : Type} {a b : SessionStore σ}
    (same : a.insert = b.insert) :
    ∀ (attempts : Nat) (collisions : List StoreError) (x : Session) (source : Entropy) (s : σ),
      a.insertAfter attempts collisions x source s = b.insertAfter attempts collisions x source s
  | 0, _, _, _, _ => rfl
  | attempts + 1, collisions, x, source, s => by
      simp only [insertAfter, same, insertAfter_congr same attempts]

/-- What every insert preserves, retried inserts preserve. -/
theorem SessionStore.insertAfter_preserves {σ : Type} {store : SessionStore σ} {Inv : σ → Prop}
    (preserved : ∀ x s, Inv s → Inv (store.insert x s).2) (attempts : Nat)
    (collisions : List StoreError) (x : Session) (source : Entropy) (s : σ) (holds : Inv s) :
    Inv (store.insertAfter attempts collisions x source s).store := by
  have agree : ∀ y t t', True → t = t' ∧ Inv t →
      (store.insert y t).1 = (store.insert y t').1 ∧
        (store.insert y t).2 = (store.insert y t').2 ∧ Inv (store.insert y t).2 := by
    rintro y t _ - ⟨rfl, held⟩
    exact ⟨rfl, rfl, preserved y t held⟩
  obtain ⟨-, -, -, -, kept⟩ := @insertAfter_agrees σ σ store store (fun t t' => t = t' ∧ Inv t)
    (fun _ => True) agree attempts collisions x source s s trivial ⟨rfl, holds⟩
  exact kept

/-- A property of every instant that a step would have a store keep or compare. -/
def SessionStep.Mentions (P : Instant → Prop) : SessionStep → Prop
  | .insert session | .insertWithRetry _ session _ => P session.expires
  | .cleanUp reference => P reference
  | _ => True

theorem SessionStep.Mentions.mono {P Q : Instant → Prop} {a : SessionStep} (mentions : a.Mentions P)
    (weaker : ∀ i, P i → Q i) : a.Mentions Q := by
  cases a with
  | insert x | insertWithRetry _ x _ | cleanUp reference => exact weaker _ mentions
  | _ => trivial

end AccountStore
