/-
# AccountStore.Proofs.Store.Retry -- what a retried insert submits, and how it ends

A retried insert meets two strangers: a store that may answer anything, and a
source of keys that may fail.  What it does with them is read off a store that
notes every session it is asked to insert together with the answer
(`SessionStore.noting`); noting changes nothing else (`base_noting`).

One round is said once (`insertAfter_round`): the answer settles the run, or it is
a collision, and then the attempts are used up, or the source fails, or the next
round starts under a new key.  A `Course` is what the rounds of a run add up to;
it grows by one submission at the front (`Course.again`), and every run has one
(`exists_course`).
-/
import AccountStore.Memory.Session
import AccountStore.Proofs.Store.Run

namespace AccountStore

set_option autoImplicit false

/-- A session handed to a store, and what the store said. -/
structure Submission where
  session : Session
  answer : Except StoreError Unit

/-- The key of the session was taken. -/
def Submission.Collided (e : Submission) : Prop := ∃ key, e.answer = .error (.sessionExists key)

/-- The session under another key. -/
def Session.under (x : Session) (key : String) : Session := { x with key := key }

/-- The keys that a source hands out before it fails. -/
def Entropy.keys (source : Entropy) : List String := source.map SessionKey.ofBytes

/-- A run on a store beside which something else is kept, without the latter. -/
def Retried.base {σ τ : Type} (r : Retried (σ × τ)) : Retried σ :=
  ⟨r.result, r.session, r.source, r.store.1⟩

namespace SessionStore

variable {σ : Type}

/-! ## Noting what is submitted -/

/-- A call on a store beside which something else is kept. -/
def beside {α τ : Type} (call : σ → α × σ) (p : σ × τ) : α × (σ × τ) :=
  ((call p.1).1, (call p.1).2, p.2)

/-- The store with a note of every session that it was asked to insert. -/
def noting (store : SessionStore σ) : SessionStore (σ × List Submission) where
  init := beside store.init
  insert x p :=
    ((store.insert x p.1).1, (store.insert x p.1).2, p.2 ++ [⟨x, (store.insert x p.1).1⟩])
  get key := beside (store.get key)
  delete key := beside (store.delete key)
  cleanUp reference := beside (store.cleanUp reference)
  deleteForUser user := beside (store.deleteForUser user)

/-- What a retried insert submits, from first to last. -/
def submissions (store : SessionStore σ) (attempts : Nat) (x : Session) (source : Entropy) (s : σ) :
    List Submission :=
  (store.noting.insertWithRetry attempts x source (s, [])).store.2

/-- Noting changes nothing else. -/
theorem base_noting (store : SessionStore σ) (attempts : Nat) (x : Session) (source : Entropy)
    (s : σ) (noted : List Submission) :
    (store.noting.insertWithRetry attempts x source (s, noted)).base =
      store.insertWithRetry attempts x source s := by
  have agree : ∀ (y : Session) (p : σ × List Submission) (t : σ), True → p.1 = t →
      (store.noting.insert y p).1 = (store.insert y t).1 ∧
        (store.noting.insert y p).2.1 = (store.insert y t).2 := by
    rintro y p t - rfl
    exact ⟨rfl, rfl⟩
  obtain ⟨result, session, rest, states⟩ := @insertAfter_agrees _ _ store.noting store
    (fun p t => p.1 = t) (fun _ => True) agree attempts [] x source (s, noted) s trivial rfl
  simp only [Retried.base, insertWithRetry, result, session, rest, states]

/-! ## One round -/

/-- **What one round does.**  An answer that is no collision ends the run.  After a
collision the run ends when the attempts are used up or the source fails, and else
goes on under the next key. -/
theorem insertAfter_round (store : SessionStore σ) (attempts : Nat) (collisions : List StoreError)
    (x : Session) (source : Entropy) (s : σ) :
    let r := store.insertAfter (attempts + 1) collisions x source s
    let p := store.insert x s
    (¬ Submission.Collided ⟨x, p.1⟩ ∧ r = ⟨p.1, x, source, p.2⟩) ∨
      ∃ key, p.1 = .error (.sessionExists key) ∧
        ((attempts = 0 ∧
            r = ⟨.error (.retryExhausted (collisions ++ [.sessionExists key])), x, source, p.2⟩) ∨
          (attempts ≠ 0 ∧ source = [] ∧ ∃ e, source.draw.1 = .error e ∧
            r = ⟨.error e, x, source, p.2⟩) ∨
          (attempts ≠ 0 ∧ ∃ block rest, source = block :: rest ∧
            r = store.insertAfter attempts (collisions ++ [.sessionExists key])
              (x.under (SessionKey.ofBytes block)) rest p.2)) := by
  simp only [insertAfter]
  generalize store.insert x s = p
  obtain ⟨answer, s'⟩ := p
  cases answer with
  | ok u =>
      refine .inl ⟨?_, rfl⟩
      rintro ⟨_, no⟩
      cases no
  | error e =>
      cases e with
      | sessionExists key =>
          refine .inr ⟨key, rfl, ?_⟩
          by_cases last : attempts = 0
          · exact .inl ⟨last, if_pos last⟩
          · right
            cases source with
            | nil => exact .inl ⟨last, rfl, _, rfl, if_neg last⟩
            | cons block rest => exact .inr ⟨last, block, rest, rfl, if_neg last⟩
      | _ =>
          refine .inl ⟨?_, rfl⟩
          rintro ⟨_, no⟩
          cases no

/-! ## The course of a run -/

/-- How a run ends that follows earlier collisions: with an answer that settles it,
with no attempts left, or without a key for the next one. -/
inductive Ending (attempts : Nat) (collisions : List StoreError) (source : Entropy)
    (noted : List Submission) (result : Except StoreError Unit) : Prop where
  | settled (earlier : List Submission) (last : Submission) (split : noted = earlier ++ [last])
      (collided : ∀ e ∈ earlier, e.Collided) (decided : ¬ last.Collided)
      (answered : result = last.answer)
  | exhausted (errors : List StoreError) (answers : noted.map Submission.answer = errors.map .error)
      (collided : ∀ e ∈ noted, e.Collided) (all : noted.length = attempts)
      (given : result = .error (.retryExhausted (collisions ++ errors)))
  | starved (e : StoreError) (collided : ∀ e ∈ noted, e.Collided) (left : noted.length < attempts)
      (drawn : (Entropy.draw (source.drop (noted.length - 1))).1 = .error e) (given : result = .error e)

namespace Ending

variable {attempts : Nat} {collisions : List StoreError} {source : Entropy}
  {noted : List Submission} {result : Except StoreError Unit}

/-- A submission that did not collide is the last one and decides. -/
theorem decided_last (h : Ending attempts collisions source noted result)
    {before later : List Submission} {last : Submission} (split : noted = before ++ last :: later)
    (decided : ¬ last.Collided) : later = [] ∧ result = last.answer := by
  have among : last ∈ noted := split ▸ List.mem_append_right _ List.mem_cons_self
  cases h with
  | settled earlier final split' collided _ answered =>
      rcases List.eq_nil_or_concat later with none | ⟨later', z, more⟩
      · subst none
        obtain ⟨-, same⟩ := List.append_inj' (split'.symm.trans split) rfl
        cases same
        exact ⟨rfl, answered⟩
      · -- then it would stand among the earlier ones
        rw [more, List.concat_eq_append, ← List.cons_append, ← List.append_assoc] at split
        obtain ⟨same, -⟩ := List.append_inj' (split'.symm.trans split) rfl
        exact absurd (collided last (by simp [same])) decided
  | exhausted errors answers collided all given => exact absurd (collided last among) decided
  | starved e collided left drawn given => exact absurd (collided last among) decided

/-- The run succeeds exactly when its last submission does, after collisions only. -/
theorem ok_iff (h : Ending attempts collisions source noted result) :
    result = .ok () ↔ ∃ earlier last, noted = earlier ++ [last] ∧ last.answer = .ok () ∧
      ∀ e ∈ earlier, e.Collided := by
  constructor
  · intro ok
    cases h with
    | settled earlier last split collided _ answered =>
        exact ⟨earlier, last, split, answered.symm.trans ok, collided⟩
    | exhausted errors answers collided all given => cases given.symm.trans ok
    | starved e collided left drawn given => cases given.symm.trans ok
  · rintro ⟨earlier, last, split, ok, -⟩
    have decided : ¬ last.Collided := by
      rintro ⟨key, taken⟩
      cases ok.symm.trans taken
    obtain ⟨-, answered⟩ := h.decided_last split decided
    exact answered.trans ok

theorem of_all (h : Ending attempts collisions source noted result)
    (collided : ∀ e ∈ noted, e.Collided) (all : noted.length = attempts) :
    ∃ errors, noted.map Submission.answer = errors.map .error ∧
      result = .error (.retryExhausted (collisions ++ errors)) := by
  cases h with
  | settled earlier last split _ decided _ => exact absurd (collided last (by simp [split])) decided
  | exhausted errors answers _ _ given => exact ⟨errors, answers, given⟩
  | starved e _ left drawn given => exact absurd all (Nat.ne_of_lt left)

theorem of_left (h : Ending attempts collisions source noted result)
    (collided : ∀ e ∈ noted, e.Collided) (left : noted.length < attempts) :
    ∃ e, (Entropy.draw (source.drop (noted.length - 1))).1 = .error e ∧ result = .error e := by
  cases h with
  | settled earlier last split _ decided _ => exact absurd (collided last (by simp [split])) decided
  | exhausted errors answers _ all given => exact absurd all (Nat.ne_of_lt left)
  | starved e _ _ drawn given => exact ⟨e, drawn, given⟩

end Ending

/-- What a run of attempts submits and what it leaves. -/
structure Course (store : SessionStore σ) (attempts : Nat) (collisions : List StoreError)
    (x : Session) (source : Entropy) (s : σ) (noted : List Submission) (r : Retried σ) : Prop where
  within : noted.length ≤ attempts
  nonempty : attempts ≠ 0 → noted ≠ []
  sessions : noted.map Submission.session =
    ((x.key :: source.keys).take noted.length).map x.under
  answers : noted.map Submission.answer =
    (trace store.insert (noted.map Submission.session) s).map Prod.fst
  store_eq : r.store = after store.insert (noted.map Submission.session) s
  session_eq : r.session = (noted.map Submission.session).getLast?.getD x
  source_eq : r.source = source.drop (noted.length - 1)
  ending : Ending attempts collisions source noted r.result

namespace Course

variable {store : SessionStore σ} {attempts : Nat} {collisions : List StoreError} {x : Session}
  {source : Entropy} {s : σ}

/-- A run without attempts. -/
theorem none : Course store 0 collisions x source s []
    ⟨.error (.retryExhausted collisions), x, source, s⟩ where
  within := Nat.le_refl 0
  nonempty := fun no => absurd rfl no
  sessions := rfl
  answers := rfl
  store_eq := rfl
  session_eq := rfl
  source_eq := rfl
  ending := .exhausted [] rfl nofun rfl (by rw [List.append_nil])

/-- A run that its first answer ends. -/
theorem single {result : Except StoreError Unit}
    (ending : Ending (attempts + 1) collisions source [⟨x, (store.insert x s).1⟩] result) :
    Course store (attempts + 1) collisions x source s [⟨x, (store.insert x s).1⟩]
      ⟨result, x, source, (store.insert x s).2⟩ where
  within := by simp
  nonempty := fun _ => List.cons_ne_nil _ _
  sessions := rfl
  answers := rfl
  store_eq := rfl
  session_eq := rfl
  source_eq := rfl
  ending := ending

/-- **A collision comes first, and the run goes on under the next key.** -/
theorem again {key : String} {block : List UInt8} {rest : Entropy} {noted : List Submission}
    {r : Retried σ} (collision : (store.insert x s).1 = .error (.sessionExists key))
    (more : attempts ≠ 0)
    (later : Course store attempts (collisions ++ [.sessionExists key])
      (x.under (SessionKey.ofBytes block)) rest (store.insert x s).2 noted r) :
    Course store (attempts + 1) collisions x (block :: rest) s
      (⟨x, (store.insert x s).1⟩ :: noted) r where
  within := Nat.succ_le_succ later.within
  nonempty := fun _ => List.cons_ne_nil _ _
  sessions := by
    rw [List.map_cons, later.sessions]
    rfl
  answers := by
    rw [List.map_cons, List.map_cons, later.answers]
    rfl
  store_eq := later.store_eq
  session_eq := by
    obtain ⟨e, noted', rfl⟩ := List.exists_cons_of_ne_nil (later.nonempty more)
    simp only [later.session_eq, List.map_cons, List.getLast?_cons, Option.getD_some]
  source_eq := by
    obtain ⟨e, noted', rfl⟩ := List.exists_cons_of_ne_nil (later.nonempty more)
    rw [later.source_eq]
    rfl
  ending := by
    have first : Submission.Collided ⟨x, (store.insert x s).1⟩ := ⟨key, collision⟩
    obtain ⟨e, noted', cons⟩ := List.exists_cons_of_ne_nil (later.nonempty more)
    cases later.ending with
    | settled earlier last split collided decided answered =>
        exact .settled (⟨x, (store.insert x s).1⟩ :: earlier) last (congrArg _ split)
          (List.forall_mem_cons.mpr ⟨first, collided⟩) decided answered
    | exhausted errors answers collided all given =>
        refine .exhausted (.sessionExists key :: errors) ?_
          (List.forall_mem_cons.mpr ⟨first, collided⟩) (congrArg Nat.succ all) ?_
        · rw [List.map_cons, List.map_cons, answers, collision]
        · rw [given, List.append_assoc, List.singleton_append]
    | starved e collided left drawn given =>
        refine .starved e (List.forall_mem_cons.mpr ⟨first, collided⟩) (Nat.succ_lt_succ left) ?_
          given
        rw [← drawn, cons]
        rfl

end Course

/-- **Every run has a course.** -/
theorem exists_course (store : SessionStore σ) (attempts : Nat) (collisions : List StoreError)
    (x : Session) (source : Entropy) (s : σ) (before : List Submission) :
    let r := store.noting.insertAfter attempts collisions x source (s, before)
    ∃ noted, r.store.2 = before ++ noted ∧ Course store attempts collisions x source s noted r.base := by
  induction attempts generalizing collisions x source s before with
  | zero => exact ⟨[], (List.append_nil _).symm, .none⟩
  | succ attempts ih =>
      intro r
      have ended : ∀ {result : Except StoreError Unit},
          r = ⟨result, x, source, (store.noting.insert x (s, before)).2⟩ →
          Ending (attempts + 1) collisions source [⟨x, (store.insert x s).1⟩] result →
            ∃ noted, r.store.2 = before ++ noted ∧
              Course store (attempts + 1) collisions x source s noted r.base := by
        intro result ends ending
        rw [ends]
        exact ⟨_, rfl, .single ending⟩
      have round := store.noting.insertAfter_round attempts collisions x source (s, before)
      rcases round with ⟨decided, ends⟩ | ⟨key, collision, last | starved | more⟩
      · exact ended ends (.settled [] _ rfl nofun decided rfl)
      · obtain ⟨none, ends⟩ := last
        subst none
        refine ended ends (.exhausted [.sessionExists key] ?_ ?_ rfl rfl)
        · exact congrArg ([·]) collision
        · exact List.forall_mem_singleton.mpr ⟨key, collision⟩
      · obtain ⟨left, empty, e, drawn, ends⟩ := starved
        subst empty
        refine ended ends (.starved e ?_ ?_ drawn rfl)
        · exact List.forall_mem_singleton.mpr ⟨key, collision⟩
        · exact Nat.succ_lt_succ (Nat.pos_of_ne_zero left)
      · obtain ⟨left, block, rest, split, goesOn⟩ := more
        subst split
        obtain ⟨noted, log, course⟩ := ih (collisions ++ [.sessionExists key])
          (x.under (SessionKey.ofBytes block)) rest (store.insert x s).2
          (before ++ [⟨x, (store.insert x s).1⟩])
        rw [show r = _ from goesOn]
        refine ⟨⟨x, (store.insert x s).1⟩ :: noted, ?_, course.again collision left⟩
        rw [List.append_assoc] at log
        exact log

/-- **Retried inserts follow the answers.**  Whatever the store answers and however
long the source lasts: at most `attempts` sessions are submitted, under the original
key and then under the keys of the source, one after the other, and the store answers
them in this order.  The run succeeds exactly when the last one is stored after
collisions only.  It is exhausted when all attempts collide, ended by the first answer
that is neither, and ended by the source when it fails before the attempts are used
up; nothing else ends it.  The session is left under the key that was submitted last,
and of the source every key that was drawn has been submitted. -/
theorem retried_inserts_follow_answers (store : SessionStore σ) (attempts : Nat) (x : Session)
    (source : Entropy) (s : σ) :
    let r := store.insertWithRetry attempts x source s
    let noted := store.submissions attempts x source s
    (noted.length ≤ attempts ∧
        noted.map Submission.session = ((x.key :: source.keys).take noted.length).map x.under ∧
        noted.map Submission.answer =
          (trace store.insert (noted.map Submission.session) s).map Prod.fst ∧
        r.store = after store.insert (noted.map Submission.session) s) ∧
      (r.result = .ok () ↔ ∃ earlier last, noted = earlier ++ [last] ∧ last.answer = .ok () ∧
        ∀ e ∈ earlier, e.Collided) ∧
      (noted.length = attempts → (∀ e ∈ noted, e.Collided) → ∃ errors,
        noted.map Submission.answer = errors.map .error ∧
          r.result = .error (.retryExhausted errors)) ∧
      (∀ before last later e, noted = before ++ last :: later → last.answer = .error e →
        ¬ last.Collided → later = [] ∧ r.result = .error e) ∧
      (noted.length < attempts → (∀ e ∈ noted, e.Collided) → noted ≠ [] ∧
        ∃ e, (Entropy.draw (source.drop (noted.length - 1))).1 = .error e ∧ r.result = .error e) ∧
      r.session = ((noted.map Submission.session).getLast?).getD x ∧
      r.source = source.drop (noted.length - 1) := by
  intro r noted
  obtain ⟨_, log, course⟩ := store.exists_course attempts [] x source s []
  rw [List.nil_append] at log
  subst log
  rw [show (store.noting.insertAfter attempts [] x source (s, [])).base = r from
    store.base_noting attempts x source s []] at course
  have ending : Ending attempts [] source noted r.result := course.ending
  refine ⟨⟨course.within, course.sessions, course.answers, course.store_eq⟩, ending.ok_iff, ?_, ?_,
    ?_, course.session_eq, course.source_eq⟩
  · intro all collided
    exact ending.of_all collided all
  · intro before last later e split failed decided
    obtain ⟨none, answered⟩ := ending.decided_last split decided
    exact ⟨none, answered.trans failed⟩
  · intro left collided
    exact ⟨course.nonempty (Nat.ne_of_gt (Nat.zero_lt_of_lt left)), ending.of_left collided left⟩

/-- Three attempts and one block of random bytes, but both keys are taken: there is no
key for the third attempt. -/
theorem retried_inserts_end_without_a_key :
    let x : Session := ⟨"k", ⟨1⟩, Instant.epoch⟩
    let block : List UInt8 := List.replicate 29 0
    let y := x.under (SessionKey.ofBytes block)
    let t : SessionTable := ⟨[(x.key, x), (y.key, y)]⟩
    let noted := SessionTable.store.submissions 3 x [block] t
    noted.map Submission.session = [x, y] ∧ noted.length < 3 ∧ (∀ e ∈ noted, e.Collided) ∧
      (SessionTable.store.insertWithRetry 3 x [block] t).result =
        .error (.keyGeneration "system random source unavailable") := by
  intro x block y t noted
  have both : noted = [⟨x, .error (.sessionExists x.key)⟩, ⟨y, .error (.sessionExists y.key)⟩] :=
    rfl
  have left : noted.length < 3 := by
    rw [both]
    decide
  have collided : ∀ e ∈ noted, e.Collided := by
    rw [both, List.forall_mem_cons, List.forall_mem_singleton]
    exact ⟨⟨_, rfl⟩, ⟨_, rfl⟩⟩
  obtain ⟨-, -, -, -, starved, -, -⟩ :=
    retried_inserts_follow_answers SessionTable.store 3 x [block] t
  obtain ⟨-, e, drawn, given⟩ := starved left collided
  have none : Except.error (.keyGeneration "system random source unavailable") =
      (Except.error e : Except StoreError String) := drawn
  cases none
  exact ⟨congrArg (List.map Submission.session) both, left, collided, given⟩

end SessionStore

end AccountStore
