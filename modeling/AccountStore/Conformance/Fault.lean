/-
# AccountStore.Conformance.Fault -- stores with a fault put in

A fault takes the place of one call of one operation, or of every call of it.
The store is not called; the caller gets an error, or a success without effect.
-/
import AccountStore.Store.Basic

namespace AccountStore.Conformance

set_option autoImplicit false

inductive Operation where
  | initUsers
  | getUser
  | getUserByName
  | getUserByEmail
  | insertUser
  | updateUser
  | deleteUser
  | initSessions
  | insertSession
  | getSession
  | deleteSession
  | cleanUp
  | deleteForUser
  deriving DecidableEq, Repr

structure Fault where
  operation : Operation
  /-- Which call it replaces, counting from one; zero stands for all. -/
  call : Nat
  /-- Pretend success instead of failing. -/
  skips : Bool
  deriving DecidableEq, Repr

/-- A store's state with the number of calls of the faulty operation. -/
abbrev Counted (σ : Type) := Nat × σ

def injected : StoreError := .unsupported "injected fault"

/-- The id that a skipped insert gives. -/
def skippedId : UserId := ⟨7⟩

namespace Fault

variable {σ α : Type}

/-- Runs a call, or the fault in its place. -/
def replace (f : Option Fault) (operation : Operation) (failed skipped : α) (call : σ → α × σ)
    (s : Counted σ) : α × Counted σ :=
  match f with
  | none => let r := call s.2; (r.1, (s.1, r.2))
  | some f =>
      if f.operation = operation then
        let n := s.1 + 1
        if f.call = 0 || f.call = n then (if f.skips then skipped else failed, (n, s.2))
        else let r := call s.2; (r.1, (n, r.2))
      else let r := call s.2; (r.1, (s.1, r.2))

def replaceResult (f : Option Fault) (operation : Operation) (skipped : α)
    (call : σ → Except StoreError α × σ) : Counted σ → Except StoreError α × Counted σ :=
  replace f operation (.error injected) (.ok skipped) call

def users (f : Option Fault) (store : UserStore σ) : UserStore (Counted σ) where
  init := replaceResult f .initUsers () store.init
  get id := replaceResult f .getUser {} (store.get id)
  getByName name := replaceResult f .getUserByName {} (store.getByName name)
  getByEmail address := replaceResult f .getUserByEmail {} (store.getByEmail address)
  insert now u :=
    replace f .insertUser (.error injected, u) (.ok skippedId, u) (store.insert now u)
  update id u fields := replaceResult f .updateUser () (store.update id u fields)
  delete id := replaceResult f .deleteUser () (store.delete id)

def sessions (f : Option Fault) (store : SessionStore σ) : SessionStore (Counted σ) where
  init := replaceResult f .initSessions () store.init
  insert s := replaceResult f .insertSession () (store.insert s)
  get key := replaceResult f .getSession ⟨key, ⟨0⟩, Instant.epoch⟩ (store.get key)
  delete key := replaceResult f .deleteSession () (store.delete key)
  cleanUp reference := replaceResult f .cleanUp 0 (store.cleanUp reference)
  deleteForUser user := replaceResult f .deleteForUser 0 (store.deleteForUser user)

end Fault

end AccountStore.Conformance
