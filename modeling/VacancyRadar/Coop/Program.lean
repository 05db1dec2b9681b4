import Mathlib.Data.List.Basic

/-!
# Cooperative programs

A cooperative program runs on a single thread.  It executes operations on a shared state one
after the other and keeps the thread until it awaits a port, so that everything between two
awaits happens without interference.  What a port answers, and when, is up to the environment.

A program is a tree: an operation node continues with the result of the operation, an await
node with the reply of the port.  Both may fail, and a failure is an ordinary value of the tree
that `tryCatch` can inspect, so `throw`, `catch` and `finally` have their usual meaning.
-/

namespace Coop

structure Sig where
  /-- The operations, executed without giving up the thread. -/
  Op : Type
  /-- The result type of an operation. -/
  Res : Op → Type
  /-- The points at which a program gives up the thread. -/
  Port : Type
  /-- The type of the replies to an await. -/
  Rep : Port → Type
  /-- What a program, an operation or a reply can throw. -/
  Err : Type

/-- A cooperative program over the signature `S` with results in `α`. -/
inductive Prog (S : Sig) (α : Type) : Type where
  | ret (a : α)
  | raise (e : S.Err)
  | act (o : S.Op) (k : Except S.Err (S.Res o) → Prog S α)
  | await (p : S.Port) (k : Except S.Err (S.Rep p) → Prog S α)

namespace Prog

variable {S : Sig} {α β : Type}

protected def bind : Prog S α → (α → Prog S β) → Prog S β
  | ret a, f => f a
  | raise e, _ => raise e
  | act o k, f => act o fun r => (k r).bind f
  | await p k, f => await p fun r => (k r).bind f

/-- Run a handler on the error of a program, if it ends in one. -/
protected def tryCatch : Prog S α → (S.Err → Prog S α) → Prog S α
  | ret a, _ => ret a
  | raise e, h => h e
  | act o k, h => act o fun r => (k r).tryCatch h
  | await p k, h => await p fun r => (k r).tryCatch h

instance : Monad (Prog S) where
  pure := ret
  bind := Prog.bind

instance : MonadExceptOf S.Err (Prog S) where
  throw := raise
  tryCatch := Prog.tryCatch

/-- Continue with a value, or throw. -/
def ofExcept : Except S.Err α → Prog S α
  | .ok a => ret a
  | .error e => raise e

def exec (o : S.Op) : Prog S (S.Res o) := act o ofExcept

def wait (p : S.Port) : Prog S (S.Rep p) := await p ofExcept

/-- The outcome of a program as a value, so that it never throws. -/
def attempt : Prog S α → Prog S (Except S.Err α)
  | ret a => ret (.ok a)
  | raise e => ret (.error e)
  | act o k => act o fun r => (k r).attempt
  | await p k => await p fun r => (k r).attempt

def andFinally (x : Prog S α) (f : Prog S Unit) : Prog S α := do
  let r ← x.attempt
  f
  ofExcept r

/-- Await the call of another asynchronous program: it runs on the caller's turn up to its own first
await, and the caller continues on a later turn than it settles. -/
def call (turn : S.Port) (x : Prog S α) : Prog S α := do
  let r ← x.attempt
  await turn fun _ => ofExcept r

def forEach {ι : Type} : List ι → (ι → Prog S Unit) → Prog S Unit
  | [], _ => ret ()
  | x :: xs, f => do
    f x
    forEach xs f

/-! ## Equations of the constructors -/

@[simp] lemma pure_eq (a : α) : (pure a : Prog S α) = ret a := rfl

@[simp] lemma bind_ret (a : α) (f : α → Prog S β) : (ret a >>= f) = f a := rfl

@[simp] lemma bind_raise (e : S.Err) (f : α → Prog S β) : (raise e >>= f) = raise e := rfl

@[simp] lemma bind_act (o : S.Op) (k : Except S.Err (S.Res o) → Prog S α) (f : α → Prog S β) :
    (act o k >>= f) = act o fun r => k r >>= f := rfl

@[simp] lemma bind_await (p : S.Port) (k : Except S.Err (S.Rep p) → Prog S α)
    (f : α → Prog S β) : (await p k >>= f) = await p fun r => k r >>= f := rfl

/-! ## One turn -/

/-- The meaning of the operations on the states `σ`. -/
abbrev Exec (S : Sig) (σ : Type) : Type :=
  (o : S.Op) → σ → σ × Except S.Err (S.Res o)

variable {σ : Type} (ex : Exec S σ)

def advance : Prog S α → σ → σ × Prog S α
  | ret a, s => (s, ret a)
  | raise e, s => (s, raise e)
  | await p k, s => (s, await p k)
  | act o k, s => (k (ex o s).2).advance (ex o s).1

lemma advance_bind_of_ret {x : Prog S α} {f : α → Prog S β} {s s' : σ} {a : α}
    (h : x.advance ex s = (s', ret a)) : (x >>= f).advance ex s = (f a).advance ex s' := by
  induction x generalizing s with
  | ret b =>
    cases h
    rfl
  | raise e => cases h
  | await p k ih => cases h
  | act o k ih => exact ih _ h

/-- The operations a program executes until it awaits or ends, each with the state it was
executed in. -/
def acts : Prog S α → σ → List (S.Op × σ)
  | ret _, _ => []
  | raise _, _ => []
  | await _ _, _ => []
  | act o k, s => (o, s) :: (k (ex o s).2).acts (ex o s).1

def port? : Prog S α → Option S.Port
  | await p _ => some p
  | _ => none

@[simp] lemma port?_await (p : S.Port) (k : Except S.Err (S.Rep p) → Prog S α) :
    (await p k).port? = some p := rfl

@[simp] lemma port?_ret (a : α) : (ret a : Prog S α).port? = none := rfl

@[simp] lemma port?_raise (e : S.Err) : (raise e : Prog S α).port? = none := rfl

end Prog

end Coop
