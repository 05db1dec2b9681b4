import Mathlib.Tactic.Common

/-!
# Transactions

A transaction reads and writes a state, and nothing of what it wrote is left if it throws.  What a
transaction did is read off what it returned, one operation at a time.
-/

namespace Data

abbrev Tx (σ ε α : Type) : Type := StateT σ (Except ε) α

namespace Tx

variable {σ ε α β : Type} {s : σ}

def require (c : Prop) [Decidable c] (e : ε) : Tx σ ε Unit := if c then pure () else throw e

def orThrow (value : Option α) (e : ε) : Tx σ ε α :=
  match value with
  | some a => pure a
  | none => throw e

/-- Run a transaction.  The state is as it was if it throws. -/
def commit (x : Tx σ ε α) (s : σ) : Except ε α × σ :=
  match x s with
  | .ok (a, s') => (.ok a, s')
  | .error e => (.error e, s)

variable {r : β × σ} {f : α → Tx σ ε β} {s' : σ} {e : ε}

lemma bind_eq_ok {x : Tx σ ε α} :
    (x >>= f) s = .ok r ↔ ∃ a s', x s = .ok (a, s') ∧ f a s' = .ok r := by
  show Except.bind (x s) (fun q => f q.1 q.2) = .ok r ↔ _
  cases x s with
  | ok q => exact ⟨fun h => ⟨q.1, q.2, rfl, h⟩, fun ⟨_, _, h, hf⟩ => by cases h; exact hf⟩
  | error e => exact ⟨nofun, fun ⟨_, _, h, _⟩ => absurd h nofun⟩

lemma pure_eq_ok {a b : α} : (pure a : Tx σ ε α) s = .ok (b, s') ↔ a = b ∧ s = s' := by
  show Except.ok (a, s) = .ok (b, s') ↔ _
  exact ⟨fun h => Prod.mk.inj (Except.ok.inj h), fun ⟨ha, hs⟩ => by rw [ha, hs]⟩

lemma throw_eq_ok {r : α × σ} : (throw e : Tx σ ε α) s = .ok r ↔ False := by
  exact ⟨nofun, nofun⟩

lemma modify_eq_ok {f : σ → σ} {u : PUnit} :
    (modify f : Tx σ ε PUnit) s = .ok (u, s') ↔ f s = s' := by
  show Except.ok (PUnit.unit, f s) = .ok (u, s') ↔ _
  exact ⟨fun h => congrArg Prod.snd (Except.ok.inj h), fun h => by rw [h]⟩

lemma get_bind_eq_ok {f : σ → Tx σ ε β} : (get >>= f) s = .ok r ↔ f s s = .ok r := Iff.rfl

lemma modify_bind_eq_ok {g : σ → σ} {f : PUnit → Tx σ ε β} :
    (modify g >>= f) s = .ok r ↔ f ⟨⟩ (g s) = .ok r := Iff.rfl

lemma require_bind_eq_ok {c : Prop} [Decidable c] {f : Unit → Tx σ ε β} :
    (require c e >>= f) s = .ok r ↔ c ∧ f () s = .ok r := by
  unfold require
  split
  · next hc => exact ⟨fun h => ⟨hc, h⟩, And.right⟩
  · next hc => exact ⟨nofun, fun h => absurd h.1 hc⟩

lemma orThrow_bind_eq_ok {value : Option α} :
    (orThrow value e >>= f) s = .ok r ↔ ∃ a, value = some a ∧ f a s = .ok r := by
  cases value with
  | none => exact ⟨nofun, fun ⟨_, h, _⟩ => absurd h nofun⟩
  | some a => exact ⟨fun h => ⟨a, rfl, h⟩, fun ⟨_, ha, h⟩ => by cases ha; exact h⟩

end Tx

end Data
