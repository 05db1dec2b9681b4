import Mathlib.Tactic.Common

/-!
# Runs

A system takes steps, some of which are not possible in some states.  What each step keeps, every run
keeps, and what each step keeps that meets a condition, every run keeps all of whose steps meet it.
-/

namespace Data

variable {σ μ : Type}

def runSteps (step : σ → μ → Option σ) : List μ → σ → Option σ
  | [], s => some s
  | move :: moves, s => (step s move).bind (runSteps step moves)

def AlongRun (step : σ → μ → Option σ) (C : σ → μ → Prop) : List μ → σ → Prop
  | [], _ => True
  | move :: moves, s => C s move ∧ ∀ s', step s move = some s' → AlongRun step C moves s'

variable {step : σ → μ → Option σ} {C C' : σ → μ → Prop} {P : σ → Prop} {s s' : σ} {moves : List μ}

lemma runSteps_induction_of_along
    (hstep : ∀ s s' move, P s → C s move → step s move = some s' → P s') (hs : P s)
    (halong : AlongRun step C moves s) (hrun : runSteps step moves s = some s') : P s' := by
  induction moves generalizing s with
  | nil =>
    cases hrun
    exact hs
  | cons move moves ih =>
    obtain ⟨next, hnext, hrest⟩ := Option.bind_eq_some_iff.mp hrun
    obtain ⟨hmove, hmoves⟩ := halong
    exact ih (hstep s next move hs hmove hnext) (hmoves next hnext) hrest

instance AlongRun.decidable [∀ s move, Decidable (C s move)] :
    ∀ (moves : List μ) (s : σ), Decidable (AlongRun step C moves s)
  | [], _ => isTrue trivial
  | move :: moves, s =>
    match h : step s move with
    | none =>
      decidable_of_iff (C s move) ⟨fun hC => ⟨hC, fun s' hs' => by rw [h] at hs'; cases hs'⟩, And.left⟩
    | some next =>
      have : Decidable (AlongRun step C moves next) := AlongRun.decidable moves next
      decidable_of_iff (C s move ∧ AlongRun step C moves next)
        ⟨fun hC => ⟨hC.1, fun s' hs' => by rw [h] at hs'; cases hs'; exact hC.2⟩,
          fun hC => ⟨hC.1, hC.2 next h⟩⟩

lemma AlongRun.and (h : AlongRun step C moves s) (h' : AlongRun step C' moves s) :
    AlongRun step (fun s move => C s move ∧ C' s move) moves s := by
  induction moves generalizing s with
  | nil => trivial
  | cons move moves ih =>
    exact ⟨⟨h.1, h'.1⟩, fun next hnext => ih (h.2 next hnext) (h'.2 next hnext)⟩

lemma alongRun_true : AlongRun step (fun _ _ => True) moves s := by
  induction moves generalizing s with
  | nil => trivial
  | cons move moves ih => exact ⟨trivial, fun next _ => ih⟩

lemma runSteps_induction (hstep : ∀ s s' move, P s → step s move = some s' → P s') (hs : P s)
    (hrun : runSteps step moves s = some s') : P s' :=
  runSteps_induction_of_along (fun s s' move h _ => hstep s s' move h) hs alongRun_true hrun

def EveryState (step : σ → μ → Option σ) (P : σ → Prop) : List μ → σ → Prop
  | [], s => P s
  | move :: moves, s => P s ∧ ∀ s', step s move = some s' → EveryState step P moves s'

lemma everyState_iff_alongRun {Inv : σ → Prop}
    (hinv : ∀ s s' move, Inv s → step s move = some s' → Inv s')
    (hstep : ∀ s s' move, Inv s → P s → step s move = some s' → (P s' ↔ C s move))
    (hs : Inv s) (hP : P s) (hrun : runSteps step moves s = some s') :
    EveryState step P moves s ↔ AlongRun step C moves s := by
  induction moves generalizing s with
  | nil => exact ⟨fun _ => trivial, fun _ => hP⟩
  | cons move moves ih =>
    obtain ⟨next, hnext, hrest⟩ := Option.bind_eq_some_iff.mp hrun
    have hiff := hstep s next move hs hP hnext
    constructor
    · intro h
      have hstates := h.2 next hnext
      have hPnext : P next := by
        cases moves with
        | nil => exact hstates
        | cons _ _ => exact hstates.1
      refine ⟨hiff.mp hPnext, fun other hother => ?_⟩
      cases hnext.symm.trans hother
      exact (ih (hinv s next move hs hnext) hPnext hrest).mp hstates
    · intro h
      have hPnext := hiff.mpr h.1
      refine ⟨hP, fun other hother => ?_⟩
      cases hnext.symm.trans hother
      exact (ih (hinv s next move hs hnext) hPnext hrest).mpr (h.2 next hnext)

/-! ## Runs without an end -/

/-- States one after another, each of which is the one before, or comes from it by a step. -/
def Execution (step : σ → μ → Option σ) (states : ℕ → σ) : Prop :=
  ∀ n, states (n + 1) = states n ∨ ∃ move, step (states n) move = some (states (n + 1))

variable {states : ℕ → σ}

lemma Execution.induction (h : Execution step states)
    (hstep : ∀ s s' move, P s → step s move = some s' → P s') {n : ℕ} (hn : P (states n)) {m : ℕ}
    (hm : n ≤ m) : P (states m) := by
  induction hm with
  | refl => exact hn
  | @step m _ ih =>
    rcases h m with heq | ⟨move, hmove⟩
    · rw [heq]
      exact ih
    · exact hstep _ _ move ih hmove

lemma exists_step_of_not {p : ℕ → Prop} {n m : ℕ} (h : n ≤ m) (hn : p n) (hm : ¬ p m) :
    ∃ k, n ≤ k ∧ k < m ∧ p k ∧ ¬ p (k + 1) := by
  induction h with
  | refl => exact absurd hn hm
  | @step m hle ih =>
    by_cases hp : p m
    · exact ⟨m, hle, Nat.lt_succ_self m, hp, hm⟩
    · obtain ⟨k, hk, hlt, hpk⟩ := ih hp
      exact ⟨k, hk, Nat.lt_succ_of_lt hlt, hpk⟩

lemma runSteps_append {l r : List μ} :
    runSteps step (l ++ r) s = (runSteps step l s).bind (runSteps step r) := by
  induction l generalizing s with
  | nil => rfl
  | cons move l ih =>
    show (step s move).bind _ = ((step s move).bind _).bind _
    rw [Option.bind_assoc]
    exact Option.bind_congr fun next _ => ih

def thenStay (step : σ → μ → Option σ) (moves : List μ) (s : σ) (n : ℕ) : σ :=
  (runSteps step (moves.take n) s).getD s

lemma thenStay_of_le (hrun : runSteps step moves s = some s') {n : ℕ} (hn : moves.length ≤ n) :
    thenStay step moves s n = s' := by
  rw [thenStay, List.take_of_length_le hn, hrun]
  rfl

lemma execution_thenStay (hrun : runSteps step moves s = some s') :
    Execution step (thenStay step moves s) := by
  intro n
  by_cases hn : n < moves.length
  · right
    have hsplit : moves = moves.take n ++ moves[n] :: moves.drop (n + 1) := by
      rw [← List.drop_eq_getElem_cons hn, List.take_append_drop]
    rw [hsplit, runSteps_append] at hrun
    obtain ⟨middle, hmiddle, hrest⟩ := Option.bind_eq_some_iff.mp hrun
    obtain ⟨next, hnext, -⟩ := Option.bind_eq_some_iff.mp hrest
    have htake : runSteps step (moves.take (n + 1)) s = some next := by
      rw [List.take_succ_eq_append_getElem hn, runSteps_append, hmiddle]
      show (step middle moves[n]).bind _ = _
      rw [hnext]
      rfl
    refine ⟨moves[n], ?_⟩
    rw [thenStay, hmiddle, thenStay, htake]
    exact hnext
  · left
    rw [thenStay_of_le hrun (by omega), thenStay_of_le hrun (by omega)]

end Data
