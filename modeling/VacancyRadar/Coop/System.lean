import VacancyRadar.Coop.Program

/-!
# Systems of cooperative programs

A system offers calls.  Each call starts a program, which runs until its first await and is then
kept with the others; a reply to an await runs the program it belongs to up to its next await.
Calls and replies come in any order, which makes every interleaving of the programs at their
awaits a run of the system.  A crash forgets all programs and whatever part of the state does
not survive it.

A run is restricted by a condition on its events, which may look at the whole configuration before
the event.
-/

namespace Coop

open Prog

variable {S : Sig} {σ ι : Type}

structure System (S : Sig) (σ ι : Type) where
  /-- The meaning of the operations. -/
  ex : Exec S σ
  /-- The program a call starts. -/
  body : ι → Prog S Unit
  /-- The state a restart finds. -/
  restart : σ → σ

/-- A configuration: the shared state and the programs started so far, each of them either
waiting for a port or at its end. -/
structure Cfg (S : Sig) (σ : Type) where
  /-- The state all programs share. -/
  shared : σ
  /-- The programs started since the last crash, in the order of their calls. -/
  procs : List (Prog S Unit)

/-- What can happen to a configuration. -/
inductive Event (S : Sig) (ι : Type) where
  | call (c : ι)
  | reply (i : ℕ) (p : S.Port) (r : Except S.Err (S.Rep p))
  | crash

def Event.origin? : Event S ι → Option (ι ⊕ S.Port)
  | .call x => some (.inl x)
  | .reply _ p _ => some (.inr p)
  | .crash => none

namespace System

variable (sys : System S σ ι) [DecidableEq S.Port]

def turn (c : Cfg S σ) : Event S ι → Option (Prog S Unit)
  | .call x => some (sys.body x)
  | .reply i p r =>
    match c.procs[i]? with
    | some (.await q k) => if h : p = q then some (k (h ▸ r)) else none
    | _ => none
  | .crash => none

/-- The configuration after an event, if the event is possible. -/
def step (c : Cfg S σ) (e : Event S ι) : Option (Cfg S σ) :=
  match e with
  | .crash => some ⟨sys.restart c.shared, []⟩
  | .call x =>
    let q := (sys.body x).advance sys.ex c.shared
    some ⟨q.1, c.procs ++ [q.2]⟩
  | .reply i p r =>
    match sys.turn c (.reply i p r) with
    | some x =>
      let q := x.advance sys.ex c.shared
      some ⟨q.1, c.procs.set i q.2⟩
    | none => none

/-- The operations an event executes, each with the state it is executed in. -/
def acts (c : Cfg S σ) (e : Event S ι) : List (S.Op × σ) :=
  match sys.turn c e with
  | some x => x.acts sys.ex c.shared
  | none => []

variable {i : ℕ} {p : S.Port} {x : Prog S Unit} {c c' c₀ : Cfg S σ} {e : Event S ι}
  {es : List (Event S ι)} {answer : (p : S.Port) → Except S.Err (S.Rep p)} {T : σ → σ → Prop}
  {ex : Exec S σ} {I : σ → Prop}

variable {sys} in
lemma turn_reply {r : Except S.Err (S.Rep p)} (h : sys.turn c (.reply i p r) = some x) :
    ∃ k, c.procs[i]? = some (await p k) ∧ x = k r := by
  simp only [turn] at h
  split at h
  · rename_i q k hk
    split at h
    · rename_i hpq
      subst hpq
      cases h
      exact ⟨k, hk, rfl⟩
    · cases h
  · cases h

variable {sys} in
lemma step_reply {r : Except S.Err (S.Rep p)} (h : sys.step c (.reply i p r) = some c') :
    ∃ x, sys.turn c (.reply i p r) = some x ∧
      c' = ⟨(x.advance sys.ex c.shared).1, c.procs.set i (x.advance sys.ex c.shared).2⟩ := by
  simp only [step] at h
  cases ht : sys.turn c (.reply i p r) with
  | none => simp [ht] at h
  | some x =>
    simp only [ht, Option.some.injEq] at h
    exact ⟨x, rfl, h.symm⟩

variable {sys} in
lemma acts_of_turn (h : sys.turn c e = some x) : sys.acts c e = x.acts sys.ex c.shared := by
  simp only [acts, h]

variable {sys} in
lemma shared_of_step (h : sys.step c e = some c') (he : e.origin?.isSome) :
    ∃ x, sys.turn c e = some x ∧ c'.shared = (x.advance sys.ex c.shared).1 := by
  cases e with
  | crash => cases he
  | call x =>
    cases h
    exact ⟨_, rfl, rfl⟩
  | reply i p r =>
    obtain ⟨x, ht, rfl⟩ := step_reply h
    exact ⟨x, ht, rfl⟩

variable {sys} in
lemma origin_of_turn (h : sys.turn c e = some x) : ∃ o, e.origin? = some o := by
  cases e with
  | crash => cases h
  | call z => exact ⟨_, rfl⟩
  | reply i p r => exact ⟨_, rfl⟩

/-- The configuration after a list of events, if they are possible one after the other. -/
def run : Cfg S σ → List (Event S ι) → Option (Cfg S σ)
  | c, [] => some c
  | c, e :: es =>
    match sys.step c e with
    | some d => run d es
    | none => none

/-- The configuration after a list of events, if they are possible and meet the condition `ok` one
after the other. -/
def runWhere (ok : Cfg S σ → Event S ι → Prop) [∀ c e, Decidable (ok c e)] :
    Cfg S σ → List (Event S ι) → Option (Cfg S σ)
  | c, [] => some c
  | c, e :: es =>
    if ok c e then
      match sys.step c e with
      | some d => runWhere ok d es
      | none => none
    else none

/-- A step of a concrete run: an event, or a number of replies to one program. -/
inductive Move (S : Sig) (ι : Type) where
  | event (e : Event S ι)
  | serve (i n : ℕ)

def serve (ok : Cfg S σ → Event S ι → Prop) [∀ c e, Decidable (ok c e)]
    (answer : (p : S.Port) → Except S.Err (S.Rep p)) (i : ℕ) : ℕ → Cfg S σ → Option (Cfg S σ)
  | 0, c => some c
  | n + 1, c =>
    match c.procs[i]? with
    | some (await p _) =>
      if ok c (.reply i p (answer p)) then
        (sys.step c (.reply i p (answer p))).bind (serve ok answer i n)
      else none
    | _ => none

def play (ok : Cfg S σ → Event S ι → Prop) [∀ c e, Decidable (ok c e)]
    (answer : (p : S.Port) → Except S.Err (S.Rep p)) : Cfg S σ → List (Move S ι) → Option (Cfg S σ)
  | c, [] => some c
  | c, .event e :: moves =>
    if ok c e then (sys.step c e).bind fun d => play ok answer d moves else none
  | c, .serve i n :: moves => (sys.serve ok answer i n c).bind fun d => play ok answer d moves

inductive Reach (ok : Cfg S σ → Event S ι → Prop) (c₀ : Cfg S σ) : Cfg S σ → Prop
  | start : Reach ok c₀ c₀
  | next {c c' : Cfg S σ} {e : Event S ι} :
      Reach ok c₀ c → ok c e → sys.step c e = some c' → Reach ok c₀ c'

variable {sys} {ok : Cfg S σ → Event S ι → Prop}

lemma Reach.of_run_from (h₀ : sys.Reach (fun _ _ => True) c₀ c) (h : sys.run c es = some c') :
    sys.Reach (fun _ _ => True) c₀ c' := by
  induction es generalizing c with
  | nil =>
    cases h
    exact h₀
  | cons e es ih =>
    rw [run] at h
    cases he : sys.step c e with
    | none => rw [he] at h; cases h
    | some d =>
      rw [he] at h
      exact ih (h₀.next trivial he) h

lemma Reach.of_run (h : sys.run c₀ es = some c) : sys.Reach (fun _ _ => True) c₀ c :=
  Reach.of_run_from .start h

lemma Reach.of_runWhere_from [∀ c e, Decidable (ok c e)] (h₀ : sys.Reach ok c₀ c)
    (h : sys.runWhere ok c es = some c') : sys.Reach ok c₀ c' := by
  induction es generalizing c with
  | nil =>
    cases h
    exact h₀
  | cons e es ih =>
    rw [runWhere] at h
    split at h
    · rename_i hok
      cases he : sys.step c e with
      | none => rw [he] at h; cases h
      | some d =>
        rw [he] at h
        exact ih (h₀.next hok he) h
    · cases h

lemma Reach.of_runWhere [∀ c e, Decidable (ok c e)] (h : sys.runWhere ok c₀ es = some c) :
    sys.Reach ok c₀ c :=
  Reach.of_runWhere_from .start h

lemma Reach.of_serve [∀ c e, Decidable (ok c e)] {n : ℕ} (h₀ : sys.Reach ok c₀ c)
    (h : sys.serve ok answer i n c = some c') : sys.Reach ok c₀ c' := by
  induction n generalizing c with
  | zero =>
    cases h
    exact h₀
  | succ n ih =>
    rw [serve] at h
    split at h
    · split at h
      · rename_i hok
        obtain ⟨d, hd, h⟩ := Option.bind_eq_some_iff.mp h
        exact ih (h₀.next hok hd) h
      · cases h
    · cases h

variable {moves : List (Move S ι)}

lemma Reach.of_play_from [∀ c e, Decidable (ok c e)] (h₀ : sys.Reach ok c₀ c)
    (h : sys.play ok answer c moves = some c') : sys.Reach ok c₀ c' := by
  induction moves generalizing c with
  | nil =>
    cases h
    exact h₀
  | cons move moves ih =>
    cases move with
    | event e =>
      rw [play] at h
      split at h
      · rename_i hok
        obtain ⟨d, hd, h⟩ := Option.bind_eq_some_iff.mp h
        exact ih (h₀.next hok hd) h
      · cases h
    | serve i n =>
      obtain ⟨d, hd, h⟩ := Option.bind_eq_some_iff.mp h
      exact ih (h₀.of_serve hd) h

lemma Reach.of_play [∀ c e, Decidable (ok c e)] (h : sys.play ok answer c₀ moves = some c) :
    sys.Reach ok c₀ c :=
  Reach.of_play_from .start h

lemma Reach.mono {ok' : Cfg S σ → Event S ι → Prop} (hok : ∀ c e, ok c e → ok' c e)
    (h : sys.Reach ok c₀ c) : sys.Reach ok' c₀ c := by
  induction h with
  | start => exact .start
  | next _ he hs ih => exact ih.next (hok _ _ he) hs

/-! ## Invariants and relations of single operations -/

omit [DecidableEq S.Port] in
lemma advance_rel {α : Type} (hrefl : ∀ s, T s s) (htrans : ∀ {s t u}, T s t → T t u → T s u)
    (x : Prog S α) (s : σ) (hact : ∀ a ∈ x.acts ex s, T a.2 (ex a.1 a.2).1) :
    T s (x.advance ex s).1 := by
  induction x generalizing s with
  | ret a => exact hrefl s
  | raise e => exact hrefl s
  | await p k ih => exact hrefl s
  | act o k ih =>
    refine htrans (hact (o, s) List.mem_cons_self) (ih _ _ fun a ha => hact a ?_)
    exact List.mem_cons_of_mem _ ha

/-- What every executed operation does, and a restart too, every event does. -/
theorem step_rel (hrefl : ∀ s, T s s) (htrans : ∀ {s t u}, T s t → T t u → T s u)
    (hrestart : ∀ s, T s (sys.restart s)) (h : sys.step c e = some c')
    (hact : ∀ a ∈ sys.acts c e, T a.2 (sys.ex a.1 a.2).1) : T c.shared c'.shared := by
  cases ho : e.origin? with
  | none =>
    cases e with
    | crash =>
      cases h
      exact hrestart _
    | call x => cases ho
    | reply i p r => cases ho
  | some o =>
    obtain ⟨x, ht, hshared⟩ := shared_of_step h (by rw [ho]; rfl)
    rw [acts_of_turn ht] at hact
    exact hshared ▸ advance_rel hrefl htrans x _ hact

/-- What every executed operation preserves, and a restart too, holds in every state reached. -/
theorem Reach.inv_of_acts (h : sys.Reach ok c₀ c) (h₀ : I c₀.shared)
    (hrestart : ∀ s, I s → I (sys.restart s))
    (hact : ∀ c e, sys.Reach ok c₀ c → ok c e → ∀ a ∈ sys.acts c e, I a.2 → I (sys.ex a.1 a.2).1) :
    I c.shared := by
  induction h with
  | start => exact h₀
  | @next c c' e hc he hs ih =>
    exact step_rel (T := fun s t => I s → I t) (fun _ h => h) (fun h₁ h₂ h => h₂ (h₁ h))
      hrestart hs (hact c e hc he) ih

omit [DecidableEq S.Port] in
lemma inv_of_mem_acts {α : Type} (x : Prog S α) {s : σ} (h : I s)
    (hact : ∀ a ∈ x.acts ex s, I a.2 → I (ex a.1 a.2).1) : ∀ a ∈ x.acts ex s, I a.2 := by
  induction x generalizing s with
  | ret a => exact nofun
  | raise e => exact nofun
  | await p k ih => exact nofun
  | act o k ih =>
    intro a ha
    rcases List.mem_cons.mp ha with rfl | ha
    · exact h
    · have hnext := hact (o, s) List.mem_cons_self h
      exact ih _ hnext (fun b hb => hact b (List.mem_cons_of_mem _ hb)) a ha

/-- What every executed operation preserves holds at every operation of an event. -/
theorem Reach.inv_at_acts (h : sys.Reach ok c₀ c) (he : ok c e) (h₀ : I c₀.shared)
    (hrestart : ∀ s, I s → I (sys.restart s))
    (hact : ∀ c e, sys.Reach ok c₀ c → ok c e → ∀ a ∈ sys.acts c e, I a.2 → I (sys.ex a.1 a.2).1) :
    ∀ a ∈ sys.acts c e, I a.2 := by
  have hc := h.inv_of_acts h₀ hrestart hact
  cases ht : sys.turn c e with
  | none => simp [System.acts, ht]
  | some x =>
    have hturn := hact c e h he
    rw [acts_of_turn ht] at hturn ⊢
    exact inv_of_mem_acts x hc hturn

end System

end Coop
