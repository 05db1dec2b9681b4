import VacancyRadar.Coop.Contract

/-!
# What a program is made of

`Prog.Uses P V` says of the text of a program that all its operations are in `P` and all its ports
in `V`, whatever the operations and the ports answer.  It is shown once for each program and
then used in every contract for which nothing else about the program matters.
-/

namespace Coop

open Prog

variable {S : Sig} {σ ι α β : Type}

namespace Prog

def Uses (P : S.Op → Prop) (V : S.Port → Prop) : Prog S α → Prop
  | ret _ => True
  | raise _ => True
  | act o k => P o ∧ ∀ r, (k r).Uses P V
  | await p k => V p ∧ ∀ r, (k r).Uses P V

variable {P P' : S.Op → Prop} {V V' : S.Port → Prop}

lemma Uses.ret (a : α) : Uses P V (ret a : Prog S α) := trivial

lemma Uses.pure (a : α) : Uses P V (pure a : Prog S α) := trivial

lemma Uses.throw (e : S.Err) : Uses P V (throw e : Prog S α) := trivial

lemma Uses.ofExcept (r : Except S.Err α) : Uses P V (ofExcept r : Prog S α) := by
  cases r <;> trivial

lemma Uses.exec {o : S.Op} (h : P o) : Uses P V (exec o) := ⟨h, fun r => Uses.ofExcept r⟩

lemma Uses.wait {p : S.Port} (h : V p) : Uses P V (wait p) := ⟨h, fun r => Uses.ofExcept r⟩

variable {x : Prog S α} {K : Contract S σ ι} {ex : Exec S σ} {s : σ}

lemma Uses.bind {f : α → Prog S β} (hx : Uses P V x) (hf : ∀ a, Uses P V (f a)) :
    Uses P V (x >>= f) := by
  induction x with
  | ret a => exact hf a
  | raise e => trivial
  | act o k ih => exact ⟨hx.1, fun r => ih r (hx.2 r)⟩
  | await p k ih => exact ⟨hx.1, fun r => ih r (hx.2 r)⟩

lemma Uses.map {f : α → β} (hx : Uses P V x) : Uses P V (f <$> x) :=
  hx.bind fun a => Uses.ret (f a)

lemma Uses.attempt (hx : Uses P V x) : Uses P V x.attempt := by
  induction x with
  | ret a => trivial
  | raise e => trivial
  | act o k ih => exact ⟨hx.1, fun r => ih r (hx.2 r)⟩
  | await p k ih => exact ⟨hx.1, fun r => ih r (hx.2 r)⟩

lemma Uses.andFinally {f : Prog S Unit} (hx : Uses P V x) (hf : Uses P V f) :
    Uses P V (x.andFinally f) :=
  hx.attempt.bind fun r => hf.bind fun _ => Uses.ofExcept r

lemma Uses.call {t : S.Port} (hx : Uses P V x) (ht : V t) : Uses P V (call t x) :=
  hx.attempt.bind fun r => ⟨ht, fun _ => Uses.ofExcept r⟩

lemma Uses.forEach {ρ : Type} {f : ρ → Prog S Unit} {xs : List ρ}
    (hf : ∀ x ∈ xs, Uses P V (f x)) : Uses P V (forEach xs f) := by
  induction xs with
  | nil => trivial
  | cons x xs ih =>
    refine (hf x List.mem_cons_self).bind fun _ => ih fun y hy => ?_
    exact hf y (List.mem_cons_of_mem _ hy)

lemma Uses.ite {c : Prop} [Decidable c] {y : Prog S α} (hx : Uses P V x) (hy : Uses P V y) :
    Uses P V (if c then x else y) := by
  split
  · exact hx
  · exact hy

lemma Uses.mono (hP : ∀ o, P o → P' o) (hV : ∀ p, V p → V' p) (hx : Uses P V x) : Uses P' V' x := by
  induction x with
  | ret a => trivial
  | raise e => trivial
  | act o k ih => exact ⟨hP o hx.1, fun r => ih r (hx.2 r)⟩
  | await p k ih => exact ⟨hV p hx.1, fun r => ih r (hx.2 r)⟩

lemma Uses.safe (hx : Uses P V x) (hpre : ∀ a s, P a → K.allow a s → K.pre a s)
    (hpoint : ∀ p s, V p → K.point p s) (hguar : ∀ o s₀ p s, V p → K.guar o s₀ (some p) s) :
    Safe K ex x := by
  induction x with
  | ret a => exact Safe.ret a
  | raise e => exact Safe.raise e
  | act o k ih =>
    intro t s₀ s ha
    exact ⟨hpre o s hx.1 ha, ih _ (hx.2 _) t s₀ _⟩
  | await p k ih =>
    intro t s₀ s
    refine ⟨hguar t s₀ p s hx.1, hpoint p s hx.1, fun r s' _ _ _ _ => ?_⟩
    exact ih r (hx.2 r) _ _ _

lemma Uses.meets_rel {T : σ → σ → Prop} {o : ι ⊕ S.Port} {s₀ : σ} (hx : Uses P V x)
    (hrefl : ∀ s, T s s) (htrans : ∀ {s t u}, T s t → T t u → T s u)
    (hop : ∀ a s, P a → K.allow a s → K.pre a s ∧ T s (ex a s).1)
    (hpoint : ∀ p s, V p → K.point p s) (hguar : ∀ o s₀ p s, V p → T s₀ s → K.guar o s₀ (some p) s)
    (hT : T s₀ s) : x.Meets K ex (fun _ s₀ _ t => T s₀ t) o s₀ s := by
  induction x generalizing o s₀ s with
  | ret a => exact hT
  | raise e => exact hT
  | act a k ih =>
    intro ha
    have h := hop a s hx.1 ha
    exact ⟨h.1, ih _ (hx.2 _) (htrans hT h.2)⟩
  | await p k ih =>
    refine ⟨hguar o s₀ p s hx.1 hT, hpoint p s hx.1, fun r s' _ _ _ _ => ?_⟩
    exact ih r (hx.2 r) (hrefl s')

/-- Until its next await, a turn of the program executes only operations in `R` of its origin; the
origin of its last turn satisfies `Q`. -/
def Obeys (R : ι ⊕ S.Port → S.Op → Prop) (Q : ι ⊕ S.Port → Prop) : Prog S α → ι ⊕ S.Port → Prop
  | ret _, t => Q t
  | raise _, t => Q t
  | act o k, t => R t o ∧ ∀ r, (k r).Obeys R Q t
  | await p k, _ => ∀ r, (k r).Obeys R Q (.inr p)

variable {R : ι ⊕ S.Port → S.Op → Prop} {Q Q' : ι ⊕ S.Port → Prop} {t : ι ⊕ S.Port}

lemma Uses.obeys (hx : Uses P V x) (hstart : ∀ o, P o → R t o)
    (hport : ∀ p, V p → ∀ o, P o → R (.inr p) o) (hend : Q t) (hendport : ∀ p, V p → Q (.inr p)) :
    x.Obeys R Q t := by
  induction x generalizing t with
  | ret a => exact hend
  | raise e => exact hend
  | act o k ih => exact ⟨hstart o hx.1, fun r => ih r (hx.2 r) hstart hend⟩
  | await p k ih => exact fun r => ih r (hx.2 r) (hport p hx.1) (hendport p hx.1)

lemma Obeys.of_mem_acts (hx : x.Obeys R Q t) : ∀ a ∈ x.acts ex s, R t a.1 := by
  induction x generalizing s with
  | ret a => simp [acts]
  | raise e => simp [acts]
  | await p k ih => simp [acts]
  | act o k ih =>
    intro a ha
    rcases List.mem_cons.mp ha with rfl | ha
    · exact hx.1
    · exact ih _ (hx.2 _) a ha

lemma Obeys.advance (hx : x.Obeys R Q t) : (x.advance ex s).2.Obeys R Q t := by
  induction x generalizing s with
  | ret a => exact hx
  | raise e => exact hx
  | await p k ih => exact hx
  | act o k ih => exact ih _ (hx.2 _)

end Prog

namespace System

variable [DecidableEq S.Port] {sys : System S σ ι} {ok : Cfg S σ → Event S ι → Prop}
  {R : ι ⊕ S.Port → S.Op → Prop}

lemma obeys_of_reach (hbody : ∀ x, (sys.body x).Obeys R (fun _ => True) (.inl x))
    {c₀ c : Cfg S σ} (h₀ : c₀.procs = []) (h : sys.Reach ok c₀ c) :
    ∀ (i : ℕ) p k, c.procs[i]? = some (await p k) →
      ∀ r, (k r).Obeys R (fun _ => True) (.inr p) := by
  induction h with
  | start => simp [h₀]
  | @next c c' e hc he hs ih =>
    intro i p k hi
    cases e with
    | crash =>
      cases hs
      simp at hi
    | call x =>
      cases hs
      rcases Nat.lt_or_ge i c.procs.length with hlt | hge
      · rw [List.getElem?_append_left hlt] at hi
        exact ih i p k hi
      · rw [List.getElem?_append_right hge] at hi
        have hadv : ((sys.body x).advance sys.ex c.shared).2.Obeys R (fun _ => True) (.inl x) :=
          (hbody x).advance
        cases hn : i - c.procs.length with
        | succ n => simp [hn] at hi
        | zero =>
          rw [hn, List.getElem?_cons_zero] at hi
          rw [Option.some.inj hi] at hadv
          exact hadv
    | reply j q r =>
      obtain ⟨x, ht, rfl⟩ := step_reply hs
      obtain ⟨l, hl, rfl⟩ := turn_reply ht
      by_cases hij : j = i
      · subst hij
        rw [List.getElem?_set_self (List.getElem?_eq_some_iff.mp hl).1] at hi
        have hadv : ((l r).advance sys.ex c.shared).2.Obeys R (fun _ => True) (.inr q) :=
          (ih j q l hl r).advance
        rw [Option.some.inj hi] at hadv
        exact hadv
      · rw [List.getElem?_set_ne hij] at hi
        exact ih i p k hi

/-- **A turn executes only operations of its origin**, in every run. -/
theorem acts_of_reach (hbody : ∀ x, (sys.body x).Obeys R (fun _ => True) (.inl x))
    {c₀ c : Cfg S σ} (h₀ : c₀.procs = []) (h : sys.Reach ok c₀ c) {e : Event S ι}
    {t : ι ⊕ S.Port} (ht : e.origin? = some t) : ∀ a ∈ sys.acts c e, R t a.1 := by
  intro a ha
  cases e with
  | crash => cases ht
  | call x =>
    cases ht
    exact (hbody x).of_mem_acts a ha
  | reply i p r =>
    cases ht
    cases hx : sys.turn c (.reply i p r) with
    | none => simp [acts, hx] at ha
    | some x =>
      rw [acts_of_turn hx] at ha
      obtain ⟨k, hk, rfl⟩ := turn_reply hx
      exact (obeys_of_reach hbody h₀ h i p k hk r).of_mem_acts a ha

end System

end Coop
