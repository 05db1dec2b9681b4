import VacancyRadar.Coop.System

/-!
# Contracts for interleaved programs

A turn of a program runs from the start of a call or the reply to an await up to the next await
or the end.  A contract says, for every program of a system at once,

* what holds whenever no turn is running (`inv`),
* what a program that waits for a port may count on (`point`), and what other turns may change
  while it waits (`rely`),
* what a turn does to the state, from the call or the port it starts at to the port it stops at
  (`guar`),
* what holds at every single operation (`pre`).

Further fields restrict the runs the contract is about: the operations that are executed
(`allow`), the replies that arrive (`reply`), the calls that are made (`enter`), and what may happen
while another program waits for a port (`meet`).

`Prog.Meets` is the obligation of one program; it composes along `bind` and the other combinators.
Meeting the contract one by one, programs keep it under every interleaving
(`Contract.good_of_reach`).
-/

namespace Coop

open Prog

structure Contract (S : Sig) (σ ι : Type) where
  inv : σ → Prop
  /-- What other turns may do to the state while a program waits. -/
  rely : σ → σ → Prop := fun _ _ => True
  /-- What holds while a program waits for a port. -/
  point : S.Port → σ → Prop := fun _ _ => True
  /-- What a turn does. -/
  guar : ι ⊕ S.Port → σ → Option S.Port → σ → Prop
  pre : S.Op → σ → Prop := fun _ _ => True
  /-- The operations the runs are restricted to. -/
  allow : S.Op → σ → Prop := fun _ _ => True
  /-- The replies the runs are restricted to. -/
  reply : (p : S.Port) → Except S.Err (S.Rep p) → σ → Prop := fun _ _ _ => True
  /-- The calls the runs are restricted to. -/
  enter : ι → σ → Prop := fun _ _ => True
  /-- The calls and replies the runs are restricted to while another program waits for a
  port. -/
  meet : ι ⊕ S.Port → S.Port → σ → Prop := fun _ _ _ => True

variable {S : Sig} {σ ι α β : Type}

/-- What a program ends with: the origin of its last turn, the state in which that turn started,
the outcome and the final state. -/
abbrev Post (S : Sig) (σ ι α : Type) : Type :=
  ι ⊕ S.Port → σ → Except S.Err α → σ → Prop

namespace Prog

variable (K : Contract S σ ι) (ex : Exec S σ)

/-- From the state `s` of a turn that started at `o` in the state `s₀`, the program keeps the
contract, and it ends only with `Q`. -/
def Meets (Q : Post S σ ι α) : Prog S α → ι ⊕ S.Port → σ → σ → Prop
  | ret a, o, s₀, s => Q o s₀ (.ok a) s
  | raise e, o, s₀, s => Q o s₀ (.error e) s
  | act a k, o, s₀, s =>
    K.allow a s → K.pre a s ∧ (k (ex a s).2).Meets Q o s₀ (ex a s).1
  | await p k, o, s₀, s =>
    K.guar o s₀ (some p) s ∧ K.point p s ∧
      ∀ r s', K.rely s s' → K.inv s' → K.point p s' → K.reply p r s' →
        (k r).Meets Q (.inr p) s' s'

variable {K ex} {Q Q' : Post S σ ι α} {o : ι ⊕ S.Port} {s₀ s : σ}

@[simp] lemma meets_ret {a : α} : (ret a).Meets K ex Q o s₀ s ↔ Q o s₀ (.ok a) s := Iff.rfl

variable {e : S.Err} {x : Prog S α} {f : α → Prog S β}

@[simp] lemma meets_raise : (raise e).Meets K ex Q o s₀ s ↔ Q o s₀ (.error e) s := Iff.rfl

@[simp] lemma meets_throw :
    (throw e : Prog S α).Meets K ex Q o s₀ s ↔ Q o s₀ (.error e) s := Iff.rfl

lemma Meets.mono (h : x.Meets K ex Q o s₀ s) (hQ : ∀ o s₀ r s, Q o s₀ r s → Q' o s₀ r s) :
    x.Meets K ex Q' o s₀ s := by
  induction x generalizing o s₀ s with
  | ret a => exact hQ _ _ _ _ h
  | raise e => exact hQ _ _ _ _ h
  | act a k ih => exact fun ha => ⟨(h ha).1, ih _ (h ha).2⟩
  | await p k ih =>
    exact ⟨h.1, h.2.1, fun r s' h₁ h₂ h₃ h₄ => ih r (h.2.2 r s' h₁ h₂ h₃ h₄)⟩

lemma Meets.mono_pre {P : S.Op → σ → Prop} (hpre : ∀ a s, K.pre a s → P a s)
    (h : x.Meets K ex Q o s₀ s) : x.Meets { K with pre := P } ex Q o s₀ s := by
  induction x generalizing o s₀ s with
  | ret a => exact h
  | raise e => exact h
  | act a k ih => exact fun ha => ⟨hpre a s (h ha).1, ih _ (h ha).2⟩
  | await p k ih =>
    exact ⟨h.1, h.2.1, fun r s' h₁ h₂ h₃ h₄ => ih r (h.2.2 r s' h₁ h₂ h₃ h₄)⟩

/-- What a program must end with so that `f` can take over. -/
def andThen (K : Contract S σ ι) (ex : Exec S σ) (f : α → Prog S β) (Q : Post S σ ι β) :
    Post S σ ι α
  | o, s₀, .ok a, s => (f a).Meets K ex Q o s₀ s
  | o, s₀, .error e, s => Q o s₀ (.error e) s

@[simp] lemma andThen_ok {Q : Post S σ ι β} {a : α} :
    andThen K ex f Q o s₀ (.ok a) s ↔ (f a).Meets K ex Q o s₀ s := Iff.rfl

@[simp] lemma andThen_error {Q : Post S σ ι β} :
    andThen K ex f Q o s₀ (.error e) s ↔ Q o s₀ (.error e) s := Iff.rfl

@[simp] lemma meets_bind {Q : Post S σ ι β} :
    (x >>= f).Meets K ex Q o s₀ s ↔ x.Meets K ex (andThen K ex f Q) o s₀ s := by
  induction x generalizing o s₀ s with
  | ret a => exact Iff.rfl
  | raise e => exact Iff.rfl
  | act a k ih => exact forall_congr' fun _ => and_congr_right fun _ => ih _
  | await p k ih =>
    refine and_congr_right fun _ => and_congr_right fun _ => ?_
    refine forall₄_congr fun r s' _ _ => forall₂_congr fun _ _ => ih r

@[simp] lemma meets_attempt {Q : Post S σ ι (Except S.Err α)} :
    x.attempt.Meets K ex Q o s₀ s ↔ x.Meets K ex (fun o s₀ r s => Q o s₀ (.ok r) s) o s₀ s := by
  induction x generalizing o s₀ s with
  | ret a => exact Iff.rfl
  | raise e => exact Iff.rfl
  | act a k ih => exact forall_congr' fun _ => and_congr_right fun _ => ih _
  | await p k ih =>
    refine and_congr_right fun _ => and_congr_right fun _ => ?_
    refine forall₄_congr fun r s' _ _ => forall₂_congr fun _ _ => ih r

@[simp] lemma meets_ofExcept {r : Except S.Err α} :
    (ofExcept r).Meets K ex Q o s₀ s ↔ Q o s₀ r s := by
  cases r <;> exact Iff.rfl

@[simp] lemma meets_exec {a : S.Op} {Q : Post S σ ι (S.Res a)} :
    (exec a).Meets K ex Q o s₀ s ↔
      (K.allow a s → K.pre a s ∧ Q o s₀ (ex a s).2 (ex a s).1) := by
  refine forall_congr' fun _ => and_congr_right fun _ => meets_ofExcept

@[simp] lemma meets_wait {p : S.Port} {Q : Post S σ ι (S.Rep p)} :
    (wait p).Meets K ex Q o s₀ s ↔
      K.guar o s₀ (some p) s ∧ K.point p s ∧
        ∀ r s', K.rely s s' → K.inv s' → K.point p s' → K.reply p r s' →
          Q (.inr p) s' r s' := by
  refine and_congr_right fun _ => and_congr_right fun _ => ?_
  refine forall₄_congr fun r s' _ _ => forall₂_congr fun _ _ => meets_ofExcept

lemma meets_ite {c : Prop} [Decidable c] {y : Prog S α} : (if c then x else y).Meets K ex Q o s₀ s ↔
      (c → x.Meets K ex Q o s₀ s) ∧ (¬ c → y.Meets K ex Q o s₀ s) := by
  by_cases hc : c <;> simp [hc]

lemma meets_andFinally {f : Prog S Unit} : (x.andFinally f).Meets K ex Q o s₀ s ↔
      x.Meets K ex (fun o s₀ r s => f.Meets K ex (andThen K ex (fun _ => ofExcept r) Q) o s₀ s)
        o s₀ s := by
  simp [andFinally]

lemma meets_call {t : S.Port} : (call t x).Meets K ex Q o s₀ s ↔
      x.Meets K ex (fun o s₀ r s => K.guar o s₀ (some t) s ∧ K.point t s ∧
        ∀ r' s', K.rely s s' → K.inv s' → K.point t s' → K.reply t r' s' →
          Q (.inr t) s' r s') o s₀ s := by
  simp [call, Meets]

/-- The rule for a loop over a list: `J` holds of the elements still to come. -/
lemma meets_forEach {ρ : Type} {f : ρ → Prog S Unit} {Q : Post S σ ι Unit}
    {J : List ρ → ι ⊕ S.Port → σ → σ → Prop} {xs : List ρ}
    (hstep : ∀ x xs o s₀ s, J (x :: xs) o s₀ s → (f x).Meets K ex
      (fun o s₀ r s => match r with
        | .ok _ => J xs o s₀ s
        | .error e => Q o s₀ (.error e) s) o s₀ s)
    (hend : ∀ o s₀ s, J [] o s₀ s → Q o s₀ (.ok ()) s) (h : J xs o s₀ s) :
    (forEach xs f).Meets K ex Q o s₀ s := by
  induction xs generalizing o s₀ s with
  | nil => exact hend _ _ _ h
  | cons x xs ih =>
    rw [forEach, meets_bind]
    refine (hstep x xs o s₀ s h).mono fun o s₀ r s hr => ?_
    cases r with
    | ok a => exact ih hr
    | error e => exact hr

end Prog

/-! ## Guarantees of single operations -/

def Contract.along (K : Contract S σ ι) (V : S.Port → Prop) : Contract S σ ι :=
  { K with guar := fun _ _ _ _ => True, point := fun p s => V p ∧ K.point p s }

lemma Prog.Meets.of_along {K : Contract S σ ι} {ex : Exec S σ} {V : S.Port → Prop}
    {T : σ → σ → Prop}
    (hguar : ∀ {p s d t}, V p → (∀ q ∈ d, V q) → T s t → K.guar (.inr p) s d t)
    (hrefl : ∀ s, T s s) (htrans : ∀ {s t u}, T s t → T t u → T s u)
    (hop : ∀ a s, K.allow a s → K.pre a s → T s (ex a s).1) {Q : Post S σ ι α}
    {x : Prog S α} {o : ι ⊕ S.Port} {s₀ s : σ} (h : x.Meets (K.along V) ex Q o s₀ s)
    (hfirst : ∀ d t, (∀ q ∈ d, V q) → T s t → K.guar o s₀ d t) :
    x.Meets K ex (fun o s₀ r t => Q o s₀ r t ∧ ∀ d, (∀ q ∈ d, V q) → K.guar o s₀ d t)
      o s₀ s := by
  induction x generalizing o s₀ s with
  | ret a => exact ⟨h, fun d hd => hfirst d s hd (hrefl s)⟩
  | raise e => exact ⟨h, fun d hd => hfirst d s hd (hrefl s)⟩
  | act a k ih =>
    intro ha
    refine ⟨(h ha).1, ih _ (h ha).2 fun d t hd ht => hfirst d t hd ?_⟩
    exact htrans (hop a s ha (h ha).1) ht
  | await p k ih =>
    refine ⟨hfirst _ s ?_ (hrefl s), h.2.1.2, fun r s' h₁ h₂ h₃ h₄ => ?_⟩
    · rintro q ⟨⟩
      exact h.2.1.1
    · exact ih r (h.2.2 r s' h₁ h₂ ⟨h.2.1.1, h₃⟩ h₄) fun d t => hguar h.2.1.1

variable {ex : Exec S σ} {o : ι ⊕ S.Port} {x : Prog S α} {K : Contract S σ ι} {Q : Post S σ ι α}

lemma Prog.Meets.rel_post {T : σ → σ → Prop} (htrans : ∀ {s t u}, T s t → T t u → T s u)
    (hrely : ∀ {s t}, K.rely s t → T s t) (hop : ∀ a s, K.allow a s → K.pre a s → T s (ex a s).1)
    {s₀ s u : σ} (h : x.Meets K ex Q o s₀ s) (hT : T u s) :
    x.Meets K ex (fun o s₀ r t => Q o s₀ r t ∧ T u t) o s₀ s := by
  induction x generalizing o s₀ s with
  | ret a => exact ⟨h, hT⟩
  | raise e => exact ⟨h, hT⟩
  | act a k ih =>
    intro ha
    exact ⟨(h ha).1, ih _ (h ha).2 (htrans hT (hop a s ha (h ha).1))⟩
  | await p k ih =>
    refine ⟨h.1, h.2.1, fun r s' h₁ h₂ h₃ h₄ => ?_⟩
    exact ih r (h.2.2 r s' h₁ h₂ h₃ h₄) (htrans hT (hrely h₁))

/-- The contract for programs whose operations may count on `I`. -/
def Contract.assuming (K : Contract S σ ι) (I : σ → Prop) : Contract S σ ι :=
  { K with allow := fun a s => K.allow a s ∧ I s }

/-- If `I` holds between turns and every operation that is executed keeps it, then it holds at
every operation. -/
lemma Prog.Meets.of_assuming {I : σ → Prop} (hinv : ∀ {s}, K.inv s → I s)
    (hop : ∀ a s, K.allow a s → K.pre a s → I s → I (ex a s).1) {s₀ s : σ}
    (h : x.Meets (K.assuming I) ex Q o s₀ s) (hI : I s) :
    x.Meets K ex (fun o s₀ r t => Q o s₀ r t ∧ I t) o s₀ s := by
  induction x generalizing o s₀ s with
  | ret a => exact ⟨h, hI⟩
  | raise e => exact ⟨h, hI⟩
  | act a k ih =>
    intro ha
    exact ⟨(h ⟨ha, hI⟩).1, ih _ (h ⟨ha, hI⟩).2 (hop a s ha (h ⟨ha, hI⟩).1 hI)⟩
  | await p k ih =>
    refine ⟨h.1, h.2.1, fun r s' h₁ h₂ h₃ h₄ => ?_⟩
    exact ih r (h.2.2 r s' h₁ h₂ h₃ h₄) (hinv h₂)

/-! ## Programs that keep a contract from every state -/

namespace Prog

def Safe (K : Contract S σ ι) (ex : Exec S σ) (x : Prog S α) : Prop :=
  ∀ o s₀ s, x.Meets K ex (fun _ _ _ _ => True) o s₀ s

variable {K : Contract S σ ι} {ex : Exec S σ}

lemma Safe.ret (a : α) : Safe K ex (ret a : Prog S α) := fun _ _ _ => trivial

lemma Safe.raise (e : S.Err) : Safe K ex (raise e : Prog S α) := fun _ _ _ => trivial

lemma Safe.pure (a : α) : Safe K ex (pure a : Prog S α) := fun _ _ _ => trivial

lemma Safe.ofExcept (r : Except S.Err α) : Safe K ex (ofExcept r : Prog S α) := by
  cases r with
  | ok a => exact Safe.ret a
  | error e => exact Safe.raise e

variable {x : Prog S α}

lemma Safe.bind {f : α → Prog S β} (hx : Safe K ex x) (hf : ∀ a, Safe K ex (f a)) :
    Safe K ex (x >>= f) := by
  intro o s₀ s
  rw [meets_bind]
  refine (hx o s₀ s).mono fun o s₀ r s _ => ?_
  cases r with
  | ok a => exact hf a o s₀ s
  | error e => trivial

lemma Safe.attempt (hx : Safe K ex x) : Safe K ex x.attempt := by
  intro o s₀ s
  rw [meets_attempt]
  exact (hx o s₀ s).mono fun _ _ _ _ _ => trivial

lemma Safe.andFinally {f : Prog S Unit} (hx : Safe K ex x) (hf : Safe K ex f) :
    Safe K ex (andFinally x f) := by
  intro o s₀ s
  rw [meets_andFinally]
  refine (hx o s₀ s).mono fun o s₀ r s _ => (hf o s₀ s).mono fun o s₀ r' s _ => ?_
  cases r' with
  | ok u => exact Safe.ofExcept r o s₀ s
  | error e => trivial

lemma Safe.call {V : S.Port → Prop} {t : S.Port} (hx : Safe (K.along V) ex x) (hV : V t)
    (ht : ∀ s, K.point t s) : Safe (K.along V) ex (call t x) := by
  intro o s₀ s
  rw [meets_call]
  exact (hx o s₀ s).mono fun _ _ _ s _ => ⟨trivial, ⟨hV, ht s⟩, fun _ _ _ _ _ _ => trivial⟩

lemma Safe.forEach {ρ : Type} {f : ρ → Prog S Unit} {xs : List ρ}
    (hf : ∀ x ∈ xs, Safe K ex (f x)) : Safe K ex (forEach xs f) := by
  induction xs with
  | nil => exact Safe.ret ()
  | cons x xs ih =>
    refine Safe.bind (hf x List.mem_cons_self) fun _ => ih fun y hy => ?_
    exact hf y (List.mem_cons_of_mem _ hy)

lemma Safe.ite {c : Prop} [Decidable c] {y : Prog S α} (hx : Safe K ex x) (hy : Safe K ex y) :
    Safe K ex (if c then x else y) := by
  split
  · exact hx
  · exact hy

end Prog

/-! ## Programs that keep a property of the state -/

namespace Prog

def Keeps (K : Contract S σ ι) (ex : Exec S σ) (J : σ → Prop) (x : Prog S α) : Prop :=
  ∀ o s₀ s, J s → x.Meets K ex (fun _ _ _ t => J t) o s₀ s

variable {K : Contract S σ ι} {ex : Exec S σ} {J : σ → Prop}

lemma Keeps.ret (a : α) : Keeps K ex J (ret a : Prog S α) := fun _ _ _ h => h

lemma Keeps.raise (e : S.Err) : Keeps K ex J (raise e : Prog S α) := fun _ _ _ h => h

variable {x : Prog S α}

lemma Keeps.bind {f : α → Prog S β} (hx : Keeps K ex J x) (hf : ∀ a, Keeps K ex J (f a)) :
    Keeps K ex J (x >>= f) := by
  intro o s₀ s h
  rw [meets_bind]
  refine (hx o s₀ s h).mono fun o s₀ r s hr => ?_
  cases r with
  | ok a => exact hf a o s₀ s hr
  | error e => exact hr

lemma Keeps.attempt (hx : Keeps K ex J x) : Keeps K ex J x.attempt := by
  intro o s₀ s h
  rw [meets_attempt]
  exact hx o s₀ s h

lemma Keeps.call {V : S.Port → Prop} {t : S.Port} (hx : Keeps (K.along V) ex J x) (hV : V t)
    (ht : ∀ s, K.point t s ↔ J s) : Keeps (K.along V) ex J (call t x) := by
  intro o s₀ s h
  rw [meets_call]
  refine (hx o s₀ s h).mono fun _ _ _ s hs => ⟨trivial, ⟨hV, (ht s).mpr hs⟩, ?_⟩
  exact fun _ s' _ _ hpoint _ => (ht s').mp hpoint.2

lemma Keeps.ite {c : Prop} [Decidable c] {y : Prog S α} (hx : Keeps K ex J x) (hy : Keeps K ex J y) :
    Keeps K ex J (if c then x else y) := by
  split
  · exact hx
  · exact hy

end Prog

/-! ## One turn under a contract -/

namespace Contract

variable {K : Contract S σ ι} {ex : Exec S σ} {Q : Post S σ ι α}

variable {o : ι ⊕ S.Port} {s s₀ : σ} {x : Prog S Unit} {c : Cfg S σ} {e : Event S ι}

lemma pre_of_meets {x : Prog S α} (h : x.Meets K ex Q o s₀ s)
    (hallow : ∀ a ∈ x.acts ex s, K.allow a.1 a.2) : ∀ a ∈ x.acts ex s, K.pre a.1 a.2 := by
  induction x generalizing s with
  | ret a => simp [acts]
  | raise e => simp [acts]
  | await p k ih => simp [acts]
  | act b k ih =>
    have hb := h (hallow (b, s) List.mem_cons_self)
    intro a ha
    rcases List.mem_cons.mp ha with rfl | ha
    · exact hb.1
    · exact ih _ hb.2 (fun c hc => hallow c (List.mem_cons_of_mem _ hc)) a ha

/-- A turn ends where `Meets` allows it to end. -/
lemma advance_of_meets {x : Prog S α} (h : x.Meets K ex Q o s₀ s)
    (hallow : ∀ a ∈ x.acts ex s, K.allow a.1 a.2) :
    (x.advance ex s).2.Meets K ex Q o s₀ (x.advance ex s).1 ∧
      ∀ b k, (x.advance ex s).2 ≠ .act b k := by
  induction x generalizing s with
  | ret a => exact ⟨h, by simp [advance]⟩
  | raise e => exact ⟨h, by simp [advance]⟩
  | await p k ih => exact ⟨h, by simp [advance]⟩
  | act b k ih =>
    have hb := h (hallow (b, s) List.mem_cons_self)
    exact ih _ hb.2 fun c hc => hallow c (List.mem_cons_of_mem _ hc)

lemma guar_of_meets (h : x.Meets K ex (fun o s₀ _ t => K.guar o s₀ none t) o s₀ s)
    (hallow : ∀ a ∈ x.acts ex s, K.allow a.1 a.2) :
    K.guar o s₀ (x.advance ex s).2.port? (x.advance ex s).1 := by
  obtain ⟨hadv, hact⟩ := advance_of_meets h hallow
  generalize x.advance ex s = z at hadv hact ⊢
  obtain ⟨t, y⟩ := z
  cases y with
  | ret a => exact hadv
  | raise e => exact hadv
  | act b k => exact absurd rfl (hact b k)
  | await p k => exact hadv.1

/-! ## All interleavings -/

variable [DecidableEq S.Port]

def Allowed (K : Contract S σ ι) (sys : System S σ ι) (c : Cfg S σ) (e : Event S ι) : Prop :=
  (∀ a ∈ sys.acts c e, K.allow a.1 a.2) ∧
    match e with
    | .call x => K.enter x c.shared ∧
        ∀ (j : ℕ) p k, c.procs[j]? = some (await p k) → K.meet (.inl x) p c.shared
    | .reply i q r => K.reply q r c.shared ∧
        ∀ (j : ℕ) p k, i ≠ j → c.procs[j]? = some (await p k) → K.meet (.inr q) p c.shared
    | .crash => True

/-- A program that waits for `p` next to the turn that starts at `o`: both points hold, and the
two are allowed together. -/
def Beside (K : Contract S σ ι) (compat : S.Port → S.Port → Prop) (p : S.Port) (s : σ)
    (o : ι ⊕ S.Port) : Prop :=
  K.meet o p s ∧
    match o with
    | .inl x => K.enter x s
    | .inr q => K.point q s ∧ compat p q

/-- The side conditions under which programs keep a contract together.  `compat` holds of the ports
of any two waiting programs. -/
structure Sound (K : Contract S σ ι) (sys : System S σ ι) (compat : S.Port → S.Port → Prop) :
    Prop where
  rely_refl : ∀ s, K.rely s s
  rely_trans : ∀ {s t u}, K.rely s t → K.rely t u → K.rely s u
  rely_of_guar : ∀ {o s d t}, K.inv s → K.guar o s d t → K.rely s t
  inv_of_guar : ∀ {o s d t}, K.inv s → K.guar o s d t → K.inv t
  point_of_guar : ∀ {o s d t p}, K.inv s → K.point p s → K.Beside compat p s o →
    K.guar o s d t → K.point p t
  compat_symm : ∀ {p q}, compat p q → compat q p
  compat_of_guar : ∀ {o s d t p}, K.inv s → K.point p s → K.Beside compat p s o →
    K.guar o s (some d) t → compat p d
  body : ∀ x s, K.inv s → K.enter x s →
    (sys.body x).Meets K sys.ex (fun o s₀ _ t => K.guar o s₀ none t) (.inl x) s s
  restart : ∀ s, K.inv s → K.inv (sys.restart s)

/-- What every configuration of a run satisfies. -/
structure Good (K : Contract S σ ι) (ex : Exec S σ) (compat : S.Port → S.Port → Prop)
    (c : Cfg S σ) : Prop where
  inv : K.inv c.shared
  point : ∀ (i : ℕ) p k, c.procs[i]? = some (await p k) → K.point p c.shared
  resume : ∀ (i : ℕ) p k, c.procs[i]? = some (await p k) → ∀ r s, K.rely c.shared s →
    K.inv s → K.point p s → K.reply p r s →
      (k r).Meets K ex (fun o s₀ _ t => K.guar o s₀ none t) (.inr p) s s
  compat : ∀ (i j : ℕ) p q k l, i ≠ j → c.procs[i]? = some (await p k) →
    c.procs[j]? = some (await q l) → compat p q

variable {sys : System S σ ι} {compat : S.Port → S.Port → Prop}

omit [DecidableEq S.Port] in
lemma Good.start (h : K.inv s) : K.Good ex compat ⟨s, []⟩ :=
  ⟨h, by simp, by simp, by simp⟩

omit [DecidableEq S.Port] in
/-- One turn of the program at index `i`, which started at `o`, seen from the programs that did
not run. -/
lemma Good.of_turn (hs : K.Sound sys compat) (hc : K.Good sys.ex compat c) {i : ℕ}
    {procs : List (Prog S Unit)}
    (hx : x.Meets K sys.ex (fun o s₀ _ t => K.guar o s₀ none t) o c.shared c.shared)
    (hallow : ∀ a ∈ x.acts sys.ex c.shared, K.allow a.1 a.2)
    (ho : ∀ (j : ℕ) p k, i ≠ j → c.procs[j]? = some (await p k) → K.Beside compat p c.shared o)
    (hi : ∀ y, procs[i]? = some y → y = (x.advance sys.ex c.shared).2)
    (hother : ∀ j y, i ≠ j → procs[j]? = some y → c.procs[j]? = some y) :
    K.Good sys.ex compat ⟨(x.advance sys.ex c.shared).1, procs⟩ := by
  have hguar := guar_of_meets hx hallow
  obtain ⟨hadv, -⟩ := advance_of_meets hx hallow
  generalize x.advance sys.ex c.shared = z at hi hadv hguar ⊢
  obtain ⟨s, y⟩ := z
  refine ⟨hs.inv_of_guar hc.inv hguar, ?_, ?_, ?_⟩
  · intro j p k hj
    by_cases hij : i = j
    · subst hij
      obtain rfl := hi _ hj
      exact hadv.2.1
    · have hj' := hother j _ hij hj
      exact hs.point_of_guar hc.inv (hc.point j p k hj') (ho j p k hij hj') hguar
  · intro j p k hj r t hrely hinv hpoint hreply
    by_cases hij : i = j
    · subst hij
      obtain rfl := hi _ hj
      exact hadv.2.2 r t hrely hinv hpoint hreply
    · have hj' := hother j _ hij hj
      exact hc.resume j p k hj' r t (hs.rely_trans (hs.rely_of_guar hc.inv hguar) hrely) hinv
        hpoint hreply
  · intro j l p q k m hjl hj hl
    by_cases hij : i = j
    · subst hij
      obtain rfl := hi _ hj
      have hl' := hother l _ hjl hl
      exact hs.compat_symm <|
        hs.compat_of_guar hc.inv (hc.point l q m hl') (ho l q m hjl hl') hguar
    · have hj' := hother j _ hij hj
      by_cases hil : i = l
      · subst hil
        obtain rfl := hi _ hl
        exact hs.compat_of_guar hc.inv (hc.point j p k hj') (ho j p k hij hj') hguar
      · exact hc.compat j l p q k m hjl hj' (hother l _ hil hl)

lemma Good.meets_turn (hs : K.Sound sys compat) (hc : K.Good sys.ex compat c)
    (he : K.Allowed sys c e) (ht : sys.turn c e = some x) (ho : e.origin? = some o) :
    x.Meets K sys.ex (fun o s₀ _ t => K.guar o s₀ none t) o c.shared c.shared := by
  cases e with
  | crash => cases ho
  | call z =>
    cases ho
    cases ht
    exact hs.body z _ hc.inv he.2.1
  | reply i p r =>
    cases ho
    obtain ⟨k, hk, rfl⟩ := System.turn_reply ht
    exact hc.resume i p k hk r c.shared (hs.rely_refl _) hc.inv (hc.point i p k hk) he.2.1

/-- **Programs that meet a contract one by one keep it together**: an event leads from a good
configuration to a good configuration. -/
theorem Good.step (hs : K.Sound sys compat) {c c' : Cfg S σ} {e : Event S ι}
    (hc : K.Good sys.ex compat c) (he : K.Allowed sys c e) (h : sys.step c e = some c') :
    K.Good sys.ex compat c' := by
  cases e with
  | crash =>
    cases h
    exact Good.start (hs.restart _ hc.inv)
  | call x =>
    cases h
    refine hc.of_turn hs (i := c.procs.length) (hc.meets_turn hs he rfl rfl) he.1 ?_ ?_ ?_
    · intro j p k _ hj
      exact ⟨he.2.2 j p k hj, he.2.1⟩
    · intro y hy
      simpa using hy.symm
    · intro j y hj hy
      rcases Nat.lt_or_gt_of_ne hj with hlt | hlt
      · rw [List.getElem?_eq_none (by simp; omega)] at hy
        cases hy
      · rwa [List.getElem?_append_left hlt] at hy
  | reply i p r =>
    obtain ⟨x, ht, rfl⟩ := System.step_reply h
    obtain ⟨k, hk, -⟩ := System.turn_reply ht
    have hallow := he.1
    rw [System.acts_of_turn ht] at hallow
    refine hc.of_turn hs (i := i) (hc.meets_turn hs he ht rfl) hallow ?_ ?_ ?_
    · intro j p' k' hij hj
      exact ⟨he.2.2 j p' k' hij hj, hc.point i _ k hk, hc.compat j i p' _ k' k (Ne.symm hij) hj hk⟩
    · intro y hy
      rw [List.getElem?_set_self (List.getElem?_eq_some_iff.mp hk).1] at hy
      exact (Option.some.inj hy).symm
    · intro j y hij hy
      rwa [List.getElem?_set_ne hij] at hy

/-- What the turn of an event does to the state. -/
theorem Good.guar_step (hs : K.Sound sys compat) {c' : Cfg S σ} (hc : K.Good sys.ex compat c)
    (he : K.Allowed sys c e) (ho : e.origin? = some o) (h : sys.step c e = some c') :
    ∃ d, K.guar o c.shared d c'.shared := by
  obtain ⟨x, ht, hshared⟩ := System.shared_of_step h (by rw [ho]; rfl)
  have hallow := he.1
  rw [System.acts_of_turn ht] at hallow
  exact ⟨_, hshared ▸ guar_of_meets (hc.meets_turn hs he ht ho) hallow⟩

/-- What holds at each operation of an event. -/
theorem Good.pre_step (hs : K.Sound sys compat) (hc : K.Good sys.ex compat c)
    (he : K.Allowed sys c e) : ∀ a ∈ sys.acts c e, K.pre a.1 a.2 := by
  cases ht : sys.turn c e with
  | none => simp [System.acts, ht]
  | some x =>
    obtain ⟨o, ho⟩ := System.origin_of_turn ht
    have hallow := he.1
    rw [System.acts_of_turn ht] at hallow ⊢
    exact pre_of_meets (hc.meets_turn hs he ht ho) hallow

/-- Every configuration of a run is good. -/
theorem good_of_reach (hs : K.Sound sys compat) {c₀ : Cfg S σ} (h₀ : K.Good sys.ex compat c₀)
    (h : sys.Reach (K.Allowed sys) c₀ c) : K.Good sys.ex compat c := by
  induction h with
  | start => exact h₀
  | next _ he hstep ih => exact ih.step hs he hstep

end Contract

end Coop
