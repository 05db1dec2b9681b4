import VacancyRadar.Coop.Uses

/-!
# A program that runs alone

With a function that answers every port a program runs from its beginning to its end, with no turn
of another program in between.  `alone` is where it ends, and `Does` says that it executes an
operation of a kind on its way.  `beside` is where it ends when its ports are served by a component
that has a state of its own.
-/

namespace Coop

namespace Prog

variable {S : Sig} {σ α β : Type} {ex : Exec S σ} {P Q : S.Op → Prop}
  {answer : (p : S.Port) → Except S.Err (S.Rep p)}

/-- The state in which the program ends, and its outcome. -/
def alone (ex : Exec S σ) (answer : (p : S.Port) → Except S.Err (S.Rep p)) :
    Prog S α → σ → σ × Except S.Err α
  | ret a, s => (s, .ok a)
  | raise e, s => (s, .error e)
  | act o k, s => (k (ex o s).2).alone ex answer (ex o s).1
  | await p k, s => (k (answer p)).alone ex answer s

/-- The program executes an operation in `P`. -/
def Does (ex : Exec S σ) (answer : (p : S.Port) → Except S.Err (S.Rep p)) (P : S.Op → Prop) :
    Prog S α → σ → Prop
  | ret _, _ => False
  | raise _, _ => False
  | act o k, s => P o ∨ (k (ex o s).2).Does ex answer P (ex o s).1
  | await p k, s => (k (answer p)).Does ex answer P s

/-- Whether a program does is found out by running it. -/
instance decidableDoes [DecidablePred P] : ∀ (x : Prog S α) (s : σ),
    Decidable (x.Does ex answer P s)
  | ret _, _ => isFalse id
  | raise _, _ => isFalse id
  | act o k, s =>
    have := decidableDoes (k (ex o s).2) (ex o s).1
    inferInstanceAs (Decidable (P o ∨ (k (ex o s).2).Does ex answer P (ex o s).1))
  | await p k, s => decidableDoes (k (answer p)) s

/-! ## Where it ends -/

/-- What follows a program, given where it ended. -/
def thenAlone (f : α → σ → σ × Except S.Err β) : σ × Except S.Err α → σ × Except S.Err β
  | (s, .ok a) => f a s
  | (s, .error e) => (s, .error e)

lemma alone_bind (x : Prog S α) (f : α → Prog S β) (s : σ) :
    (x >>= f).alone ex answer s =
      thenAlone (fun a => (f a).alone ex answer) (x.alone ex answer s) := by
  induction x generalizing s with
  | ret a => rfl
  | raise e => rfl
  | act o k ih => exact ih _ _
  | await p k ih => exact ih _ _

lemma alone_map (x : Prog S α) (f : α → β) (s : σ) :
    (f <$> x).alone ex answer s = ((x.alone ex answer s).1, (x.alone ex answer s).2.map f) := by
  change (x >>= fun a => pure (f a)).alone ex answer s = _
  rw [alone_bind]
  obtain ⟨t, r⟩ := x.alone ex answer s
  cases r <;> rfl

lemma alone_ofExcept (r : Except S.Err α) (s : σ) :
    (ofExcept r : Prog S α).alone ex answer s = (s, r) := by
  cases r <;> rfl

lemma alone_exec (o : S.Op) (s : σ) : (exec o).alone ex answer s = ex o s :=
  alone_ofExcept _ _

lemma alone_wait (p : S.Port) (s : σ) : (wait p).alone ex answer s = (s, answer p) :=
  alone_ofExcept _ _

lemma alone_attempt (x : Prog S α) (s : σ) :
    x.attempt.alone ex answer s = ((x.alone ex answer s).1, .ok (x.alone ex answer s).2) := by
  induction x generalizing s with
  | ret a => rfl
  | raise e => rfl
  | act o k ih => exact ih _ _
  | await p k ih => exact ih _ _

lemma alone_call (t : S.Port) (x : Prog S α) (s : σ) :
    (call t x).alone ex answer s = x.alone ex answer s := by
  rw [call, alone_bind, alone_attempt]
  exact alone_ofExcept _ _

/-! ## What it does -/

lemma does_bind (x : Prog S α) (f : α → Prog S β) (s : σ) :
    (x >>= f).Does ex answer P s ↔ x.Does ex answer P s ∨
      ∃ t a, x.alone ex answer s = (t, .ok a) ∧ (f a).Does ex answer P t := by
  induction x generalizing s with
  | ret a =>
    constructor
    · exact fun h => .inr ⟨s, a, rfl, h⟩
    · rintro (h | ⟨t, b, ⟨⟩, h⟩)
      · exact False.elim h
      · exact h
  | raise e =>
    constructor
    · exact fun h => False.elim h
    · rintro (h | ⟨t, b, ⟨⟩, h⟩)
      exact False.elim h
  | act o k ih =>
    change (P o ∨ _) ↔ (P o ∨ _) ∨ _
    rw [or_assoc]
    exact or_congr_right (ih _ _)
  | await p k ih => exact ih _ _

lemma not_does_ofExcept (r : Except S.Err α) (s : σ) :
    ¬(ofExcept r : Prog S α).Does ex answer P s := by
  cases r <;> exact id

lemma does_exec (o : S.Op) (s : σ) : (exec o).Does ex answer P s ↔ P o :=
  or_iff_left (not_does_ofExcept _ _)

lemma does_attempt (x : Prog S α) (s : σ) :
    x.attempt.Does ex answer P s ↔ x.Does ex answer P s := by
  induction x generalizing s with
  | ret a => exact .rfl
  | raise e => exact .rfl
  | act o k ih => exact or_congr_right (ih _ _)
  | await p k ih => exact ih _ _

lemma does_call (t : S.Port) (x : Prog S α) (s : σ) :
    (call t x).Does ex answer P s ↔ x.Does ex answer P s := by
  rw [call, does_bind, does_attempt]
  refine or_iff_left ?_
  rintro ⟨u, r, -, h⟩
  exact not_does_ofExcept _ _ h

variable {V : S.Port → Prop} {x : Prog S α}

lemma Uses.not_does (hx : Uses Q V x) (hQ : ∀ o, Q o → ¬P o) (s : σ) : ¬x.Does ex answer P s := by
  induction x generalizing s with
  | ret a => exact id
  | raise e => exact id
  | act o k ih => exact not_or.mpr ⟨hQ o hx.1, ih _ (hx.2 _) _⟩
  | await p k ih => exact ih _ (hx.2 _) _

lemma does_bind_of_uses (hx : Uses Q V x) (hQ : ∀ o, Q o → ¬P o) (f : α → Prog S β) (s : σ) :
    (x >>= f).Does ex answer P s ↔
      ∃ t a, x.alone ex answer s = (t, .ok a) ∧ (f a).Does ex answer P t := by
  rw [does_bind]
  exact or_iff_right (hx.not_does hQ s)

lemma does_andFinally_of_uses (x : Prog S α) {f : Prog S Unit} (hf : Uses Q V f)
    (hQ : ∀ o, Q o → ¬P o) (s : σ) :
    (x.andFinally f).Does ex answer P s ↔ x.Does ex answer P s := by
  rw [andFinally, does_bind, does_attempt]
  refine or_iff_left ?_
  rintro ⟨t, r, -, h⟩
  rw [does_bind_of_uses hf hQ] at h
  obtain ⟨u, a, -, h⟩ := h
  exact not_does_ofExcept _ _ h

/-! ## Beside a server -/

section Beside

variable {τ ι : Type} {serve : (p : S.Port) → τ → τ × Except S.Err (S.Rep p)} {w : σ × τ}

def beside (ex : Exec S σ) (serve : (p : S.Port) → τ → τ × Except S.Err (S.Rep p)) :
    Prog S α → σ × τ → (σ × τ) × Except S.Err α
  | ret a, w => (w, .ok a)
  | raise e, w => (w, .error e)
  | act o k, w => (k (ex o w.1).2).beside ex serve ((ex o w.1).1, w.2)
  | await p k, w => (k (serve p w.2).2).beside ex serve (w.1, (serve p w.2).1)

lemma beside_bind (x : Prog S α) (f : α → Prog S β) (w : σ × τ) :
    (x >>= f).beside ex serve w =
      thenAlone (fun a => (f a).beside ex serve) (x.beside ex serve w) := by
  induction x generalizing w with
  | ret a => rfl
  | raise e => rfl
  | act o k ih => exact ih _ _
  | await p k ih => exact ih _ _

lemma beside_ofExcept (r : Except S.Err α) (w : σ × τ) :
    (ofExcept r : Prog S α).beside ex serve w = (w, r) := by
  cases r <;> rfl

lemma beside_exec (o : S.Op) (w : σ × τ) :
    (exec o).beside ex serve w = (((ex o w.1).1, w.2), (ex o w.1).2) :=
  beside_ofExcept _ _

lemma beside_wait (p : S.Port) (w : σ × τ) :
    (wait p).beside ex serve w = ((w.1, (serve p w.2).1), (serve p w.2).2) :=
  beside_ofExcept _ _

lemma beside_attempt (x : Prog S α) (w : σ × τ) :
    x.attempt.beside ex serve w =
      ((x.beside ex serve w).1, .ok (x.beside ex serve w).2) := by
  induction x generalizing w with
  | ret a => rfl
  | raise e => rfl
  | act o k ih => exact ih _ _
  | await p k ih => exact ih _ _

lemma beside_bind_ok {x : Prog S α} {f : α → Prog S β} {w' : σ × τ} {a : α}
    (h : x.beside ex serve w = (w', .ok a)) :
    (x >>= f).beside ex serve w = (f a).beside ex serve w' := by
  rw [beside_bind, h]
  rfl

lemma beside_call {t : S.Port} (ht : ∀ q, (serve t q).1 = q) (x : Prog S α) (w : σ × τ) :
    (call t x).beside ex serve w = x.beside ex serve w := by
  rw [call, beside_bind, beside_attempt]
  obtain ⟨⟨s, q⟩, r⟩ := x.beside ex serve w
  change ((ofExcept r : Prog S α)).beside ex serve (s, (serve t q).1) = _
  rw [beside_ofExcept, ht]

end Beside

end Prog

end Coop
