import VacancyRadar.Desktop.Effects
import VacancyRadar.Desktop.Uses

/-!
# One click for an attempt

A submission reserves its attempt before it looks at anything, and it gives the reservation back
when it has recorded its outcome.  Between the two it is the only program that clicks for the
attempt or ends a click, and the page is not handed to a person.  An attempt whose click came
through is locked: its checkpoint says that it was submitted, or may have been, and a submission
that finds such a checkpoint refuses.  One function takes an attempt out of such a checkpoint: the
recovery, which writes attempts it listed some turns ago.
-/

namespace VacancyRadar.Desktop

open Coop Data Workspace Prog

/-! ## The invariant -/

def Checkpoint.sent : List Checkpoint := .submitting :: Checkpoint.completed

def Locked (s : State) (x : ℕ) : Prop :=
  ∃ a ∈ s.attempt? x, a.checkpoint ∈ Checkpoint.sent

instance (s : State) (x : ℕ) : Decidable (Locked s x) :=
  inferInstanceAs (Decidable (∃ a ∈ s.attempt? x, _))

structure ClickInv (s : State) : Prop where
  once : (s.clicking ++ s.spent).Nodup
  locked : ∀ x ∈ s.clicking ++ s.spent, Locked s x
  reserved : ∀ x ∈ s.clicking, x ∈ s.submittingAttemptIds
  handoff : ∀ x ∈ s.submittingAttemptIds, s.handoffAttemptId ≠ some x

lemma ClickInv.restart {s : State} (h : ClickInv s) : ClickInv s.restart where
  once := h.once
  locked := h.locked
  reserved := nofun
  handoff := nofun

structure Untouched (y : ℕ) (s t : State) : Prop where
  reserved : y ∈ s.submittingAttemptIds → y ∈ t.submittingAttemptIds
  clicking : y ∈ t.clicking ↔ y ∈ s.clicking
  spent : y ∈ t.spent ↔ y ∈ s.spent
  locked : Locked s y → Locked t y

lemma Untouched.refl (y : ℕ) (s : State) : Untouched y s s := ⟨id, .rfl, .rfl, id⟩

variable {y : ℕ} {t : State} {p : Port} {a : Op} {patch : AttemptPatch} {input : ReceiptInput}
  {r : SubmitResult} {review : Review} {askBefore : Bool} {mode : SubmissionMode}

variable {s : State} {o : Op}

lemma Untouched.trans {u : State} (h : Untouched y s t) (h' : Untouched y t u) :
    Untouched y s u where
  reserved hy := h'.reserved (h.reserved hy)
  clicking := h'.clicking.trans h.clicking
  spent := h'.spent.trans h.spent
  locked hy := h'.locked (h.locked hy)

/-! ## Quiet operations -/

def QuietOp : Op → Prop
  | .createAttempt _ _ | .settle _ _ _ | .restartTailoring _ _ | .beginSubmit _ | .endSubmit _
  | .click _ _ | .clickEnded _ _ | .clickRejected _ => False
  | .updateAttempt _ patch => ∀ c ∈ patch.checkpoint, c ∈ Checkpoint.completed
  | .setHandoff attemptId => attemptId = none
  | _ => True

structure Quiet (s t : State) : Prop where
  clicking : t.clicking = s.clicking
  spent : t.spent = s.spent
  submitting : t.submittingAttemptIds = s.submittingAttemptIds
  handoff : t.handoffAttemptId = s.handoffAttemptId ∨ t.handoffAttemptId = none

lemma completed_sent {c : Checkpoint} (h : c ∈ Checkpoint.completed) : c ∈ Checkpoint.sent :=
  List.mem_cons_of_mem _ h

lemma locked_run {x : ℕ} (ho : QuietOp o) (h : Locked s x) : Locked (Op.run o s).1 x := by
  obtain ⟨a, ha, hcp⟩ := h
  obtain hrow | ⟨b, hrw, hb⟩ := @row_of_run o s x a ha
  · exact ⟨a, hrow, hcp⟩
  · refine ⟨b, hb, ?_⟩
    obtain hsame | ⟨patch, rfl, hpatch, -⟩ | ⟨detail, rfl, -⟩ | ⟨mode, rfl, -, -⟩ := hrw.checkpoint
    · rwa [hsame]
    · exact completed_sent (ho _ hpatch)
    · exact False.elim ho
    · exact False.elim ho

lemma quiet_run {o : Op} {s : State} (ho : QuietOp o) : Quiet s (Op.run o s).1 := by
  cases o with
  | createAttempt input identity => exact False.elim ho
  | settle x c detail => exact False.elim ho
  | restartTailoring x mode => exact False.elim ho
  | beginSubmit x => exact False.elim ho
  | endSubmit x => exact False.elim ho
  | click x firing => exact False.elim ho
  | clickEnded x refused => exact False.elim ho
  | clickRejected x => exact False.elim ho
  | setHandoff x => exact ⟨rfl, rfl, rfl, .inr ho⟩
  | unregisterReview x review =>
    simp only [Op.run]
    split <;> exact ⟨rfl, rfl, rfl, .inl rfl⟩
  | closeReview x =>
    simp only [Op.run]
    split
    · refine ⟨rfl, rfl, rfl, ?_⟩
      split
      · exact .inr rfl
      · exact .inl rfl
    · exact ⟨rfl, rfl, rfl, .inl rfl⟩
  | endFence x g =>
    simp only [Op.run]
    split <;> exact ⟨rfl, rfl, rfl, .inl rfl⟩
  | _ => exact ⟨rfl, rfl, rfl, .inl rfl⟩

lemma ClickInv.quiet (h : ClickInv s) (ho : QuietOp o) : ClickInv (Op.run o s).1 := by
  have hq := @quiet_run o s ho
  constructor
  · rw [hq.clicking, hq.spent]
    exact h.once
  · rw [hq.clicking, hq.spent]
    exact fun x hx => locked_run ho (h.locked x hx)
  · rw [hq.clicking, hq.submitting]
    exact h.reserved
  · rw [hq.submitting]
    intro x hx
    rcases hq.handoff with heq | heq <;> rw [heq]
    · exact h.handoff x hx
    · exact nofun

lemma untouched_quiet (y : ℕ) (ho : QuietOp o) : Untouched y s (Op.run o s).1 := by
  have hq := @quiet_run o s ho
  exact ⟨fun hy => by rwa [hq.submitting], by rw [hq.clicking], by rw [hq.spent], locked_run ho⟩

/-! ## The contract -/

/-- A program that waits there owns the attempt: it has reserved it. -/
def Port.Holds (p : Port) (x : ℕ) : Prop :=
  match p.site with
  | .submit y _ => y = x ∧ p.wait ≠ .returned
  | _ => False

def Owns (o : Call ⊕ sig.Port) (x : ℕ) : Prop :=
  match o with
  | .inl _ => False
  | .inr p => Port.Holds p x

def submitPoint (w : Wait) (x : ℕ) (s : State) : Prop :=
  match w with
  | .returned => True
  | .submit _ _ => x ∈ s.submittingAttemptIds ∧ x ∈ s.clicking
  | .observe _ => x ∈ s.submittingAttemptIds ∧ x ∉ s.clicking ∧ x ∈ s.spent
  | .readiness _ | .artifactBytes _ | .pdfText _ =>
    x ∈ s.submittingAttemptIds ∧ x ∉ s.clicking ∧ x ∉ s.spent
  | _ => x ∈ s.submittingAttemptIds ∧ x ∉ s.clicking

def clickPoint (p : Port) (s : State) : Prop :=
  match p.site with
  | .submit x _ => submitPoint p.wait x s
  | _ => True

def Call.Surrounds : Call → Prop
  | .openReview _ | .closeReview _ | .showHandoff _ _ | .hideHandoff _ | .submit _ _ _
  | .report _ _ | .reconcile _ _ | .schedule _ | .cancel _ | .fire | .recover | .setWorld _
  | .setClock _ | .setBlind _ => True
  | .create _ | .start _ | .restartTailoring _ _ | .resume _ | .runNext | .ceiling _ => False

instance : DecidablePred Call.Surrounds := by
  intro c
  cases c <;> unfold Call.Surrounds <;> infer_instance

def RecoversUnsent (p : Port) (s : State) : Prop :=
  match p with
  | ⟨.recover (y :: _), .returned⟩ => ¬Locked s y
  | _ => True

instance (p : Port) (s : State) : Decidable (RecoversUnsent p s) := by
  unfold RecoversUnsent
  split <;> infer_instance

/-- A click is the only one of its attempt, it does not follow one that came through, and the page
is not handed to a person. -/
def ClicksOnce (o : Op) (s : State) : Prop :=
  match o with
  | .click x _ => x ∉ s.clicking ∧ x ∉ s.spent ∧ s.handoffAttemptId ≠ some x
  | _ => True

instance (o : Op) (s : State) : Decidable (ClicksOnce o s) :=
  decidable_of_iff ((match o with
      | .click x _ => decide (x ∉ s.clicking ∧ x ∉ s.spent ∧ s.handoffAttemptId ≠ some x)
      | _ => true) = true) (by cases o <;> simp [ClicksOnce])

lemma clicksOnce_of_quiet (h : QuietOp o) : ClicksOnce o s := by
  cases o with
  | click x firing => exact False.elim h
  | _ => trivial

def onceContract : Contract sig State Call where
  inv := ClickInv
  point := clickPoint
  guar o s d t := ClickInv t ∧
    (∀ y ∈ s.submittingAttemptIds, ¬Owns o y → Untouched y s t) ∧
    ∀ p ∈ d, ∀ y, Port.Holds p y → Owns o y ∨ y ∉ s.submittingAttemptIds
  pre := ClicksOnce
  reply p _ s := RecoversUnsent p s
  enter x _ := x.Surrounds

structure Turn (owned : Option ℕ) (o : Call ⊕ sig.Port) (s₀ s : State) : Prop where
  inv : ClickInv s
  others : ∀ y ∈ s₀.submittingAttemptIds, owned ≠ some y → Untouched y s₀ s
  owner : ∀ x, owned = some x → Owns o x ∨ x ∉ s₀.submittingAttemptIds

section Turns

variable {host : Host} {α β : Type} {owned : Option ℕ} {o : Call ⊕ sig.Port} {s₀ s : State} {x : ℕ}

lemma Turn.start (h : ClickInv s) : Turn none o s s where
  inv := h
  others y _ _ := Untouched.refl y s
  owner := nofun

lemma Turn.resume (h : ClickInv s) (hp : Port.Holds p x) :
    Turn (some x) (.inr p) s s where
  inv := h
  others y _ _ := Untouched.refl y s
  owner _ hy := .inl (Option.some.inj hy ▸ hp)

lemma Turn.guar (h : Turn owned o s₀ s) {d : Option sig.Port}
    (hd : ∀ p ∈ d, ∀ y, Port.Holds p y → owned = some y) : onceContract.guar o s₀ d s := by
  refine ⟨h.inv, fun y hy hown => h.others y hy fun hy' => ?_, fun p hp y hpy => ?_⟩
  · rcases h.owner y hy' with hy'' | hy''
    · exact hown hy''
    · exact hy'' hy
  · exact h.owner y (hd p hp y hpy)

lemma Turn.guar_none (h : Turn owned o s₀ s) : onceContract.guar o s₀ none s :=
  h.guar fun _ hp => nomatch hp

lemma Turn.quiet (h : Turn owned o s₀ s) (ha : QuietOp a) :
    Turn owned o s₀ (Op.run a s).1 where
  inv := h.inv.quiet ha
  others y hy hne := (h.others y hy hne).trans (untouched_quiet y ha)
  owner := h.owner

lemma Turn.own (h : Turn (some x) o s₀ s) (hinv : ClickInv t) (ht : ∀ y, y ≠ x → Untouched y s t) :
    Turn (some x) o s₀ t where
  inv := hinv
  others y hy hne := (h.others y hy hne).trans (ht y fun heq => hne (heq ▸ rfl))
  owner := h.owner

/-! ## The operations of a submission -/

def Reserved (x : ℕ) (s : State) : Prop := x ∈ s.submittingAttemptIds ∧ x ∉ s.clicking

def Clear (x : ℕ) (s : State) : Prop := x ∈ s.submittingAttemptIds ∧ x ∉ s.clicking ∧ x ∉ s.spent

lemma Clear.reserved (h : Clear x s) : Reserved x s := ⟨h.1, h.2.1⟩

lemma Reserved.quiet (h : Reserved x s) (ha : QuietOp a) : Reserved x (Op.run a s).1:= by
  have hq := @quiet_run a s ha
  rw [Reserved, hq.submitting, hq.clicking]
  exact h

lemma Clear.quiet (h : Clear x s) (ha : QuietOp a) : Clear x (Op.run a s).1:= by
  have hq := @quiet_run a s ha
  rw [Clear, hq.submitting, hq.clicking, hq.spent]
  exact h

lemma Turn.beginSubmit (h : Turn none o s₀ s) (hx : x ∉ s.submittingAttemptIds)
    (hhandoff : s.handoffAttemptId ≠ some x) :
    Turn (some x) o s₀ (Op.run (.beginSubmit x) s).1 ∧
      Reserved x (Op.run (.beginSubmit x) s).1 := by
  have hclicking : x ∉ s.clicking := fun hc => hx (h.inv.reserved x hc)
  refine ⟨⟨⟨h.inv.once, h.inv.locked, ?_, ?_⟩, ?_, ?_⟩, List.mem_cons_self, hclicking⟩
  · exact fun y hy => List.mem_cons_of_mem _ (h.inv.reserved y hy)
  · intro y hy
    rcases List.mem_cons.mp hy with rfl | hy
    · exact hhandoff
    · exact h.inv.handoff y hy
  · intro y hy _
    have hy' := h.others y hy nofun
    exact ⟨fun hy => List.mem_cons_of_mem _ (hy'.reserved hy), hy'.clicking, hy'.spent, hy'.locked⟩
  · rintro y ⟨⟩
    exact .inr fun hy => hx ((h.others x hy nofun).reserved hy)

lemma Turn.endSubmit (h : Turn (some x) o s₀ s) (hx : x ∉ s.clicking) :
    Turn (some x) o s₀ (Op.run (.endSubmit x) s).1 := by
  have hmem : ∀ y, y ∈ s.submittingAttemptIds → y ≠ x →
      y ∈ s.submittingAttemptIds.filter (· != x) :=
    fun y hy hne => List.mem_filter.mpr ⟨hy, by simpa using hne⟩
  refine h.own ⟨h.inv.once, h.inv.locked, ?_, ?_⟩ fun y hne => ?_
  · exact fun y hy => hmem y (h.inv.reserved y hy) fun heq => hx (heq ▸ hy)
  · exact fun y hy => h.inv.handoff y (List.mem_filter.mp hy).1
  · exact ⟨fun hy => hmem y hy hne, .rfl, .rfl, id⟩

lemma Turn.click {firing : Option ℕ} (h : Turn (some x) o s₀ s) (hx : Clear x s)
    (hlocked : Locked s x) :
    Turn (some x) o s₀ (Op.run (.click x firing) s).1 ∧
      x ∈ (Op.run (.click x firing) s).1.submittingAttemptIds ∧
      x ∈ (Op.run (.click x firing) s).1.clicking := by
  refine ⟨h.own ⟨?_, ?_, ?_, h.inv.handoff⟩ fun y hne => ?_, hx.1, List.mem_cons_self⟩
  · refine List.nodup_cons.mpr ⟨fun hmem => ?_, h.inv.once⟩
    rcases List.mem_append.mp hmem with hmem | hmem
    · exact hx.2.1 hmem
    · exact hx.2.2 hmem
  · intro y hy
    rcases List.mem_cons.mp hy with rfl | hy
    · exact hlocked
    · exact h.inv.locked y hy
  · intro y hy
    rcases List.mem_cons.mp hy with rfl | hy
    · exact hx.1
    · exact h.inv.reserved y hy
  · refine ⟨id, ?_, .rfl, id⟩
    exact List.mem_cons.trans (or_iff_right hne)

lemma not_spent_of_clicking (h : ClickInv s) (hx : x ∈ s.clicking) : x ∉ s.spent :=
  fun hspent => (List.nodup_append.mp h.once).2.2 x hx x hspent rfl

lemma mem_erase_other {l : List ℕ} (h : y ≠ x) : y ∈ l.erase x ↔ y ∈ l:=
  List.mem_erase_of_ne h

lemma Turn.clickRefused (h : Turn (some x) o s₀ s) (hreserved : x ∈ s.submittingAttemptIds)
    (hx : x ∈ s.clicking) :
    Turn (some x) o s₀ (Op.run (.clickEnded x true) s).1 ∧
      Clear x (Op.run (.clickEnded x true) s).1 := by
  obtain ⟨hclicking, hspent, hdisjoint⟩ := List.nodup_append.mp h.inv.once
  have hnot : x ∉ s.spent := not_spent_of_clicking h.inv hx
  refine ⟨h.own ⟨?_, ?_, ?_, h.inv.handoff⟩ fun y hne => ?_,
    hreserved, hclicking.not_mem_erase, hnot⟩
  · refine List.nodup_append.mpr ⟨hclicking.erase x, hspent, fun y hy => hdisjoint y ?_⟩
    exact List.mem_of_mem_erase hy
  · intro y hy
    refine h.inv.locked y (List.mem_append.mpr ?_)
    exact (List.mem_append.mp hy).imp List.mem_of_mem_erase id
  · exact fun y hy => h.inv.reserved y (List.mem_of_mem_erase hy)
  · exact ⟨id, mem_erase_other hne, .rfl, id⟩

lemma Turn.clickLanded (h : Turn (some x) o s₀ s) (hreserved : x ∈ s.submittingAttemptIds)
    (hx : x ∈ s.clicking) :
    Turn (some x) o s₀ (Op.run (.clickEnded x false) s).1 ∧
      Reserved x (Op.run (.clickEnded x false) s).1 ∧
      x ∈ (Op.run (.clickEnded x false) s).1.spent := by
  obtain ⟨hclicking, hspent, hdisjoint⟩ := List.nodup_append.mp h.inv.once
  refine ⟨h.own ⟨?_, ?_, ?_, h.inv.handoff⟩ fun y hne => ?_,
    ⟨hreserved, hclicking.not_mem_erase⟩, List.mem_cons_self⟩
  · refine List.nodup_append.mpr ⟨hclicking.erase x, ?_, fun y hy z hz => ?_⟩
    · exact List.nodup_cons.mpr ⟨not_spent_of_clicking h.inv hx, hspent⟩
    · rcases List.mem_cons.mp hz with rfl | hz
      · exact fun heq => hclicking.not_mem_erase (heq ▸ hy)
      · exact hdisjoint y (List.mem_of_mem_erase hy) z hz
  · intro y hy
    refine h.inv.locked y (List.mem_append.mpr ?_)
    rcases List.mem_append.mp hy with hy | hy
    · exact .inl (List.mem_of_mem_erase hy)
    · rcases List.mem_cons.mp hy with rfl | hy
      · exact .inl hx
      · exact .inr hy
  · exact fun y hy => h.inv.reserved y (List.mem_of_mem_erase hy)
  · refine ⟨id, mem_erase_other hne, ?_, id⟩
    exact List.mem_cons.trans (or_iff_right hne)

lemma Turn.clickRejected (h : Turn (some x) o s₀ s) (hx : Reserved x s) :
    Turn (some x) o s₀ (Op.run (.clickRejected x) s).1 ∧
      Clear x (Op.run (.clickRejected x) s).1 := by
  obtain ⟨hclicking, hspent, hdisjoint⟩ := List.nodup_append.mp h.inv.once
  refine ⟨h.own ⟨?_, ?_, h.inv.reserved, h.inv.handoff⟩ fun y hne => ?_,
    hx.1, hx.2, hspent.not_mem_erase⟩
  · refine List.nodup_append.mpr ⟨hclicking, hspent.erase x, fun y hy z hz => ?_⟩
    exact hdisjoint y hy z (List.mem_of_mem_erase hz)
  · intro y hy
    refine h.inv.locked y (List.mem_append.mpr ?_)
    exact (List.mem_append.mp hy).imp id List.mem_of_mem_erase
  · exact ⟨id, .rfl, mem_erase_other hne, id⟩

/-- An update of `x` leaves the other attempts alone. -/
lemma locked_update_other (hne : y ≠ x) (h : Locked s y) :
    Locked (Op.run (.updateAttempt x patch) s).1 y := by
  rw [Locked, attempt?_update_other hne]
  exact h

lemma Turn.update {patch : AttemptPatch} (h : Turn (some x) o s₀ s) (hx : Clear x s) :
    Turn (some x) o s₀ (Op.run (.updateAttempt x patch) s).1 ∧
      Clear x (Op.run (.updateAttempt x patch) s).1 := by
  refine ⟨h.own ⟨h.inv.once, fun y hy => ?_, h.inv.reserved, h.inv.handoff⟩ fun y hne => ?_, hx⟩
  · refine locked_update_other (fun heq => ?_) (h.inv.locked y hy)
    subst heq
    exact (List.mem_append.mp hy).elim hx.2.1 hx.2.2
  · exact ⟨id, .rfl, .rfl, locked_update_other hne⟩

/-! ## Programs without a click -/

def Free (p : Port) : Prop :=
  match p.site with
  | .submit _ _ => p.wait = .returned
  | _ => True

lemma Free.not_holds (h : Free p) (y : ℕ) : ¬Port.Holds p y:= by
  obtain ⟨site, wait⟩ := p
  cases site with
  | submit z firing => exact fun hy => hy.2 h
  | _ => exact id

lemma Free.point (h : Free p) (s : State) : clickPoint p s:= by
  obtain ⟨site, wait⟩ := p
  cases site with
  | submit z firing =>
    have hwait : wait = .returned := h
    subst hwait
    trivial
  | _ => trivial

/-- The programs that neither reserve nor click. -/
abbrev Calm (x : Run α) : Prop := Uses (S := sig) QuietOp Free x

lemma meets_calm {x : Run α} (hx : Calm x) (h : Turn none o s₀ s) :
    x.Meets onceContract Op.run (fun o s₀ _ t => Turn none o s₀ t) o s₀ s := by
  induction x generalizing o s₀ s with
  | ret a => exact h
  | raise e => exact h
  | act a k ih => exact fun _ => ⟨clicksOnce_of_quiet hx.1, ih _ (hx.2 _) (h.quiet hx.1)⟩
  | await p k ih =>
    refine ⟨h.guar fun q hq y hy => ?_, hx.1.point s, fun r t _ ht _ _ => ?_⟩
    · cases hq
      exact absurd hy (hx.1.not_holds y)
    · exact ih r (hx.2 r) (Turn.start ht)

/-- A program that waits only where `J` is what holds for the attempt that it owns. -/
lemma meets_owned {J : State → Prop} {V : Port → Prop} {y : Run α}
    (hJ : ∀ a s, QuietOp a → J s → J (Op.run a s).1)
    (hholds : ∀ p, V p → ∀ z, Port.Holds p z ↔ x = z) (hpoint : ∀ p s, V p → (clickPoint p s ↔ J s))
    (hy : Uses (S := sig) QuietOp V y) (h : Turn (some x) o s₀ s) (hj : J s) :
    y.Meets onceContract Op.run (fun o s₀ _ t => Turn (some x) o s₀ t ∧ J t) o s₀ s := by
  induction y generalizing o s₀ s with
  | ret a => exact ⟨h, hj⟩
  | raise e => exact ⟨h, hj⟩
  | act a k ih =>
    exact fun _ => ⟨clicksOnce_of_quiet hy.1, ih _ (hy.2 _) (h.quiet hy.1) (hJ a s hy.1 hj)⟩
  | await p k ih =>
    refine ⟨h.guar fun q hq z hz => ?_, (hpoint p s hy.1).mpr hj, fun r t _ ht hp _ => ?_⟩
    · cases hq
      rw [(hholds p hy.1 z).mp hz]
    · exact ih r (hy.2 r) (Turn.resume ht ((hholds p hy.1 x).mpr rfl)) ((hpoint p t hy.1).mp hp)

lemma calm_op (ha : QuietOp a) : Calm (op a):= uses_op ha

variable {site : Site} {attempt : Attempt} {current : FormSnapshot} {number : Option ℕ} {now : ℤ}

lemma calm_ask {wait : Wait} (h : Free ⟨site, wait⟩) : Calm (ask site wait) :=
  Uses.wait h

lemma calm_inner {x : Run α} (hx : Calm x) (h : Free ⟨site, .returned⟩) :
    Calm (inner site x) := Uses.call hx h

lemma quiet_of_page (h : PageOp y a) : QuietOp a:= by
  cases a <;> first
    | exact False.elim h
    | trivial

lemma calm_of_page {x : Run α} (hx : Within (PageOp y) site x) (hsite : ∀ wait, Free ⟨site, wait⟩) :
    Calm x:= by
  refine Uses.mono (fun _ ho => quiet_of_page ho) (fun p hp => ?_) hx
  obtain ⟨psite, wait⟩ := p
  cases hp
  exact hsite wait

lemma calm_report {statement : String} : Calm (recordUserReportedSubmission y statement):= by
  have hupdate : ∀ detail, QuietOp (.updateAttempt y
      { checkpoint := some .userReported, checkpointDetail := some detail
        completionEvidence := some (some .userReported) }) := by
    rintro detail c ⟨⟩
    decide
  unfold recordUserReportedSubmission
  repeat' first
    | with_reducible refine Uses.bind ?_ fun _ => ?_
    | split
    | exact Uses.pure _
    | exact Uses.throw _
    | with_reducible refine Uses.attempt ?_
    | exact calm_op (hupdate _)
    | exact calm_op trivial

lemma calm_recordSubmissionReceipt : Calm (recordSubmissionReceipt input):=
  (calm_op (a := .createReceipt input) trivial).attempt.bind fun _ => .pure _

lemma calm_reconcile {response : String} : Calm (reconcileSubmissionOutcome host y response):= by
  have hupdate : ∀ detail at', QuietOp (.updateAttempt y
      { checkpoint := some .submitted, checkpointDetail := some detail, submittedAt := at' }) := by
    rintro detail at' c ⟨⟩
    decide
  unfold reconcileSubmissionOutcome
  repeat' first
    | with_reducible refine Uses.bind ?_ fun _ => ?_
    | split
    | exact Uses.pure _
    | exact Uses.throw _
    | with_reducible refine Uses.attempt ?_
    | exact calm_recordSubmissionReceipt
    | exact calm_op (hupdate _ _)
    | exact calm_op trivial

lemma quiet_schedule {time : Option (Option ℤ)} :
    QuietOp (.updateAttempt y { scheduledAutomaticSubmitAt := time }) := nofun

lemma calm_schedule : Calm (evaluateAndScheduleAutomaticSubmission host y):= by
  have heligible : ∀ now, Calm (checkAutomaticSubmissionEligibility host (.eligible y none) y now) :=
    fun now => calm_of_page (y := 0) uses_checkAutomaticSubmissionEligibility fun _ => trivial
  unfold evaluateAndScheduleAutomaticSubmission
  repeat' first
    | with_reducible refine Uses.bind ?_ fun _ => ?_
    | split
    | exact Uses.pure _
    | exact calm_inner (heligible _) trivial
    | exact calm_op quiet_schedule
    | exact calm_op trivial

lemma calm_cancel : Calm (cancelScheduledAutomaticSubmission y):= by
  unfold cancelScheduledAutomaticSubmission
  repeat' first
    | with_reducible refine Uses.bind ?_ fun _ => ?_
    | split
    | exact Uses.throw _
    | with_reducible refine Uses.attempt ?_
    | exact calm_op quiet_schedule
    | exact calm_op trivial

lemma calm_recoverEnqueue (h : ∀ wait, Free ⟨site, wait⟩) : Calm (recoverEnqueue site y) :=
  calm_inner ((calm_ask (h _)).attempt.bind fun _ => .pure _) (h _)

lemma calm_recoverSubmission : Calm (recoverSubmission attempt) := by
  have hupdate : ∀ at', QuietOp (.updateAttempt attempt.id
      { checkpoint := some .submissionUnknown
        checkpointDetail := some interruptedSubmissionDetail, submittedAt := at' }) := by
    rintro at' c ⟨⟩
    decide
  refine (calm_op (a := .now) trivial).bind fun observedAt => ?_
  refine (calm_op (a := .createReceipt _) trivial).attempt.bind fun _ => ?_
  exact (calm_op (hupdate _)).bind fun _ => .pure _

lemma calm_recoverQueued : Calm (recoverQueued attempt) := by
  unfold recoverQueued
  repeat' first
    | with_reducible refine Uses.bind ?_ fun _ => ?_
    | split
    | exact Uses.pure _
    | with_reducible refine Uses.attempt ?_
    | exact calm_ask trivial
    | exact calm_recoverEnqueue fun _ => trivial

/-! ## The hand-off and the recovery -/

lemma Turn.setHandoff (h : Turn none o s₀ s) (hx : x ∉ s.submittingAttemptIds) :
    Turn none o s₀ (Op.run (.setHandoff (some x)) s).1 where
  inv := by
    refine ⟨h.inv.once, h.inv.locked, h.inv.reserved, fun y hy heq => ?_⟩
    cases heq
    exact hx hy
  others y hy hne :=
    have hy' := h.others y hy hne
    ⟨hy'.reserved, hy'.clicking, hy'.spent, hy'.locked⟩
  owner := h.owner

lemma isSubmitting_false {r : Bool} (h : (Op.run (.isSubmitting x) s).2 = .ok r)
    (hr : ¬r = true) : x ∉ s.submittingAttemptIds := by
  cases h
  simpa using hr

lemma meets_show {hasWindow : Bool} (h : Turn none o s₀ s) :
    (showApplicationReviewHandoff x hasWindow).Meets onceContract Op.run
      (fun o s₀ _ t => Turn none o s₀ t) o s₀ s := by
  refine meets_read_bind trivial trivial (fun active _ => ?_) fun _ => h
  refine meets_ite.mpr ⟨fun _ => h, fun _ => ?_⟩
  refine meets_read_bind trivial trivial (fun submitting hsubmitting => ?_) fun _ => h
  refine meets_ite.mpr ⟨fun _ => h, fun hfree => ?_⟩
  have hx := isSubmitting_false hsubmitting hfree
  refine meets_bind.mpr (meets_attempt.mpr (meets_exec.mpr fun _ => ⟨trivial, ?_⟩))
  have hstate : (Op.run (.getAttempt x) s).1 = s := rfl
  rw [hstate]
  cases (Op.run (.getAttempt x) s).2 with
  | ok attempt =>
    refine meets_bind.mpr (meets_exec.mpr fun _ => ⟨trivial, ?_⟩)
    exact h.setHandoff hx
  | error e =>
    refine meets_calm ?_ h
    dsimp only
    split
    · rename_i heq
      cases heq
    · exact Uses.pure _
    · exact Uses.throw _

lemma Turn.unlocked (h : Turn none o s₀ s) (hx : ¬Locked s x) :
    Turn none o s₀ (Op.run (.updateAttempt x patch) s).1 where
  inv := by
    refine ⟨h.inv.once, fun y hy => ?_, h.inv.reserved, h.inv.handoff⟩
    have hy' := h.inv.locked y hy
    exact locked_update_other (fun heq => hx (heq ▸ hy')) hy'
  others y hy hne := by
    have hy' := h.others y hy hne
    refine hy'.trans ⟨id, .rfl, .rfl, fun hlocked => ?_⟩
    exact locked_update_other (fun heq => hx (heq ▸ hlocked)) hlocked
  owner := h.owner

lemma meets_recoverPreparations (ids : List ℕ) (h : Turn none o s₀ s)
    (hfirst : ∀ y ∈ ids.head?, ¬Locked s y) :
    (recoverPreparations ids).Meets onceContract Op.run
      (fun o s₀ _ t => Turn none o s₀ t) o s₀ s := by
  induction ids generalizing o s₀ s with
  | nil => exact h
  | cons y rest ih =>
    rw [recoverPreparations]
    refine meets_bind.mpr (meets_exec.mpr fun _ => ⟨trivial, ?_⟩)
    have hwritten : Turn none o s₀ (Op.run (.updateAttempt y
        { checkpoint := some .queued, checkpointDetail := some interruptedRestartDetail }) s).1 :=
      h.unlocked (hfirst y rfl)
    generalize (Op.run (.updateAttempt y _) s).2 = r
    cases r with
    | error e => exact hwritten
    | ok a =>
      refine meets_bind.mpr (meets_exec.mpr fun _ => ⟨trivial, ?_⟩)
      have hprepared := hwritten.quiet (a := .recordPrepared y none) trivial
      generalize (Op.run (.recordPrepared y none) _).2 = r
      cases r with
      | error e => exact hprepared
      | ok u =>
        have henqueue : Calm (do
            let _ ← (ask (.recover rest) (.enqueue y)).attempt) :=
          Uses.bind (Uses.attempt (calm_ask trivial)) fun _ => .pure _
        refine meets_bind.mpr (meets_call.mpr ((meets_calm henqueue hprepared).mono ?_))
        intro o s₁ r t ht
        have hfree : Free ⟨.recover rest, .returned⟩ := trivial
        refine ⟨ht.guar fun q hq z hz => ?_, trivial, fun r' t' _ hinv _ hreply => ?_⟩
        · cases hq
          exact absurd hz (hfree.not_holds z)
        · have hstart : Turn none (.inr ⟨.recover rest, .returned⟩) t' t' := Turn.start hinv
          cases r with
          | error e => exact hstart
          | ok u =>
            refine ih hstart fun z hz => ?_
            cases rest with
            | nil => cases hz
            | cons z' rest =>
              cases hz
              exact hreply

/-! ## The submission -/

def DocumentWait : Wait → Prop
  | .readiness _ | .artifactBytes _ | .pdfText _ => True
  | _ => False

def SnapshotWait : Wait → Prop
  | .snapshot _ | .snapshotTaken => True
  | _ => False

lemma point_snapshot {firing : Option Firing} (hsite : p.site = .submit x firing)
    (hwait : SnapshotWait p.wait) :
    (∀ z, Port.Holds p z ↔ x = z) ∧ ∀ s, clickPoint p s ↔ Reserved x s := by
  obtain ⟨site, wait⟩ := p
  cases hsite
  cases wait <;> first
    | exact False.elim hwait
    | exact ⟨fun z => ⟨fun h => h.1, fun h => ⟨h, nofun⟩⟩, fun s => .rfl⟩

lemma point_document {firing : Option Firing} (hsite : p.site = .submit x firing)
    (hwait : DocumentWait p.wait) :
    (∀ z, Port.Holds p z ↔ x = z) ∧ ∀ s, clickPoint p s ↔ Clear x s := by
  obtain ⟨site, wait⟩ := p
  cases hsite
  cases wait <;> first
    | exact False.elim hwait
    | exact ⟨fun z => ⟨fun h => h.1, fun h => ⟨h, nofun⟩⟩, fun s => .rfl⟩

variable {firing : Option Firing}

lemma meets_snapshot {review : ℕ} (h : Turn (some x) o s₀ s) (hx : Reserved x s) :
    (snapshot (.submit x firing) review).Meets onceContract Op.run
      (fun o s₀ _ t => Turn (some x) o s₀ t ∧ Reserved x t) o s₀ s := by
  have huses : Uses (S := sig) QuietOp
      (fun p => p.site = .submit x firing ∧ SnapshotWait p.wait)
      (snapshot (.submit x firing) review) := by
    refine Uses.call (Uses.bind (Uses.wait ⟨rfl, trivial⟩) fun taken => ?_) ⟨rfl, trivial⟩
    exact Uses.bind (uses_op trivial) fun _ => .pure taken
  exact meets_owned (fun a s ha hs => Reserved.quiet hs ha)
    (fun p hp => (point_snapshot hp.1 hp.2).1) (fun p s hp => (point_snapshot hp.1 hp.2).2 s)
    huses h hx

lemma meets_checkDocuments (h : Turn (some x) o s₀ s) (hx : Clear x s) :
    (checkDocuments host (.submit x firing) x askBefore review attempt).Meets onceContract Op.run
      (fun o s₀ _ t => Turn (some x) o s₀ t ∧ Clear x t) o s₀ s := by
  let V : sig.Port → Prop := fun p => p.site = .submit x firing ∧ DocumentWait p.wait
  have hask : ∀ wait, DocumentWait wait → Uses (S := sig) QuietOp V (ask (.submit x firing) wait) :=
    fun wait hwait => Uses.wait ⟨rfl, hwait⟩
  have htext : ∀ artifact, Uses (S := sig) QuietOp V (documentText (.submit x firing) artifact) :=
    fun artifact => (hask (.artifactBytes artifact.id) trivial).bind fun bytes =>
      hask (.pdfText bytes) trivial
  have hcv : ∀ attempt, Uses (S := sig) QuietOp V (currentCvHash host attempt) := by
    intro attempt
    unfold currentCvHash
    repeat' first
      | with_reducible refine Uses.bind ?_ fun _ => ?_
      | split
      | exact Uses.pure _
      | exact uses_op trivial
  have huses : Uses (S := sig) QuietOp V
      (checkDocuments host (.submit x firing) x askBefore review attempt) := by
    unfold checkDocuments documentTexts
    repeat' first
      | with_reducible refine Uses.bind ?_ fun _ => ?_
      | with_reducible refine Uses.attempt ?_
      | with_reducible refine Uses.map ?_
      | split
      | exact Uses.pure _
      | exact htext _
      | exact hcv _
      | exact hask _ trivial
      | exact uses_op trivial
  exact meets_owned (fun a s ha hs => Clear.quiet hs ha)
    (fun p hp => (point_document hp.1 hp.2).1) (fun p s hp => (point_document hp.1 hp.2).2 s)
    huses h hx

def PageChecked (x : ℕ) : Post sig State Call (SubmitResult ⊕ FormSnapshot × String × Attempt) :=
  fun o s₀ r t => Turn (some x) o s₀ t ∧ Reserved x t ∧ ∀ found, r = .ok (.inr found) → Clear x t

lemma pageChecked_inl (h : Turn (some x) o s₀ s) (hx : Reserved x s) :
    PageChecked x o s₀ (.ok (.inl r)) s := by
  refine ⟨h, hx, ?_⟩
  rintro found ⟨⟩

lemma pageChecked_error {e : DesktopError} (h : Turn (some x) o s₀ s) (hx : Reserved x s) :
    PageChecked x o s₀ (.error e) s := by
  refine ⟨h, hx, ?_⟩
  rintro found ⟨⟩

lemma row_of_getAttempt {a : Attempt} (h : (Op.run (.getAttempt x) s).2 = .ok a) :
    s.attempt? x = some a := by
  change (s.db.getApplicationAttempt x).mapError DesktopError.workspace = _ at h
  unfold Database.getApplicationAttempt at h
  unfold State.attempt?
  cases hrow : s.db.attempts.get? x with
  | none =>
    rw [hrow] at h
    cases h
  | some b =>
    rw [hrow] at h
    cases h
    rfl

lemma meets_checkPage (h : Turn (some x) o s₀ s) (hx : Reserved x s) :
    (checkPage host (.submit x firing) x mode review).Meets onceContract Op.run
      (PageChecked x) o s₀ s := by
  refine meets_read_bind trivial trivial (fun reviewed _ => ?_) fun _ => pageChecked_error h hx
  extract_lets reviewed checkCurrent
  have hrest : ∀ {o s₀ t} current, Turn (some x) o s₀ t → Reserved x t →
      (checkCurrent current).Meets onceContract Op.run (PageChecked x) o s₀ t := by
    intro o s₀ t current h hx
    cases current with
    | none => exact pageChecked_inl h hx
    | some current =>
      refine meets_ite.mpr ⟨fun _ => pageChecked_inl h hx, fun _ => ?_⟩
      refine meets_ite.mpr ⟨fun _ => pageChecked_inl h hx, fun _ => ?_⟩
      cases host.resolveSubmitControl current.submitControls with
      | none => exact pageChecked_inl h hx
      | some control =>
        refine meets_read_bind trivial trivial (fun attempt hattempt => ?_) fun _ => pageChecked_error h hx
        refine meets_ite.mpr ⟨fun _ => pageChecked_inl h hx, fun hsent => ?_⟩
        refine meets_ite.mpr ⟨fun _ => pageChecked_inl h hx, fun hunknown => ?_⟩
        refine ⟨h, hx, fun _ _ => ⟨hx.1, hx.2, fun hspent => ?_⟩⟩
        obtain ⟨a, ha, hcp⟩ := h.inv.locked x (List.mem_append_right _ hspent)
        rw [row_of_getAttempt hattempt] at ha
        cases ha
        revert hsent hunknown hcp
        cases attempt.checkpoint <;> decide
  refine meets_ite.mpr ⟨fun _ => ?_, fun _ => ?_⟩
  · refine meets_bind.mpr (meets_bind.mpr ((meets_snapshot h hx).mono fun o s₀ r t ht => ?_))
    cases r with
    | ok taken => exact hrest (some taken) ht.1 ht.2
    | error e => exact pageChecked_error ht.1 ht.2
  · exact meets_read_bind trivial trivial (fun current _ => hrest current h hx) fun _ =>
      pageChecked_error h hx

lemma meets_quiet {y : Run α} (hy : Uses (S := sig) QuietOp (fun _ => False) y)
    (h : Turn (some x) o s₀ s) (hx : Reserved x s) :
    y.Meets onceContract Op.run (fun o s₀ _ t => Turn (some x) o s₀ t ∧ Reserved x t) o s₀ s :=
  meets_owned (fun _ _ ha hs => Reserved.quiet hs ha) (fun _ hp => False.elim hp)
    (fun _ _ hp => False.elim hp) hy h hx

lemma uses_receipt {V : sig.Port → Prop} :
    Uses (S := sig) QuietOp V (recordSubmissionReceipt input) :=
  (uses_op (o := .createReceipt input) trivial).attempt.bind fun _ => .pure _

lemma meets_update_return (h : Turn (some x) o s₀ s) (hx : Clear x s) :
    (do
      let _ ← op (.updateAttempt x patch)
      return r : Run SubmitResult).Meets onceContract Op.run
        (fun o s₀ _ t => Turn (some x) o s₀ t ∧ Reserved x t) o s₀ s := by
  refine meets_bind.mpr (meets_exec.mpr fun _ => ⟨trivial, ?_⟩)
  obtain ⟨hturn, hclear⟩ := @Turn.update o s₀ s x patch h hx
  cases (Op.run (.updateAttempt x patch) s).2 with
  | ok a => exact ⟨hturn, hclear.reserved⟩
  | error e => exact ⟨hturn, hclear.reserved⟩

lemma meets_recordOutcome {report : OutcomeReport} (h : Turn (some x) o s₀ s) (hx : Reserved x s) :
    (recordOutcome host x mode review current report).Meets onceContract Op.run
      (fun o s₀ _ t => Turn (some x) o s₀ t ∧ Reserved x t) o s₀ s := by
  cases report with
  | submitted kind reference detail observedAt =>
    refine meets_quiet (uses_receipt.bind fun _ => Uses.bind (uses_op ?_) fun _ => .pure _) h hx
    rintro c ⟨⟩
    decide
  | unknown detail observedAt =>
    refine meets_quiet (uses_receipt.bind fun _ => Uses.bind (uses_op ?_) fun _ => .pure _) h hx
    rintro c ⟨⟩
    decide
  | rejected detail observedAt =>
    refine meets_bind.mpr (meets_exec.mpr fun _ => ⟨trivial, ?_⟩)
    obtain ⟨hturn, hclear⟩ := h.clickRejected hx
    have hreceipt : Uses (S := sig) QuietOp (fun _ => False) (recordSubmissionReceipt
        { attemptId := x, outcome := .rejected, source := .pageObservation
          destination := review.targetUrl, evidenceKind := .none, detail, observedAt }) :=
      uses_receipt
    refine meets_bind.mpr ((meets_owned (fun _ _ ha hs => Clear.quiet hs ha)
      (fun _ hp => False.elim hp) (fun _ _ hp => False.elim hp) hreceipt hturn hclear).mono ?_)
    intro o s₀ r t ht
    cases r with
    | ok u => exact meets_update_return ht.1 ht.2
    | error e => exact ⟨ht.1, ht.2.reserved⟩

lemma meets_clickFailed {e : DesktopError} (h : Turn (some x) o s₀ s)
    (hreserved : x ∈ s.submittingAttemptIds) (hclicking : x ∈ s.clicking) :
    (match (Except.error e : Except DesktopError Unit) with
      | .error (.policy message) => do
        op (.clickEnded x true)
        let _ ← op (.updateAttempt x
          { checkpoint := some .ready, checkpointDetail := some message })
        return refuse .submitRefused message
      | .error e => do
        op (.clickEnded x false)
        let _ ← op (.updateAttempt x
          { checkpoint := some .submissionUnknown, checkpointDetail := some e.describe })
        return refuse .submissionUnknown e.describe
      | .ok () => throw e : Run SubmitResult).Meets onceContract Op.run
        (fun o s₀ _ t => Turn (some x) o s₀ t ∧ Reserved x t) o s₀ s := by
  have hunknown : ∀ detail, QuietOp (.updateAttempt x
      { checkpoint := some .submissionUnknown, checkpointDetail := some detail }) := by
    rintro detail c ⟨⟩
    decide
  obtain ⟨hlanded, hres, -⟩ := h.clickLanded hreserved hclicking
  have hfail : ∀ detail, (do
      op (.clickEnded x false)
      let _ ← op (.updateAttempt x
        { checkpoint := some .submissionUnknown, checkpointDetail := some detail })
      return refuse .submissionUnknown detail : Run SubmitResult).Meets onceContract Op.run
        (fun o s₀ _ t => Turn (some x) o s₀ t ∧ Reserved x t) o s₀ s := by
    intro detail
    refine meets_bind.mpr (meets_exec.mpr fun _ => ⟨trivial, ?_⟩)
    exact meets_quiet (Uses.bind (uses_op (hunknown detail)) fun _ => .pure _) hlanded hres
  cases e with
  | policy message =>
    refine meets_bind.mpr (meets_exec.mpr fun _ => ⟨trivial, ?_⟩)
    obtain ⟨hturn, hclear⟩ := h.clickRefused hreserved hclicking
    exact meets_update_return hturn hclear
  | workspace error => exact hfail _
  | blind error => exact hfail _
  | acceptedBytesChanged message => exact hfail _
  | stagingAbandoned id => exact hfail _
  | other message => exact hfail _

lemma meets_observed (h : Turn (some x) o s₀ s) (hx : Reserved x s) (hspent : x ∈ s.spent) : (do
      match ← (ask (.submit x firing) (.observe review.id)).attempt with
      | .ok report => recordOutcome host x mode review current report
      | .error e =>
        let observedAt ← op .now
        recordOutcome host x mode review current
          (.unknown ("the submission outcome could not be observed: " ++ e.describe) observedAt) :
      Run SubmitResult).Meets onceContract Op.run
        (fun o s₀ _ t => Turn (some x) o s₀ t ∧ Reserved x t) o s₀ s := by
  refine meets_bind.mpr (meets_attempt.mpr (meets_wait.mpr ⟨?_, ⟨hx.1, hx.2, hspent⟩, ?_⟩))
  · refine h.guar fun q hq y hy => ?_
    cases hq
    rw [hy.1]
  · intro r t _ hinv hpoint _
    have hholds : Port.Holds ⟨.submit x firing, .observe review.id⟩ x := ⟨rfl, nofun⟩
    have hresume := Turn.resume hinv hholds
    have hreserved : Reserved x t := ⟨hpoint.1, hpoint.2.1⟩
    cases r with
    | ok report => exact meets_recordOutcome hresume hreserved
    | error e =>
      refine meets_read_bind trivial trivial (fun observedAt _ => ?_) fun _ => ⟨hresume, hreserved⟩
      exact meets_recordOutcome hresume hreserved

lemma meets_clickSubmit {control : String} (h : Turn (some x) o s₀ s) (hx : Clear x s) :
    (clickSubmit host (.submit x firing) x mode number review current control).Meets
      onceContract Op.run (fun o s₀ _ t => Turn (some x) o s₀ t ∧ Reserved x t) o s₀ s := by
  refine meets_bind.mpr (meets_exec.mpr fun _ => ⟨trivial, ?_⟩)
  obtain ⟨hturn, hclear⟩ := @Turn.update o s₀ s x { checkpoint := some .submitting } h hx
  have hlocked : ∀ a, (Op.run (.updateAttempt x { checkpoint := some .submitting }) s).2 = .ok a →
      Locked (Op.run (.updateAttempt x { checkpoint := some .submitting }) s).1 x := by
    intro a ha
    obtain ⟨b, -, hb⟩ := attempt?_of_update ha
    exact ⟨_, hb, List.mem_cons_self⟩
  generalize Op.run (.updateAttempt x { checkpoint := some .submitting }) s = q at *
  obtain ⟨t, r⟩ := q
  cases r with
  | error e => exact ⟨hturn, hclear.reserved⟩
  | ok a =>
    refine meets_bind.mpr (meets_exec.mpr fun _ => ⟨?_, ?_⟩)
    · exact ⟨hclear.2.1, hclear.2.2, hturn.inv.handoff x hclear.1⟩
    obtain ⟨hclicked, hreserved, hclicking⟩ := hturn.click hclear (hlocked a rfl)
    refine meets_bind.mpr (meets_attempt.mpr (meets_wait.mpr ⟨?_, ⟨hreserved, hclicking⟩, ?_⟩))
    · refine hclicked.guar fun q hq y hy => ?_
      cases hq
      rw [hy.1]
    · intro r t _ hinv hpoint _
      have hholds : Port.Holds ⟨.submit x firing, .submit review.id control⟩ x := ⟨rfl, nofun⟩
      have hresume := Turn.resume hinv hholds
      cases r with
      | error e =>
        have hfailed := @meets_clickFailed _ _ _ x e hresume hpoint.1 hpoint.2
        cases e <;> exact hfailed
      | ok u =>
        refine meets_bind.mpr (meets_exec.mpr fun _ => ⟨trivial, ?_⟩)
        obtain ⟨hlanded, hreserved, hspent⟩ := hresume.clickLanded hpoint.1 hpoint.2
        exact meets_observed hlanded hreserved hspent

def SubmitEnded (o : Call ⊕ sig.Port) (s₀ s : State) : Prop := ∃ owned, Turn owned o s₀ s

/-- **A submission** keeps the contract. -/
lemma meets_submitApplicationReview (h : Turn none o s₀ s) :
    (submitApplicationReview host (.submit x firing) x mode askBefore number).Meets
      onceContract Op.run (fun o s₀ _ t => SubmitEnded o s₀ t) o s₀ s := by
  refine meets_read_bind trivial trivial (fun active _ => ?_) fun _ => ⟨none, h⟩
  cases active with
  | none => exact ⟨none, h⟩
  | some review =>
    refine meets_read_bind trivial trivial (fun submitting hsubmitting => ?_) fun _ => ⟨none, h⟩
    refine meets_ite.mpr ⟨fun _ => ⟨none, h⟩, fun hfree => ?_⟩
    refine meets_read_bind trivial trivial (fun handoff hhandoff => ?_) fun _ => ⟨none, h⟩
    refine meets_ite.mpr ⟨fun _ => ⟨none, h⟩, fun hhidden => ?_⟩
    have hx := isSubmitting_false hsubmitting hfree
    have hshown : s.handoffAttemptId ≠ some x := by
      cases hhandoff
      exact hhidden
    obtain ⟨hturn, hreserved⟩ := h.beginSubmit hx hshown
    refine meets_bind.mpr (meets_exec.mpr fun _ => ⟨trivial, ?_⟩)
    have hbody : (submitReserved host (.submit x firing) x mode askBefore number review).Meets
        onceContract Op.run (fun o s₀ _ t => Turn (some x) o s₀ t ∧ Reserved x t) o s₀
          (Op.run (.beginSubmit x) s).1 := by
      refine meets_bind.mpr ((meets_checkPage hturn hreserved).mono fun o s₀ r t ht => ?_)
      obtain ⟨hturn, hreserved, hclear⟩ := ht
      cases r with
      | error e => exact ⟨hturn, hreserved⟩
      | ok found =>
        cases found with
        | inl refusal => exact ⟨hturn, hreserved⟩
        | inr found =>
          refine meets_bind.mpr ((meets_checkDocuments hturn (hclear _ rfl)).mono ?_)
          intro o s₀ r t ht
          cases r with
          | error e => exact ⟨ht.1, ht.2.reserved⟩
          | ok refusal =>
            cases refusal with
            | some refusal => exact ⟨ht.1, ht.2.reserved⟩
            | none => exact meets_clickSubmit ht.1 ht.2
    refine meets_andFinally.mpr (hbody.mono fun o s₀ r t ht => meets_exec.mpr fun _ => ?_)
    refine ⟨trivial, ?_⟩
    have hended := ht.1.endSubmit ht.2.2
    cases r with
    | ok result => exact ⟨some x, hended⟩
    | error e => exact ⟨some x, hended⟩

/-! ## Automatic submissions -/

lemma meets_fireAttempt {due : Firing} (h : Turn none o s₀ s) :
    (fireAttempt host now due attempt).Meets onceContract Op.run
      (fun o s₀ _ t => Turn none o s₀ t) o s₀ s := by
  have heligible : Calm (inner (.eligible attempt.id (some due))
      (checkAutomaticSubmissionEligibility host (.eligible attempt.id (some due)) attempt.id now)) :=
    calm_inner (calm_of_page (y := 0) uses_checkAutomaticSubmissionEligibility fun _ => trivial)
      trivial
  refine meets_bind.mpr ((meets_calm (calm_op quiet_schedule) h).mono fun o s₀ r t ht => ?_)
  cases r with
  | error e => exact ht
  | ok a =>
    refine meets_ite.mpr ⟨fun _ => ht, fun _ => ?_⟩
    refine meets_bind.mpr ((meets_calm heligible ht).mono fun o s₀ r t ht => ?_)
    cases r with
    | error e => exact ht
    | ok check =>
      refine meets_ite.mpr ⟨fun _ => ht, fun _ => ?_⟩
      refine meets_bind.mpr (meets_call.mpr ((meets_submitApplicationReview ht).mono ?_))
      rintro o s₀ r t ⟨owned, hended⟩
      have hfree : Free ⟨.submit attempt.id (some due), .returned⟩ := rfl
      refine ⟨hended.guar fun q hq y hy => ?_, trivial, fun r' t' _ hinv _ _ => ?_⟩
      · cases hq
        exact absurd hy (hfree.not_holds y)
      · have hstart : Turn none (.inr ⟨.submit attempt.id (some due), .returned⟩) t' t' :=
          Turn.start hinv
        cases r with
        | ok result => exact hstart
        | error e => exact hstart

lemma meets_fireFrom {number : ℕ} (attempts : List Attempt) (h : Turn none o s₀ s) :
    (fireFrom host now number attempts).Meets onceContract Op.run
      (fun o s₀ _ t => Turn none o s₀ t) o s₀ s := by
  induction attempts generalizing o s₀ s with
  | nil => exact h
  | cons attempt rest ih =>
    rw [fireFrom]
    refine meets_bind.mpr ((meets_fireAttempt h).mono fun o s₀ r t ht => ?_)
    cases r with
    | ok u => exact ih ht
    | error e => exact ht

end Turns

/-! ## All runs -/

section Runs

variable {host : Host} {o : Call ⊕ sig.Port} {s₀ s : State}

lemma unlocked_of_listed (hy : y ∈ ((s.db.listApplicationAttempts.filter fun a =>
    a.checkpoint ∈ Checkpoint.interrupted).map Attempt.id).head?) : ¬Locked s y:= by
  obtain ⟨a, ha, rfl⟩ := List.mem_map.mp (List.mem_of_mem_head? hy)
  obtain ⟨hmem, hcp⟩ := List.mem_filter.mp ha
  have hrow : s.attempt? a.id = some a := Table.get?_key (List.mem_reverse.mp hmem)
  rintro ⟨b, hb, hsent⟩
  rw [Option.mem_def, hrow] at hb
  cases hb
  revert hcp hsent
  cases a.checkpoint <;> decide

lemma meets_recover (h : Turn none o s₀ s) :
    recoverInterruptedApplicationAttempts.Meets onceContract Op.run
      (fun o s₀ _ t => Turn none o s₀ t) o s₀ s := by
  refine meets_read_bind trivial trivial (fun attempts hattempts => ?_) fun _ => h
  cases hattempts
  refine meets_bind.mpr ((meets_recoverPreparations _ h fun y hy => unlocked_of_listed hy).mono ?_)
  intro o s₀ r t ht
  cases r with
  | error e => exact ht
  | ok u =>
    refine meets_calm (Uses.bind (Uses.forEach fun _ _ => calm_recoverSubmission) fun _ => ?_) ht
    exact Uses.forEach fun _ _ => calm_recoverQueued

lemma meets_onceBody {x : Call} (hx : x.Surrounds) (h : Turn none o s₀ s) :
    (x.body host).Meets onceContract Op.run
      (fun o s₀ _ t => onceContract.guar o s₀ none t) o s₀ s := by
  have hcalm : ∀ {y : Run Unit}, Calm y → y.Meets onceContract Op.run
      (fun o s₀ _ t => onceContract.guar o s₀ none t) o s₀ s :=
    fun hy => (meets_calm hy h).mono fun _ _ _ _ ht => ht.guar_none
  cases x with
  | openReview input =>
    have hopen : Calm (openApplicationReview host .review input) :=
      calm_of_page uses_openApplicationReview fun _ => trivial
    exact hcalm (hopen.bind fun _ => .pure _)
  | closeReview y => exact hcalm (calm_op trivial)
  | showHandoff y hasWindow =>
    refine meets_bind.mpr ((meets_show h).mono fun o s₀ r t ht => ?_)
    cases r with
    | ok u => exact ht.guar_none
    | error e => exact ht.guar_none
  | hideHandoff y =>
    exact hcalm ((calm_op (a := .handoff) trivial).bind fun _ => .ite (calm_op rfl) (.pure _))
  | submit y mode askBefore =>
    refine meets_bind.mpr ((meets_submitApplicationReview h).mono ?_)
    rintro o s₀ r t ⟨owned, ht⟩
    cases r with
    | ok u => exact ht.guar_none
    | error e => exact ht.guar_none
  | report y statement => exact hcalm (calm_report.bind fun _ => .pure _)
  | reconcile y response => exact hcalm (calm_reconcile.bind fun _ => .pure _)
  | schedule y => exact hcalm (calm_schedule.bind fun _ => .pure _)
  | cancel y => exact hcalm calm_cancel
  | fire =>
    refine meets_read_bind trivial trivial (fun now _ => ?_) fun _ => h.guar_none
    refine meets_bind.mpr ((meets_calm (calm_op (a := .beginFiring) trivial) h).mono ?_)
    intro o s₀ r t ht
    cases r with
    | error e => exact ht.guar_none
    | ok number =>
      refine meets_read_bind trivial trivial (fun attempts _ => ?_) fun _ => ht.guar_none
      exact (meets_fireFrom _ ht).mono fun _ _ _ _ ht => ht.guar_none
  | recover => exact (meets_recover h).mono fun _ _ _ _ ht => ht.guar_none
  | setWorld w => exact hcalm (calm_op trivial)
  | setClock t => exact hcalm (calm_op trivial)
  | setBlind blind => exact hcalm (calm_op trivial)
  | _ => exact False.elim hx

def OwnApart (p q : sig.Port) : Prop := ∀ x, ¬(Port.Holds p x ∧ Port.Holds q x)

lemma point_of_untouched (hp : clickPoint p s)
    (h : ∀ y, Port.Holds p y → y ∈ s.submittingAttemptIds → Untouched y s t) : clickPoint p t:= by
  obtain ⟨site, wait⟩ := p
  cases site with
  | submit x firing =>
    by_cases hwait : wait = .returned
    · subst hwait
      trivial
    · have hreserved : x ∈ s.submittingAttemptIds := by
        cases wait <;> first
          | exact absurd rfl hwait
          | exact hp.1
      have hx := h x ⟨rfl, hwait⟩ hreserved
      have hclicking := hx.clicking
      have hspent := hx.spent
      have hmem := hx.reserved hreserved
      cases wait <;> first
        | exact absurd rfl hwait
        | exact ⟨hmem, hclicking.mpr hp.2⟩
        | exact ⟨hmem, fun hc => hp.2 (hclicking.mp hc)⟩
        | exact ⟨hmem, fun hc => hp.2.1 (hclicking.mp hc), hspent.mpr hp.2.2⟩
        | exact ⟨hmem, fun hc => hp.2.1 (hclicking.mp hc), fun hc => hp.2.2 (hspent.mp hc)⟩
  | _ => trivial

theorem onceContract_sound : onceContract.Sound (desktop host) OwnApart where
  rely_refl _ := trivial
  rely_trans _ _ := trivial
  rely_of_guar _ _ := trivial
  inv_of_guar _ h := h.1
  point_of_guar := by
    intro o s d t p _ hp hbeside hguar
    refine point_of_untouched hp fun y hy hreserved => hguar.2.1 y hreserved fun hown => ?_
    cases o with
    | inl x => exact hown
    | inr q => exact hbeside.2.2 y ⟨hy, hown⟩
  compat_symm h x hx := h x hx.symm
  compat_of_guar := by
    rintro o s d t p _ hp hbeside hguar x ⟨hpx, hdx⟩
    have hreserved : x ∈ s.submittingAttemptIds := by
      obtain ⟨site, wait⟩ := p
      cases site with
      | submit y firing =>
        obtain ⟨rfl, hwait⟩ := hpx
        cases wait <;> first
          | exact absurd rfl hwait
          | exact hp.1
      | _ => exact False.elim hpx
    rcases hguar.2.2 d rfl x hdx with hown | hnot
    · cases o with
      | inl x => exact hown
      | inr q => exact hbeside.2.2 x ⟨hpx, hown⟩
    · exact hnot hreserved
  body x _ hs hx := meets_onceBody hx (Turn.start hs)
  restart _ h := h.restart

/-- The calls are those that a submission is interleaved with, and the recovery goes on only to
attempts that are not locked meanwhile. -/
def RecoversInTime (c : Cfg sig State) : Event sig Call → Prop
  | .call x => x.Surrounds
  | .reply _ p _ => RecoversUnsent p c.shared
  | .crash => True

instance (c : Cfg sig State) (e : Event sig Call) : Decidable (RecoversInTime c e) :=
  match e with
  | .call x => inferInstanceAs (Decidable x.Surrounds)
  | .reply _ p _ => inferInstanceAs (Decidable (RecoversUnsent p c.shared))
  | .crash => inferInstanceAs (Decidable True)

lemma allowed_of_recoversInTime {c : Cfg sig State} {e : Event sig Call}
    (h : RecoversInTime c e) : onceContract.Allowed (desktop host) c e := by
  refine ⟨fun _ _ => trivial, ?_⟩
  cases e with
  | call x => exact ⟨h, fun _ _ _ _ => trivial⟩
  | reply i p r => exact ⟨h, fun _ _ _ _ _ => trivial⟩
  | crash => trivial

/-- **At most one click for an attempt, as long as the recovery is in time.**  In every run in which
the recovery goes on only to attempts that are not locked meanwhile, a click is made only while no
other one for the attempt is under way, after none that came through, and never while the page is
handed to a person. -/
theorem clicks_once (host : Host) (db : Database) (world : World) {c : Cfg sig State}
    {e : Event sig Call} (hreach : (desktop host).Reach RecoversInTime (started db world) c)
    (hok : RecoversInTime c e) : ∀ a ∈ (desktop host).acts c e, ClicksOnce a.1 a.2 := by
  have hstart : ClickInv (State.start db world) :=
    ⟨List.nodup_nil, nofun, nofun, nofun⟩
  have hsound : onceContract.Sound (desktop host) OwnApart := onceContract_sound
  have hgood := Contract.good_of_reach hsound (Contract.Good.start hstart)
    (hreach.mono fun _ _ => allowed_of_recoversInTime)
  exact hgood.pre_step hsound (allowed_of_recoversInTime hok)

def submitFrom (i x : ℕ) : List (System.Move sig Call) :=
  [.event (.call (.openReview { attemptId := x, policyId := "policy", targetUrl := "jobs/1" })),
    .serve i 5,
    .event (.call (.submit x .manual false)), .serve (i + 1) 2]

def documentRead (i x : ℕ) : Event sig Call :=
  .reply i ⟨.submit x none, .pdfText "bytes"⟩ (.ok "Engineer at acme")

def submittedDuringRecovery : List (System.Move sig Call) :=
  .event (.call .recover) :: submitFrom 1 0

/-- The click of the submission is the only one. -/
theorem clicks_once_recovering :
    ∃ c, (desktop sampleHost).Reach RecoversInTime
        (started (sampleDb [.filling, .filling]) sampleWorld) c ∧
      (∃ a ∈ (desktop sampleHost).acts c (documentRead 2 0), a.1.isClick = true) ∧
      ∀ a ∈ (desktop sampleHost).acts c (documentRead 2 0), ClicksOnce a.1 a.2 := by
  have hrun : ((desktop sampleHost).play RecoversInTime (sampleAnswer 0)
      (started (sampleDb [.filling, .filling]) sampleWorld) submittedDuringRecovery).map (fun c =>
        decide (∃ a ∈ (desktop sampleHost).acts c (documentRead 2 0), a.1.isClick = true)) =
      some true := by
    decide
  obtain ⟨c, hc, hclick⟩ := Option.map_eq_some_iff.mp hrun
  have hreach := System.Reach.of_play hc
  have hok : RecoversInTime c (documentRead 2 0) := trivial
  exact ⟨c, hreach, of_decide_eq_true hclick, clicks_once sampleHost _ _ hreach hok⟩

def submittedTwice : List (System.Move sig Call) :=
  submittedDuringRecovery ++
    [.serve 2 3, .serve 0 2, .event (.call (.submit 0 .manual false)), .serve 3 2]

def SurroundsOnly (_ : Cfg sig State) : Event sig Call → Prop
  | .call x => x.Surrounds
  | _ => True

instance (c : Cfg sig State) (e : Event sig Call) : Decidable (SurroundsOnly c e) :=
  match e with
  | .call x => inferInstanceAs (Decidable x.Surrounds)
  | .reply _ _ _ => inferInstanceAs (Decidable True)
  | .crash => inferInstanceAs (Decidable True)

/-- A second click is made for an attempt whose first one came through. -/
theorem clicks_twice :
    ∃ c, (desktop sampleHost).Reach SurroundsOnly
        (started (sampleDb [.filling, .filling]) sampleWorld) c ∧
      ∃ a ∈ (desktop sampleHost).acts c (documentRead 3 0), ¬ClicksOnce a.1 a.2 := by
  have hrun : ((desktop sampleHost).play SurroundsOnly (sampleAnswer 0)
      (started (sampleDb [.filling, .filling]) sampleWorld) submittedTwice).map (fun c =>
        decide (∃ a ∈ (desktop sampleHost).acts c (documentRead 3 0), ¬ClicksOnce a.1 a.2)) =
      some true := by
    decide
  obtain ⟨c, hc, htwice⟩ := Option.map_eq_some_iff.mp hrun
  exact ⟨c, System.Reach.of_play hc, of_decide_eq_true htwice⟩

end Runs

end VacancyRadar.Desktop
