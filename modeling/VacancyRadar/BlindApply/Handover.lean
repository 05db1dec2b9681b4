import VacancyRadar.BlindApply.Stop

/-!
# Stop and the preparation queue

An attempt whose preparation Stop has cancelled must not be handed to the preparation queue again.
Only `startItem` looks at its item after the handover; a retry, a requeue and an answer hand the
attempt over whatever has happened to the item meanwhile.  So a Stop that arrives while such a
call is pending leaves work behind, and so does a loop of `tick` that comes to an item of its list
after Stop took it, and a submission that finds its page closed by Stop.
-/

namespace VacancyRadar.BlindApply

open Coop Data Prog

variable {a : Op} {α : Type} {Q : Post sig State Call (List Item)} {auth : Authorization}
  {states : Option (List ItemState)} {reason : String}

/-! ## The property and the condition -/

/-- No attempt is handed to the queue after Stop's cancellation for it. -/
def NothingLeft (notes : List Note) : Prop :=
  notes.Pairwise fun a b => ∀ x, a = .stopCancels x → b ≠ .handed x

def Takeable (s : State) (x : ℕ) : Prop :=
  ∃ auth ∈ s.db.getActiveBlindApplyAuthorization, ∃ r ∈ s.db.items.rows,
    r.authorizationId = auth.id ∧ r.attemptId = some x ∧
      r.state ∈ [ItemState.queued, .preparing, .ready]

instance : DecidableRel Takeable := fun _ _ => inferInstanceAs (Decidable (∃ _ ∈ _, _))

def Wait.hands : Wait → Option ℕ
  | resume x | requeue x => some x
  | _ => none

/-- The attempt of the item has failed for the first time, and `tick` would retry it. -/
def Retryable (s : State) (item : Item) (x : ℕ) : Prop :=
  item.attemptId = some x ∧ item.prepRetries < 1 ∧
    ∃ a ∈ s.attempts.get? x, a.checkpoint = .failed

instance (s : State) (item : Item) : DecidablePred (Retryable s item) :=
  fun _ => inferInstanceAs (Decidable (_ ∧ _ ∧ ∃ _ ∈ _, _))

def lostPage (result : SubmitResult) : Bool :=
  !result.ok && result.reason == some .noOpenReview

/-- A reply arrives in time for a Stop: no loop of `tick` comes to an item that Stop took and that
it would retry, and no submission of such an item finds its page closed. -/
def timelyReply : (p : Port) → Except RunnerError p.wait.Rep → State → Prop
  | ⟨.reconcile _ (item :: _), .turn⟩, _, s => ∀ x ∈ s.taken, ¬ Retryable s item x
  | ⟨_, .submit _ x⟩, .ok (.settled result), s => lostPage result → x ∉ s.taken
  | ⟨_, .submitAnswered _ x _⟩, .ok result, s => lostPage result → x ∉ s.taken
  | _, _, _ => True

instance (p : Port) (r : Except RunnerError p.wait.Rep) (s : State) :
    Decidable (timelyReply p r s) := by
  unfold timelyReply
  split <;> infer_instance

/-- The condition under which nothing is left behind: replies arrive in time, and Stop comes while
no resume or requeue of an attempt that it takes is pending. -/
def TimelyStop (c : Coop.Cfg sig State) : Coop.Event sig Call → Prop
  | .call (.stop _) => ∀ y ∈ c.procs, ∀ p ∈ y.port?, ∀ x ∈ p.wait.hands, ¬ Takeable c.shared x
  | .reply _ p r => timelyReply p r c.shared
  | _ => True

instance (c : Coop.Cfg sig State) (e : Coop.Event sig Call) : Decidable (TimelyStop c e) :=
  decidable_of_iff ((match e with
      | .call (.stop _) =>
        decide (∀ y ∈ c.procs, ∀ p ∈ y.port?, ∀ x ∈ p.wait.hands, ¬ Takeable c.shared x)
      | .reply _ p r => decide (timelyReply p r c.shared)
      | _ => true) = true) (by
    unfold TimelyStop
    split <;> simp)

/-! ## The invariant -/

def StartedFor (s : State) (x i : ℕ) : Prop := ∃ a, s.attempts.get? x = some a ∧ a.itemId = i

def Attached (s : State) (i x : ℕ) : Prop :=
  ∃ r, s.db.items.get? i = some r ∧ r.attemptId = some x

def StoppedWith (s : State) (x : ℕ) : Prop :=
  ∃ r ∈ s.db.items.rows, r.attemptId = some x ∧ r.state = .stopped

structure HandoverInv (s : State) : Prop where
  nothingLeft : NothingLeft s.notes
  cancelled : ∀ x, .stopCancels x ∈ s.notes → x ∈ s.taken
  /-- A queued item has no attempt yet. -/
  queued : ∀ r ∈ s.db.items.rows, r.state = .queued → r.attemptId = none
  startedFor : ∀ r ∈ s.db.items.rows, ∀ x, r.attemptId = some x → StartedFor s x r.id
  taken : ∀ x ∈ s.taken, StoppedWith s x

/-- What other turns may do: items keep their attempts, and Stop may take more. -/
structure HandoverRely (s t : State) : Prop where
  startedFor : ∀ x i, StartedFor s x i → StartedFor t x i
  attached : ∀ i x, Attached s i x → Attached t i x
  taken : s.taken ⊆ t.taken

lemma HandoverRely.refl (s : State) : HandoverRely s s :=
  ⟨fun _ _ h => h, fun _ _ h => h, List.Subset.refl _⟩

variable {s s₀ : State} {o : Call ⊕ sig.Port} {x : Run α}

lemma HandoverRely.trans {t u : State} (h₁ : HandoverRely s t) (h₂ : HandoverRely t u) :
    HandoverRely s u :=
  ⟨fun x i h => h₂.startedFor x i (h₁.startedFor x i h),
    fun i x h => h₂.attached i x (h₁.attached i x h), fun _ h => h₂.taken (h₁.taken h)⟩

lemma HandoverInv.not_taken (h : HandoverInv s) {r : Item} {x : ℕ} (hr : r ∈ s.db.items.rows)
    (hx : r.attemptId = some x) (hst : r.state ≠ .stopped) : x ∉ s.taken := by
  intro htaken
  obtain ⟨r', hr', hx', hst'⟩ := h.taken x htaken
  obtain ⟨a, ha, hid⟩ := h.startedFor r hr x hx
  obtain ⟨a', ha', hid'⟩ := h.startedFor r' hr' x hx'
  obtain rfl : a = a' := Option.some.inj (ha.symm.trans ha')
  obtain rfl : r = r' := Table.eq_of_key_eq hr hr' (hid.symm.trans hid')
  exact hst hst'

def HandoverPre : Op → State → Prop
  | .note (.handed x), s => x ∉ s.taken
  | .note (.stopCancels x), s => x ∈ s.taken
  | .move i expected target patch _, s => target ≠ .queued ∧ ∀ y ∈ patch.attemptId, ∃ x, y = some x ∧
      (Attached s i x ∨ expected = [.queued] ∧ StartedFor s x i)
  | .recordStop _ taken, s => ∀ x ∈ taken, StoppedWith s x
  | _, _ => True

/-! ## What single operations do -/

section Ops

variable {s t : State}

lemma handover_of_unchanged (h : HandoverInv s) (hitems : t.db.items = s.db.items)
    (hattempts : t.attempts = s.attempts) (htaken : t.taken = s.taken)
    (hnotes : t.notes = s.notes) : HandoverInv t ∧ HandoverRely s t := by
  obtain ⟨h₁, h₂, h₃, h₄, h₅⟩ := h
  refine ⟨⟨by rwa [hnotes], by rwa [hnotes, htaken], by rwa [hitems], ?_, ?_⟩, ?_, ?_, ?_⟩
  · simpa only [hitems, StartedFor, hattempts] using h₄
  · simpa only [htaken, StoppedWith, hitems] using h₅
  · simp only [StartedFor, hattempts, imp_self, implies_true]
  · simp only [Attached, hitems, imp_self, implies_true]
  · rw [htaken]
    exact List.Subset.refl _

lemma handover_note {entry : Note} (h : HandoverInv s) (hpre : HandoverPre (.note entry) s) :
    HandoverInv (Op.run (.note entry) s).1 ∧ HandoverRely s (Op.run (.note entry) s).1 := by
  refine ⟨⟨?_, fun x hx => ?_, h.queued, h.startedFor, h.taken⟩, fun _ _ h => h, fun _ _ h => h,
    List.Subset.refl _⟩
  · refine List.pairwise_append.mpr ⟨h.nothingLeft, by simp, fun a ha b hb x hax hbx => ?_⟩
    obtain rfl := List.mem_singleton.mp hb
    subst hax hbx
    exact hpre (h.cancelled x ha)
  · rcases List.mem_append.mp hx with hx | hx
    · exact h.cancelled x hx
    · obtain rfl := List.mem_singleton.mp hx
      exact hpre

lemma handover_recordStop {id : ℕ} {taken : List ℕ} (h : HandoverInv s)
    (hpre : HandoverPre (.recordStop id taken) s) :
    HandoverInv (Op.run (.recordStop id taken) s).1 ∧
      HandoverRely s (Op.run (.recordStop id taken) s).1 := by
  refine ⟨⟨h.nothingLeft, fun x hx => ?_, h.queued, h.startedFor, fun x hx => ?_⟩,
    fun _ _ h => h, fun _ _ h => h, List.subset_append_right _ _⟩
  · exact List.mem_append_right _ (h.cancelled x hx)
  · rcases List.mem_append.mp hx with hx | hx
    · exact hpre x hx
    · exact h.taken x hx

lemma handover_attempts {attempts : Table AttemptView} (h : HandoverInv s)
    (hkeep : ∀ x i, StartedFor s x i → StartedFor { s with attempts } x i) :
    HandoverInv { s with attempts } ∧ HandoverRely s { s with attempts } :=
  ⟨⟨h.nothingLeft, h.cancelled, h.queued, fun r hr x hx => hkeep _ _ (h.startedFor r hr x hx),
    h.taken⟩, hkeep, fun _ _ h => h, List.Subset.refl _⟩

lemma handover_insertItem {input : ItemInput} (h : HandoverInv s) :
    HandoverInv (Op.run (.insertItem input) s).1 ∧
      HandoverRely s (Op.run (.insertItem input) s).1 := by
  obtain heq | ⟨-, -, -, heq⟩ := s.db.insert_cases input s.clock
  · exact handover_of_unchanged h (by simp only [Op.run, heq]) rfl rfl rfl
  have hrows : ∀ r, r ∈ (Op.run (.insertItem input) s).1.db.items.rows ↔
      r ∈ s.db.items.rows ∨ r = Store.newItem input s.clock s.db.items.next := by
    intro r
    simp only [Op.run, heq, Table.mem_insert]
  refine ⟨⟨h.nothingLeft, h.cancelled, fun r hr hst => ?_, fun r hr x hx => ?_, fun x hx => ?_⟩,
    fun _ _ h => h, ?_, List.Subset.refl _⟩
  · rcases (hrows r).mp hr with hr | rfl
    · exact h.queued r hr hst
    · rfl
  · rcases (hrows r).mp hr with hr | rfl
    · exact h.startedFor r hr x hx
    · cases hx
  · obtain ⟨r, hr, hx, hst⟩ := h.taken x hx
    exact ⟨r, (hrows r).mpr (Or.inl hr), hx, hst⟩
  · rintro i x ⟨r, hr, hx⟩
    refine ⟨r, ?_, hx⟩
    simp only [Op.run, heq]
    exact Table.get?_insert_of_some hr

variable {event : EventInput} {expected : List ItemState} {i : ℕ} {patch : ItemPatch}
  {target : ItemState}

lemma attached_of_move {j x : ℕ}
    (hqueued : ∀ r ∈ s.db.items.rows, r.state = .queued → r.attemptId = none)
    (hpatch : ∀ y ∈ patch.attemptId, ∃ x, y = some x ∧ (Attached s i x ∨ expected = [.queued]))
    (h : Attached s j x) : Attached (Op.run (.move i expected target patch event) s).1 j x := by
  obtain ⟨r, hr, hx⟩ := h
  obtain heq | ⟨current, detail, hget, hmem, -, heq⟩ :=
    s.db.transition_cases i expected target patch event s.clock
  · exact ⟨r, by simpa only [Op.run, heq] using hr, hx⟩
  simp only [Attached, Op.run, heq, Table.get?_update]
  by_cases hij : i = j
  · subst hij
    obtain rfl : current = r := Option.some.inj (hget.symm.trans hr)
    refine ⟨Store.moveItem target patch s.clock current, by simp [hget], ?_⟩
    cases hy : patch.attemptId with
    | none => simpa only [Store.moveItem, hy, Option.getD_none] using hx
    | some y =>
      simp only [Store.moveItem, hy, Option.getD_some]
      obtain ⟨x', rfl, ⟨r, hr, hrx⟩ | hexp⟩ := hpatch y hy
      · obtain rfl : r = current := Option.some.inj (hr.symm.trans hget)
        exact hrx.symm.trans hx
      · -- a queued item has no attempt
        rw [hexp, List.mem_singleton] at hmem
        rw [hqueued current (Table.mem_of_get? hget) hmem] at hx
        cases hx
  · exact ⟨r, by simp [hij, hr], hx⟩

lemma handover_move (h : HandoverInv s) (hpre : HandoverPre (.move i expected target patch event) s) :
    HandoverInv (Op.run (.move i expected target patch event) s).1 ∧
      HandoverRely s (Op.run (.move i expected target patch event) s).1 := by
  obtain heq | ⟨current, detail, hget, hmem, hterm, heq⟩ :=
    s.db.transition_cases i expected target patch event s.clock
  · exact handover_of_unchanged h (by simp only [Op.run, heq]) rfl rfl rfl
  have hid : current.id = i := Table.key_of_get? hget
  -- the attempt of the item afterwards
  have hattempt : ∀ x, (Store.moveItem target patch s.clock current).attemptId = some x →
      StartedFor s x i := by
    intro x hx
    cases hpatch : patch.attemptId with
    | none =>
      simp only [Store.moveItem, hpatch, Option.getD_none] at hx
      exact hid ▸ h.startedFor current (Table.mem_of_get? hget) x hx
    | some y =>
      simp only [Store.moveItem, hpatch, Option.getD_some] at hx
      obtain ⟨x', rfl, hx'⟩ := hpre.2 y hpatch
      cases hx
      obtain ⟨r, hr, hrx⟩ | ⟨-, hfor⟩ := hx'
      · obtain rfl : r = current := Option.some.inj (hr.symm.trans hget)
        exact hid ▸ h.startedFor r (Table.mem_of_get? hget) x hrx
      · exact hfor
  have hrows : ∀ r ∈ (Op.run (.move i expected target patch event) s).1.db.items.rows,
      r = Store.moveItem target patch s.clock current ∨ (r ∈ s.db.items.rows ∧ r.id ≠ i) := by
    intro r hr
    simp only [Op.run, heq] at hr
    exact Table.of_mem_update hget hr
  refine ⟨⟨h.nothingLeft, h.cancelled, fun r hr hst => ?_, fun r hr x hx => ?_, fun x hx => ?_⟩,
    fun _ _ h => h, fun j x hx => attached_of_move h.queued ?_ hx, List.Subset.refl _⟩
  · rcases hrows r hr with rfl | ⟨hr, -⟩
    · exact absurd hst hpre.1
    · exact h.queued r hr hst
  · rcases hrows r hr with rfl | ⟨hr, -⟩
    · have hid' : (Store.moveItem target patch s.clock current).id = i := hid
      rw [hid']
      exact hattempt x hx
    · exact h.startedFor r hr x hx
  · obtain ⟨r, hr, hx, hst⟩ := h.taken x hx
    have hne : r.id ≠ i := by
      rintro rfl
      obtain rfl : current = r := Option.some.inj (hget.symm.trans (Table.get?_key hr))
      exact hterm (by rw [hst]; decide)
    refine ⟨r, ?_, hx, hst⟩
    simp only [Op.run, heq, Table.mem_update]
    exact Or.inr ⟨hr, hne⟩
  · intro y hy
    obtain ⟨x, rfl, hx | ⟨hexp, -⟩⟩ := hpre.2 y hy
    · exact ⟨x, rfl, Or.inl hx⟩
    · exact ⟨x, rfl, Or.inr hexp⟩

lemma handover_of_op (h : HandoverInv s) (hpre : HandoverPre a s) :
    HandoverInv (Op.run a s).1 ∧ HandoverRely s (Op.run a s).1 := by
  cases a with
  | note entry => exact handover_note h hpre
  | recordStop id taken => exact handover_recordStop h hpre
  | insertItem input => exact handover_insertItem h
  | move i expected target patch event => exact handover_move h hpre
  | createAttempt itemId =>
    refine handover_attempts h fun x i ⟨a, ha, hid⟩ => ⟨a, ?_, hid⟩
    exact Table.get?_insert_of_some ha
  | setAttempt id checkpoint detail =>
    refine handover_attempts h fun x i ⟨a, ha, hid⟩ => ?_
    simp only [StartedFor, Table.get?_update]
    by_cases hx : id = x
    · exact ⟨{ a with checkpoint, checkpointDetail := detail }, by simp [hx, ha], hid⟩
    · exact ⟨a, by simp [hx, ha], hid⟩
  | endTick returned before =>
    obtain ⟨h₁, h₂, h₃, h₄, h₅⟩ := h
    refine ⟨⟨?_, fun x hx => ?_, h₃, h₄, h₅⟩, fun _ _ h => h, fun _ _ h => h, List.Subset.refl _⟩
    · simp only [Op.run]
      split
      · exact List.pairwise_append.mpr ⟨h₁, by simp, by simp⟩
      · simpa using h₁
    · refine h₂ x ?_
      simp only [Op.run] at hx
      split at hx <;> simpa using hx
  | appendEvent itemId state event =>
    obtain heq | ⟨r, -, heq⟩ := s.db.append_cases itemId state event s.clock
    · exact handover_of_unchanged h (by simp only [Op.run, heq]) rfl rfl rfl
    · exact handover_of_unchanged h (by simp only [Op.run, heq]) rfl rfl rfl
  | saveAnswer matchKey label controlType answer optionSetHash =>
    exact handover_of_unchanged h (by simp [Op.run]) rfl rfl rfl
  | _ => exact handover_of_unchanged h rfl rfl rfl rfl

end Ops

/-! ## The contract -/

def handoverContract : Contract sig State Call where
  inv := HandoverInv
  rely := HandoverRely
  point p s := ∀ x ∈ p.wait.hands, x ∉ s.taken
  guar o s _ t := HandoverInv s → HandoverInv t ∧ HandoverRely s t ∧
    ∀ x ∈ t.taken, x ∈ s.taken ∨ (∃ reason, o = .inl (.stop reason)) ∧ Takeable s x
  pre := HandoverPre
  reply := timelyReply
  meet o p s := match o with
    | .inl (.stop _) => ∀ x ∈ p.wait.hands, ¬ Takeable s x
    | _ => True

def LeavingPre : Op → State → Prop
  | .recordStop _ _, _ => False
  | a, s => HandoverPre a s

lemma LeavingPre.handover (h : LeavingPre a s) : HandoverPre a s:= by
  cases a with
  | recordStop id taken => exact h.elim
  | _ => exact h

lemma LeavingPre.taken (h : LeavingPre a s) : (Op.run a s).1.taken = s.taken:= by
  cases a with
  | recordStop id taken => exact h.elim
  | _ => rfl

def leavingContract : Contract sig State Call := { handoverContract with pre := LeavingPre }

abbrev handovers : Contract sig State Call :=
  (leavingContract.assuming HandoverInv).along fun _ => True

/-- What a turn does that takes nothing. -/
def Leaves (s t : State) : Prop :=
  HandoverInv s → HandoverInv t ∧ HandoverRely s t ∧ t.taken = s.taken

lemma meets_of_handovers {Q : Post sig State Call α} (h : x.Meets handovers Op.run Q o s₀ s)
    (hI : HandoverInv s) (hfirst : ∀ d t, Leaves s t → handoverContract.guar o s₀ d t) :
    x.Meets handoverContract Op.run (fun o s₀ r t => Q o s₀ r t ∧
      handoverContract.guar o s₀ none t) o s₀ s := by
  have hop : ∀ a s, leavingContract.pre a s → HandoverInv s → HandoverInv (Op.run a s).1 ∧
      HandoverRely s (Op.run a s).1 ∧ (Op.run a s).1.taken = s.taken := by
    intro a s hpre hI
    obtain ⟨hI', hrely⟩ := handover_of_op hI (LeavingPre.handover hpre)
    exact ⟨hI', hrely, LeavingPre.taken hpre⟩
  have halong := h.of_along (K := leavingContract.assuming HandoverInv) (T := Leaves) ?_ ?_ ?_ ?_
    fun d t _ => hfirst d t
  · have hleaving := halong.of_assuming (K := leavingContract) (fun hI => hI)
      (fun a s _ hpre hI => (hop a s hpre hI).1) hI
    have hmeets := hleaving.mono_pre (K := leavingContract) fun _ _ => LeavingPre.handover
    exact hmeets.mono fun o s₀ r t h => ⟨h.1.1, h.1.2 none (by simp)⟩
  · intro p s d t _ _ hT hI
    obtain ⟨hI', hrely, htaken⟩ := hT hI
    exact ⟨hI', hrely, fun x hx => Or.inl (htaken ▸ hx)⟩
  · exact fun s hI => ⟨hI, .refl s, rfl⟩
  · intro s t u h₁ h₂ hI
    obtain ⟨hI₁, hrely₁, htaken₁⟩ := h₁ hI
    obtain ⟨hI₂, hrely₂, htaken₂⟩ := h₂ hI₁
    exact ⟨hI₂, hrely₁.trans hrely₂, htaken₂.trans htaken₁⟩
  · exact fun a s hallow hpre _ => hop a s hpre hallow.2

lemma handovers_rely {Q : Post sig State Call α} (h : x.Meets handovers Op.run Q o s₀ s) :
    x.Meets handovers Op.run (fun o s₀ r t => Q o s₀ r t ∧ HandoverRely s t) o s₀ s :=
  h.rel_post (K := handovers) (T := HandoverRely) HandoverRely.trans (fun h => h)
    (fun _ _ hallow hpre => (handover_of_op hallow.2 (LeavingPre.handover hpre)).2) (.refl s)

/-! ## Programs that hand nothing over -/

section Programs

variable {item : Item} {expected : List ItemState} {target : ItemState} {patch : ItemPatch}
  {event : EventInput} {site : Site} {wait : Wait}

lemma handovers_move (ht : target ≠ .queued) (hp : patch.attemptId = none) :
    Safe handovers Op.run (move item expected target patch event) :=
  Safe.op fun _ _ => ⟨ht, by simp [hp]⟩

lemma handovers_moved (ht : target ≠ .queued) (hp : patch.attemptId = none) :
    Safe handovers Op.run (do
      let _ ← move item expected target patch event
      return) :=
  (handovers_move ht hp).bind fun _ => Safe.ret _

lemma handovers_ask (h : wait.hands = none) : Safe handovers Op.run (ask site wait) :=
  Safe.ask (fun _ => trivial) trivial fun _ => by simp [leavingContract, handoverContract, h,
    Contract.assuming]

lemma handovers_inner {x : Run α} (h : Safe handovers Op.run x) :
    Safe handovers Op.run (inner site x) :=
  h.call trivial fun _ => by simp [leavingContract, handoverContract, Contract.assuming, Wait.hands]

lemma lenient_handovers : Lenient handovers where
  read a s h := by cases a <;> trivial
  settle s i expected target patch event ht hp := by
    refine ⟨?_, by simp [hp]⟩
    rintro rfl
    exact absurd ht (by decide)

lemma handovers_selectCandidates (host : Host) (auth : Authorization) (current : CurrentFacts) :
    Safe handovers Op.run (selectCandidates host auth current) := by
  refine (Safe.op fun _ _ => trivial).bind fun items => (Safe.op fun _ _ => trivial).bind fun world => ?_
  generalize world.listCandidates = candidates
  generalize items.map Item.vacancyKey = seen
  induction candidates generalizing seen with
  | nil => exact Safe.ret _
  | cons candidate rest ih =>
    refine Safe.ite (ih seen) ?_
    refine (Safe.op fun _ _ => trivial).bind fun active => Safe.ite (Safe.ret _) ?_
    have hlive := @handovers_ask (.select auth.id) (.checkLiveness candidate.vacancyKey) rfl
    refine (handovers_inner (lenient_handovers.safe_evaluate hlive)).attempt.bind fun decision => ?_
    split
    · exact ih seen
    · exact Safe.ret _
    · refine (Safe.op fun _ _ => trivial).bind fun _ => Safe.ite (Safe.ret _) ?_
      refine Safe.bind ?_ fun _ => ih _
      refine (Safe.op fun _ _ => trivial).attempt.bind fun inserted => ?_
      split
      · exact Safe.ret _
      · exact (Safe.op fun _ _ => trivial).bind fun _ => Safe.ret _
      · exact Safe.raise _

/-! ## Programs that hand an attempt over -/

section Meets

variable {o : Call ⊕ sig.Port} {s₀ s : State} {x : ℕ}

lemma handovers_pipelineResume (h : x ∉ s.taken) :
    (pipelineResume site x).Meets handovers Op.run (fun _ _ _ _ => True) o s₀ s := by
  rw [pipelineResume, meets_bind]
  refine meets_ask (fun _ => trivial) trivial ⟨trivial, ?_⟩ (fun reply s' _ _ hpoint _ => ?_)
    fun _ _ _ _ _ _ => trivial
  · rintro y ⟨⟩
    exact h
  · cases reply with
    | handed =>
      refine meets_op_bind rfl (fun _ => hpoint.2 x rfl) fun _ => ?_
      exact ((handovers_ask rfl).bind fun _ => Safe.ret _) _ _ _
    | refused detail => trivial

lemma handovers_pipelineRequeue (h : x ∉ s.taken) :
    (pipelineRequeue site x).Meets handovers Op.run (fun _ _ _ _ => True) o s₀ s := by
  rw [pipelineRequeue, meets_bind]
  refine meets_ask (fun _ => trivial) trivial ⟨trivial, ?_⟩ (fun _ s' _ _ hpoint _ => ?_)
    fun _ _ _ _ _ _ => trivial
  · rintro y ⟨⟩
    exact h
  · refine meets_op_bind rfl (fun _ => hpoint.2 x rfl) fun _ => ?_
    exact handovers_ask rfl _ _ _

lemma handovers_pipelineStart {itemId : ℕ} :
    (pipelineStart site itemId).Meets handovers Op.run
      (fun _ _ r t => ∀ x, r = .ok (.created, x) → StartedFor t x itemId) o s₀ s := by
  rw [pipelineStart, meets_bind]
  refine meets_ask (fun _ => trivial) trivial ⟨trivial, by rintro y ⟨⟩⟩
    (fun reply s' _ _ _ _ => ?_) fun _ _ _ _ _ _ _ h => by cases h
  cases reply with
  | created =>
    refine meets_op_bind rfl (fun _ => trivial) fun hallow => ?_
    refine meets_op_bind rfl (fun _ htaken => ?_) fun _ => ?_
    · obtain ⟨r, hr, hx, -⟩ := hallow.2.taken _ htaken
      obtain ⟨a, ha, -⟩ := hallow.2.startedFor r hr _ hx
      exact absurd (Table.lt_next_of_get? ha) (Nat.lt_irrefl _)
    · rw [meets_bind]
      refine meets_ask (fun _ => trivial) trivial ⟨trivial, by rintro y ⟨⟩⟩
        (fun _ s'' hrely _ _ _ => ?_) fun _ _ _ _ _ _ _ h => by cases h
      rintro x ⟨⟩
      refine hrely.startedFor _ _ ⟨⟨s'.attempts.next, itemId, .queued, ""⟩, ?_, rfl⟩
      simp [Table.get?_insert]
  | refused reason detail => rintro x ⟨⟩
  | alreadyCompleted => rintro x ⟨⟩

lemma handovers_startItem (auth : Authorization) (item : Item) :
    Safe handovers Op.run (startItem auth item) := by
  refine (Safe.op fun _ _ => trivial).bind fun world => Safe.ite (handovers_moved (by decide) rfl) ?_
  refine (Safe.op fun _ _ => trivial).bind fun active => Safe.ite (Safe.ret _) fun o s₀ s => ?_
  rw [meets_bind, meets_attempt]
  refine handovers_pipelineStart.mono fun o s₀ started t hstarted => ?_
  rw [andThen_ok]
  split
  · exact handovers_moved (by decide) rfl _ _ _
  · exact handovers_moved (by decide) rfl _ _ _
  · exact handovers_moved (by decide) rfl _ _ _
  · exact handovers_moved (by decide) rfl _ _ _
  · rename_i attemptId
    refine meets_op_bind rfl (fun _ => ⟨by decide, ?_⟩) fun _ => ?_
    · rintro y ⟨⟩
      exact ⟨attemptId, rfl, Or.inr ⟨rfl, hstarted _ rfl⟩⟩
    · refine (Safe.ite ?_ (Safe.ret _)) _ _ _
      exact (handovers_ask rfl).attempt.bind fun _ => Safe.ret _

lemma handovers_reconcilePreparing (h : ∀ x, Retryable s item x → x ∉ s.taken) :
    (reconcilePreparing site item).Meets handovers Op.run (fun _ _ _ _ => True) o s₀ s := by
  unfold reconcilePreparing
  split
  · rename_i attemptId hattempt
    refine meets_getAttempt_bind (fun _ => trivial) (fun attempt hget => ?_) fun _ => trivial
    split
    · refine Safe.bind ((Safe.op fun _ _ => trivial).bind fun _ => Safe.ret _) (fun hashes => ?_) _ _ _
      exact handovers_moved (by decide) rfl
    · split
      · exact handovers_moved (by decide) rfl _ _ _
      · exact Safe.ite (handovers_moved (by decide) rfl) (handovers_moved (by decide) rfl) _ _ _
    · rename_i hfailed
      have hcould : Safe handovers Op.run (do
          let _ ← move item [.preparing] .couldNotSubmit
            { stateDetail := some "Could not prepare this application" }
            { kind := .prepare, detail := some attempt.checkpointDetail }
          return) := handovers_moved (by decide) rfl
      split
      · rename_i hretries
        obtain rfl : attempt.id = attemptId := Table.key_of_get? hget
        have hfree := h attempt.id ⟨hattempt, hretries, attempt, hget, hfailed⟩
        refine meets_bind.mpr ((handovers_pipelineResume hfree).mono fun o s₀ resumed t _ => ?_)
        cases resumed with
        | error e => trivial
        | ok accepted =>
          exact Safe.ite ((handovers_move (by decide) rfl).bind fun _ => Safe.ret _) hcould _ _ _
      · exact hcould _ _ _
    · exact handovers_moved (by decide) rfl _ _ _
    · exact lenient_handovers.safe_settleFromAttempt _ _ _ _
    · exact lenient_handovers.safe_settleFromAttempt _ _ _ _
    · exact lenient_handovers.safe_settleFromAttempt _ _ _ _
    · trivial
  · trivial

variable {items : List Item}

lemma handovers_reconcileFrom (h : ∀ item ∈ items.head?, ∀ x, Retryable s item x → x ∉ s.taken) :
    (reconcileFrom auth items).Meets handovers Op.run (fun _ _ _ _ => True) o s₀ s := by
  induction items generalizing o s₀ s with
  | nil => trivial
  | cons item rest ih =>
    rw [reconcileFrom, meets_bind, meets_attempt, inner, meets_call]
    refine (handovers_reconcilePreparing (h item rfl)).mono fun o s₀ r t _ => ?_
    refine ⟨trivial, ⟨trivial, by rintro y ⟨⟩⟩, fun _ t' _ _ _ hreply => ih ?_⟩
    cases rest with
    | nil => simp
    | cons next rest =>
      rintro _ ⟨⟩ x hretry hx
      exact hreply x hx hretry

lemma handovers_reviewsSubmit :
    (reviewsSubmit auth item x).Meets handovers Op.run
      (fun _ _ r t => ∀ result, r = .ok result → lostPage result → x ∉ t.taken) o s₀ s := by
  rw [reviewsSubmit, meets_bind]
  refine meets_ask (fun _ => trivial) trivial ⟨trivial, by rintro y ⟨⟩⟩
    (fun reply s' _ _ _ hreply => ?_) fun _ _ _ _ _ _ _ h => by cases h
  cases reply with
  | settled result =>
    rintro _ ⟨⟩
    exact hreply
  | beforeClick =>
    have hclick : Safe handovers Op.run (beforeClick auth item) := by
      refine (Safe.op fun _ _ => trivial).bind fun _ => Safe.ite (Safe.ret _) ?_
      refine (handovers_move (by decide) rfl).bind fun _ => Safe.ite (Safe.ret _) ?_
      refine Safe.bind ?_ fun _ => (Safe.op fun _ _ => trivial).bind fun _ => Safe.ret _
      unfold recordClick
      split
      · exact Safe.op fun _ _ => trivial
      · exact Safe.ret _
    refine meets_bind.mpr ((hclick _ _ _).mono fun o s₀ answer t _ => ?_)
    cases answer with
    | error e => rintro _ ⟨⟩
    | ok answer =>
      refine meets_ask (fun _ => trivial) trivial ⟨trivial, by rintro y ⟨⟩⟩
        (fun result s' _ _ _ hreply => ?_) fun _ _ _ _ _ _ _ h => by cases h
      rintro _ ⟨⟩
      exact hreply

lemma handovers_settleSubmit {result : SubmitResult} (h : lostPage result → x ∉ s.taken) :
    (settleSubmit auth item x result).Meets handovers Op.run (fun _ _ _ _ => True) o s₀ s := by
  have hclose : Safe handovers Op.run (do
      let _ ← (ask (.send auth.id) (.close x)).attempt
      return) := (handovers_ask rfl).attempt.bind fun _ => Safe.ret _
  refine meets_op_bind rfl (fun _ => trivial) fun _ => ?_
  split
  · refine meets_getAttempt_bind (fun _ => trivial) (fun current _ => ?_) fun _ => trivial
    refine meets_ite.mpr ⟨fun _ => ?_, fun hok => ?_⟩
    · refine Safe.bind ((Safe.op fun _ _ => trivial).bind fun _ => Safe.ret _) (fun _ => ?_) _ _ _
      exact (handovers_move (by decide) rfl).bind fun _ => hclose
    · split
      · exact handovers_moved (by decide) rfl _ _ _
      · trivial
      · trivial
      · rename_i hreason
        refine meets_op_bind rfl (fun _ => ⟨by decide, by simp⟩) fun _ => ?_
        exact handovers_pipelineRequeue (h (by simp [lostPage, hok, hreason]))
      · exact handovers_moved (by decide) rfl _ _ _
      · exact ((handovers_move (by decide) rfl).bind fun _ => hclose) _ _ _
      · exact handovers_moved (by decide) rfl _ _ _
      · exact handovers_moved (by decide) rfl _ _ _
      · exact handovers_moved (by decide) rfl _ _ _
  · trivial

/-- A move away from `ready` that succeeds finds the attempt of the item free. -/
lemma not_taken_of_moved (hI : HandoverInv s) (h : Attached s item.id x)
    (hmoved : (s.db.transitionBlindApplyItem item.id [.ready] target patch event s.clock).2.isSome) :
    x ∉ s.taken := by
  obtain ⟨current, hget, hmem, -, -, -⟩ := move_isSome hmoved
  obtain ⟨r, hr, hx⟩ := h
  obtain rfl : r = current := Option.some.inj (hr.symm.trans hget)
  refine hI.not_taken (Table.mem_of_get? hget) hx ?_
  rw [List.mem_singleton.mp hmem]
  decide

lemma handovers_submitItem (h : ∀ x, item.attemptId = some x → Attached s item.id x) :
    (submitItem auth item).Meets handovers Op.run (fun _ _ _ _ => True) o s₀ s := by
  unfold submitItem
  split
  · rename_i attemptId hattempt
    refine meets_op_bind rfl (fun _ => trivial) fun _ => meets_ite.mpr ⟨fun _ => trivial, fun _ => ?_⟩
    refine meets_getAttempt_bind (fun _ => trivial) (fun attempt hget => ?_) fun _ => trivial
    obtain rfl : attempt.id = attemptId := Table.key_of_get? hget
    refine meets_ite.mpr ⟨fun _ => trivial, fun _ => ?_⟩
    refine meets_op_bind rfl (fun _ => trivial) fun _ => meets_ite.mpr ⟨fun _ => ?_, fun _ => ?_⟩
    · refine meets_op_bind rfl (fun _ => ⟨by decide, by simp⟩) fun hallow => ?_
      refine meets_ite.mpr ⟨fun hmoved => meets_bind.mpr ?_, fun _ => trivial⟩
      have hfree : attempt.id ∉ s.taken := not_taken_of_moved hallow.2 (h _ hattempt) hmoved
      refine Meets.mono (handovers_pipelineRequeue hfree) fun o s₀ r t _ => ?_
      cases r <;> trivial
    · refine meets_bind.mpr (meets_tooSoon trivial (fun _ => trivial) fun soon => ?_)
      refine meets_ite.mpr ⟨fun _ => trivial, fun _ => ?_⟩
      refine meets_op_bind rfl (fun _ => trivial) fun _ => ?_
      rw [meets_bind, meets_attempt]
      refine handovers_reviewsSubmit.mono fun o s₀ r t hlost => ?_
      cases r with
      | error e => exact Safe.op (fun _ _ => trivial) _ _ _
      | ok result =>
        refine meets_op_bind rfl (fun _ => trivial) fun _ => ?_
        exact handovers_settleSubmit (hlost result rfl)
  · trivial

lemma handovers_submitFrom (h : ∀ item ∈ items, ∀ x, item.attemptId = some x → Attached s item.id x) :
    (submitFrom auth items).Meets handovers Op.run (fun _ _ _ _ => True) o s₀ s := by
  induction items generalizing o s₀ s with
  | nil => trivial
  | cons item rest ih =>
    refine meets_op_bind rfl (fun _ => trivial) fun _ => meets_ite.mpr ⟨fun _ => trivial, fun _ => ?_⟩
    rw [meets_bind, meets_attempt, inner, meets_call]
    refine (handovers_rely (handovers_submitItem (h item List.mem_cons_self))).mono ?_
    intro o s₀ r t ht
    refine ⟨trivial, ⟨trivial, by rintro y ⟨⟩⟩, fun _ t' hrely _ _ _ => ih fun item' hitem' x hx => ?_⟩
    exact hrely.attached _ _ (ht.2.attached _ _ (h item' (List.mem_cons_of_mem _ hitem') x hx))

lemma attached_of_list {authorizationId : Option ℕ}
    (hitem : item ∈ s.db.listBlindApplyItems authorizationId states) (hx : item.attemptId = some x) :
    Attached s item.id x:=
  ⟨item, Table.get?_key (Store.mem_listBlindApplyItems.mp hitem).1, hx⟩

lemma handovers_tick (host : Host) : Safe handovers Op.run (tick host) := by
  refine lenient_handovers.safe_tick (fun _ => handovers_ask rfl)
    (fun auth current => handovers_inner (handovers_selectCandidates _ _ _)) fun auth paused o s₀ s => ?_
  refine meets_op_bind rfl (fun _ => trivial) fun hallow => meets_bind.mpr ?_
  refine (handovers_reconcileFrom ?_).mono fun o s₀ r t _ => ?_
  · intro item hitem x hretry
    obtain ⟨hrow, -, hst⟩ := Store.mem_listBlindApplyItems.mp (List.mem_of_head? hitem)
    refine hallow.2.not_taken hrow hretry.1 ?_
    rw [List.mem_singleton.mp (hst _ rfl)]
    decide
  · cases r with
    | error e => trivial
    | ok _ =>
      refine (Safe.ite (Safe.ret _) ?_) _ _ _
      refine (Safe.op fun _ _ => trivial).bind fun items => ?_
      refine (lenient_handovers.safe_startFrom items fun item => ?_).bind fun _ => ?_
      · exact handovers_inner (handovers_startItem _ _)
      intro o s₀ s
      refine meets_op_bind rfl (fun _ => trivial) fun _ => handovers_submitFrom ?_
      exact fun item hitem x hx => attached_of_list (List.mem_reverse.mp hitem) hx

/-! ## The other calls -/

lemma handovers_fieldMapper (attemptId : ℕ) (map : (String → Option (ℕ × String)) → Mapping) :
    Safe handovers Op.run (blindApplyFieldMapper attemptId map) := by
  intro o s₀ s
  refine meets_op_bind rfl (fun _ => trivial) fun _ => ?_
  split
  · rename_i item hitem
    refine meets_ite.mpr ⟨fun _ => trivial, fun _ => ?_⟩
    refine meets_op_bind rfl (fun _ => trivial) fun _ => meets_ite.mpr ⟨fun _ => trivial, fun _ => ?_⟩
    refine meets_op_bind rfl (fun _ => trivial) fun _ => ?_
    dsimp only
    split
    · refine meets_op_bind rfl (fun _ => ⟨by decide, ?_⟩) fun _ => trivial
      rintro y ⟨⟩
      refine ⟨attemptId, rfl, Or.inl ⟨item, Table.get?_key (List.mem_of_find?_eq_some hitem), ?_⟩⟩
      simpa using List.find?_some hitem
    · refine (Safe.ite ?_ ?_) _ _ _
      · exact (handovers_move (by decide) rfl).bind fun _ => Safe.ret _
      · refine Safe.bind (Safe.forEach fun use _ => ?_) fun _ => ?_
        · split
          · exact Safe.op fun _ _ => trivial
          · exact Safe.ret _
        · exact (Safe.op fun _ _ => trivial).bind fun _ => Safe.ret _
  · trivial

lemma handovers_answer (host : Host) (input : AnswerInput) :
    Safe handovers Op.run (answer host input) := by
  intro o s₀ s
  refine meets_op_bind rfl (fun _ => trivial) fun hallow => ?_
  split
  · rename_i item hitem
    split
    · rename_i attemptId hattempt
      refine meets_ite.mpr ⟨fun _ => trivial, fun hst => ?_⟩
      refine meets_op_bind rfl (fun _ => trivial) fun _ => meets_ite.mpr ⟨fun _ => trivial, fun _ => ?_⟩
      split
      · trivial
      · have hfree : attemptId ∉ s.taken := by
          refine hallow.2.not_taken (Table.mem_of_get? hitem) hattempt ?_
          rw [not_not.mp hst]
          decide
        rw [meets_bind]
        refine meets_forEach (J := fun _ _ _ t => t.taken = s.taken) ?_ ?_ rfl
        · intro given rest o s₀ t ht
          exact meets_op.mpr fun _ => ⟨trivial, ht⟩
        · intro o s₀ t ht
          refine meets_bind.mpr ((handovers_pipelineResume (ht ▸ hfree)).mono ?_)
          intro o s₀ r t _
          cases r with
          | error e => trivial
          | ok accepted =>
            refine Safe.ite (Safe.ret _) ?_ _ _ _
            exact (handovers_move (by decide) rfl).bind fun _ => Safe.ret _
    · trivial
  · trivial

lemma handovers_recoverOnStartup : Safe handovers Op.run recoverOnStartup := by
  refine lenient_handovers.safe_recoverOnStartup fun active => ?_
  intro o s₀ s
  refine meets_op_bind rfl (fun _ => trivial) fun _ => ?_
  refine meets_forEach (J := fun items _ _ t => ∀ item ∈ items, ∀ x,
    item.attemptId = some x → Attached t item.id x) ?_ (fun _ _ _ _ => trivial) ?_
  · intro item rest o s₀ t h
    have hnext : ∀ {u : State}, HandoverRely t u → ∀ item ∈ rest, ∀ x,
        item.attemptId = some x → Attached u item.id x := fun hrely item hitem x hx =>
      hrely.attached _ _ (h item (List.mem_cons_of_mem _ hitem) x hx)
    refine (handovers_rely (Q := fun _ _ _ _ => True) ?_).mono fun o s₀ r u hu => ?_
    · split
      · rename_i attemptId hattempt
        refine meets_op_bind rfl (fun _ => trivial) fun _ =>
          meets_ite.mpr ⟨fun _ => ?_, fun _ => trivial⟩
        refine meets_op_bind rfl (fun _ => ⟨by decide, by simp⟩) fun hallow => ?_
        refine meets_ite.mpr ⟨fun hmoved => ?_, fun _ => trivial⟩
        have hfree : attemptId ∉ t.taken :=
          not_taken_of_moved hallow.2 (h item List.mem_cons_self _ hattempt) hmoved
        exact handovers_pipelineRequeue hfree
      · trivial
    · cases r with
      | ok _ => exact hnext hu.2
      | error e => trivial
  · exact fun item hitem x hx => attached_of_list hitem hx

/-! ## Stop -/

lemma handover_stopItems (hI : HandoverInv s)
    (h : ∀ item ∈ items, ∀ x, item.attemptId = some x → Attached s item.id x)
    (hQ : ∀ moved t, HandoverInv t → HandoverRely s t → t.taken = s.taken →
      Store.Keeps s.db t.db → (∀ item ∈ moved, item ∈ items ∧
        ∀ x, item.attemptId = some x → StoppedWith t x) → Q o s₀ (.ok moved) t) :
    (stopItems reason items).Meets handoverContract Op.run Q o s₀ s := by
  induction items generalizing s Q with
  | nil => exact hQ [] s hI (.refl s) rfl .refl (by simp)
  | cons item rest ih =>
    refine meets_op_bind rfl (fun _ => ⟨by decide, by simp⟩) fun _ => meets_bind.mpr ?_
    obtain ⟨hI', hrely'⟩ := handover_of_op (a := .move item.id [item.state] .stopped
      { stateDetail := some "Stopped by you" } { kind := .stop, detail := some reason }) hI
      ⟨by decide, by simp⟩
    refine ih hI' (fun item' hitem' x hx => ?_) fun moved t hIt hrely htaken hkeeps hmoved => ?_
    · exact hrely'.attached _ _ (h item' (List.mem_cons_of_mem _ hitem') x hx)
    refine hQ _ t hIt (hrely'.trans hrely) htaken (.trans (.transition _ _ _ _ _ _) hkeeps) ?_
    intro item' hitem'
    split at hitem'
    · rename_i hdone
      rcases List.mem_cons.mp hitem' with rfl | hitem'
      · refine ⟨List.mem_cons_self, fun x hx => ?_⟩
        -- the row it was moved to stays as it is
        obtain ⟨current, -, -, -, -, hget⟩ := move_isSome hdone
        obtain ⟨r, hr, hrx⟩ := hrely'.attached _ _ (h item' List.mem_cons_self x hx)
        obtain rfl : r = _ := Option.some.inj (hr.symm.trans hget)
        obtain ⟨r', hr', -, -, -, hsame⟩ := hkeeps _ _ hget
        obtain rfl := hsame (by simp [Store.moveItem, terminalStates])
        exact ⟨_, Table.mem_of_get? hr', hrx, rfl⟩
      · exact ⟨List.mem_cons_of_mem _ (hmoved item' hitem').1, (hmoved item' hitem').2⟩
    · exact ⟨List.mem_cons_of_mem _ (hmoved item' hitem').1, (hmoved item' hitem').2⟩

lemma mem_takenAttempts : x ∈ takenAttempts items ↔
      ∃ item ∈ items, cancelsPreparation item ∧ item.attemptId = some x := by
  simp [takenAttempts, and_assoc]

lemma handovers_cancelItems (h : ∀ x ∈ takenAttempts items, x ∈ s.taken) :
    (cancelItems items).Meets handovers Op.run (fun _ _ _ _ => True) o s₀ s := by
  refine meets_forEach (J := fun items _ _ t => ∀ x ∈ takenAttempts items, x ∈ t.taken) ?_
    (fun _ _ _ _ => trivial) h
  intro item rest o s₀ t h
  have hnext : ∀ {u : State}, HandoverRely t u → ∀ x ∈ takenAttempts rest, x ∈ u.taken := by
    intro u hrely x hx
    obtain ⟨item', hitem', hcancels, hattempt⟩ := mem_takenAttempts.mp hx
    exact hrely.taken (h x (mem_takenAttempts.mpr
      ⟨item', List.mem_cons_of_mem _ hitem', hcancels, hattempt⟩))
  refine (handovers_rely (Q := fun _ _ _ _ => True) ?_).mono fun o s₀ r u hu => ?_
  · split
    · rename_i attemptId hattempt
      refine meets_ite.mpr ⟨fun hcancels => ?_, fun _ => trivial⟩
      refine meets_op_bind rfl (fun _ => ?_) fun _ => ?_
      · exact h _ (mem_takenAttempts.mpr ⟨item, List.mem_cons_self, hcancels, hattempt⟩)
      · refine ((handovers_ask rfl).attempt.bind fun _ => ?_) _ _ _
        exact (handovers_ask rfl).attempt.bind fun _ => Safe.ret _
    · trivial
  · cases r with
    | ok _ => exact hnext hu.2
    | error e => trivial

lemma takeable_of_list (hauth : s.db.getActiveBlindApplyAuthorization = some auth)
    (hitem : item ∈ s.db.listBlindApplyItems (some auth.id) (some stoppableStates))
    (hcancels : cancelsPreparation item) (hx : item.attemptId = some x) : Takeable s x:= by
  obtain ⟨hrow, hid, hst⟩ := Store.mem_listBlindApplyItems.mp hitem
  refine ⟨auth, hauth, item, hrow, hid _ rfl, hx, ?_⟩
  have hstate := hst _ rfl
  revert hstate hcancels
  unfold cancelsPreparation
  cases item.state <;> decide

lemma handover_stop {Q : Post sig State Call (Bool × ℕ)} (hI : HandoverInv s)
    (hQ : ∀ o s₀ r t, handoverContract.guar o s₀ none t → Q o s₀ r t) :
    (stop reason).Meets handoverContract Op.run Q (.inl (.stop reason)) s s := by
  refine meets_op_bind rfl (fun _ => trivial) fun _ => ?_
  split
  · rename_i auth hauth
    refine meets_op_bind rfl (fun _ => trivial) fun _ => ?_
    refine meets_op_bind rfl (fun _ => trivial) fun _ => ?_
    refine meets_op_bind rfl (fun _ => trivial) fun _ => meets_bind.mpr ?_
    obtain ⟨hI₁, hrely₁⟩ := handover_of_op (a := .stopAuthorization auth.id reason) hI trivial
    obtain ⟨hI₂, hrely₂⟩ := handover_of_op (a := .requestStop auth.id) hI₁ trivial
    refine handover_stopItems hI₂ (fun item hitem x hx => attached_of_list hitem hx) ?_
    intro moved t hIt hrely htaken _ hmoved
    have hstopped : HandoverPre (.recordStop auth.id (takenAttempts moved)) t := by
      intro x hx
      obtain ⟨item, hitem, -, hattempt⟩ := mem_takenAttempts.mp hx
      exact (hmoved item hitem).2 x hattempt
    obtain ⟨hI₃, hrely₃⟩ := handover_of_op hIt hstopped
    refine meets_op_bind rfl (fun _ => hstopped) fun _ => meets_bind.mpr ?_
    refine (meets_of_handovers (handovers_cancelItems ?_) hI₃ ?_).mono ?_
    · exact fun x hx => List.mem_append_left _ hx
    · intro d u hu _
      obtain ⟨hIu, hrelyu, htakenu⟩ := hu hI₃
      refine ⟨hIu, (hrely₁.trans hrely₂).trans ((hrely.trans hrely₃).trans hrelyu), fun x hx => ?_⟩
      rw [htakenu] at hx
      rcases List.mem_append.mp hx with hx | hx
      · obtain ⟨item, hitem, hcancels, hattempt⟩ := mem_takenAttempts.mp hx
        refine Or.inr ⟨⟨reason, rfl⟩, takeable_of_list hauth ?_ hcancels hattempt⟩
        exact (hmoved item hitem).1
      · exact Or.inl (htaken ▸ hx)
    · intro o s₀ r u hu
      cases r with
      | ok _ => exact hQ _ _ _ _ hu.2
      | error e => exact hQ _ _ _ _ hu.2
  · exact hQ _ _ _ _ fun _ => ⟨hI, .refl s, fun _ hx => Or.inl hx⟩

end Meets

end Programs

/-! ## Whole runs -/

lemma handovers_body (host : Host) {c : Call} (hc : ∀ reason, c ≠ .stop reason) :
    Safe handovers Op.run (c.body host) := by
  cases c with
  | stop reason => exact absurd rfl (hc reason)
  | tick =>
    refine (Safe.op fun _ _ => trivial).bind fun _ => (handovers_tick host).attempt.bind fun _ => ?_
    exact (Safe.op fun _ _ => trivial).bind fun _ => Safe.ofExcept _
  | answer input => exact (handovers_answer host input).bind fun _ => Safe.ret _
  | recoverOnStartup => exact handovers_recoverOnStartup
  | createAuthorization input => exact (Safe.op fun _ _ => trivial).bind fun _ => Safe.ret _
  | fieldMapper attemptId map =>
    exact (handovers_fieldMapper attemptId map).bind fun _ => Safe.ret _
  | attempt id checkpoint detail => exact Safe.op fun _ _ => trivial
  | artifact a => exact Safe.op fun _ _ => trivial
  | receipt r => exact Safe.op fun _ _ => trivial
  | world w => exact Safe.op fun _ _ => trivial
  | clock t => exact Safe.op fun _ _ => trivial

lemma handoverContract_sound (host : Host) :
    handoverContract.Sound (runner host) fun _ _ => True where
  rely_refl s := .refl s
  rely_trans h₁ h₂ := h₁.trans h₂
  rely_of_guar hI hguar := (hguar hI).2.1
  inv_of_guar hI hguar := (hguar hI).1
  point_of_guar := by
    intro o s d t p hI hpoint hbeside hguar x hx htaken
    rcases (hguar hI).2.2 x htaken with hold | ⟨⟨reason, rfl⟩, htakeable⟩
    · exact hpoint x hx hold
    · exact hbeside.1 x hx htakeable
  compat_symm _ := trivial
  compat_of_guar _ _ _ _ := trivial
  body := by
    intro c s hI _
    by_cases hc : ∀ reason, c ≠ .stop reason
    · refine (meets_of_handovers (handovers_body host hc _ _ _) hI ?_).mono ?_
      · intro d t ht _
        obtain ⟨hIt, hrely, htaken⟩ := ht hI
        exact ⟨hIt, hrely, fun x hx => Or.inl (htaken ▸ hx)⟩
      · exact fun o s₀ r t h => h.2
    · obtain ⟨reason, rfl⟩ : ∃ reason, c = .stop reason := by
        simpa using hc
      refine meets_bind.mpr (handover_stop hI fun o s₀ r t h => ?_)
      cases r with
      | ok _ => exact h
      | error e => exact h
  restart s hI := ⟨hI.nothingLeft, hI.cancelled, hI.queued, hI.startedFor, hI.taken⟩

lemma handover_allowed {host : Host} {c : Coop.Cfg sig State} {e : Coop.Event sig Call}
    (h : TimelyStop c e) : handoverContract.Allowed (runner host) c e := by
  refine ⟨fun _ _ => trivial, ?_⟩
  cases e with
  | call x =>
    refine ⟨trivial, fun j p k hj => ?_⟩
    cases x with
    | stop reason => exact fun x hx => h _ (List.mem_of_getElem? hj) p rfl x hx
    | _ => trivial
  | reply i p r => exact ⟨h, fun _ _ _ _ _ => trivial⟩
  | crash => trivial

/-- **Stop leaves nothing running, if it comes in time.**  In every run in which Stop is not called
while a resume or a requeue of an attempt that it takes is pending, nothing that Stop took is
retried or finds its page closed by Stop, or is handed to the preparation queue after its
cancellation. -/
theorem stop_leaves_nothing_running {host : Host} {world : World} {c : Coop.Cfg sig State}
    (h : (runner host).Reach TimelyStop (Cfg.init world) c) : NothingLeft c.shared.notes := by
  have hinit : HandoverInv (Cfg.init world).shared :=
    ⟨List.Pairwise.nil, by simp [Cfg.init, State.init], by simp [Cfg.init, State.init, Store.empty],
      by simp [Cfg.init, State.init, Store.empty], by simp [Cfg.init, State.init]⟩
  have hgood := Contract.good_of_reach (handoverContract_sound host) (Contract.Good.start hinit)
    (h.mono fun _ _ => handover_allowed)
  exact hgood.inv.nothingLeft

/-- A run in which Stop comes in time: it takes an attempt that is ready to be sent. -/
theorem stop_leaves_nothing_running_sampleStop :
    ∃ c, (runner sampleHost).runWhere TimelyStop (Cfg.init sampleWorld) sampleStop = some c ∧
      c.shared.notes = [.handed 0, .tickCompleted, .stopCancels 0] ∧
      NothingLeft c.shared.notes := by
  have hrun : ((runner sampleHost).runWhere TimelyStop (Cfg.init sampleWorld) sampleStop).map
      (fun c => c.shared.notes) = some [.handed 0, .tickCompleted, .stopCancels 0] := by
    decide
  obtain ⟨c, hc, hnotes⟩ := Option.map_eq_some_iff.mp hrun
  exact ⟨c, hc, hnotes, stop_leaves_nothing_running (System.Reach.of_runWhere hc)⟩

def sampleLateStop : List (Coop.Event sig Call) :=
  sampleStart ++
    [.call (.attempt 0 .failed "the posting could not be read"),
      .call .tick,
      .reply 3 ⟨.facts 0, .loadCurrentFacts⟩ (.ok ⟨some "cv1", "p1"⟩),
      .reply 3 ⟨.select 0, .turn⟩ (.ok ()),
      .call (.stop "stopped by you"),
      .reply 4 ⟨.stop, .cancelQueue 0⟩ (.ok ()),
      .reply 4 ⟨.stop, .close 0⟩ (.ok ()),
      .reply 3 ⟨.reconcile 0 [], .resume 0⟩ (.ok .handed),
      .reply 3 ⟨.reconcile 0 [], .resumed 0⟩ (.ok ()),
      .reply 3 ⟨.reconcile 0 [], .turn⟩ (.ok ())]

/-- The retry hands the attempt over after Stop has cancelled it, and all calls are finished. -/
theorem not_nothingLeft_sampleLateStop :
    ∃ c, Reachable sampleHost sampleWorld c ∧ (∀ y ∈ c.procs, y.port? = none) ∧
      c.shared.db.items.rows.map (fun r => (r.attemptId, r.state)) = [(some 0, .stopped)] ∧
      ¬ NothingLeft c.shared.notes := by
  have hrun : ((runner sampleHost).run (Cfg.init sampleWorld) sampleLateStop).map
      (fun c => (c.procs.map (fun y => y.port?),
        c.shared.db.items.rows.map (fun r => (r.attemptId, r.state)), c.shared.notes)) =
      some ([none, none, none, none, none], [(some 0, .stopped)],
        [.handed 0, .tickCompleted, .stopCancels 0, .handed 0, .tickCompleted]) := by
    decide
  obtain ⟨c, hc, heq⟩ := Option.map_eq_some_iff.mp hrun
  simp only [Prod.mk.injEq] at heq
  obtain ⟨hprocs, hitems, hnotes⟩ := heq
  refine ⟨c, System.Reach.of_run hc, fun y hy => ?_, hitems, ?_⟩
  · have := List.mem_map_of_mem (f := fun y : Run Unit => y.port?) hy
    rw [hprocs] at this
    simpa using this
  · rw [hnotes, NothingLeft]
    simp

end VacancyRadar.BlindApply
