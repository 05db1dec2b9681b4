import VacancyRadar.BlindApply.Handover

/-!
# Items and their attempts

An item is behind its attempt when the attempt says that the application was sent, or may have
been, and the item is still live under an active authorization.  `tick` looks at the attempts of
the items at `submitting` when it begins, and at those of the items at `preparing` in its loop; an
item that waits for the person or is ready to be sent stays behind, and so does an item whose
attempt is completed after `tick` has looked at it.
-/

namespace VacancyRadar.BlindApply

open Coop Data Prog

variable {u : State} {input : ItemInput} {i : ℕ} {a : Op}

/-! ## The property and the condition -/

/-- The attempt says that the application was sent, or may have been. -/
def Completed (s : State) (x : ℕ) : Prop :=
  ∃ a ∈ s.attempts.get? x, a.checkpoint ∈ Checkpoint.completed

instance : DecidableRel Completed := fun _ _ => inferInstanceAs (Decidable (∃ _ ∈ _, _))

structure Behind (s : State) (r : Item) : Prop where
  row : r ∈ s.db.items.rows
  live : r.state ∈ liveStates
  active : s.db.isBlindApplyAuthorizationActive r.authorizationId = true
  completed : ∃ x, r.attemptId = some x ∧ Completed s x

/-- A turn of `tick` that waits at the port will still look at the item. -/
def StillComes : Port → Item → Prop
  | ⟨.facts _, _⟩, r => r.state = .preparing
  | ⟨.select _, _⟩, r => r.state = .preparing
  | ⟨.reconcile _ rest, _⟩, r => r.state = .preparing ∧
      ∃ item ∈ rest, item.id = r.id ∧ item.attemptId = r.attemptId
  | ⟨.send _, .submitAnswered i x _⟩, r =>
      r.state = .submitting ∧ r.id = i ∧ r.attemptId = some x
  | ⟨.start _, _⟩, _ => False
  | ⟨.send _, _⟩, _ => False
  | _, _ => True

instance : DecidableRel StillComes := fun p r => by
  unfold StillComes
  split <;> infer_instance

/-- The answer of a submission after which `submitItem` settles an item at `submitting`. -/
def closes (result : SubmitResult) : Bool :=
  result.ok || result.reason == some .submissionUnknown ||
    result.reason == some .submissionRejected || result.reason == some .submitRefused

/-- The condition under which items follow their attempts.  Turns of `tick` do not overlap.  An
attempt is completed only while its live item is at `preparing` or `submitting` and the turn under
way still comes to it, the mapper leaves completed attempts alone, and a submission of one does not
answer that nothing was sent. -/
def FollowsInTime (c : Coop.Cfg sig State) : Coop.Event sig Call → Prop
  | .call .tick => c.shared.ticking = false
  | .call (.attempt x checkpoint _) => checkpoint ∈ Checkpoint.completed →
      (∀ y ∈ c.procs, ∀ p ∈ y.port?, p.wait ≠ .started x) ∧
      ∀ r ∈ c.shared.db.items.rows, r.attemptId = some x → r.state ∈ liveStates →
        c.shared.db.isBlindApplyAuthorizationActive r.authorizationId = true →
          r.state ∈ [ItemState.preparing, .submitting] ∧
            ∀ y ∈ c.procs, ∀ p ∈ y.port?, StillComes p r
  | .call (.fieldMapper x _) => ¬ Completed c.shared x
  | .reply _ ⟨_, .submitAnswered _ x _⟩ (.ok result) => Completed c.shared x → closes result
  | _ => True

instance (c : Coop.Cfg sig State) (e : Coop.Event sig Call) : Decidable (FollowsInTime c e) := by
  unfold FollowsInTime
  split
  · infer_instance
  · exact instDecidableForall
  · infer_instance
  · exact instDecidableForall
  · infer_instance

/-! ## The invariant -/

/-- No port of the turn of `tick` that is under way has failed. -/
def Clean (s : State) : Prop := s.failures = s.tickStart

def Mine (a : ℕ) (s : State) : Prop :=
  ∀ r ∈ s.db.items.rows, r.attemptId ≠ none →
    s.db.isBlindApplyAuthorizationActive r.authorizationId = true → r.authorizationId = a

structure FollowInv (s : State) : Prop where
  behind : ∀ r, Behind s r → r.state ∈ [ItemState.preparing, .submitting]
  queued : ∀ r ∈ s.db.items.rows, r.state = .queued → r.attemptId = none
  known : ∀ r ∈ s.db.items.rows, r.authorizationId < s.db.authorizations.next
  single : ∀ i j, s.db.isBlindApplyAuthorizationActive i = true →
    s.db.isBlindApplyAuthorizationActive j = true → i = j
  stopRequested : ∀ id ∈ s.stopRequested, Stopped s.db id
  idle : s.ticking = false → s.submitsInFlight = []
  failures : s.tickStart ≤ s.failures

structure FollowRely (s t : State) : Prop where
  attached : ∀ i x, Attached s i x → Attached t i x
  tickStart : s.tickStart ≤ t.tickStart

lemma FollowRely.refl (s : State) : FollowRely s s := ⟨fun _ _ h => h, le_rfl⟩

variable {s t : State}

lemma FollowRely.trans (h₁ : FollowRely s t) (h₂ : FollowRely t u) : FollowRely s u :=
  ⟨fun i x h => h₂.attached i x (h₁.attached i x h), h₁.tickStart.trans h₂.tickStart⟩

/-- Two rows that a turn of `tick` cannot tell apart. -/
structure SameTo (r r' : Item) : Prop where
  id : r.id = r'.id
  attemptId : r.attemptId = r'.attemptId
  state : r.state = r'.state

lemma StillComes.of_same {p : Port} {r r' : Item} (h : StillComes p r) (hs : SameTo r r') :
    StillComes p r' := by
  unfold StillComes at h ⊢
  split at h <;> simp_all only [← hs.id, ← hs.attemptId, ← hs.state, and_self]

/-- How many turns of `tick` have ended without a failed port. -/
def State.ended (s : State) : ℕ := s.notes.count .tickCompleted

/-- What the operations of every program do, those apart that begin and end a turn of `tick` and
the change of an attempt. -/
structure FollowStep (s t : State) : Prop where
  inv : FollowInv t
  rely : FollowRely s t
  /-- No further item falls behind. -/
  behind : ∀ r', Behind t r' → ∃ r, Behind s r ∧ SameTo r r'
  clean : Clean t → Clean s
  ended : t.ended = s.ended

lemma FollowStep.refl (h : FollowInv s) : FollowStep s s :=
  ⟨h, .refl s, fun r hr => ⟨r, hr, rfl, rfl, rfl⟩, fun h => h, rfl⟩

lemma FollowStep.trans (h₁ : FollowStep s t) (h₂ : FollowStep t u) : FollowStep s u := by
  refine ⟨h₂.inv, h₁.rely.trans h₂.rely, fun r'' h => ?_, fun h => h₁.clean (h₂.clean h),
    h₂.ended.trans h₁.ended⟩
  obtain ⟨r', hr', hs'⟩ := h₂.behind r'' h
  obtain ⟨r, hr, hs⟩ := h₁.behind r' hr'
  exact ⟨r, hr, hs.id.trans hs'.id, hs.attemptId.trans hs'.attemptId, hs.state.trans hs'.state⟩

structure MovePre (i : ℕ) (expected : List ItemState) (target : ItemState) (patch : ItemPatch)
    (s : State) : Prop where
  unqueued : target ≠ .queued
  attempt : ∀ y ∈ patch.attemptId, ∃ x, y = some x ∧
    (Attached s i x ∨ expected = [.queued] ∧ ¬ Completed s x)
  behind : ∀ r, s.db.items.get? i = some r → r.state ∈ expected → Behind s r →
    target ∈ terminalStates ∨ target = r.state

def FollowPre : Op → State → Prop
  | .move i expected target patch _, s => MovePre i expected target patch s
  | .requestStop id, s => Stopped s.db id
  | .beginSubmit _, s => s.ticking = true
  | .note .tickCompleted, _ => False
  | .setAttempt _ _ _, _ => False
  | .beginTick, _ => False
  | .endTick _ _, _ => False
  | _, _ => True

/-! ## What single operations do -/

section Ops

variable {s t : State}

lemma followStep_of_unchanged (h : FollowInv s) (hitems : t.db.items = s.db.items)
    (hauths : t.db.authorizations = s.db.authorizations) (hattempts : t.attempts = s.attempts)
    (hstop : ∀ id ∈ t.stopRequested, Stopped s.db id)
    (hidle : t.ticking = false → t.submitsInFlight = []) (htick : t.tickStart = s.tickStart)
    (hfailures : s.failures ≤ t.failures) (hended : t.ended = s.ended) : FollowStep s t := by
  have hactive : ∀ id, t.db.isBlindApplyAuthorizationActive id =
      s.db.isBlindApplyAuthorizationActive id := by
    simp only [Store.isBlindApplyAuthorizationActive, hauths, implies_true]
  have hbehind : ∀ r, Behind t r → Behind s r := by
    rintro r ⟨hrow, hlive, hact, x, hx, hcompleted⟩
    refine ⟨hitems ▸ hrow, hlive, hactive _ ▸ hact, x, hx, ?_⟩
    simpa only [Completed, hattempts] using hcompleted
  refine ⟨⟨fun r hr => h.behind r (hbehind r hr), ?_, ?_, ?_, fun id hid => ?_, hidle, ?_⟩,
    ⟨?_, htick.ge⟩, fun r hr => ⟨r, hbehind r hr, rfl, rfl, rfl⟩, fun hclean => ?_, hended⟩
  · simpa only [hitems] using h.queued
  · simpa only [hitems, hauths] using h.known
  · simpa only [hactive] using h.single
  · simpa only [Stopped, hauths] using hstop id hid
  · rw [htick]
    exact h.failures.trans hfailures
  · simp only [Attached, hitems, imp_self, implies_true]
  · have := h.failures
    unfold Clean at hclean ⊢
    omega

lemma followStep_insertItem (h : FollowInv s) : FollowStep s (Op.run (.insertItem input) s).1:= by
  obtain heq | ⟨-, -, hauth, heq⟩ := s.db.insert_cases input s.clock
  · exact followStep_of_unchanged h (by simp only [Op.run, heq]) (by simp only [Op.run, heq]) rfl
      h.stopRequested h.idle rfl le_rfl rfl
  have hrows : ∀ r, r ∈ (Op.run (.insertItem input) s).1.db.items.rows ↔
      r ∈ s.db.items.rows ∨ r = Store.newItem input s.clock s.db.items.next := by
    intro r
    simp only [Op.run, heq, Table.mem_insert]
  have hauths : (Op.run (.insertItem input) s).1.db.authorizations = s.db.authorizations := by
    simp only [Op.run, heq]
  have hactive : ∀ id, (Op.run (.insertItem input) s).1.db.isBlindApplyAuthorizationActive id =
      s.db.isBlindApplyAuthorizationActive id := by
    simp only [Store.isBlindApplyAuthorizationActive, hauths, implies_true]
  have hbehind : ∀ r, Behind (Op.run (.insertItem input) s).1 r → Behind s r := by
    rintro r ⟨hrow, hlive, hact, x, hx, hcompleted⟩
    rcases (hrows r).mp hrow with hrow | rfl
    · exact ⟨hrow, hlive, hactive _ ▸ hact, x, hx, hcompleted⟩
    · cases hx
  refine ⟨⟨fun r hr => h.behind r (hbehind r hr), fun r hr hst => ?_, fun r hr => ?_, ?_,
    fun id hid => ?_, h.idle, h.failures⟩, ⟨?_, le_rfl⟩,
    fun r hr => ⟨r, hbehind r hr, rfl, rfl, rfl⟩, fun h => h, rfl⟩
  · rcases (hrows r).mp hr with hr | rfl
    · exact h.queued r hr hst
    · rfl
  · rw [hauths]
    rcases (hrows r).mp hr with hr | rfl
    · exact h.known r hr
    · obtain ⟨a, ha⟩ := Option.isSome_iff_exists.mp hauth
      exact Table.lt_next_of_get? ha
  · simpa only [hactive] using h.single
  · simpa only [Stopped, hauths] using h.stopRequested id hid
  · rintro i x ⟨r, hr, hx⟩
    refine ⟨r, ?_, hx⟩
    simp only [Op.run, heq]
    exact Table.get?_insert_of_some hr

variable {event : EventInput} {expected : List ItemState} {patch : ItemPatch} {target : ItemState}
  {id : ℕ}

lemma behind_of_move (hpre : FollowPre (.move i expected target patch event) s) {r' : Item}
    (h : Behind (Op.run (.move i expected target patch event) s).1 r') :
    ∃ r, Behind s r ∧ SameTo r r' ∧ (r.id = i → r.state ∈ expected → target = r.state) := by
  obtain ⟨hrow, hlive, hact, x, hx, hcompleted⟩ := h
  obtain heq | ⟨current, detail, hget, hmem, hterm, heq⟩ :=
    s.db.transition_cases i expected target patch event s.clock
  · simp only [Op.run, heq] at hrow hact hcompleted
    have hb : Behind s r' := ⟨hrow, hlive, hact, x, hx, hcompleted⟩
    refine ⟨r', hb, ⟨rfl, rfl, rfl⟩, fun hid hst => ?_⟩
    -- the move would have succeeded
    have hget : s.db.items.get? i = some r' := hid ▸ Table.get?_key hrow
    have hnot := mem_liveStates_iff.mp hlive
    simp [Store.transitionBlindApplyItem, hget, hst, hnot] at heq
  · simp only [Op.run, heq] at hrow
    have hact' : s.db.isBlindApplyAuthorizationActive r'.authorizationId = true := by
      simpa only [Op.run, heq, Store.isBlindApplyAuthorizationActive] using hact
    rcases Table.of_mem_update hget hrow with rfl | ⟨hrow, hkey⟩
    · have hr := Table.mem_of_get? hget
      -- the attempt is the one the item had before
      have hattempt : current.attemptId = some x := by
        cases hpatch : patch.attemptId with
        | none => simpa only [Store.moveItem, hpatch, Option.getD_none] using hx
        | some y =>
          simp only [Store.moveItem, hpatch, Option.getD_some] at hx
          obtain ⟨x', rfl, ⟨r₁, hr₁, hrx⟩ | ⟨-, hnot⟩⟩ := MovePre.attempt hpre y hpatch
          · obtain rfl : r₁ = current := Option.some.inj (hr₁.symm.trans hget)
            exact hrx.trans hx
          · cases hx
            exact absurd hcompleted hnot
      have hb : Behind s current := ⟨hr, mem_liveStates_iff.mpr hterm, hact', x, hattempt, hcompleted⟩
      rcases MovePre.behind hpre current hget hmem hb with hdone | hsame
      · exact absurd hdone (mem_liveStates_iff.mp hlive)
      · exact ⟨current, hb, ⟨rfl, hattempt.trans hx.symm, hsame.symm⟩, fun _ _ => hsame⟩
    · exact ⟨r', ⟨hrow, hlive, hact', x, hx, hcompleted⟩, ⟨rfl, rfl, rfl⟩,
        fun hid => absurd hid hkey⟩

lemma followStep_move (h : FollowInv s) (hpre : FollowPre (.move i expected target patch event) s) :
    FollowStep s (Op.run (.move i expected target patch event) s).1 := by
  have hbehind : ∀ r', Behind (Op.run (.move i expected target patch event) s).1 r' →
      ∃ r, Behind s r ∧ SameTo r r' := fun r' hr' => by
    obtain ⟨r, hr, hsame, -⟩ := behind_of_move hpre hr'
    exact ⟨r, hr, hsame⟩
  obtain heq | ⟨current, detail, hget, hmem, hterm, heq⟩ :=
    s.db.transition_cases i expected target patch event s.clock
  · exact followStep_of_unchanged h (by simp only [Op.run, heq]) (by simp only [Op.run, heq]) rfl
      h.stopRequested h.idle rfl le_rfl rfl
  have hauths : (Op.run (.move i expected target patch event) s).1.db.authorizations =
      s.db.authorizations := by
    simp only [Op.run, heq]
  have hrows : ∀ r ∈ (Op.run (.move i expected target patch event) s).1.db.items.rows,
      r = Store.moveItem target patch s.clock current ∨ (r ∈ s.db.items.rows ∧ r.id ≠ i) := by
    intro r hr
    simp only [Op.run, heq] at hr
    exact Table.of_mem_update hget hr
  refine ⟨⟨fun r' hr' => ?_, fun r hr hst => ?_, fun r hr => ?_, ?_, fun id hid => ?_, h.idle,
    h.failures⟩, ⟨fun j x hx => attached_of_move h.queued ?_ hx, le_rfl⟩, hbehind, fun h => h, rfl⟩
  · obtain ⟨r, hr, hsame⟩ := hbehind r' hr'
    exact hsame.state ▸ h.behind r hr
  · rcases hrows r hr with rfl | ⟨hr, -⟩
    · exact absurd hst (MovePre.unqueued hpre)
    · exact h.queued r hr hst
  · rw [hauths]
    rcases hrows r hr with rfl | ⟨hr, -⟩
    · exact h.known current (Table.mem_of_get? hget)
    · exact h.known r hr
  · simpa only [Store.isBlindApplyAuthorizationActive, hauths] using h.single
  · simpa only [Stopped, hauths] using h.stopRequested id hid
  · intro y hy
    obtain ⟨x, rfl, hx | ⟨hexp, -⟩⟩ := MovePre.attempt hpre y hy
    · exact ⟨x, rfl, Or.inl hx⟩
    · exact ⟨x, rfl, Or.inr hexp⟩

lemma completed_of_createAttempt {itemId x : ℕ}
    (h : Completed (Op.run (.createAttempt itemId) s).1 x) : Completed s x ∧ x ≠ s.attempts.next := by
  obtain ⟨a, ha, hcompleted⟩ := h
  simp only [Op.run, Option.mem_def, Table.get?_insert] at ha
  split at ha
  · cases ha
    simp [Checkpoint.completed] at hcompleted
  · rename_i hx
    exact ⟨⟨a, ha, hcompleted⟩, hx⟩

lemma followStep_of_authorizations {authorizations : Table Authorization} (h : FollowInv s)
    (ht : t = { s with db := { s.db with authorizations } })
    (hnext : s.db.authorizations.next ≤ authorizations.next)
    (hactive : ∀ id, id < s.db.authorizations.next →
      t.db.isBlindApplyAuthorizationActive id = true →
        s.db.isBlindApplyAuthorizationActive id = true)
    (hsingle : ∀ i j, t.db.isBlindApplyAuthorizationActive i = true →
      t.db.isBlindApplyAuthorizationActive j = true → i = j)
    (hstopped : ∀ id, Stopped s.db id → Stopped t.db id) : FollowStep s t := by
  have hbehind : ∀ r, Behind t r → Behind s r := by
    rintro r ⟨hrow, hlive, hact, hcompleted⟩
    subst ht
    exact ⟨hrow, hlive, hactive _ (h.known r hrow) hact, hcompleted⟩
  refine ⟨⟨fun r hr => h.behind r (hbehind r hr), ?_, fun r hr => ?_, hsingle,
    fun id hid => hstopped id (h.stopRequested id ?_), ?_, ?_⟩, ⟨?_, ?_⟩,
    fun r hr => ⟨r, hbehind r hr, rfl, rfl, rfl⟩, ?_, ?_⟩
  all_goals subst ht
  · exact h.queued
  · exact (h.known r hr).trans_le hnext
  · exact hid
  · exact h.idle
  · exact h.failures
  · exact fun _ _ h => h
  · exact le_rfl
  · exact fun h => h
  · rfl

lemma active_createAuthorization {input : AuthorizationInput}
    (h : (Op.run (.createAuthorization input) s).1.db.isBlindApplyAuthorizationActive id = true) :
    id = s.db.authorizations.next := by
  by_contra hne
  simp only [Op.run, Store.createBlindApplyAuthorization, Store.isBlindApplyAuthorizationActive,
    Table.get?_insert, Table.next_updateWhere, if_neg hne, Table.get?_updateWhere] at h
  cases hget : s.db.authorizations.get? id with
  | none => simp [hget] at h
  | some a => cases hstop : a.stoppedAt <;> simp [hget, hstop] at h

lemma active_stopAuthorization {id' : ℕ} {reason : String}
    (h : (Op.run (.stopAuthorization id' reason) s).1.db.isBlindApplyAuthorizationActive id = true) :
    s.db.isBlindApplyAuthorizationActive id = true := by
  simp only [Op.run, Store.stopBlindApplyAuthorization, Store.isBlindApplyAuthorizationActive,
    Table.get?_updateWhere] at h ⊢
  cases hget : s.db.authorizations.get? id with
  | none => simp [hget] at h
  | some a =>
    cases hstop : a.stoppedAt with
    | none => simp [hstop]
    | some t => simp [hget, hstop] at h

lemma followStep_of_op (h : FollowInv s) (hpre : FollowPre a s) : FollowStep s (Op.run a s).1:= by
  cases a with
  | move i expected target patch event => exact followStep_move h hpre
  | insertItem input => exact followStep_insertItem h
  | createAuthorization input =>
    refine followStep_of_authorizations h rfl (Nat.le_succ _) (fun id hid hact => ?_)
      (fun i j hi hj => ?_) fun id hid => Stopped.createAuthorization hid
    · exact absurd (active_createAuthorization hact) (Nat.ne_of_lt hid)
    · rw [active_createAuthorization hi, active_createAuthorization hj]
  | stopAuthorization id reason =>
    refine followStep_of_authorizations h rfl le_rfl (fun _ _ => active_stopAuthorization)
      (fun i j hi hj => ?_) fun id hid => Stopped.stopAuthorization hid
    exact h.single i j (active_stopAuthorization hi) (active_stopAuthorization hj)
  | requestStop id =>
    refine followStep_of_unchanged h rfl rfl rfl (fun id' hid' => ?_) h.idle rfl le_rfl rfl
    rcases List.mem_cons.mp hid' with rfl | hid'
    · exact hpre
    · exact h.stopRequested id' hid'
  | createAttempt itemId =>
    have hbehind : ∀ r, Behind (Op.run (.createAttempt itemId) s).1 r → Behind s r :=
      fun r ⟨hrow, hlive, hact, x, hx, hc⟩ =>
        ⟨hrow, hlive, hact, x, hx, (completed_of_createAttempt hc).1⟩
    exact ⟨⟨fun r hr => h.behind r (hbehind r hr), h.queued, h.known, h.single, h.stopRequested,
      h.idle, h.failures⟩, ⟨fun _ _ h => h, le_rfl⟩, fun r hr => ⟨r, hbehind r hr, rfl, rfl, rfl⟩,
      fun h => h, rfl⟩
  | setAttempt id checkpoint detail => exact hpre.elim
  | beginTick => exact hpre.elim
  | endTick returned before => exact hpre.elim
  | beginSubmit id =>
    refine followStep_of_unchanged h rfl rfl rfl h.stopRequested (fun htick => ?_) rfl le_rfl rfl
    exact absurd htick (by rw [show (Op.run (.beginSubmit id) s).1.ticking = true from hpre]; simp)
  | endSubmit id =>
    refine followStep_of_unchanged h rfl rfl rfl h.stopRequested (fun htick => ?_) rfl le_rfl rfl
    simp [Op.run, h.idle htick]
  | failed p =>
    exact followStep_of_unchanged h rfl rfl rfl h.stopRequested h.idle rfl (Nat.le_add_right _ _) rfl
  | note entry =>
    refine followStep_of_unchanged h rfl rfl rfl h.stopRequested h.idle rfl le_rfl ?_
    cases entry with
    | tickCompleted => exact hpre.elim
    | _ => simp [Op.run, State.ended]
  | appendEvent itemId state event =>
    obtain heq | ⟨r, -, heq⟩ := s.db.append_cases itemId state event s.clock
    · exact followStep_of_unchanged h (by simp only [Op.run, heq]) (by simp only [Op.run, heq]) rfl
        h.stopRequested h.idle rfl le_rfl rfl
    · exact followStep_of_unchanged h (by simp only [Op.run, heq]) (by simp only [Op.run, heq]) rfl
        h.stopRequested h.idle rfl le_rfl rfl
  | saveAnswer matchKey label controlType answer optionSetHash =>
    exact followStep_of_unchanged h (by simp [Op.run]) (by simp [Op.run]) rfl h.stopRequested h.idle
      rfl le_rfl rfl
  | _ => exact followStep_of_unchanged h rfl rfl rfl h.stopRequested h.idle rfl le_rfl rfl

end Ops

/-! ## Programs beside `tick` -/

/-- What a program apart from `tick` leaves alone. -/
structure Aside (s t : State) : Prop where
  ticking : t.ticking = s.ticking
  submitsInFlight : t.submitsInFlight = s.submitsInFlight
  completed : ∀ x, Completed t x → Completed s x
  mine : ∀ a, Mine a s → Mine a t

def AsidePre : Op → State → Prop
  | .move i expected target patch event, s =>
      FollowPre (.move i expected target patch event) s ∧
        ∀ y ∈ patch.attemptId, ∃ x, y = some x ∧ Attached s i x
  | .beginSubmit _, _ => False
  | .endSubmit _, _ => False
  | .createAttempt _, _ => False
  | a, s => FollowPre a s

section Aside

variable {s t : State}

lemma AsidePre.follow (h : AsidePre a s) : FollowPre a s:= by
  cases a with
  | move i expected target patch event => exact h.1
  | beginSubmit id => exact h.elim
  | createAttempt itemId => exact h.elim
  | _ => first | exact h | trivial

lemma Aside.refl (s : State) : Aside s s := ⟨rfl, rfl, fun _ h => h, fun _ h => h⟩

lemma Aside.trans (h₁ : Aside s t) (h₂ : Aside t u) : Aside s u:=
  ⟨h₂.ticking.trans h₁.ticking, h₂.submitsInFlight.trans h₁.submitsInFlight,
    fun x h => h₁.completed x (h₂.completed x h), fun a h => h₂.mine a (h₁.mine a h)⟩

lemma Mine.of_rows {a : ℕ} (h : Mine a s)
    (hrows : ∀ r' ∈ t.db.items.rows, r'.attemptId ≠ none →
      t.db.isBlindApplyAuthorizationActive r'.authorizationId = true →
      s.db.isBlindApplyAuthorizationActive r'.authorizationId = true ∧
        ∃ r ∈ s.db.items.rows, r.attemptId ≠ none ∧ r.authorizationId = r'.authorizationId) :
    Mine a t := by
  intro r' hr' hx hact
  obtain ⟨hact, r, hr, hrx, hauth⟩ := hrows r' hr' hx hact
  exact hauth ▸ h r hr hrx (hauth ▸ hact)

lemma mine_insertItem {a : ℕ} (h : Mine a s) : Mine a (Op.run (.insertItem input) s).1:= by
  refine h.of_rows fun r hr hx hact => ?_
  obtain heq | ⟨-, -, -, heq⟩ := s.db.insert_cases input s.clock
  · simp only [Op.run, heq] at hr hact
    exact ⟨hact, r, hr, hx, rfl⟩
  · simp only [Op.run, heq, Table.mem_insert] at hr hact
    rcases hr with hr | rfl
    · exact ⟨hact, r, hr, hx, rfl⟩
    · exact absurd rfl hx

lemma aside_move {expected : List ItemState} {target : ItemState} {patch : ItemPatch} {event : EventInput}
    (h : AsidePre (.move i expected target patch event) s) :
    Aside s (Op.run (.move i expected target patch event) s).1 := by
  refine ⟨rfl, rfl, fun _ h => h, fun a hmine => hmine.of_rows fun r hr hx hact => ?_⟩
  obtain heq | ⟨current, detail, hget, -, -, heq⟩ :=
    s.db.transition_cases i expected target patch event s.clock
  · simp only [Op.run, heq] at hr hact
    exact ⟨hact, r, hr, hx, rfl⟩
  · simp only [Op.run, heq] at hr hact
    rcases Table.of_mem_update hget hr with rfl | ⟨hr, -⟩
    · refine ⟨hact, current, Table.mem_of_get? hget, fun hnone => ?_, rfl⟩
      cases hy : patch.attemptId with
      | none => exact hx (by simp [Store.moveItem, hy, hnone])
      | some y =>
        obtain ⟨x, -, r, hr, hrx⟩ := h.2 y hy
        obtain rfl : r = current := Option.some.inj (hr.symm.trans hget)
        rw [hnone] at hrx
        cases hrx
    · exact ⟨hact, r, hr, hx, rfl⟩

lemma aside_of_op (hinv : FollowInv s) (h : AsidePre a s) : Aside s (Op.run a s).1:= by
  cases a with
  | move i expected target patch event => exact aside_move h
  | insertItem input => exact ⟨rfl, rfl, fun _ h => h, fun _ => mine_insertItem⟩
  | createAuthorization input =>
    refine ⟨rfl, rfl, fun _ h => h, fun a hmine => hmine.of_rows fun r hr hx hact => ?_⟩
    exact absurd (active_createAuthorization hact) (Nat.ne_of_lt (hinv.known r hr))
  | stopAuthorization id reason =>
    refine ⟨rfl, rfl, fun _ h => h, fun a hmine => hmine.of_rows fun r hr hx hact => ?_⟩
    exact ⟨active_stopAuthorization hact, r, hr, hx, rfl⟩
  | setAttempt id checkpoint detail => exact h.elim
  | beginTick => exact h.elim
  | endTick returned before => exact h.elim
  | beginSubmit id => exact h.elim
  | endSubmit id => exact h.elim
  | createAttempt itemId => exact h.elim
  | appendEvent itemId state event =>
    obtain heq | ⟨r, -, heq⟩ := s.db.append_cases itemId state event s.clock
    · exact ⟨rfl, rfl, fun _ h => h, fun _ h => h.of_rows (by
        simp only [Op.run, heq]
        exact fun r hr hx hact => ⟨hact, r, hr, hx, rfl⟩)⟩
    · exact ⟨rfl, rfl, fun _ h => h, fun _ h => h.of_rows (by
        simp only [Op.run, heq]
        exact fun r hr hx hact => ⟨hact, r, hr, hx, rfl⟩)⟩
  | saveAnswer matchKey label controlType answer optionSetHash =>
    refine ⟨rfl, rfl, fun _ h => h, fun _ h => h.of_rows ?_⟩
    simp only [Op.run, Store.saveBlindApplyAnswer_items, Store.isBlindApplyAuthorizationActive,
      Store.saveBlindApplyAnswer_authorizations]
    exact fun r hr hx hact => ⟨hact, r, hr, hx, rfl⟩
  | _ => exact ⟨rfl, rfl, fun _ h => h, fun _ h => h⟩

end Aside

/-! ## The contract -/

structure UnderWay (B : Item → Prop) (flight : List ℕ) (s : State) : Prop where
  ticking : s.ticking = true
  submitsInFlight : s.submitsInFlight = flight
  behind : Clean s → ∀ r, Behind s r → B r

def Wait.inFlight : Wait → List ℕ
  | submit i _ | submitAnswered i _ _ => [i]
  | _ => []

/-- What holds while a turn of `tick` waits at the port. -/
structure FollowPoint (p : Port) (s : State) : Prop where
  underWay : UnderWay (StillComes p) p.wait.inFlight s
  mine : ∀ a, p.site = .facts a ∨ p.site = .select a → Mine a s
  started : ∀ x, p.wait = .started x → ¬ Completed s x

/-- The turn is part of a turn of `tick`. -/
def ofTick : Call ⊕ sig.Port → Bool
  | .inl .tick => true
  | .inl _ => false
  | .inr p => p.site.ofTick

def Completes : Call ⊕ sig.Port → ℕ → Prop
  | .inl (.attempt y checkpoint _), x => checkpoint ∈ Checkpoint.completed ∧ y = x
  | _, _ => False

structure FollowGuar (o : Call ⊕ sig.Port) (s : State) (d : Option sig.Port) (t : State) :
    Prop where
  inv : FollowInv t
  rely : FollowRely s t
  /-- A turn of `tick` that ends without a failed port leaves nothing behind. -/
  ended : s.ended < t.ended → ∀ r, ¬ Behind t r
  behind : ∀ r', Behind t r' → (∃ r, Behind s r ∧ SameTo r r') ∨ r' ∈ s.db.items.rows ∧
    r'.state ∈ liveStates ∧ s.db.isBlindApplyAuthorizationActive r'.authorizationId = true ∧
      ∃ x, r'.attemptId = some x ∧ Completes o x
  aside : ofTick o = false → t.ticking = s.ticking ∧ t.submitsInFlight = s.submitsInFlight ∧
    (Clean t → Clean s) ∧ (∀ a, Mine a s → Mine a t) ∧
      ∀ x, Completed t x → Completed s x ∨ Completes o x
  waits : ∀ q ∈ d, q.site.ofTick = true → ofTick o = true

def followContract : Contract sig State Call where
  inv := FollowInv
  rely := FollowRely
  point p s := p.site.ofTick = true → FollowPoint p s
  guar o s d t := FollowInv s → FollowGuar o s d t
  reply
    | ⟨_, .submitAnswered _ x _⟩, .ok result, s => Completed s x → closes result
    | _, _, _ => True
  enter x s := match x with
    | .tick => s.ticking = false
    | .fieldMapper x _ => ¬ Completed s x
    | .attempt x checkpoint _ => checkpoint ∈ Checkpoint.completed →
        ∀ r ∈ s.db.items.rows, r.attemptId = some x → r.state ∈ liveStates →
          s.db.isBlindApplyAuthorizationActive r.authorizationId = true →
            r.state ∈ [ItemState.preparing, .submitting]
    | _ => True
  meet o p s := match o with
    | .inl (.attempt x checkpoint _) => checkpoint ∈ Checkpoint.completed → p.wait ≠ .started x ∧
        ∀ r ∈ s.db.items.rows, r.attemptId = some x → r.state ∈ liveStates →
          s.db.isBlindApplyAuthorizationActive r.authorizationId = true → StillComes p r
    | _ => True

/-- The contract for the programs apart from `tick`. -/
def asideContract : Contract sig State Call := { followContract with pre := AsidePre }

/-- The contract under which the programs apart from `tick` are looked at. -/
abbrev asides : Contract sig State Call :=
  (asideContract.assuming FollowInv).along fun p => p.site.ofTick = false

/-- A program apart from `tick` keeps the contract. -/
lemma meets_of_asides {α : Type} {x : Run α} {Q : Post sig State Call α} {o : Call ⊕ sig.Port}
    (h : x.Meets asides Op.run Q o s s) (hI : FollowInv s) (ho : ofTick o = false) :
    x.Meets followContract Op.run (fun o s₀ r t => Q o s₀ r t ∧
      followContract.guar o s₀ none t) o s s := by
  have hop : ∀ a s, AsidePre a s → FollowInv s →
      FollowStep s (Op.run a s).1 ∧ Aside s (Op.run a s).1 := fun a s hpre hI =>
    ⟨followStep_of_op hI hpre.follow, aside_of_op hI hpre⟩
  have hguar : ∀ {o s d t}, ofTick o = false → (∀ q ∈ d, q.site.ofTick = false) →
      (FollowInv s → FollowStep s t ∧ Aside s t) → followContract.guar o s d t := by
    intro o s d t ho hd hT hI
    obtain ⟨hstep, haside⟩ := hT hI
    refine ⟨hstep.inv, hstep.rely, fun hlt => ?_, fun r' hr' => Or.inl (hstep.behind r' hr'),
      fun _ => ⟨haside.ticking, haside.submitsInFlight, hstep.clean, haside.mine, ?_⟩, ?_⟩
    · rw [hstep.ended] at hlt
      exact absurd hlt (Nat.lt_irrefl _)
    · exact fun x hx => Or.inl (haside.completed x hx)
    · intro q hq hq'
      rw [hd q hq] at hq'
      cases hq'
  have halong := h.of_along (K := asideContract.assuming FollowInv)
    (T := fun s t => FollowInv s → FollowStep s t ∧ Aside s t) ?_ ?_ ?_ ?_ ?_
  · have haside := halong.of_assuming (K := asideContract) (fun hI => hI)
      (fun a s _ hpre hI => (hop a s hpre hI).1.inv) hI
    have hmeets := haside.mono_pre (K := asideContract) fun _ _ _ => trivial
    exact hmeets.mono fun o s₀ r t h => ⟨h.1.1, h.1.2 none (by simp)⟩
  · exact fun {p s d t} hp hd hT => hguar hp hd hT
  · exact fun s hI => ⟨.refl hI, .refl s⟩
  · intro s t u h₁ h₂ hI
    obtain ⟨hstep₁, haside₁⟩ := h₁ hI
    obtain ⟨hstep₂, haside₂⟩ := h₂ hstep₁.inv
    exact ⟨hstep₁.trans hstep₂, haside₁.trans haside₂⟩
  · exact fun a s hallow hpre _ => hop a s hpre hallow.2
  · exact fun d t hd hT => hguar ho hd hT

/-! ## The calls apart from `tick` -/

section Asides

variable {item : Item} {expected : List ItemState} {target : ItemState} {patch : ItemPatch}
  {event : EventInput} {site : Site} {wait : Wait} {o : Call ⊕ sig.Port} {s₀ s : State}

lemma MovePre.settle {i : ℕ} (ht : target ∈ terminalStates) (hp : patch.attemptId = none) :
    MovePre i expected target patch s := by
  refine ⟨?_, by simp [hp], fun _ _ _ _ => Or.inl ht⟩
  rintro rfl
  exact absurd ht (by decide)

lemma MovePre.calm (hinv : FollowInv s) (ht : target ≠ .queued) (hp : patch.attemptId = none)
    (he : ∀ st ∈ expected, st ∉ [ItemState.preparing, .submitting]) :
    MovePre i expected target patch s :=
  ⟨ht, by simp [hp], fun r _ hst hb => absurd (hinv.behind r hb) (he _ hst)⟩

lemma lenient_asides : Lenient asides where
  read a s h := by cases a <;> trivial
  settle _ _ _ _ _ _ ht hp := ⟨MovePre.settle ht hp, by simp [hp]⟩

lemma asides_ask (h : site.ofTick = false) : Safe asides Op.run (ask site wait) :=
  Safe.ask (fun _ => trivial) h fun _ htick => absurd htick (by simp [h])

lemma asides_pipelineResume (h : site.ofTick = false) (x : ℕ) :
    Safe asides Op.run (pipelineResume site x) := by
  refine (asides_ask h).bind fun reply => ?_
  cases reply with
  | handed =>
    refine (Safe.op fun _ _ => trivial).bind fun _ => ?_
    exact (asides_ask h).bind fun _ => Safe.ret _
  | refused detail => exact Safe.ret _

lemma asides_pipelineRequeue (h : site.ofTick = false) (x : ℕ) :
    Safe asides Op.run (pipelineRequeue site x) := by
  refine (asides_ask h).bind fun _ => ?_
  exact (Safe.op fun _ _ => trivial).bind fun _ => asides_ask h

lemma asides_fieldMapper {attemptId : ℕ} {map : (String → Option (ℕ × String)) → Mapping}
    (h : ¬ Completed s attemptId) :
    (blindApplyFieldMapper attemptId map).Meets asides Op.run (fun _ _ _ _ => True) o s₀ s := by
  refine meets_op_bind rfl (fun _ => trivial) fun _ => ?_
  split
  · rename_i item hitem
    have hrow := Table.get?_key (List.mem_of_find?_eq_some hitem)
    have hattempt : item.attemptId = some attemptId := by simpa using List.find?_some hitem
    -- the item is not behind
    have hcalm : ∀ target, ∀ r, s.db.items.get? item.id = some r →
        r.state ∈ [ItemState.preparing, .needsAnswer] → Behind s r →
          target ∈ terminalStates ∨ target = r.state := by
      intro target r hr _ hb
      obtain rfl : r = item := Option.some.inj (hr.symm.trans hrow)
      obtain ⟨x, hx, hcompleted⟩ := hb.completed
      rw [hattempt] at hx
      cases hx
      exact absurd hcompleted h
    refine meets_ite.mpr ⟨fun _ => trivial, fun _ => ?_⟩
    refine meets_op_bind rfl (fun _ => trivial) fun _ => meets_ite.mpr ⟨fun _ => trivial, fun _ => ?_⟩
    refine meets_op_bind rfl (fun _ => trivial) fun _ => ?_
    dsimp only
    split
    · refine meets_op_bind rfl (fun _ => ⟨⟨by decide, ?_, hcalm _⟩, ?_⟩) fun _ => trivial
      · rintro y ⟨⟩
        exact ⟨attemptId, rfl, Or.inl ⟨item, hrow, hattempt⟩⟩
      · rintro y ⟨⟩
        exact ⟨attemptId, rfl, item, hrow, hattempt⟩
    · refine meets_ite.mpr ⟨fun _ => ?_, fun _ => ?_⟩
      · exact meets_op_bind rfl (fun _ => ⟨⟨by decide, by simp, hcalm _⟩, by simp⟩) fun _ => trivial
      · refine (Safe.bind (Safe.forEach fun use _ => ?_) fun _ => ?_) _ _ _
        · split
          · exact Safe.op fun _ _ => trivial
          · exact Safe.ret _
        · exact (Safe.op fun _ _ => trivial).bind fun _ => Safe.ret _
  · trivial

lemma asides_answer (host : Host) (input : AnswerInput) : Safe asides Op.run (answer host input) := by
  refine (Safe.op fun _ _ => trivial).bind fun item => ?_
  split
  · split
    · refine Safe.ite (Safe.ret _) ?_
      refine (Safe.op fun _ _ => trivial).bind fun active => Safe.ite (Safe.ret _) ?_
      split
      · exact Safe.ret _
      · refine (Safe.forEach fun given _ => Safe.op fun _ _ => trivial).bind fun _ => ?_
        refine (asides_pipelineResume rfl _).bind fun resumed => Safe.ite (Safe.ret _) ?_
        refine Safe.bind (Safe.op fun s hallow => ⟨?_, by simp⟩) fun _ => Safe.ret _
        exact MovePre.calm hallow.2 (by decide) rfl (by decide)
    · exact Safe.ret _
  · exact Safe.ret _

lemma asides_recoverOnStartup : Safe asides Op.run recoverOnStartup := by
  refine lenient_asides.safe_recoverOnStartup fun active => ?_
  refine (Safe.op fun _ _ => trivial).bind fun items => Safe.forEach fun item _ => ?_
  split
  · refine (Safe.op fun _ _ => trivial).bind fun world => Safe.ite ?_ (Safe.ret _)
    refine Safe.bind (Safe.op fun s hallow => ⟨?_, by simp⟩) fun moved => ?_
    · exact MovePre.calm hallow.2 (by decide) rfl (by decide)
    · exact Safe.ite (asides_pipelineRequeue rfl _) (Safe.ret _)
  · exact Safe.ret _

lemma asides_stop (reason : String) : Safe asides Op.run (stop reason) := by
  have hitems : ∀ items, Safe asides Op.run (stopItems reason items) := by
    intro items
    induction items with
    | nil => exact Safe.ret _
    | cons item rest ih =>
      refine Safe.bind (Safe.op fun s _ => ⟨MovePre.settle (by decide) rfl, by simp⟩) fun _ => ?_
      exact ih.bind fun _ => Safe.ret _
  intro o s₀ s
  refine meets_op_bind rfl (fun _ => trivial) fun _ => ?_
  split
  · rename_i auth hauth
    refine meets_op_bind rfl (fun _ => trivial) fun _ => ?_
    refine meets_op_bind rfl (fun _ => stopped_of_stopAuthorization hauth) fun _ => ?_
    refine meets_op_bind rfl (fun _ => trivial) fun _ => ?_
    refine ((hitems _).bind fun moved => (Safe.op fun _ _ => trivial).bind fun _ => ?_) _ _ _
    refine Safe.bind (Safe.forEach fun item _ => ?_) fun _ => Safe.ret _
    split
    · refine Safe.ite ((Safe.op fun _ _ => trivial).bind fun _ => ?_) (Safe.ret _)
      exact (asides_ask rfl).attempt.bind fun _ => (asides_ask rfl).attempt.bind fun _ => Safe.ret _
    · exact Safe.ret _
  · trivial

end Asides

end VacancyRadar.BlindApply
