import VacancyRadar.BlindApply.Runner
import VacancyRadar.BlindApply.Trail

/-!
# What the runner does to the record

Every operation that any interleaving of the runner executes has one of a few shapes: a move away
from `submitting` goes to a terminal state, a live item is inserted only under an authorization that
is active at that moment, an event without a move names the state its item is in, and when Stop is
done none of the authorization's items can be clicked any more.
-/

namespace VacancyRadar.BlindApply

open Coop Data Prog

/-! ## Shapes -/

def Under (s : State) (itemId authorizationId : ℕ) : Prop :=
  ∃ r, s.db.items.get? itemId = some r ∧ r.authorizationId = authorizationId

def Stopped (db : Store) (authorizationId : ℕ) : Prop :=
  ∃ a, db.authorizations.get? authorizationId = some a ∧ a.stoppedAt.isSome

def Shape : Op → State → Prop
  | .move _ expected target _ _, _ => .submitting ∈ expected → target ∈ terminalStates
  | .insertItem input, s => input.state ∈ Store.insertedStates ∧
      (input.state ∈ liveStates → s.db.isBlindApplyAuthorizationActive input.authorizationId)
  | .appendEvent itemId state _, s =>
      ∀ r, s.db.items.get? itemId = some r → r.state = state
  | .recordStop id _, s => Stopped s.db id ∧
      ∀ r ∈ s.db.items.rows, r.authorizationId = id → r.state ∉ stoppableStates
  | .note (.clickAllowed itemId), s => ∃ r, s.db.items.get? itemId = some r ∧
      s.db.isBlindApplyAuthorizationActive r.authorizationId
  | _, _ => True

def SubmittingKept (s t : State) : Prop :=
  ∀ i r, s.db.items.get? i = some r → r.state = .submitting → t.db.items.get? i = some r

def StopMoves (s t : State) : Prop :=
  ∀ r' ∈ t.db.items.rows, r' ∈ s.db.items.rows ∨ ∃ r ∈ s.db.items.rows, r.attemptId = r'.attemptId ∧
    r.state ∈ liveStates ∧
      ∃ auth ∈ s.db.getActiveBlindApplyAuthorization, r.authorizationId = auth.id

/-- Items keep their place, and a submission is about an item of its authorization.  Stop leaves
items at `submitting` alone, and in its later turns the record. -/
def shapeContract : Contract sig State Call where
  inv _ := True
  rely s t := Store.Keeps s.db t.db
  point p s := match p with
    | ⟨.send a, .submit i _⟩ => Under s i a
    | _ => True
  guar o s _ t := Store.Keeps s.db t.db ∧
    match o with
    | .inl (.stop _) => SubmittingKept s t ∧ StopMoves s t ∧
        ∀ auth, s.db.getActiveBlindApplyAuthorization = some auth → auth.id ∈ t.stops
    | .inr ⟨.stop, _⟩ => t.db = s.db
    | _ => True
  pre := Shape

abbrev shapes : Contract sig State Call := shapeContract.along fun p => p.site ≠ .stop

lemma keeps_of_op (a : Op) (s : State) : Store.Keeps s.db (Op.run a s).1.db := by
  cases a with
  | insertItem input => exact .insert input s.clock
  | move itemId expected target patch event => exact .transition _ _ _ _ _ _
  | appendEvent itemId state event =>
    obtain heq | ⟨r, -, heq⟩ := s.db.append_cases itemId state event s.clock
    · exact .of_items (by simp only [Op.run, heq])
    · exact .of_items (by simp only [Op.run, heq])
  | saveAnswer matchKey label controlType answer optionSetHash =>
    exact .of_items (by simp [Op.run])
  | _ => exact .of_items rfl

/-! ## Programs of every shape -/

variable {target : ItemState} {patch : ItemPatch} {event : EventInput} {α : Type} {s s₀ : State}
  {auth : Authorization} {o : Call ⊕ sig.Port} {Q : Post sig State Call (List Item)} {reason : String}

variable {expected : List ItemState} {item : Item} {site : Site} {x : Run α} {a i : ℕ}

lemma shapes_move (h : .submitting ∈ expected → target ∈ terminalStates) :
    Safe shapes Op.run (move item expected target patch event) :=
  Safe.op fun _ _ => h

lemma shapes_ask {wait : Wait} (hsite : site ≠ .stop) (h : ∀ s, shapeContract.point ⟨site, wait⟩ s) :
    Safe shapes Op.run (ask site wait) :=
  Safe.ask (fun _ => trivial) hsite h

lemma shapes_inner (hsite : site ≠ .stop) (h : Safe shapes Op.run x) :
    Safe shapes Op.run (inner site x):=
  h.call hsite fun _ => by cases site <;> trivial

lemma shapes_pipelineResume (hsite : site ≠ .stop) (attemptId : ℕ) :
    Safe shapes Op.run (pipelineResume site attemptId) := by
  refine (shapes_ask hsite fun _ => by cases site <;> trivial).bind fun reply => ?_
  cases reply with
  | handed =>
    refine (Safe.op fun _ _ => trivial).bind fun _ => ?_
    exact (shapes_ask hsite fun _ => by cases site <;> trivial).bind fun _ => Safe.ret _
  | refused detail => exact Safe.ret _

lemma shapes_pipelineRequeue (hsite : site ≠ .stop) (attemptId : ℕ) :
    Safe shapes Op.run (pipelineRequeue site attemptId) := by
  refine (shapes_ask hsite fun _ => by cases site <;> trivial).bind fun _ => ?_
  refine (Safe.op fun _ _ => trivial).bind fun _ => ?_
  exact shapes_ask hsite fun _ => by cases site <;> trivial

lemma lenient_shapes : Lenient shapes where
  read a s h := by cases a <;> trivial
  settle _ _ _ _ _ _ ht _ := fun _ => ht

lemma shapes_moved {item : Item} {expected : List ItemState} {target : ItemState}
    {patch : ItemPatch} {event : EventInput}
    (h : .submitting ∈ expected → target ∈ terminalStates) :
    Safe shapes Op.run (do
      let _ ← move item expected target patch event
      return) :=
  (shapes_move h).bind fun _ => Safe.ret _

lemma shapes_reconcilePreparing (hsite : site ≠ .stop) (item : Item) :
    Safe shapes Op.run (reconcilePreparing site item) := by
  unfold reconcilePreparing
  split
  · refine (Safe.op fun _ _ => trivial).bind fun attempt => ?_
    split
    · refine Safe.bind ((Safe.op fun _ _ => trivial).bind fun _ => Safe.ret _) fun hashes => ?_
      exact shapes_moved (by decide)
    · split
      · exact shapes_moved (by decide)
      · exact Safe.ite (shapes_moved (by decide)) (shapes_moved (by decide))
    · have hfailed := @shapes_moved item [.preparing] .couldNotSubmit
        { stateDetail := some "Could not prepare this application" }
        { kind := .prepare, detail := some attempt.checkpointDetail } (by decide)
      split
      · refine (shapes_pipelineResume hsite _).bind fun resumed => ?_
        split
        · exact (shapes_move (by decide)).bind fun _ => Safe.ret _
        · exact hfailed
      · exact hfailed
    · exact shapes_moved (by decide)
    · exact lenient_shapes.safe_settleFromAttempt _
    · exact lenient_shapes.safe_settleFromAttempt _
    · exact lenient_shapes.safe_settleFromAttempt _
    · exact Safe.ret _
  · exact Safe.ret _

lemma shapes_settleSubmit (auth : Authorization) (item : Item) (attemptId : ℕ)
    (result : SubmitResult) : Safe shapes Op.run (settleSubmit auth item attemptId result) := by
  refine (Safe.op fun _ _ => trivial).bind fun fresh => ?_
  split
  · refine (Safe.op fun _ _ => trivial).bind fun current => Safe.ite ?_ ?_
    · refine Safe.bind ((Safe.op fun _ _ => trivial).bind fun _ => Safe.ret _) fun _ => ?_
      refine (shapes_move fun _ => by decide).bind fun _ => ?_
      exact (shapes_ask (by simp) fun _ => by trivial).attempt.bind fun _ => Safe.ret _
    · split
      · exact shapes_moved (by decide)
      · exact Safe.ret _
      · exact Safe.ret _
      · exact (shapes_move (by decide)).bind fun _ => shapes_pipelineRequeue (by simp) _
      · exact shapes_moved (by decide)
      · refine (shapes_move fun _ => by decide).bind fun _ => ?_
        exact (shapes_ask (by simp) fun _ => by trivial).attempt.bind fun _ => Safe.ret _
      · exact shapes_moved fun _ => by decide
      · exact shapes_moved fun _ => by decide
      · exact shapes_moved (by decide)
  · exact Safe.ret _

lemma shapes_startItem (auth : Authorization) (item : Item) :
    Safe shapes Op.run (startItem auth item) := by
  refine (Safe.op fun _ _ => trivial).bind fun world => Safe.ite (shapes_moved (by decide)) ?_
  refine (Safe.op fun _ _ => trivial).bind fun active => Safe.ite (Safe.ret _) ?_
  refine Safe.bind (Safe.attempt ?_) fun started => ?_
  · refine (shapes_ask (by simp) fun _ => by trivial).bind fun reply => ?_
    split
    · refine (Safe.op fun _ _ => trivial).bind fun _ => ?_
      refine (Safe.op fun _ _ => trivial).bind fun _ => ?_
      exact (shapes_ask (by simp) fun _ => by trivial).bind fun _ => Safe.ret _
    · exact Safe.ret _
  · split
    · exact shapes_moved (by decide)
    · exact shapes_moved (by decide)
    · exact shapes_moved (by decide)
    · exact shapes_moved (by decide)
    · refine (shapes_move (by decide)).bind fun moved => Safe.ite ?_ (Safe.ret _)
      exact (shapes_ask (by simp) fun _ => by trivial).attempt.bind fun _ => Safe.ret _

/-! ## Programs whose shape depends on the state -/

lemma Under.keeps {t : State} (h : Under s i a) (hk : Store.Keeps s.db t.db) : Under t i a := by
  obtain ⟨r, hr, ha⟩ := h
  obtain ⟨r', hr', ha', -⟩ := hk i r hr
  exact ⟨r', hr', ha'.trans ha⟩

lemma isActive_store {id : ℕ} (h : s.isActive id = true) :
    s.db.isBlindApplyAuthorizationActive id = true := by
  simp only [State.isActive, Bool.and_eq_true] at h
  exact h.2

lemma move_isSome {now : ℤ}
    (h : (s.db.transitionBlindApplyItem i expected target patch event now).2.isSome) :
    ∃ current, s.db.items.get? i = some current ∧ current.state ∈ expected ∧
      current.state ∉ terminalStates ∧
      (s.db.transitionBlindApplyItem i expected target patch event now).1.authorizations
        = s.db.authorizations ∧
      (s.db.transitionBlindApplyItem i expected target patch event now).1.items.get? i
        = some (Store.moveItem target patch now current) := by
  obtain heq | ⟨current, detail, hget, hmem, hterm, heq⟩ :=
    s.db.transition_cases i expected target patch event now
  · rw [heq] at h
    cases h
  · refine ⟨current, hget, hmem, hterm, by rw [heq], ?_⟩
    rw [heq]
    simp [Table.get?_update, hget]

lemma shapes_beforeClick (h : Under s item.id auth.id) :
    (beforeClick auth item).Meets shapes Op.run (fun _ _ _ _ => True) o s₀ s := by
  refine meets_op_bind rfl (fun _ => trivial) fun _ => meets_ite.mpr ⟨fun _ => trivial, ?_⟩
  intro hactive
  refine meets_op_bind rfl (fun _ h => absurd h (by decide)) fun _ => ?_
  refine meets_ite.mpr ⟨fun _ => trivial, fun hmoved => ?_⟩
  -- the item is now at `submitting`, under an authorization that is active
  obtain ⟨current, hget, -, -, hauths, hitem⟩ :=
    move_isSome (s := s) (by simpa [Option.isSome_iff_ne_none] using hmoved)
  obtain ⟨r, hr, hauth⟩ := h
  obtain rfl : r = current := Option.some.inj (hr.symm.trans hget)
  have hclick : ∀ s' : State, s'.db = (s.db.transitionBlindApplyItem item.id [.ready] .submitting
      { stateDetail := some "Sending" }
      { kind := .submitClick, detail := some "about to send" } s.clock).1 →
      Shape (.note (.clickAllowed item.id)) s' := by
    intro s' hs'
    refine ⟨_, by rw [hs']; exact hitem, ?_⟩
    have hr' : (Store.moveItem .submitting { stateDetail := some "Sending" } s.clock r
      ).authorizationId = auth.id := hauth
    rw [hr', Store.isBlindApplyAuthorizationActive, hs', hauths]
    exact isActive_store (by simpa using hactive)
  cases item.policyId with
  | none => exact meets_op_bind rfl (fun _ => hclick _ rfl) fun _ => trivial
  | some policyId =>
    refine meets_op_bind rfl (fun _ => trivial) fun _ => ?_
    exact meets_op_bind rfl (fun _ => hclick _ rfl) fun _ => trivial

lemma shapes_reviewsSubmit {attemptId : ℕ} (h : Under s item.id auth.id) :
    (reviewsSubmit auth item attemptId).Meets shapes Op.run (fun _ _ _ _ => True) o s₀ s := by
  rw [reviewsSubmit, meets_bind]
  refine meets_ask (fun _ => trivial) trivial ⟨by simp, h⟩ (fun reply s' _ _ h' _ => ?_)
    fun _ _ _ _ _ _ => trivial
  cases reply with
  | settled result => trivial
  | beforeClick =>
    refine meets_bind.mpr ((shapes_beforeClick h'.2).mono fun o s₀ r s _ => ?_)
    cases r with
    | ok answer => exact shapes_ask (by simp) (fun _ => by trivial) _ _ _
    | error e => trivial

lemma shapes_submitItem (h : Under s item.id auth.id) :
    (submitItem auth item).Meets shapes Op.run (fun _ _ _ _ => True) o s₀ s := by
  unfold submitItem
  split
  · refine meets_op_bind rfl (fun _ => trivial) fun _ => meets_ite.mpr ⟨fun _ => trivial, fun _ => ?_⟩
    refine meets_getAttempt_bind (fun _ => trivial) (fun attempt _ => ?_) fun _ => trivial
    refine meets_ite.mpr ⟨fun _ => trivial, fun _ => ?_⟩
    refine meets_op_bind rfl (fun _ => trivial) fun _ => meets_ite.mpr ⟨fun _ => ?_, fun _ => ?_⟩
    · refine (shapes_move (by decide)).bind (fun moved => ?_) _ _ _
      exact Safe.ite ((shapes_pipelineRequeue (by simp) _).bind fun _ => Safe.ret _) (Safe.ret _)
    · refine meets_bind.mpr (meets_tooSoon trivial (fun _ => trivial) fun soon => ?_)
      refine meets_ite.mpr ⟨fun _ => trivial, fun _ => ?_⟩
      refine meets_op_bind rfl (fun _ => trivial) fun _ => ?_
      rw [meets_bind, meets_attempt]
      refine Meets.mono (shapes_reviewsSubmit ?_) fun o s₀ r s _ => ?_
      · exact h
      · cases r with
        | error e => exact Safe.op (fun _ _ => trivial) _ _ _
        | ok result =>
          exact ((Safe.op fun _ _ => trivial).bind fun _ => shapes_settleSubmit _ _ _ _) _ _ _
  · trivial

/-! ## The loops of `tick` -/

lemma meets_keeps {Q : Post sig State Call α} (h : x.Meets shapes Op.run Q o s₀ s) :
    x.Meets shapes Op.run (fun o s₀ r t => Q o s₀ r t ∧ Store.Keeps s.db t.db) o s₀ s :=
  h.rel_post (T := fun s t => Store.Keeps s.db t.db) Store.Keeps.trans (fun h => h)
    (fun a s _ _ => keeps_of_op a s) .refl

lemma shapes_submitFrom {items : List Item} (h : ∀ item ∈ items, Under s item.id auth.id) :
    (submitFrom auth items).Meets shapes Op.run (fun _ _ _ _ => True) o s₀ s := by
  induction items generalizing o s₀ s with
  | nil => trivial
  | cons item rest ih =>
    refine meets_op_bind rfl (fun _ => trivial) fun _ => meets_ite.mpr ⟨fun _ => trivial, fun _ => ?_⟩
    rw [meets_bind, meets_attempt, inner, meets_call]
    refine (meets_keeps (shapes_submitItem (h item List.mem_cons_self))).mono ?_
    intro o s₀ r t ht
    refine ⟨trivial, ⟨by simp, trivial⟩, fun _ t' hrely _ _ _ => ih fun item' hitem' => ?_⟩
    exact (h item' (List.mem_cons_of_mem _ hitem')).keeps (ht.2.trans hrely)

lemma shapes_reconcileFrom (auth : Authorization) (items : List Item) :
    Safe shapes Op.run (reconcileFrom auth items) := by
  induction items with
  | nil => exact Safe.ret _
  | cons item rest ih =>
    exact (shapes_inner (by simp) (shapes_reconcilePreparing (by simp) _)).attempt.bind fun _ => ih

lemma shapes_recordDecision {host : Host} {candidate : Candidate} {verdict : Verdict}
    (h : s.isActive auth.id = true) :
    (recordDecision host auth candidate verdict).Meets shapes Op.run (fun _ _ _ _ => True)
      o s₀ s := by
  have hverdict : Shape (.insertItem (verdictInput host auth candidate verdict)) s := by
    refine ⟨by cases verdict <;> simp [verdictInput, Store.insertedStates], fun _ => ?_⟩
    have hauth : (verdictInput host auth candidate verdict).authorizationId = auth.id := by
      cases verdict <;> rfl
    rw [hauth]
    exact isActive_store h
  have hduplicate : ∀ s, Shape (.insertItem (duplicateInput host auth candidate verdict)) s :=
    fun _ => ⟨by simp [duplicateInput, Store.insertedStates],
      fun hlive => absurd hlive (by simp [duplicateInput, liveStates])⟩
  rw [recordDecision, meets_bind, meets_attempt, meets_op]
  refine fun _ => ⟨hverdict, ?_⟩
  rw [andThen_ok]
  split
  · trivial
  · exact ((Safe.op fun s _ => hduplicate s).bind fun _ => Safe.ret _) _ _ _
  · trivial

lemma shapes_selectFrom (host : Host) (auth : Authorization) (current : CurrentFacts)
    (candidates : List Candidate) (seen : List String) :
    Safe shapes Op.run (selectFrom host auth current candidates seen) := by
  induction candidates generalizing seen with
  | nil => exact Safe.ret _
  | cons candidate rest ih =>
    refine Safe.ite (ih seen) ?_
    refine (Safe.op fun _ _ => trivial).bind fun active => Safe.ite (Safe.ret _) ?_
    have hlive : Safe shapes Op.run (ask (.select auth.id) (.checkLiveness candidate.vacancyKey)) :=
      shapes_ask (by simp) fun _ => by trivial
    refine (shapes_inner (by simp) (lenient_shapes.safe_evaluate hlive)).attempt.bind ?_
    intro decision
    split
    · exact ih seen
    · exact Safe.ret _
    · intro o s₀ s
      refine meets_op_bind rfl (fun _ => trivial) fun _ => ?_
      refine meets_ite.mpr ⟨fun _ => trivial, fun hactive => ?_⟩
      refine meets_bind.mpr ((shapes_recordDecision (by simpa using hactive)).mono ?_)
      intro o s₀ r t _
      cases r with
      | ok _ => exact ih _ _ _ _
      | error e => trivial

lemma shapes_tick (host : Host) : Safe shapes Op.run (tick host) := by
  refine lenient_shapes.safe_tick (fun _ => shapes_ask (by simp) fun _ => by trivial)
    (fun auth current => shapes_inner (by simp) ?_) fun auth paused => ?_
  · refine (Safe.op fun _ _ => trivial).bind fun _ => (Safe.op fun _ _ => trivial).bind fun _ => ?_
    exact shapes_selectFrom _ _ _ _ _
  · refine (Safe.op fun _ _ => trivial).bind fun _ => ?_
    refine (shapes_reconcileFrom _ _).bind fun _ => Safe.ite (Safe.ret _) ?_
    refine (Safe.op fun _ _ => trivial).bind fun items => ?_
    refine (lenient_shapes.safe_startFrom items fun item => ?_).bind fun _ => ?_
    · exact shapes_inner (by simp) (shapes_startItem _ _)
    intro o s₀ s
    refine meets_op_bind rfl (fun _ => trivial) fun _ => shapes_submitFrom fun item hitem => ?_
    obtain ⟨hrow, hauth, -⟩ := Store.mem_listBlindApplyItems.mp (List.mem_reverse.mp hitem)
    exact ⟨item, Table.get?_key hrow, hauth _ rfl⟩

/-! ## The other calls -/

lemma shapes_fieldMapper (attemptId : ℕ) (map : (String → Option (ℕ × String)) → Mapping) :
    Safe shapes Op.run (blindApplyFieldMapper attemptId map) := by
  intro o s₀ s
  refine meets_op_bind rfl (fun _ => trivial) fun _ => ?_
  split
  · rename_i item hitem
    refine meets_ite.mpr ⟨fun _ => trivial, fun _ => ?_⟩
    refine meets_op_bind rfl (fun _ => trivial) fun _ => meets_ite.mpr ⟨fun _ => trivial, fun _ => ?_⟩
    refine meets_op_bind rfl (fun _ => trivial) fun _ => ?_
    dsimp only
    split
    · exact ((shapes_move (by decide)).bind fun _ => Safe.ret _) _ _ _
    · refine meets_ite.mpr ⟨fun _ => ?_, fun _ => ?_⟩
      · exact ((shapes_move (by decide)).bind fun _ => Safe.ret _) _ _ _
      · -- recording which answers were used leaves the items alone
        have hrow : s.db.items.get? item.id = some item :=
          Table.get?_key (List.mem_of_find?_eq_some hitem)
        rw [meets_bind]
        refine meets_forEach (J := fun _ _ _ t => t.db.items = s.db.items) ?_ ?_ rfl
        · intro use rest o s₀ t ht
          split
          · exact meets_op.mpr fun _ => ⟨trivial, ht⟩
          · exact ht
        · intro o s₀ t ht
          refine meets_bind.mpr (meets_op.mpr fun _ => ⟨fun r hr => ?_, ?_⟩)
          · rw [ht, hrow] at hr
            rw [← Option.some.inj hr]
          · unfold andThen
            split <;> trivial
  · trivial

/-! ## Stop -/

lemma meets_stopItems {items : List Item}
    (h : ∀ r ∈ s.db.items.rows, r.authorizationId = a → r.state ∈ stoppableStates →
      ∃ item ∈ items, item.id = r.id ∧ item.state = r.state)
    (hstop : ∀ item ∈ items, item.state ∈ stoppableStates)
    (hQ : ∀ moved t, t.db.authorizations = s.db.authorizations → Store.Keeps s.db t.db →
      SubmittingKept s t →
      (∀ r' ∈ t.db.items.rows, r' ∈ s.db.items.rows ∨ ∃ r ∈ s.db.items.rows, r.id = r'.id ∧
        r.attemptId = r'.attemptId ∧ ∃ item ∈ items, item.id = r.id) →
      (∀ r ∈ t.db.items.rows, r.authorizationId = a → r.state ∉ stoppableStates) →
      Q o s₀ (.ok moved) t) : (stopItems reason items).Meets shapeContract Op.run Q o s₀ s:= by
  induction items generalizing s Q with
  | nil =>
    refine hQ [] s rfl .refl (fun _ _ h _ => h) (fun _ hr => Or.inl hr) fun r hr ha hst => ?_
    obtain ⟨item, hitem, -⟩ := h r hr ha hst
    cases hitem
  | cons item rest ih =>
    have hitem := mem_stoppableStates_iff.mp (hstop item List.mem_cons_self)
    have hmove := s.db.transition_cases item.id [item.state] .stopped
      { stateDetail := some "Stopped by you" } { kind := .stop, detail := some reason } s.clock
    refine meets_op_bind rfl (fun _ hmem => ?_) fun _ => meets_bind.mpr (ih ?_ ?_ ?_)
    · exact absurd (List.mem_singleton.mp hmem).symm hitem.2
    · -- a row that can still be stopped was not the one just moved
      intro r hr ha hst
      obtain heq | ⟨current, detail, hget, -, -, heq⟩ := hmove
      · rw [heq] at hr
        obtain ⟨item', hitem', hid, hstate⟩ := h r hr ha hst
        rcases List.mem_cons.mp hitem' with rfl | hitem'
        · -- the move would have succeeded
          have hget : s.db.items.get? item'.id = some r := hid ▸ Table.get?_key hr
          simp [Store.transitionBlindApplyItem, hget, hstate,
            (mem_stoppableStates_iff.mp hst).1] at heq
        · exact ⟨item', hitem', hid, hstate⟩
      · rw [heq, Table.mem_update] at hr
        rcases hr with ⟨r', -, -, rfl⟩ | ⟨hr, hne⟩
        · exact absurd hst (by simp [Store.moveItem, stoppableStates])
        · obtain ⟨item', hitem', hid, hstate⟩ := h r hr ha hst
          rcases List.mem_cons.mp hitem' with rfl | hitem'
          · exact absurd hid.symm hne
          · exact ⟨item', hitem', hid, hstate⟩
    · exact fun item' hitem' => hstop item' (List.mem_cons_of_mem _ hitem')
    · intro moved t hauths hkeeps hkept hrows hnone
      refine hQ _ t (hauths.trans ?_) (.trans (.transition _ _ _ _ _ _) hkeeps) ?_ ?_ hnone
      · obtain heq | ⟨current, detail, -, -, -, heq⟩ := hmove
        · rw [heq]
        · rw [heq]
      · intro i r hr hst
        refine hkept i r ?_ hst
        obtain heq | ⟨current, detail, hget, hmem, -, heq⟩ := hmove
        · rw [heq]
          exact hr
        · have hne : item.id ≠ i := by
            rintro rfl
            obtain rfl : current = r := Option.some.inj (hget.symm.trans hr)
            exact hitem.2 ((List.mem_singleton.mp hmem).symm.trans hst)
          rw [heq]
          simp [Table.get?_update, hne, hr]
      · -- a row of the moved table is a row of the table before, or the row that was moved
        have hold : ∀ r' ∈ (s.db.transitionBlindApplyItem item.id [item.state] .stopped
            { stateDetail := some "Stopped by you" }
            { kind := .stop, detail := some reason } s.clock).1.items.rows,
            r' ∈ s.db.items.rows ∨ ∃ r ∈ s.db.items.rows, r.id = r'.id ∧
              r.attemptId = r'.attemptId ∧ item.id = r.id := by
          intro r' hr'
          obtain heq | ⟨current, detail, hget, -, -, heq⟩ := hmove
          · rw [heq] at hr'
            exact Or.inl hr'
          · rw [heq] at hr'
            rcases Table.of_mem_update (h := Store.key_moveItem _ _ _) hget hr' with rfl | ⟨hr', -⟩
            · exact Or.inr ⟨current, Table.mem_of_get? hget, rfl, rfl,
                (Table.key_of_get? hget).symm⟩
            · exact Or.inl hr'
        intro r'' hr''
        rcases hrows r'' hr'' with hr' | ⟨r', hr', hid, hattempt, item', hitem', hid'⟩
        · rcases hold r'' hr' with hr | ⟨r, hr, hid, hattempt, hitem⟩
          · exact Or.inl hr
          · exact Or.inr ⟨r, hr, hid, hattempt, item, List.mem_cons_self, hitem⟩
        · rcases hold r' hr' with hr | ⟨r, hr, hid₀, hattempt₀, hitem⟩
          · exact Or.inr ⟨r', hr, hid, hattempt, item', List.mem_cons_of_mem _ hitem', hid'⟩
          · exact Or.inr ⟨r, hr, hid₀.trans hid, hattempt₀.trans hattempt, item,
              List.mem_cons_self, hitem⟩

def quietContract : Contract sig State Call :=
  { shapeContract with
    pre := fun a s => Shape a s ∧ (Op.run a s).1.db = s.db ∧ (Op.run a s).1.stops = s.stops }

lemma quiet_ask (wait : Wait) :
    Safe (quietContract.along fun p => p.site = .stop) Op.run (ask .stop wait) :=
  Safe.ask (fun _ => ⟨trivial, rfl, rfl⟩) rfl fun _ => trivial

lemma quiet_cancelItems (items : List Item) :
    Safe (quietContract.along fun p => p.site = .stop) Op.run (cancelItems items) := by
  refine Safe.forEach fun item _ => ?_
  split
  · refine Safe.ite ?_ (Safe.ret _)
    refine Safe.bind (Safe.op fun _ _ => ⟨trivial, rfl, rfl⟩) fun _ => ?_
    exact (quiet_ask _).attempt.bind fun _ => (quiet_ask _).attempt.bind fun _ => Safe.ret _
  · exact Safe.ret _

lemma meets_cancelItems {items : List Item} {Q : Post sig State Call Unit}
    (hfirst : ∀ d t, t.db = s.db ∧ t.stops = s.stops → shapeContract.guar o s₀ d t)
    (hQ : ∀ o s₀ r t, shapeContract.guar o s₀ none t → Q o s₀ r t) :
    (cancelItems items).Meets shapeContract Op.run Q o s₀ s := by
  have hmeets := (quiet_cancelItems items o s₀ s).of_along (K := quietContract)
    (T := fun s t => t.db = s.db ∧ t.stops = s.stops) ?_ (fun _ => ⟨rfl, rfl⟩)
    (fun h₁ h₂ => ⟨h₂.1.trans h₁.1, h₂.2.trans h₁.2⟩) (fun _ _ _ h => h.2)
    fun d t _ ht => hfirst d t ht
  · have hshape := hmeets.mono_pre (K := quietContract) (P := Shape) fun _ _ h => h.1
    exact hshape.mono fun o s₀ r t h => hQ o s₀ r t (h.2 none (by simp))
  · rintro ⟨site, wait⟩ s d t hsite _ ht
    obtain rfl : site = .stop := hsite
    exact ⟨.of_items (by rw [ht.1]), ht.1⟩

lemma stopped_of_stopAuthorization {db : Store} {auth : Authorization} {reason : String}
    {now : ℤ} (h : db.getActiveBlindApplyAuthorization = some auth) :
    Stopped (db.stopBlindApplyAuthorization auth.id reason now).1 auth.id := by
  obtain ⟨hget, hnone⟩ := Store.get?_of_getActive h
  refine ⟨{ auth with stoppedAt := some now, stopReason := some reason }, ?_, rfl⟩
  simp [Store.stopBlindApplyAuthorization, Table.get?_updateWhere, hget, hnone]

lemma meets_stop {Q : Post sig State Call (Bool × ℕ)}
    (hQ : ∀ o s₀ r t, shapeContract.guar o s₀ none t → Q o s₀ r t) :
    (stop reason).Meets shapeContract Op.run Q (.inl (.stop reason)) s s := by
  refine meets_op_bind rfl (fun _ => trivial) fun _ => ?_
  split
  · rename_i auth hauth
    refine meets_op_bind rfl (fun _ => trivial) fun _ => ?_
    refine meets_op_bind rfl (fun _ => trivial) fun _ => ?_
    refine meets_op_bind rfl (fun _ => trivial) fun _ => meets_bind.mpr ?_
    refine meets_stopItems (a := auth.id) ?_ ?_ ?_
    · intro r hr ha hst
      refine ⟨r, Store.mem_listBlindApplyItems.mpr ⟨hr, ?_, ?_⟩, rfl, rfl⟩
      · simpa using ha
      · simpa using hst
    · intro item hitem
      exact (Store.mem_listBlindApplyItems.mp hitem).2.2 _ rfl
    · intro moved t hauths hkeeps hkept hrows hnone
      refine meets_op_bind rfl (fun _ => ⟨?_, hnone⟩) fun _ => meets_bind.mpr ?_
      · obtain ⟨a, ha, hsome⟩ := @stopped_of_stopAuthorization _ _ reason s.clock hauth
        exact ⟨a, by rw [hauths]; exact ha, hsome⟩
      · refine meets_cancelItems (fun d u hu => ⟨?_, ?_, ?_, ?_⟩) fun o s₀ r u hu => ?_
        · exact hkeeps.trans (.of_items (by rw [hu.1]))
        · intro i r hr hst
          rw [hu.1]
          exact hkept i r hr hst
        · intro r' hr'
          rw [hu.1] at hr'
          refine (hrows r' hr').imp id ?_
          rintro ⟨r, hr, -, hattempt, item, hitem, hid⟩
          obtain ⟨hrow, hauthId, hst⟩ := Store.mem_listBlindApplyItems.mp hitem
          obtain rfl : item = r := Table.eq_of_key_eq hrow hr hid
          refine ⟨item, hr, hattempt, ?_, auth, hauth, hauthId _ rfl⟩
          exact mem_liveStates_iff.mpr (mem_stoppableStates_iff.mp (hst _ rfl)).1
        · intro auth' hauth'
          obtain rfl : auth = auth' := Option.some.inj (hauth.symm.trans hauth')
          rw [hu.2]
          exact List.mem_cons_self
        · cases r with
          | ok _ => exact hQ _ _ _ _ hu
          | error e => exact hQ _ _ _ _ hu
  · rename_i hnone
    refine hQ _ _ _ _ ⟨.refl, fun _ _ h _ => h, fun _ hr => Or.inl hr, fun auth hauth => ?_⟩
    exact absurd hauth (hnone auth)

/-! ## The remaining calls -/

lemma shapes_answer (host : Host) (input : AnswerInput) :
    Safe shapes Op.run (answer host input) := by
  refine (Safe.op fun _ _ => trivial).bind fun item => ?_
  split
  · split
    · refine Safe.ite (Safe.ret _) ?_
      refine (Safe.op fun _ _ => trivial).bind fun active => Safe.ite (Safe.ret _) ?_
      split
      · exact Safe.ret _
      · refine (Safe.forEach fun given _ => Safe.op fun _ _ => trivial).bind fun _ => ?_
        refine (shapes_pipelineResume (by simp) _).bind fun resumed => Safe.ite (Safe.ret _) ?_
        exact (shapes_move (by decide)).bind fun _ => Safe.ret _
    · exact Safe.ret _
  · exact Safe.ret _

lemma shapes_recoverOnStartup : Safe shapes Op.run recoverOnStartup := by
  refine lenient_shapes.safe_recoverOnStartup fun active => ?_
  refine (Safe.op fun _ _ => trivial).bind fun items => Safe.forEach fun item _ => ?_
  split
  · refine (Safe.op fun _ _ => trivial).bind fun world => Safe.ite ?_ (Safe.ret _)
    refine (shapes_move (by decide)).bind fun moved => Safe.ite ?_ (Safe.ret _)
    exact shapes_pipelineRequeue (by simp) _
  · exact Safe.ret _

lemma shapes_body (host : Host) {c : Call} (hc : ∀ reason, c ≠ .stop reason) :
    Safe shapes Op.run (c.body host) := by
  cases c with
  | stop reason => exact absurd rfl (hc reason)
  | tick =>
    refine (Safe.op fun _ _ => trivial).bind fun _ => (shapes_tick host).attempt.bind fun _ => ?_
    exact (Safe.op fun _ _ => trivial).bind fun _ => Safe.ofExcept _
  | answer input => exact (shapes_answer host input).bind fun _ => Safe.ret _
  | recoverOnStartup => exact shapes_recoverOnStartup
  | createAuthorization input => exact (Safe.op fun _ _ => trivial).bind fun _ => Safe.ret _
  | fieldMapper attemptId map => exact (shapes_fieldMapper attemptId map).bind fun _ => Safe.ret _
  | attempt id checkpoint detail => exact Safe.op fun _ _ => trivial
  | artifact a => exact Safe.op fun _ _ => trivial
  | receipt r => exact Safe.op fun _ _ => trivial
  | world w => exact Safe.op fun _ _ => trivial
  | clock t => exact Safe.op fun _ _ => trivial

lemma shapeContract_sound (host : Host) :
    shapeContract.Sound (runner host) fun _ _ => True where
  rely_refl _ := .refl
  rely_trans h₁ h₂ := h₁.trans h₂
  rely_of_guar _ h := h.1
  inv_of_guar _ _ := trivial
  point_of_guar := by
    intro o s d t p _ hp _ hguar
    obtain ⟨site, wait⟩ := p
    cases site with
    | send a =>
      cases wait with
      | submit i x => exact hp.keeps hguar.1
      | _ => trivial
    | _ => trivial
  compat_symm _ := trivial
  compat_of_guar _ _ _ _ := trivial
  body := by
    intro c s _ _
    by_cases hc : ∀ reason, c ≠ .stop reason
    · refine ((shapes_body host hc _ _ _).of_along (T := fun s t => Store.Keeps s.db t.db) ?_
        (fun _ => .refl) Store.Keeps.trans (fun a s _ _ => keeps_of_op a s) ?_).mono ?_
      · rintro ⟨site, wait⟩ s d t hsite _ ht
        refine ⟨ht, ?_⟩
        cases site with
        | stop => exact absurd rfl hsite
        | _ => trivial
      · intro d t _ ht
        refine ⟨ht, ?_⟩
        cases c with
        | stop reason => exact absurd rfl (hc reason)
        | _ => trivial
      · exact fun o s₀ r t h => h.2 none (by simp)
    · obtain ⟨reason, rfl⟩ : ∃ reason, c = .stop reason := by
        simpa using hc
      refine meets_bind.mpr (meets_stop fun o s₀ r t h => ?_)
      cases r with
      | ok _ => exact h
      | error e => exact h
  restart _ _ := trivial

variable {host : Host} {world : World} {c : Coop.Cfg sig State}

/-- The configurations of the runner, under every interleaving. -/
abbrev Reachable (host : Host) (world : World) (c : Coop.Cfg sig State) : Prop :=
  (runner host).Reach (fun _ _ => True) (Cfg.init world) c

lemma shape_allowed (c : Coop.Cfg sig State) (e : Coop.Event sig Call) :
    shapeContract.Allowed (runner host) c e := by
  cases e with
  | call x => exact ⟨fun _ _ => trivial, trivial, fun _ _ _ _ => trivial⟩
  | reply i p r => exact ⟨fun _ _ => trivial, trivial, fun _ _ _ _ _ => trivial⟩
  | crash => exact ⟨fun _ _ => trivial, trivial⟩

lemma good_of_reachable (h : Reachable host world c) :
    shapeContract.Good Op.run (fun _ _ => True) c :=
  Contract.good_of_reach (shapeContract_sound host) (Contract.Good.start trivial)
    (h.mono fun _ _ _ => shape_allowed _ _)

lemma shape_of_reachable (h : Reachable host world c) (e : Coop.Event sig Call) :
    ∀ a ∈ (runner host).acts c e, Shape a.1 a.2 :=
  (good_of_reachable h).pre_step (shapeContract_sound host) (shape_allowed c e)

end VacancyRadar.BlindApply
