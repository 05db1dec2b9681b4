import VacancyRadar.BlindApply.Shape

/-!
# Stop wins

Once Stop has recorded the stop of an authorization, none of its items is ever sent.  The proof
needs two facts about a stopped authorization, `StopHolds`, and follows what each single operation
of its shape does to them (`AfterStop`); the interleaving of the programs plays no further part.
-/

namespace VacancyRadar.BlindApply

open Coop Data Prog

variable {host : Host} {world : World} {c c' : Coop.Cfg sig State}

/-! ## The record of the runner has a history -/

/-! ## What a recorded stop means -/

structure StopHolds (s : State) (a : ℕ) : Prop where
  stopped : Stopped s.db a
  items : ∀ r ∈ s.db.items.rows, r.authorizationId = a → r.state ∉ stoppableStates

variable {db : Store} {input : AuthorizationInput} {reason : String}

variable {a : ℕ} {now : ℤ}

lemma not_active_of_stopped (h : Stopped db a) : db.isBlindApplyAuthorizationActive a = false := by
  obtain ⟨row, hget, hsome⟩ := h
  simp only [Store.isBlindApplyAuthorizationActive, hget, Option.any_some]
  cases hrow : row.stoppedAt with
  | none => simp [hrow] at hsome
  | some t => rfl

lemma Stopped.createAuthorization (h : Stopped db a) :
    Stopped (db.createBlindApplyAuthorization input now).1 a:= by
  obtain ⟨row, hrow, hsome⟩ := h
  refine ⟨row, Table.get?_insert_of_some ?_, hsome⟩
  have hnot : row.stoppedAt ≠ none := by simpa [Option.isSome_iff_ne_none] using hsome
  simp [Table.get?_updateWhere, hrow, hnot]

lemma Stopped.stopAuthorization {id : ℕ} (h : Stopped db a) :
    Stopped (db.stopBlindApplyAuthorization id reason now).1 a:= by
  obtain ⟨row, hrow, hsome⟩ := h
  have hnot : row.stoppedAt ≠ none := by simpa [Option.isSome_iff_ne_none] using hsome
  exact ⟨row, by simp [Store.stopBlindApplyAuthorization, Table.get?_updateWhere, hrow, hnot], hsome⟩

/-- What may happen between two states when the stop of `a` is recorded in the first one. -/
structure AfterStop (a : ℕ) (s t : State) : Prop where
  keeps : Store.Keeps s.db t.db
  stops : s.stops ⊆ t.stops
  holds : StopHolds s a → StopHolds t a
  submitting : StopHolds s a → ∀ r' ∈ t.db.items.rows, r'.authorizationId = a →
    r'.state = .submitting → ∃ r ∈ s.db.items.rows, r.id = r'.id ∧ r.state = .submitting
  notes : ∃ n, t.notes = s.notes ++ n ∧ (StopHolds s a → ∀ i, .clickAllowed i ∈ n →
    ∃ r, t.db.items.get? i = some r ∧ r.authorizationId ≠ a)

lemma AfterStop.trans {s t u : State} (h₁ : AfterStop a s t) (h₂ : AfterStop a t u) :
    AfterStop a s u := by
  obtain ⟨n₁, hn₁, hc₁⟩ := h₁.notes
  obtain ⟨n₂, hn₂, hc₂⟩ := h₂.notes
  refine ⟨h₁.keeps.trans h₂.keeps, fun _ hx => h₂.stops (h₁.stops hx),
    fun h => h₂.holds (h₁.holds h), fun h r hr ha hst => ?_,
    n₁ ++ n₂, by rw [hn₂, hn₁, List.append_assoc], fun h i hi => ?_⟩
  · obtain ⟨r₁, hr₁, hid₁, hst₁⟩ := h₂.submitting (h₁.holds h) r hr ha hst
    -- the item was under the same authorization before
    obtain ⟨r', hr', hauth', -⟩ := h₂.keeps _ _ (Table.get?_key hr₁)
    have hrow : u.db.items.get? r₁.id = some r := hid₁ ▸ Table.get?_key hr
    have hr'eq : r' = r := Option.some.inj (hr'.symm.trans hrow)
    obtain ⟨r₀, hr₀, hid₀, hst₀⟩ :=
      h₁.submitting h r₁ hr₁ (by rw [← hauth', hr'eq, ha]) hst₁
    exact ⟨r₀, hr₀, hid₀.trans hid₁, hst₀⟩
  · rcases List.mem_append.mp hi with hi | hi
    · obtain ⟨r, hr, ha⟩ := hc₁ h i hi
      obtain ⟨r', hr', hauth, -⟩ := h₂.keeps i r hr
      exact ⟨r', hr', by rw [hauth]; exact ha⟩
    · exact hc₂ (h₁.holds h) i hi

lemma AfterStop.of_unchanged {s t : State} (hitems : t.db.items = s.db.items)
    (hauths : t.db.authorizations = s.db.authorizations) (hstops : t.stops = s.stops)
    (hnotes : t.notes = s.notes) : AfterStop a s t := by
  refine ⟨.of_items hitems, by rw [hstops]; exact List.Subset.refl _, fun h => ?_,
    fun _ r hr _ hst => ?_, [], by simp [hnotes], by simp⟩
  · obtain ⟨⟨row, hrow, hsome⟩, hi⟩ := h
    exact ⟨⟨row, by rw [hauths]; exact hrow, hsome⟩, by rw [hitems]; exact hi⟩
  · rw [hitems] at hr
    exact ⟨r, hr, rfl, hst⟩

lemma AfterStop.refl (a : ℕ) (s : State) : AfterStop a s s := .of_unchanged rfl rfl rfl rfl

/-! ## What single operations do to a recorded stop -/

section Ops

variable {a : ℕ} {s : State}

/-- An item that is moved under a stopped authorization leaves `submitting` for good. -/
lemma afterStop_move {itemId : ℕ} {expected : List ItemState} {target : ItemState}
    {patch : ItemPatch} {event : EventInput}
    (h : Shape (.move itemId expected target patch event) s) :
    AfterStop a s (Op.run (.move itemId expected target patch event) s).1 := by
  obtain heq | ⟨current, detail, hget, hmem, hterm, heq⟩ :=
    s.db.transition_cases itemId expected target patch event s.clock
  · simp only [Op.run, heq]
    exact .refl a s
  -- under a stopped authorization the item can only have been at `submitting`
  have hdone : StopHolds s a → current.authorizationId = a → target ∈ terminalStates := by
    intro hs ha
    refine h ?_
    have hst := hs.items current (Table.mem_of_get? hget) ha
    rw [mem_stoppableStates_iff, not_and, not_not] at hst
    exact hst hterm ▸ hmem
  have hrows : ∀ r ∈ (Op.run (.move itemId expected target patch event) s).1.db.items.rows,
      r = Store.moveItem target patch s.clock current ∨ (r ∈ s.db.items.rows ∧ r.id ≠ itemId) := by
    intro r hr
    simp only [Op.run, heq] at hr
    exact Table.of_mem_update hget hr
  refine ⟨keeps_of_op _ s, List.Subset.refl _, fun hs => ⟨?_, fun r hr ha => ?_⟩,
    fun hs r hr ha hst => ?_, [], by simp [Op.run], by simp⟩
  · obtain ⟨row, hrow, hsome⟩ := hs.stopped
    exact ⟨row, by simp only [Op.run, heq]; exact hrow, hsome⟩
  · rcases hrows r hr with rfl | ⟨hr, -⟩
    · intro hst
      exact (mem_stoppableStates_iff.mp hst).1 (hdone hs ha)
    · exact hs.items r hr ha
  · rcases hrows r hr with rfl | ⟨hr, -⟩
    · have htarget : target = .submitting := hst
      exact absurd (hdone hs ha) (by rw [htarget]; decide)
    · exact ⟨r, hr, rfl, hst⟩

lemma afterStop_insertItem {input : ItemInput} (h : Shape (.insertItem input) s) :
    AfterStop a s (Op.run (.insertItem input) s).1 := by
  obtain heq | ⟨-, -, -, heq⟩ := s.db.insert_cases input s.clock
  · exact .of_unchanged (by simp only [Op.run, heq]) (by simp only [Op.run, heq]) rfl rfl
  have hrows : ∀ r ∈ (Op.run (.insertItem input) s).1.db.items.rows,
      r ∈ s.db.items.rows ∨ r = Store.newItem input s.clock s.db.items.next := by
    intro r hr
    simpa only [Op.run, heq, Table.mem_insert] using hr
  refine ⟨keeps_of_op _ s, List.Subset.refl _, fun hs => ⟨?_, fun r hr ha => ?_⟩,
    fun hs r hr ha hst => ?_, [], by simp [Op.run], by simp⟩
  · obtain ⟨row, hrow, hsome⟩ := hs.stopped
    exact ⟨row, by simp only [Op.run, heq]; exact hrow, hsome⟩
  · rcases hrows r hr with hr | rfl
    · exact hs.items r hr ha
    · intro hst
      have hactive := h.2 (mem_liveStates_iff.mpr (mem_stoppableStates_iff.mp hst).1)
      have hauth : input.authorizationId = a := ha
      rw [hauth, not_active_of_stopped hs.stopped] at hactive
      cases hactive
  · rcases hrows r hr with hr | rfl
    · exact ⟨r, hr, rfl, hst⟩
    · have hstate : input.state = .submitting := hst
      exact absurd h.1 (by rw [hstate]; decide)

lemma afterStop_createAuthorization : AfterStop a s (Op.run (.createAuthorization input) s).1:=
  ⟨keeps_of_op _ s, List.Subset.refl _, fun hs => ⟨hs.stopped.createAuthorization, hs.items⟩,
    fun _ r hr _ hst => ⟨r, hr, rfl, hst⟩, [], by simp [Op.run], by simp⟩

lemma afterStop_stopAuthorization {id : ℕ} :
    AfterStop a s (Op.run (.stopAuthorization id reason) s).1 :=
  ⟨keeps_of_op _ s, List.Subset.refl _, fun hs => ⟨hs.stopped.stopAuthorization, hs.items⟩,
    fun _ r hr _ hst => ⟨r, hr, rfl, hst⟩, [], by simp [Op.run], by simp⟩

lemma afterStop_note {entry : Note} (h : Shape (.note entry) s) :
    AfterStop a s (Op.run (.note entry) s).1 := by
  refine ⟨.refl, List.Subset.refl _, fun hs => ⟨hs.stopped, hs.items⟩,
    fun _ r hr _ hst => ⟨r, hr, rfl, hst⟩, [entry], rfl, fun hs i hi => ?_⟩
  obtain rfl := List.mem_singleton.mp hi
  obtain ⟨r, hr, hactive⟩ := h
  refine ⟨r, hr, fun ha => ?_⟩
  rw [ha, not_active_of_stopped hs.stopped] at hactive
  cases hactive

lemma afterStop_recordStop {id : ℕ} {taken : List ℕ} :
    AfterStop a s (Op.run (.recordStop id taken) s).1 :=
  ⟨.refl, List.subset_cons_self _ _, fun hs => ⟨hs.stopped, hs.items⟩,
    fun _ r hr _ hst => ⟨r, hr, rfl, hst⟩, [], by simp [Op.run], by simp⟩

lemma afterStop_endTick {returned : Bool} {before : ℕ} :
    AfterStop a s (Op.run (.endTick returned before) s).1 := by
  refine ⟨.refl, List.Subset.refl _, fun hs => ⟨hs.stopped, hs.items⟩,
    fun _ r hr _ hst => ⟨r, hr, rfl, hst⟩, _, rfl, fun _ i hi => ?_⟩
  split at hi <;> simp at hi

lemma afterStop_of_op {o : Op} (h : Shape o s) : AfterStop a s (Op.run o s).1 := by
  cases o with
  | move itemId expected target patch event => exact afterStop_move h
  | insertItem input => exact afterStop_insertItem h
  | createAuthorization input => exact afterStop_createAuthorization
  | stopAuthorization id reason => exact afterStop_stopAuthorization
  | note entry => exact afterStop_note h
  | recordStop id taken => exact afterStop_recordStop
  | endTick returned before => exact afterStop_endTick
  | appendEvent itemId state event =>
    obtain heq | ⟨r, -, heq⟩ := s.db.append_cases itemId state event s.clock
    · exact .of_unchanged (by simp only [Op.run, heq]) (by simp only [Op.run, heq]) rfl rfl
    · exact .of_unchanged (by simp only [Op.run, heq]) (by simp only [Op.run, heq]) rfl rfl
  | saveAnswer matchKey label controlType answer optionSetHash =>
    exact .of_unchanged (by simp [Op.run]) (by simp [Op.run]) rfl rfl
  | _ => exact .of_unchanged rfl rfl rfl rfl

end Ops

/-! ## Whole runs -/

lemma stopHolds_of_reachable (h : Reachable host world c) :
    ∀ a ∈ c.shared.stops, StopHolds c.shared a := by
  refine System.Reach.inv_of_acts (I := fun s => ∀ a ∈ s.stops, StopHolds s a) h
    (by simp [Cfg.init, State.init]) (fun s hs a ha => ⟨(hs a ha).1, (hs a ha).2⟩) ?_
  intro c e hc _ act hact hI a ha
  have hshape := shape_of_reachable hc e act hact
  by_cases hold : a ∈ act.2.stops
  · exact (afterStop_of_op hshape).holds (hI a hold)
  · -- the operation is the one that records the stop of `a`
    obtain ⟨o, s⟩ := act
    cases o with
    | recordStop id taken =>
      obtain rfl : a = id := (List.mem_cons.mp ha).resolve_right hold
      exact ⟨hshape.1, hshape.2⟩
    | _ => exact absurd ha hold

lemma afterStop_of_step (h : Reachable host world c) {e : Coop.Event sig Call}
    (hstep : (runner host).step c e = some c') (a : ℕ) : AfterStop a c.shared c'.shared :=
  System.step_rel (AfterStop.refl a) AfterStop.trans
    (fun _ => .of_unchanged rfl rfl rfl rfl) hstep
    fun act hact => afterStop_of_op (shape_of_reachable h e act hact)

lemma stopMoves_of_step (h : Reachable host world c)
    (hstep : (runner host).step c (.call (.stop reason)) = some c') :
    StopMoves c.shared c'.shared := by
  obtain ⟨d, -, -, hmoves, -⟩ :=
    (good_of_reachable h).guar_step (shapeContract_sound host) (shape_allowed c _) rfl hstep
  exact hmoves

/-- **Stop wins.**  From a call of `stop` on, whatever happens, every item of the authorization is
in a terminal state or at `submitting`, none of them is moved to `submitting`, and no `beforeClick`
callback for one of them returns true. -/
theorem stop_wins (h : Reachable host world c) :
    (∀ reason c', (runner host).step c (.call (.stop reason)) = some c' →
      SubmittingKept c.shared c'.shared ∧
      ∀ auth, c.shared.db.getActiveBlindApplyAuthorization = some auth →
        auth.id ∈ c'.shared.stops) ∧
    (∀ i wait r c', (runner host).step c (.reply i ⟨.stop, wait⟩ r) = some c' →
      c'.shared.db = c.shared.db) ∧
    ∀ a ∈ c.shared.stops,
      (∀ r ∈ c.shared.db.items.rows, r.authorizationId = a →
        r.state ∈ terminalStates ∨ r.state = .submitting) ∧
      ∀ e c', (runner host).step c e = some c' →
        a ∈ c'.shared.stops ∧
        (∀ r' ∈ c'.shared.db.items.rows, r'.authorizationId = a → r'.state = .submitting →
          ∃ r ∈ c.shared.db.items.rows, r.id = r'.id ∧ r.state = .submitting) ∧
        ∃ new, c'.shared.notes = c.shared.notes ++ new ∧ ∀ i, .clickAllowed i ∈ new →
          ∃ r', c'.shared.db.items.get? i = some r' ∧ r'.authorizationId ≠ a := by
  have hgood := good_of_reachable h
  have hsound := shapeContract_sound host
  refine ⟨fun reason c' hstep => ?_, fun i wait r c' hstep => ?_, fun a ha => ⟨?_, ?_⟩⟩
  · obtain ⟨d, -, hkept, -, hstops⟩ := hgood.guar_step hsound (shape_allowed c _) rfl hstep
    exact ⟨hkept, hstops⟩
  · obtain ⟨d, hguar⟩ := hgood.guar_step hsound (shape_allowed c _) rfl hstep
    exact hguar.2
  · intro r hr hauth
    have hst := (stopHolds_of_reachable h a ha).items r hr hauth
    rw [mem_stoppableStates_iff, not_and, not_not] at hst
    by_cases hterm : r.state ∈ terminalStates
    · exact Or.inl hterm
    · exact Or.inr (hst hterm)
  · intro e c' hstep
    have hholds := stopHolds_of_reachable h a ha
    have hafter := afterStop_of_step h hstep a
    obtain ⟨new, hnew, hclick⟩ := hafter.notes
    exact ⟨hafter.stops ha, hafter.submitting hholds, new, hnew, hclick hholds⟩

/-! ## The runner over the record -/

lemma history_of_op {o : Op} {s : State} (h : Shape o s) (hdb : Store.Reach s.db) :
    Store.Reach (Op.run o s).1.db := by
  cases o with
  | insertItem input => exact hdb.step (.insert _ _ h.1)
  | move itemId expected target patch event => exact hdb.step (.transition _ _ _ _ _ _)
  | appendEvent itemId state event => exact hdb.step (.append _ _ _ _ h)
  | createAuthorization input => exact hdb.step (.createAuthorization _ _)
  | stopAuthorization id reason => exact hdb.step (.stopAuthorization _ _ _)
  | saveAnswer key label controlType answer hash => exact hdb.step (.saveAnswer _ _ _ _ _ _)
  | answerUsed id => exact hdb.step (.answerUsed _ _)
  | _ => exact hdb

/-- **The runner refines the record.**  However ticks, stops, answers, replies of the ports, their
failures and restarts are interleaved, the record is one that a history of calls of the store leads
to: an identity and a vacancy of an authorization have one item, and its events lead to its state.
The next event keeps every item and its keys, and a terminal item as it is. -/
theorem record_refines (h : Reachable host world c) :
    Store.Reach c.shared.db ∧ c.shared.db.Wf ∧
      ∀ e c', (runner host).step c e = some c' → Store.Keeps c.shared.db c'.shared.db := by
  have hdb : Store.Reach c.shared.db :=
    h.inv_of_acts (I := fun s : State => Store.Reach s.db) .empty (fun _ hs => hs)
      fun _ e hc _ a ha => history_of_op (shape_of_reachable hc e a ha)
  refine ⟨hdb, hdb.wf, ?_⟩
  intro e c' hstep
  exact System.step_rel (T := fun s t : State => Store.Keeps s.db t.db) (fun _ => .refl) .trans
    (fun _ => .refl) hstep fun a _ => keeps_of_op a.1 a.2

/-! ## A sample run

One frontend vacancy at the form that Blind Apply supports. -/

def sampleHost : Host where
  deriveApplicationIdentity company canonicalUrl := ⟨company.toLower, none, canonicalUrl.toLower⟩
  normalizeBlindLabel label := label.toLower

def sampleCandidate : Candidate where
  vacancyKey := "v1"
  company := "Acme"
  role := "Frontend Engineer"
  applyUrl := "file:///fixtures/blind-apply-supported-form.html"
  family := some "frontend"
  filters := .eligible
  linkStatus := .verified

def samplePolicy : TargetPolicy where
  id := "ashby-fixture-test-only"
  termsEligibleForAutomation := true
  allowedActions :=
    [.openTarget, .snapshot, .fill, .select, .attach, .capture, .handoff, .submit]
  killSwitchSubmit := false

def sampleWorld : World where
  listCandidates := [sampleCandidate]
  resolveVacancy _ := true
  resolvePolicy _ := some samplePolicy
  minIntervalMs _ := 0
  hasLive _ := true
  inFlightOrCompleted _ := false
  manualDuplicate _ := false

def sampleStart : List (Coop.Event sig Call) :=
  [.call (.createAuthorization Store.sampleAuthorization),
    .call .tick,
    .reply 1 ⟨.facts 0, .loadCurrentFacts⟩ (.ok ⟨some "cv1", "p1"⟩),
    .reply 1 ⟨.select 0, .checkLiveness "v1"⟩ (.ok ⟨.opened, none⟩),
    .reply 1 ⟨.select 0, .turn⟩ (.ok ()),
    .reply 1 ⟨.select 0, .turn⟩ (.ok ()),
    .reply 1 ⟨.start 0, .start 0⟩ (.ok .created),
    .reply 1 ⟨.start 0, .started 0⟩ (.ok ()),
    .reply 1 ⟨.start 0, .turn⟩ (.ok ())]

def sampleStop : List (Coop.Event sig Call) :=
  sampleStart ++
    [.call (.attempt 0 .ready ""),
      .call .tick,
      .reply 3 ⟨.facts 0, .loadCurrentFacts⟩ (.ok ⟨some "cv1", "p1"⟩),
      .reply 3 ⟨.select 0, .turn⟩ (.ok ()),
      .reply 3 ⟨.reconcile 0 [], .turn⟩ (.ok ()),
      .call (.stop "stopped by you")]

theorem stop_wins_sampleStop :
    ∃ c, (runner sampleHost).run (Cfg.init sampleWorld) sampleStop = some c ∧
      c.shared.db.items.rows.map (fun r => (r.authorizationId, r.state)) = [(0, .stopped)] ∧
      ∃ c', (runner sampleHost).step c
          (.reply 3 ⟨.send 0, .submit 0 0⟩ (.ok .beforeClick)) = some c' ∧
        ∃ new, c'.shared.notes = c.shared.notes ++ new ∧ ∀ i, .clickAllowed i ∈ new →
          ∃ r', c'.shared.db.items.get? i = some r' ∧ r'.authorizationId ≠ 0 := by
  have hrun : (((runner sampleHost).run (Cfg.init sampleWorld) sampleStop).map fun c =>
      (c.shared.db.items.rows.map (fun r => (r.authorizationId, r.state)), c.shared.stops,
        ((runner sampleHost).step c
          (.reply 3 ⟨.send 0, .submit 0 0⟩ (.ok .beforeClick))).isSome)) =
      some ([(0, .stopped)], [0], true) := by
    decide
  obtain ⟨c, hc, heq⟩ := Option.map_eq_some_iff.mp hrun
  simp only [Prod.mk.injEq] at heq
  obtain ⟨hitems, hstops, hstep⟩ := heq
  obtain ⟨c', hc'⟩ := Option.isSome_iff_exists.mp hstep
  obtain ⟨-, -, hafter⟩ := stop_wins (System.Reach.of_run hc)
  obtain ⟨-, hnext⟩ := hafter 0 (by rw [hstops]; exact List.mem_singleton_self 0)
  obtain ⟨-, -, hnotes⟩ := hnext _ c' hc'
  exact ⟨c, hc, hitems, c', hc', hnotes⟩

theorem record_refines_sampleStop :
    ∃ c, (runner sampleHost).run (Cfg.init sampleWorld) sampleStop = some c ∧
      c.shared.db.items.rows.map (fun r => (r.authorizationId, r.state)) = [(0, .stopped)] ∧
      Store.Reach c.shared.db ∧ c.shared.db.Wf := by
  have hrun : (((runner sampleHost).run (Cfg.init sampleWorld) sampleStop).map fun c =>
      c.shared.db.items.rows.map fun r => (r.authorizationId, r.state)) =
      some [(0, .stopped)] := by
    decide
  obtain ⟨c, hc, hitems⟩ := Option.map_eq_some_iff.mp hrun
  obtain ⟨hdb, hwf, -⟩ := record_refines (System.Reach.of_run hc)
  exact ⟨c, hc, hitems, hdb, hwf⟩

end VacancyRadar.BlindApply
