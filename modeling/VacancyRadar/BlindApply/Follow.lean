import VacancyRadar.BlindApply.Behind

/-!
# Items follow their attempts

A turn of `tick` without a failed port leaves no item behind, in every run that meets
`FollowsInTime`.  The proof follows the turn through its phases: `UnderWay` says which items may
be behind in each of them.
-/

namespace VacancyRadar.BlindApply

open Coop Data Prog

variable {st target : ItemState} {a i x : ℕ} {patch : ItemPatch} {event : EventInput} {α : Type} {r : Item}
  {rest : List Item} {auth : Authorization} {candidate : Candidate} {detail : String}
  {e : Coop.Event sig Call}

/-! ## The phases of `tick` -/

def tickContract : Contract sig State Call := { followContract with pre := FollowPre }

abbrev ticks : Contract sig State Call :=
  (tickContract.assuming FollowInv).along fun p => p.site.ofTick = true

/-- The property does not depend on what a turn of `tick` cannot see of an item. -/
def Respects (B : Item → Prop) : Prop := ∀ {r r' : Item}, SameTo r r' → B r → B r'

abbrev Done : State → Prop := UnderWay (fun _ => False) []

def Among (st : ItemState) (items : List Item) (r : Item) : Prop :=
  r.state = st ∧ ∃ item ∈ items, item.id = r.id ∧ item.attemptId = r.attemptId

section Phases

variable {B B' : Item → Prop} {flight : List ℕ} {s t : State}

lemma respects_false : Respects fun _ => False := fun _ h => h

lemma Respects.among {items : List Item} : Respects (Among st items):= by
  rintro r r' hs ⟨hst, item, hitem, hid, hattempt⟩
  exact ⟨hs.state ▸ hst, item, hitem, hid.trans hs.id, hattempt.trans hs.attemptId⟩

lemma UnderWay.mono (h : UnderWay B flight s) (hB : Clean s → ∀ r, Behind s r → B r → B' r) :
    UnderWay B' flight s :=
  ⟨h.ticking, h.submitsInFlight, fun hc r hr => hB hc r hr (h.behind hc r hr)⟩

lemma UnderWay.failed {p : Port} (hinv : FollowInv s) (hp : p.site.ofTick = true)
    (h : UnderWay B flight s) : UnderWay B' flight (Op.run (.failed p) s).1 := by
  refine ⟨h.ticking, h.submitsInFlight, fun hclean => ?_⟩
  have := hinv.failures
  simp only [Clean, Op.run, hp, if_true] at hclean
  omega

def Op.calm : Op → Bool
  | .beginSubmit _ | .endSubmit _ | .beginTick | .endTick _ _ => false
  | _ => true

lemma UnderWay.of_op {a : Op} (hB : Respects B) (h : UnderWay B flight s) (hcalm : a.calm = true)
    (hinv : FollowInv s) (hpre : FollowPre a s) : UnderWay B flight (Op.run a s).1 := by
  have hstep := followStep_of_op hinv hpre
  have hticking : (Op.run a s).1.ticking = s.ticking := by
    cases a <;> first | rfl | cases hcalm
  have hflight : (Op.run a s).1.submitsInFlight = s.submitsInFlight := by
    cases a <;> first | rfl | cases hcalm
  refine ⟨hticking.trans h.ticking, hflight.trans h.submitsInFlight, fun hclean r' hr' => ?_⟩
  obtain ⟨r, hr, hsame⟩ := hstep.behind r' hr'
  exact hB hsame (h.behind (hstep.clean hclean) r hr)

lemma UnderWay.of_move {expected : List ItemState} (hB : Respects B) (h : UnderWay B flight s)
    (hinv : FollowInv s) (hpre : MovePre i expected target patch s) :
    UnderWay B flight (Op.run (.move i expected target patch event) s).1 :=
  h.of_op (a := .move i expected target patch event) hB rfl hinv hpre

lemma UnderWay.settle {i : ℕ} {expected : List ItemState} {target : ItemState}
    {patch : ItemPatch} {event : EventInput} (h : UnderWay B flight s)
    (ht : target ∈ terminalStates) (hp : patch.attemptId = none)
    (hB' : ∀ r, Behind s r → B r → ¬ (r.id = i ∧ r.state ∈ expected) → B' r) (hr' : Respects B') :
    UnderWay B' flight (Op.run (.move i expected target patch event) s).1 := by
  have hpre : FollowPre (.move i expected target patch event) s := MovePre.settle ht hp
  refine ⟨h.ticking, h.submitsInFlight, fun hclean r' hb' => ?_⟩
  obtain ⟨r, hb, hsame, hkept⟩ := behind_of_move hpre hb'
  refine hr' hsame (hB' r hb (h.behind hclean r hb) fun ⟨hid, hst⟩ => ?_)
  exact mem_liveStates_iff.mp hb.live (hkept hid hst ▸ ht)

lemma keeps_op {a : Op} (hB : Respects B) (hcalm : a.calm = true)
    (hpre : ∀ s, FollowInv s → UnderWay B flight s → FollowPre a s) :
    Keeps ticks Op.run (UnderWay B flight) (op a) := by
  intro o s₀ s h
  refine meets_op.mpr fun hallow => ⟨hpre s hallow.2 h, ?_⟩
  exact h.of_op hB hcalm hallow.2 (hpre s hallow.2 h)

variable {site : Site} {wait : Wait}

lemma keeps_ask (hsite : site.ofTick = true)
    (hp : ∀ s, FollowPoint ⟨site, wait⟩ s ↔ UnderWay B flight s) :
    Keeps ticks Op.run (UnderWay B flight) (ask site wait) := by
  intro o s₀ s h
  refine meets_ask (fun _ => trivial) trivial ⟨hsite, fun _ => (hp s).mpr h⟩ ?_ ?_
  · exact fun _ s' _ _ hpoint _ => (hp s').mp (hpoint.2 hsite)
  · exact fun _ s' _ hinv hpoint _ => ((hp s').mp (hpoint.2 hsite)).failed hinv hsite

lemma followPoint_iff (hB : ∀ r, StillComes ⟨site, wait⟩ r ↔ B r) (hw : wait.inFlight = [])
    (hsite : ∀ a, site ≠ .facts a ∧ site ≠ .select a) (hstarted : ∀ x, wait ≠ .started x) :
    FollowPoint ⟨site, wait⟩ s ↔ UnderWay B [] s := by
  have hBs : StillComes ⟨site, wait⟩ = B := funext fun r => propext (hB r)
  constructor
  · intro h
    have := h.underWay
    rwa [hBs, hw] at this
  · intro h
    refine ⟨by rwa [hBs, hw], fun a ha => ?_, fun x hx => absurd hx (hstarted x)⟩
    rcases ha with ha | ha
    · exact absurd ha (hsite a).1
    · exact absurd ha (hsite a).2

lemma keeps_inner {x : Run α} (hsite : site.ofTick = true)
    (hp : ∀ s, FollowPoint ⟨site, .turn⟩ s ↔ UnderWay B flight s)
    (h : Keeps ticks Op.run (UnderWay B flight) x) :
    Keeps ticks Op.run (UnderWay B flight) (inner site x) :=
  h.call hsite fun s => ⟨fun hpoint => (hp s).mp (hpoint hsite), fun h _ => (hp s).mpr h⟩

end Phases

/-! ## The items at `submitting` -/

section Programs

variable {item : Item} {expected : List ItemState} {B B' : Item → Prop} {o : Call ⊕ sig.Port}
  {s₀ s : State}

lemma completed_of_behind (h : Behind s r) (hx : r.attemptId = some x) :
    ∃ a, s.attempts.get? x = some a ∧ a.checkpoint ∈ Checkpoint.completed := by
  obtain ⟨y, hy, hcompleted⟩ := h.completed
  rw [hx] at hy
  cases hy
  exact hcompleted

lemma Among.of_cons (h : Among st (item :: rest) r)
    (hne : ¬ (item.id = r.id ∧ item.attemptId = r.attemptId)) : Among st rest r:= by
  obtain ⟨hst, item', hitem', hsame⟩ := h
  rcases List.mem_cons.mp hitem' with rfl | hitem'
  · exact absurd hsame hne
  · exact ⟨hst, item', hitem', hsame⟩

variable {attempt : AttemptView} {flight : List ℕ} {items : List Item} {b : Op} {host : Host}
  {wait : Wait}

lemma not_behind_of_attempt (h : Behind s r) (hitem : item.attemptId = some x)
    (hget : s.attempts.get? x = some attempt) (hnot : attempt.checkpoint ∉ Checkpoint.completed) :
    ¬ (item.id = r.id ∧ item.attemptId = r.attemptId) := by
  rintro ⟨-, hsame⟩
  obtain ⟨a, ha, hcompleted⟩ := completed_of_behind h (hsame.symm.trans hitem)
  obtain rfl : attempt = a := Option.some.inj (hget.symm.trans ha)
  exact hnot hcompleted

/-- What `settleFromAttempt` does: it settles the item if its attempt is completed. -/
lemma ticks_settleFromAttempt (hB' : Respects B') (h : UnderWay B flight s)
    (hcompleted : attempt.checkpoint ∈ Checkpoint.completed → ∀ r, Behind s r → B r →
      ¬ (r.id = item.id ∧ r.state ∈ expected) → B' r)
    (hother : attempt.checkpoint ∉ Checkpoint.completed → ∀ r, Behind s r → B r → B' r) :
    (settleFromAttempt item expected attempt).Meets ticks Op.run
      (fun _ _ _ t => UnderWay B' flight t) o s₀ s := by
  unfold settleFromAttempt
  split
  · rename_i hcp
    refine meets_bind.mpr (meets_op_bind rfl (fun _ => trivial) fun _ => ?_)
    refine meets_op_bind rfl (fun _ => MovePre.settle (by decide) rfl) fun _ => ?_
    exact h.settle (by decide) rfl (hcompleted (by rw [hcp]; decide)) hB'
  · rename_i hcp
    refine meets_op_bind rfl (fun _ => MovePre.settle (by decide) rfl) fun _ => ?_
    exact h.settle (by decide) rfl (hcompleted (by rw [hcp]; decide)) hB'
  · rename_i hcp
    refine meets_op_bind rfl (fun _ => MovePre.settle (by decide) rfl) fun _ => ?_
    exact h.settle (by decide) rfl (hcompleted (by rw [hcp]; decide)) hB'
  · rename_i hcp
    refine meets_op_bind rfl (fun _ => MovePre.settle (by decide) rfl) fun _ => ?_
    refine h.settle (by decide) rfl (fun r hr hr' _ => ?_) hB'
    exact hother (by rw [hcp]; decide) r hr hr'
  · rename_i h₁ h₂ h₃ h₄
    refine h.mono fun _ r hr => hother ?_ r hr
    simp only [Checkpoint.completed, List.mem_cons, List.not_mem_nil, or_false, not_or]
    exact ⟨h₁, h₂, h₃⟩

/-- At the start of the turn the items at `submitting` may be behind that the loop has still to
look at. -/
def AtStart (items : List Item) (r : Item) : Prop :=
  r.state = .preparing ∨ Among .submitting items r

lemma Respects.atStart : Respects (AtStart items) := by
  rintro r r' hs (hst | hamong)
  · exact Or.inl (hs.state ▸ hst)
  · exact Or.inr (Respects.among hs hamong)

lemma AtStart.of_cons (h : AtStart (item :: rest) r)
    (hne : ¬ (item.id = r.id ∧ item.attemptId = r.attemptId)) : AtStart rest r:=
  h.imp id fun h => h.of_cons hne

lemma ticks_reconcileSubmitting (h : UnderWay (AtStart (item :: rest)) [] s) :
    (reconcileSubmitting item).Meets ticks Op.run
      (fun _ _ _ t => UnderWay (AtStart rest) [] t) o s₀ s := by
  unfold reconcileSubmitting
  split
  · rename_i x hx
    refine meets_op_bind rfl (fun _ => trivial) fun _ => meets_ite.mpr ⟨fun hin => ?_, fun _ => ?_⟩
    · simp [h.submitsInFlight] at hin
    refine meets_getAttempt_bind (fun _ => trivial) (fun attempt hget => ?_) ?_
    · have hskip : attempt.checkpoint ∉ Checkpoint.completed → ∀ r, Behind s r →
          AtStart (item :: rest) r → AtStart rest r := fun hnot r hr hr' =>
        hr'.of_cons (not_behind_of_attempt hr hx hget hnot)
      refine meets_ite.mpr ⟨fun hsub => ?_, fun _ => ?_⟩
      · exact h.mono fun _ => hskip (by rw [hsub]; decide)
      · refine meets_bind.mpr ?_
        refine (ticks_settleFromAttempt Respects.atStart h ?_
          hskip).mono fun o s₀ r t ht => ?_
        · -- the item is settled
          rintro - r - (hst | ⟨hst, hitem⟩) hnot
          · exact Or.inl hst
          · refine AtStart.of_cons (Or.inr ⟨hst, hitem⟩) fun hsame => hnot ⟨hsame.1.symm, ?_⟩
            exact List.mem_singleton.mpr hst
        · cases r with
          | error e => exact ht
          | ok _ =>
            refine meets_ite.mpr ⟨fun _ => ?_, fun _ => ht⟩
            refine meets_op_bind rfl (fun _ => MovePre.settle (by decide) rfl) fun _ => ?_
            exact ht.settle (by decide) rfl (fun _ _ hr _ => hr) Respects.atStart
    · -- the attempt does not exist
      intro hnone
      refine h.mono fun _ r hr hr' => hr'.of_cons fun hsame => ?_
      obtain ⟨a, ha, -⟩ := completed_of_behind hr (hsame.2.symm.trans hx)
      rw [hnone] at ha
      cases ha
  · rename_i hx
    refine h.mono fun _ r hr hr' => hr'.of_cons fun hsame => ?_
    obtain ⟨x, hrx, -⟩ := hr.completed
    exact hx x (hsame.2.trans hrx)

/-- The start of the turn looks at all items at `submitting`. -/
lemma ticks_reconcileAllSubmitting
    (h : UnderWay (fun r => r.state ∈ [ItemState.preparing, .submitting]) [] s) :
    reconcileAllSubmitting.Meets ticks Op.run
      (fun _ _ r t => r = .ok () ∧ UnderWay (fun r => r.state = .preparing) [] t) o s₀ s := by
  refine meets_op_bind rfl (fun _ => trivial) fun _ => ?_
  refine meets_forEach (J := fun items _ _ t => UnderWay (AtStart items) [] t) ?_ ?_ ?_
  · intro item rest o s₀ t ht
    rw [meets_bind, meets_attempt]
    exact ticks_reconcileSubmitting ht
  · intro o s₀ t ht
    refine ⟨rfl, ht.mono fun _ r _ hr => hr.resolve_right ?_⟩
    rintro ⟨-, item, hitem, -⟩
    cases hitem
  · refine h.mono fun _ r hr hst => ?_
    simp only [List.mem_cons, List.not_mem_nil, or_false] at hst
    rcases hst with hst | hst
    · exact Or.inl hst
    · refine Or.inr ⟨hst, r, Store.mem_listBlindApplyItems.mpr ⟨hr.row, by simp, ?_⟩, rfl, rfl⟩
      simp [hst]

/-! ## Selection -/

def Selecting (a : ℕ) (s : State) : Prop :=
  UnderWay (fun r => r.state = .preparing) [] s ∧ Mine a s

lemma followPoint_facts : FollowPoint ⟨.facts a, .loadCurrentFacts⟩ s ↔ Selecting a s:=
  ⟨fun h => ⟨h.underWay, h.mine a (Or.inl rfl)⟩, fun h =>
    ⟨h.1, fun a' ha => (show a = a' by simpa using ha) ▸ h.2, by simp⟩⟩

lemma followPoint_select {a : ℕ} {wait : Wait} (hw : wait.inFlight = [])
    (hstarted : ∀ x, wait ≠ .started x) : FollowPoint ⟨.select a, wait⟩ s ↔ Selecting a s := by
  constructor
  · intro h
    have := h.underWay
    rw [hw] at this
    exact ⟨this, h.mine a (Or.inr rfl)⟩
  · rintro ⟨h, hmine⟩
    refine ⟨by rw [hw]; exact h, fun a' ha => ?_, fun x hx => absurd hx (hstarted x)⟩
    obtain rfl : a = a' := by simpa using ha
    exact hmine

lemma followPre_of_reads (h : b.reads = true) : FollowPre b s := by
  cases b <;> trivial

lemma keeps_read {J : State → Prop} (h : b.reads = true) : Keeps ticks Op.run J (op b) := by
  intro o s₀ s hJ
  refine meets_op.mpr fun _ => ⟨followPre_of_reads h, ?_⟩
  rw [Op.run_of_reads h]
  exact hJ

lemma selecting_insertItem {input : ItemInput} :
    Keeps ticks Op.run (Selecting a) (op (.insertItem input)) := by
  intro o s₀ s h
  refine meets_op.mpr fun hallow => ⟨trivial, ?_, mine_insertItem h.2⟩
  exact h.1.of_op (fun hs hr => hs.state ▸ hr) rfl hallow.2 trivial

lemma selecting_recordDecision {verdict : Verdict} :
    Keeps ticks Op.run (Selecting a) (recordDecision host auth candidate verdict) := by
  refine selecting_insertItem.attempt.bind fun inserted => ?_
  split
  · exact Keeps.ret _
  · exact selecting_insertItem.bind fun _ => Keeps.ret _
  · exact Keeps.raise _

lemma selecting_evaluate {current : CurrentFacts} : Keeps ticks Op.run (Selecting auth.id)
      (evaluateBlindApplyCandidate host auth current candidate) := by
  refine Keeps.bind ?_ fun duplicate =>
    (keeps_read (by rfl)).bind fun world => ?_
  · refine (keeps_read (by rfl)).bind fun world =>
      Keeps.ite (Keeps.ret _) ?_
    refine (keeps_read (by rfl)).bind fun _ => ?_
    exact Keeps.ite (Keeps.ret _) (Keeps.ret _)
  · split
    · exact Keeps.ret _
    · refine Keeps.bind (fun o s₀ s h => ?_) fun _ => Keeps.ret _
      have hp : ∀ {s}, FollowPoint ⟨.select auth.id, .checkLiveness candidate.vacancyKey⟩ s ↔
          Selecting auth.id s := followPoint_select rfl (by simp)
      refine meets_ask (fun _ => trivial) trivial ⟨rfl, fun _ => hp.mpr h⟩ ?_ ?_
      · exact fun _ s' _ _ hpoint _ => hp.mp (hpoint.2 rfl)
      · intro _ s' _ hinv hpoint _
        have h' := hp.mp (hpoint.2 rfl)
        exact ⟨h'.1.failed hinv rfl, h'.2⟩

lemma selecting_selectCandidates {host : Host} {auth : Authorization} {current : CurrentFacts} :
    Keeps ticks Op.run (Selecting auth.id) (selectCandidates host auth current) := by
  refine (keeps_read (by rfl)).bind fun items =>
    (keeps_read (by rfl)).bind fun world => ?_
  generalize world.listCandidates = candidates
  generalize items.map Item.vacancyKey = seen
  induction candidates generalizing seen with
  | nil => exact Keeps.ret _
  | cons candidate rest ih =>
    refine Keeps.ite (ih seen) ?_
    refine (keeps_read (by rfl)).bind fun active =>
      Keeps.ite (Keeps.ret _) ?_
    refine Keeps.bind (Keeps.attempt (selecting_evaluate.call rfl fun s => ?_)) fun decision => ?_
    · have hp := @followPoint_select s auth.id .turn rfl (by simp)
      exact ⟨fun hpoint => hp.mp (hpoint rfl), fun h _ => hp.mpr h⟩
    · split
      · exact ih seen
      · exact Keeps.ret _
      · refine (keeps_read (by rfl)).bind fun _ =>
          Keeps.ite (Keeps.ret _) ?_
        exact selecting_recordDecision.bind fun _ => ih _

/-! ## The items at `preparing` -/

lemma followPoint_reconcile (hw : wait.inFlight = []) (hstarted : ∀ x, wait ≠ .started x) :
    FollowPoint ⟨.reconcile a rest, wait⟩ s ↔ UnderWay (Among .preparing rest) [] s :=
  followPoint_iff (fun _ => Iff.rfl) hw (by simp) hstarted

lemma MovePre.of_attempt (hx : Attached s i x) (hnot : ¬ Completed s x) (ht : target ≠ .queued)
    (hp : patch.attemptId = none) : MovePre i expected target patch s:= by
  refine ⟨ht, by simp [hp], fun r hr _ hb => ?_⟩
  obtain ⟨r', hr', hrx⟩ := hx
  obtain rfl : r = r' := Option.some.inj (hr.symm.trans hr')
  exact absurd (completed_of_behind hb hrx) hnot

lemma ticks_pipelineResume (x : ℕ) :
    Keeps ticks Op.run (UnderWay (Among .preparing rest) [])
      (pipelineResume (.reconcile a rest) x) := by
  refine (keeps_ask rfl fun s => followPoint_reconcile rfl (by simp)).bind fun reply => ?_
  cases reply with
  | handed =>
    refine (keeps_op Respects.among (by rfl) fun _ _ _ => by trivial).bind fun _ => ?_
    exact (keeps_ask rfl fun s => followPoint_reconcile rfl (by simp)).bind fun _ => Keeps.ret _
  | refused detail => exact Keeps.ret _

lemma ticks_reconcilePreparing (h : UnderWay (Among .preparing (item :: rest)) [] s)
    (hattached : ∀ x, item.attemptId = some x → Attached s item.id x) :
    (reconcilePreparing (.reconcile a rest) item).Meets ticks Op.run
      (fun _ _ _ t => UnderWay (Among .preparing rest) [] t) o s₀ s := by
  have hmoved : ∀ {target patch event o s₀ s}, UnderWay (Among .preparing rest) [] s →
      MovePre item.id [.preparing] target patch s →
        (do let _ ← move item [.preparing] target patch event; return : Run Unit).Meets ticks Op.run
          (fun _ _ _ t => UnderWay (Among .preparing rest) [] t) o s₀ s :=
    fun h hpre => meets_op_bind rfl (fun _ => hpre) fun hallow =>
      h.of_move Respects.among hallow.2 hpre
  unfold reconcilePreparing
  split
  · rename_i x hx
    refine meets_getAttempt_bind (fun _ => trivial) (fun attempt hget => ?_) fun hnone => ?_
    · have hskip : attempt.checkpoint ∉ Checkpoint.completed →
          UnderWay (Among .preparing rest) [] s ∧ ¬ Completed s x := by
        refine fun hnot => ⟨h.mono fun _ r hr hr' => ?_, ?_⟩
        · exact hr'.of_cons (not_behind_of_attempt hr hx hget hnot)
        · rintro ⟨b, hb, hcompleted⟩
          obtain rfl : attempt = b := Option.some.inj (hget.symm.trans hb)
          exact hnot hcompleted
      have hsettle : (settleFromAttempt item [.preparing] attempt).Meets ticks Op.run
          (fun _ _ _ t => UnderWay (Among .preparing rest) [] t) o s₀ s := by
        refine ticks_settleFromAttempt Respects.among h ?_ fun hnot r hr hr' => ?_
        · refine fun _ r hr hr' hnot => hr'.of_cons fun hsame => hnot ⟨hsame.1.symm, ?_⟩
          exact List.mem_singleton.mpr hr'.1
        · exact hr'.of_cons (not_behind_of_attempt hr hx hget hnot)
      have hx' := hattached x hx
      split
      · rename_i hcp
        obtain ⟨h', hnot⟩ := hskip (by rw [hcp]; decide)
        refine meets_bind.mpr (meets_op_bind rfl (fun _ => trivial) fun _ => ?_)
        exact hmoved h' (.of_attempt hx' hnot (by decide) rfl)
      · rename_i hcp
        obtain ⟨h', hnot⟩ := hskip (by rw [hcp]; decide)
        split
        · exact hmoved h' (.of_attempt hx' hnot (by decide) rfl)
        · refine meets_ite.mpr ⟨fun _ => ?_, fun _ => ?_⟩
          · exact hmoved h' (.of_attempt hx' hnot (by decide) rfl)
          · exact hmoved h' (.of_attempt hx' hnot (by decide) rfl)
      · rename_i hcp
        obtain ⟨h', hnot⟩ := hskip (by rw [hcp]; decide)
        split
        · refine meets_bind.mpr ((ticks_pipelineResume attempt.id _ _ _ h').mono ?_)
          intro o s₀ resumed t ht
          cases resumed with
          | error e => exact ht
          | ok accepted =>
            refine meets_ite.mpr ⟨fun _ => hmoved ht ?_, fun _ => hmoved ht ?_⟩
            · refine ⟨by decide, by simp, fun r _ hst _ => Or.inr ?_⟩
              exact (List.mem_singleton.mp hst).symm
            · exact .settle (by decide) rfl
        · exact hmoved h' (.of_attempt hx' hnot (by decide) rfl)
      · rename_i hcp
        obtain ⟨h', hnot⟩ := hskip (by rw [hcp]; decide)
        exact hmoved h' (.of_attempt hx' hnot (by decide) rfl)
      · exact hsettle
      · exact hsettle
      · exact hsettle
      · rename_i h₁ h₂ h₃ h₄ h₅ h₆ h₇
        refine (hskip ?_).1
        simp only [Checkpoint.completed, List.mem_cons, List.not_mem_nil, or_false, not_or]
        exact ⟨h₅, h₇, h₆⟩
    · refine h.mono fun _ r hr hr' => hr'.of_cons fun hsame => ?_
      obtain ⟨b, hb, -⟩ := completed_of_behind hr (hsame.2.symm.trans hx)
      rw [hnone] at hb
      cases hb
  · rename_i hx
    refine h.mono fun _ r hr hr' => hr'.of_cons fun hsame => ?_
    obtain ⟨x, hrx, -⟩ := hr.completed
    exact hx x (hsame.2.trans hrx)

lemma ticks_rely {x : Run α} {Q : Post sig State Call α} (h : x.Meets ticks Op.run Q o s₀ s) :
    x.Meets ticks Op.run (fun o s₀ r t => Q o s₀ r t ∧ FollowRely s t) o s₀ s :=
  h.rel_post (K := ticks) (T := FollowRely) FollowRely.trans (fun h => h)
    (fun _ _ hallow hpre => (followStep_of_op hallow.2 hpre).rely) (.refl s)

/-- The loop over the items at `preparing`. -/
lemma ticks_reconcileFrom (h : UnderWay (Among .preparing items) [] s)
    (hattached : ∀ item ∈ items, ∀ x, item.attemptId = some x → Attached s item.id x) :
    (reconcileFrom auth items).Meets ticks Op.run (fun _ _ _ t => Done t) o s₀ s := by
  induction items generalizing o s₀ s with
  | nil =>
    refine h.mono fun _ r _ hr => ?_
    obtain ⟨-, item, hitem, -⟩ := hr
    cases hitem
  | cons item rest ih =>
    rw [reconcileFrom, meets_bind, meets_attempt, inner, meets_call]
    refine (ticks_rely (ticks_reconcilePreparing h (hattached item List.mem_cons_self))).mono ?_
    intro o s₀ r t ht
    have hp : ∀ {s}, FollowPoint ⟨.reconcile auth.id rest, .turn⟩ s ↔
        UnderWay (Among .preparing rest) [] s := followPoint_reconcile rfl (by simp)
    refine ⟨trivial, ⟨rfl, fun _ => hp.mpr ht.1⟩, fun _ t' hrely _ hpoint _ => ?_⟩
    refine ih (hp.mp (hpoint.2 rfl)) fun item' hitem' x hx => ?_
    exact (ht.2.trans hrely).attached _ _ (hattached item' (List.mem_cons_of_mem _ hitem') x hx)

/-! ## The items at `queued` -/

lemma followPoint_start (hw : wait.inFlight = []) (hstarted : ∀ x, wait ≠ .started x) :
    FollowPoint ⟨.start a, wait⟩ s ↔ Done s:=
  followPoint_iff (fun _ => Iff.rfl) hw (by simp) hstarted

/-- An item that is moved from `queued` is not behind. -/
lemma MovePre.of_queued (hinv : FollowInv s) (ht : target ≠ .queued)
    (hp : ∀ y ∈ patch.attemptId, ∃ x, y = some x ∧ ¬ Completed s x) :
    MovePre i [.queued] target patch s := by
  refine ⟨ht, fun y hy => ?_, fun r hr hst hb => ?_⟩
  · obtain ⟨x, rfl, hx⟩ := hp y hy
    exact ⟨x, rfl, Or.inr ⟨rfl, hx⟩⟩
  · obtain ⟨x, hx, -⟩ := hb.completed
    rw [hinv.queued r hb.row (List.mem_singleton.mp hst)] at hx
    cases hx

lemma done_moved (hpre : ∀ s, FollowInv s → MovePre i expected target patch s) :
    Keeps ticks Op.run Done (op (.move i expected target patch event)) :=
  keeps_op respects_false (by rfl) fun s hinv _ => hpre s hinv

lemma ticks_pipelineStart {itemId : ℕ} (h : Done s) :
    (pipelineStart (.start a) itemId).Meets ticks Op.run
      (fun _ _ r t => Done t ∧ ∀ x, r = .ok (.created, x) → ¬ Completed t x) o s₀ s := by
  have hp : ∀ {s}, FollowPoint ⟨.start a, .start itemId⟩ s ↔ Done s :=
    followPoint_start rfl (by simp)
  rw [pipelineStart, meets_bind]
  refine meets_ask (fun _ => trivial) trivial ⟨rfl, fun _ => hp.mpr h⟩
    (fun reply s' _ _ hpoint _ => ?_) fun _ s' _ hinv hpoint _ => ⟨?_, by rintro x ⟨⟩⟩
  · have h' := hp.mp (hpoint.2 rfl)
    cases reply with
    | created =>
      refine meets_op_bind rfl (fun _ => trivial) fun hallow => ?_
      have h₁ : Done (Op.run (.createAttempt itemId) s').1 :=
        h'.of_op respects_false rfl hallow.2 trivial
      refine meets_op_bind rfl (fun _ => trivial) fun hallow₁ => ?_
      have h₂ := h₁.of_op (a := .note (.handed s'.attempts.next)) respects_false rfl hallow₁.2 trivial
      rw [meets_bind]
      refine meets_ask (fun _ => trivial) trivial ⟨rfl, fun _ => ⟨h₂, by simp, ?_⟩⟩
        (fun _ t _ _ hpoint _ => ?_) fun _ t _ hinv hpoint _ => ⟨?_, by rintro x ⟨⟩⟩
      · rintro x ⟨⟩ hcompleted
        exact (completed_of_createAttempt hcompleted).2 rfl
      · refine ⟨(hpoint.2 rfl).underWay, ?_⟩
        rintro x ⟨⟩
        exact (hpoint.2 rfl).started _ rfl
      · exact (hpoint.2 rfl).underWay.failed hinv rfl
    | refused reason detail => exact ⟨h', by rintro x ⟨⟩⟩
    | alreadyCompleted => exact ⟨h', by rintro x ⟨⟩⟩
  · exact (hp.mp (hpoint.2 rfl)).failed hinv rfl

lemma ticks_startItem (auth : Authorization) (item : Item) :
    Keeps ticks Op.run Done (startItem auth item) := by
  have hmoved : ∀ {target patch event}, target ≠ .queued → patch.attemptId = none →
      Keeps ticks Op.run Done (do
        let _ ← move item [.queued] target patch event
        return : Run Unit) := fun ht hp =>
    (done_moved fun _ hinv => .of_queued hinv ht (by simp [hp])).bind fun _ => Keeps.ret _
  refine (keeps_read (by rfl)).bind fun world => Keeps.ite (hmoved (by decide) rfl) ?_
  refine (keeps_read (by rfl)).bind fun active => Keeps.ite (Keeps.ret _) fun o s₀ s h => ?_
  rw [meets_bind, meets_attempt]
  refine (ticks_pipelineStart h).mono fun o s₀ started t ht => ?_
  rw [andThen_ok]
  split
  · exact hmoved (by decide) rfl _ _ _ ht.1
  · exact hmoved (by decide) rfl _ _ _ ht.1
  · exact hmoved (by decide) rfl _ _ _ ht.1
  · exact hmoved (by decide) rfl _ _ _ ht.1
  · rename_i x
    have hnew : ∀ y ∈ (some (some x) : Option (Option ℕ)), ∃ x, y = some x ∧ ¬ Completed t x := by
      rintro y ⟨⟩
      exact ⟨x, rfl, ht.2 x rfl⟩
    refine meets_op_bind rfl (fun hallow => .of_queued hallow.2 (by decide) hnew) fun hallow => ?_
    refine Keeps.ite ?_ (Keeps.ret _) _ _ _
      (ht.1.of_move respects_false hallow.2 (.of_queued hallow.2 (by decide) hnew))
    refine Keeps.bind (Keeps.attempt ?_) fun _ => Keeps.ret _
    exact keeps_ask rfl fun s => followPoint_start rfl (by simp)

lemma ticks_startFrom (auth : Authorization) (items : List Item) :
    Keeps ticks Op.run Done (startFrom auth items) := by
  induction items with
  | nil => exact Keeps.ret _
  | cons item rest ih =>
    refine Keeps.ite ?_ ih
    refine (keeps_read (by rfl)).bind fun active => Keeps.ite ?_ ih
    refine Keeps.bind (keeps_inner rfl (fun s => ?_) (ticks_startItem _ _)) fun _ => ih
    exact followPoint_start rfl (by simp)

/-! ## The items at `ready` -/

lemma followPoint_send (hw : wait.inFlight = []) (hB : ∀ r, ¬ StillComes ⟨.send a, wait⟩ r)
    (hstarted : ∀ x, wait ≠ .started x) : FollowPoint ⟨.send a, wait⟩ s ↔ Done s:=
  followPoint_iff (fun r => iff_false_intro (hB r)) hw (by simp) hstarted

def Answered (i x : ℕ) (result : SubmitResult) (r : Item) : Prop :=
  (r.state = .submitting ∧ r.id = i ∧ r.attemptId = some x) ∧ closes result = true

lemma ticks_close : Keeps ticks Op.run Done (do
    let _ ← (ask (.send a) (.close x)).attempt
    return : Run Unit) := by
  refine Keeps.bind (Keeps.attempt (keeps_ask rfl fun s => ?_)) fun _ => Keeps.ret _
  exact followPoint_send rfl (fun _ h => h) (by simp)

lemma ticks_pipelineRequeue (x : ℕ) : Keeps ticks Op.run Done (pipelineRequeue (.send a) x):= by
  refine Keeps.bind (keeps_ask rfl fun s => ?_) fun _ => ?_
  · exact followPoint_send rfl (fun _ h => h) (by simp)
  · refine (keeps_op respects_false (by rfl) fun _ _ _ => by trivial).bind fun _ => ?_
    exact keeps_ask rfl fun s => followPoint_send rfl (fun _ h => h) (by simp)

lemma ticks_settleSubmit {result : SubmitResult} (h : UnderWay (Answered item.id x result) [] s) :
    (settleSubmit auth item x result).Meets ticks Op.run (fun _ _ _ t => Done t) o s₀ s := by
  refine meets_op_bind rfl (fun _ => trivial) fun _ => ?_
  split
  · rename_i fresh hfresh
    have hid : fresh.id = item.id := Table.key_of_get? hfresh
    refine meets_getAttempt_bind (fun _ => trivial) (fun current _ => ?_) fun hnone => ?_
    · -- a move from `submitting` settles the item that may be behind
      have hsettled : ∀ {target patch event}, target ∈ terminalStates → patch.attemptId = none →
          Done (Op.run (.move fresh.id [.submitting] target patch event) s).1 := fun ht hp =>
        h.settle ht hp (fun r _ hr hnot => hnot ⟨hr.1.2.1.trans hid.symm, by simp [hr.1.1]⟩)
          respects_false
      -- with any other answer nothing is behind
      have hdone : closes result = false → Done s := fun hnot =>
        h.mono fun _ r _ hr => by simp [Answered, hnot] at hr
      have hmoved : ∀ {target patch event}, target ≠ .queued → patch.attemptId = none →
          Keeps ticks Op.run Done (do
            let _ ← move fresh [.ready] target patch event
            return : Run Unit) := fun ht hp =>
        (done_moved fun _ hinv => .calm hinv ht hp (by decide)).bind fun _ => Keeps.ret _
      refine meets_ite.mpr ⟨fun _ => ?_, fun hok => ?_⟩
      · refine meets_bind.mpr (meets_op_bind rfl (fun _ => trivial) fun _ => ?_)
        refine meets_op_bind rfl (fun _ => .settle (by decide) rfl) fun _ => ?_
        exact ticks_close _ _ _ (hsettled (by decide) rfl)
      · split
        · rename_i hr
          exact hmoved (by decide) rfl _ _ _ (hdone (by simp [closes, hok, hr]))
        · rename_i hr
          exact hdone (by simp [closes, hok, hr])
        · rename_i hr
          exact hdone (by simp [closes, hok, hr])
        · rename_i hr
          refine Keeps.bind (done_moved fun _ hinv => ?_) (fun _ => ticks_pipelineRequeue _) _ _ _
            (hdone (by simp [closes, hok, hr]))
          exact .calm hinv (by decide) rfl (by decide)
        · rename_i hr
          exact hmoved (by decide) rfl _ _ _ (hdone (by simp [closes, hok, hr]))
        · refine meets_op_bind rfl (fun _ => .settle (by decide) rfl) fun _ => ?_
          exact ticks_close _ _ _ (hsettled (by decide) rfl)
        · refine meets_op_bind rfl (fun _ => .settle (by decide) rfl) fun _ => ?_
          exact hsettled (by decide) rfl
        · refine meets_op_bind rfl (fun _ => .settle (by decide) rfl) fun _ => ?_
          exact hsettled (by decide) rfl
        · rename_i h₁ h₂ h₃ h₄ h₅ h₆ h₇ h₈
          refine hmoved (by decide) rfl _ _ _ (hdone ?_)
          simp only [closes, hok, Bool.false_or, Bool.or_eq_false_iff, beq_eq_false_iff_ne]
          exact ⟨⟨h₆, h₇⟩, h₈⟩
    · refine h.mono fun _ r hr hr' => ?_
      obtain ⟨a, ha, -⟩ := completed_of_behind hr hr'.1.2.2
      rw [hnone] at ha
      cases ha
  · rename_i hnone
    refine h.mono fun _ r hr hr' => hnone r ?_
    exact hr'.1.2.1 ▸ Table.get?_key hr.row

lemma ticks_beforeClick :
    Keeps ticks Op.run (UnderWay (fun _ => False) flight) (beforeClick auth item) := by
  refine (keeps_read (by rfl)).bind fun _ => Keeps.ite (Keeps.ret _) ?_
  refine Keeps.bind (keeps_op respects_false (by rfl) fun s hinv _ => ?_) fun _ => ?_
  · exact MovePre.calm hinv (by decide) rfl (by decide)
  · refine Keeps.ite (Keeps.ret _) (Keeps.bind ?_ fun _ => ?_)
    · unfold recordClick
      split
      · exact keeps_op respects_false (by rfl) fun _ _ _ => by trivial
      · exact Keeps.ret _
    · exact (keeps_op respects_false (by rfl) fun _ _ _ => by trivial).bind fun _ => Keeps.ret _

lemma ticks_reviewsSubmit (h : UnderWay (fun _ => False) [item.id] s) :
    (reviewsSubmit auth item x).Meets ticks Op.run (fun _ _ r t => match r with
      | .ok result => UnderWay (Answered item.id x result) [item.id] t
      | .error _ => UnderWay (fun _ => False) [item.id] t) o s₀ s := by
  rw [reviewsSubmit, meets_bind]
  refine meets_ask (fun _ => trivial) trivial ⟨rfl, fun _ => ⟨h, by simp, by simp⟩⟩
    (fun reply s' _ _ hpoint _ => ?_) fun _ s' _ hinv hpoint _ => ?_
  · have h' : UnderWay (fun _ => False) [item.id] s' := (hpoint.2 rfl).underWay
    cases reply with
    | settled result => exact h'.mono fun _ _ _ hr => hr.elim
    | beforeClick =>
      refine meets_bind.mpr ((ticks_beforeClick _ _ _ h').mono fun o s₀ answer t ht => ?_)
      cases answer with
      | error e => exact ht
      | ok answer =>
        refine meets_ask (fun _ => trivial) trivial ⟨rfl, fun _ => ⟨?_, by simp, by simp⟩⟩
          (fun result t' _ _ hpoint hreply => ?_) fun _ t' _ hinv hpoint _ => ?_
        · exact ht.mono fun _ _ _ hr => hr.elim
        · refine (hpoint.2 rfl).underWay.mono fun _ r hr hr' => ⟨hr', hreply ?_⟩
          exact completed_of_behind hr hr'.2.2
        · exact (hpoint.2 rfl).underWay.failed hinv rfl
  · exact (hpoint.2 rfl).underWay.failed hinv rfl

lemma ticks_submitItem (auth : Authorization) (item : Item) :
    Keeps ticks Op.run Done (submitItem auth item) := by
  unfold submitItem
  split
  · refine (keeps_read (by rfl)).bind fun _ => Keeps.ite (Keeps.ret _) ?_
    refine (keeps_read (by rfl)).bind fun attempt => Keeps.ite (Keeps.ret _) ?_
    refine (keeps_read (by rfl)).bind fun world => Keeps.ite ?_ ?_
    · refine Keeps.bind (done_moved fun _ hinv => .calm hinv (by decide) rfl (by decide)) fun _ => ?_
      exact Keeps.ite ((ticks_pipelineRequeue _).bind fun _ => Keeps.ret _) (Keeps.ret _)
    · intro o s₀ s h
      refine meets_bind.mpr (meets_tooSoon trivial (fun _ => trivial) fun soon => ?_)
      refine meets_ite.mpr ⟨fun _ => h, fun _ => ?_⟩
      refine meets_op_bind rfl (fun _ => h.ticking) fun _ => ?_
      have hbegin : UnderWay (fun _ => False) [item.id] (Op.run (.beginSubmit item.id) s).1 :=
        ⟨h.ticking, by simp [Op.run, h.submitsInFlight], fun hc r hr => h.behind hc r
          ⟨hr.row, hr.live, hr.active, hr.completed⟩⟩
      have hend : ∀ {B : Item → Prop} {t : State}, UnderWay B [item.id] t →
          UnderWay B [] (Op.run (.endSubmit item.id) t).1 := fun ht =>
        ⟨ht.ticking, by simp [Op.run, ht.submitsInFlight], fun hc r hr => ht.behind hc r
          ⟨hr.row, hr.live, hr.active, hr.completed⟩⟩
      rw [meets_bind, meets_attempt]
      refine (ticks_reviewsSubmit hbegin).mono fun o s₀ r t ht => ?_
      cases r with
      | error e => exact meets_op.mpr fun _ => ⟨trivial, hend ht⟩
      | ok result =>
        refine meets_op_bind rfl (fun _ => trivial) fun _ => ?_
        exact ticks_settleSubmit (hend ht)
  · exact Keeps.ret _

lemma ticks_submitFrom (auth : Authorization) (items : List Item) :
    Keeps ticks Op.run Done (submitFrom auth items) := by
  induction items with
  | nil => exact Keeps.ret _
  | cons item rest ih =>
    refine (keeps_read (by rfl)).bind fun _ => Keeps.ite (Keeps.ret _) ?_
    refine Keeps.bind (Keeps.attempt ?_) fun _ => ih
    refine keeps_inner rfl (fun s => ?_) (ticks_submitItem _ _)
    exact followPoint_send rfl (fun _ h => h) (by simp)

/-! ## The whole turn -/

lemma not_active_of_none (h : s.db.getActiveBlindApplyAuthorization = none) (id : ℕ) :
    s.db.isBlindApplyAuthorizationActive id = false := by
  rw [Store.getActiveBlindApplyAuthorization, List.head?_eq_none_iff] at h
  rw [Store.isBlindApplyAuthorizationActive, Option.any_eq_false]
  intro a ha
  by_contra hnot
  have hmem : a ∈ (s.db.authorizations.rows.filter fun a => a.stoppedAt.isNone).insertionSort
      fun a b => b.createdAt ≤ a.createdAt := by
    rw [List.mem_insertionSort, List.mem_filter]
    exact ⟨Table.mem_of_get? ha, by simpa using hnot⟩
  rw [h] at hmem
  cases hmem

lemma active_of_some (h : s.db.getActiveBlindApplyAuthorization = some auth) :
    s.db.isBlindApplyAuthorizationActive auth.id = true := by
  obtain ⟨hget, hnone⟩ := Store.get?_of_getActive h
  simp [Store.isBlindApplyAuthorizationActive, hget, hnone]

/-- What a turn of `tick` ends with. -/
def AtEnd {α : Type} : Except RunnerError α → State → Prop
  | .ok _, t => Done t
  | .error _, t => UnderWay (fun _ => True) [] t

lemma AtEnd.of_done {r : Except RunnerError α} (h : Done s) : AtEnd r s:= by
  cases r with
  | ok _ => exact h
  | error e => exact h.mono fun _ _ _ _ => trivial

/-- A turn of `tick` that returns leaves nothing behind, unless one of its ports fails. -/
lemma ticks_tick (host : Host)
    (h : UnderWay (fun r => r.state ∈ [ItemState.preparing, .submitting]) [] s) :
    (tick host).Meets ticks Op.run (fun _ _ r t => AtEnd r t) o s₀ s := by
  refine meets_bind.mpr ((ticks_reconcileAllSubmitting h).mono ?_)
  rintro o s₀ _ t ⟨rfl, ht⟩
  refine meets_op_bind rfl (fun _ => trivial) fun hallow => ?_
  split
  · rename_i auth hauth
    have hactive := active_of_some hauth
    refine meets_op_bind rfl (fun _ => trivial) fun _ => meets_ite.mpr ⟨fun hstop => ?_, fun _ => ?_⟩
    · -- Stop records in memory what it has written to the database
      have hstopped := hallow.2.stopRequested auth.id (by simpa using hstop)
      rw [not_active_of_stopped hstopped] at hactive
      cases hactive
    have hmine : Mine auth.id t := fun r _ _ hact => hallow.2.single _ _ hact hactive
    rw [meets_bind, meets_attempt]
    refine meets_ask (fun _ => trivial) trivial ⟨rfl, fun _ => followPoint_facts.mpr ⟨ht, hmine⟩⟩
      (fun current t' _ _ hpoint _ => ?_) fun _ t' _ hinv hpoint _ => ?_
    · have h' := followPoint_facts.mp (hpoint.2 rfl)
      have hrest : ∀ (paused : Bool) o s₀ s, Selecting auth.id s → (do
          reconcileFrom auth (← op (.listItems (some auth.id) (some [.preparing])))
          if paused then
            return
          startFrom auth (← op (.listItems (some auth.id) (some [.queued])))
          submitFrom auth (← op (.listItems (some auth.id) (some [.ready]))).reverse : Run Unit).Meets
            ticks Op.run (fun _ _ r t => AtEnd r t) o s₀ s := by
        intro paused o s₀ s ⟨h, hmine⟩
        refine meets_op_bind rfl (fun _ => trivial) fun _ => meets_bind.mpr ?_
        refine (ticks_reconcileFrom (h.mono fun _ r hr hst => ⟨hst, r, ?_, rfl, rfl⟩)
          fun item hitem x hx => attached_of_list hitem hx).mono fun o s₀ r t ht => ?_
        · -- an item that is behind is in the list
          obtain ⟨x, hx, -⟩ := hr.completed
          refine Store.mem_listBlindApplyItems.mpr ⟨hr.row, ?_, by simp [hst]⟩
          rintro id ⟨⟩
          exact hmine r hr.row (by simp [hx]) hr.active
        · cases r with
          | error e => exact andThen_error.mpr (.of_done ht)
          | ok _ =>
            refine Meets.mono (Keeps.ite (Keeps.ret _) ?_ _ _ _ ht) fun _ _ _ _ => .of_done
            refine (keeps_read (by rfl)).bind fun _ => (ticks_startFrom _ _).bind fun _ => ?_
            exact (keeps_read (by rfl)).bind fun _ => ticks_submitFrom _ _
      refine meets_ite.mpr ⟨fun _ => ?_, fun _ => hrest _ _ _ _ h'⟩
      have hselect := @selecting_selectCandidates host auth current
      rw [meets_bind, inner, meets_call]
      refine (hselect _ _ _ h').mono fun o s₀ r t ht => ?_
      have hp : ∀ {s}, FollowPoint ⟨.select auth.id, .turn⟩ s ↔ Selecting auth.id s :=
        followPoint_select rfl (by simp)
      refine ⟨trivial, ⟨rfl, fun _ => hp.mpr ht⟩, fun _ t' _ _ hpoint _ => ?_⟩
      have h' := hp.mp (hpoint.2 rfl)
      cases r with
      | error e => exact h'.1.mono fun _ _ _ _ => trivial
      | ok _ => exact hrest _ _ _ _ h'
    · exact (followPoint_facts.mp (hpoint.2 rfl)).1.failed hinv rfl
  · rename_i hnone
    refine ht.mono fun _ r hr _ => ?_
    have hact := hr.active
    rw [not_active_of_none (Option.eq_none_iff_forall_ne_some.mpr hnone)] at hact
    cases hact

end Programs

/-! ## Whole runs -/

section Runs

variable {host : Host} {world : World} {s t : State}

lemma Behind.congr (h : Behind t r) (hdb : t.db = s.db) (hattempts : t.attempts = s.attempts) : Behind s r:= by
  obtain ⟨hrow, hlive, hact, x, hx, hcompleted⟩ := h
  rw [hdb] at hrow hact
  refine ⟨hrow, hlive, hact, x, hx, ?_⟩
  simpa only [Completed, hattempts] using hcompleted

variable {o : Call ⊕ sig.Port} {checkpoint : Checkpoint}

/-- The end of a turn of `tick`. -/
lemma follow_endTick {s₀ : State} {r : Except RunnerError Unit} {before : ℕ}
    (hg : ∀ d, (∀ q ∈ d, q.site.ofTick = true) → FollowGuar o s₀ d t) (hend : AtEnd r t)
    (hclean : t.failures = before → Clean t) :
    FollowGuar o s₀ none (Op.run (.endTick r.isOk before) t).1 := by
  obtain ⟨hinv, hrely, hended, hbehind, -, -⟩ := hg none (by simp)
  -- only a turn of `tick` waits at a port of `tick`
  have ho : ofTick o = true :=
    (hg (some ⟨.start 0, .turn⟩) (by rintro q ⟨⟩; rfl)).waits _ rfl rfl
  have hflight : t.submitsInFlight = [] := by
    cases r with
    | ok _ => exact hend.submitsInFlight
    | error e => exact hend.submitsInFlight
  have hb : ∀ {r'}, Behind (Op.run (.endTick r.isOk before) t).1 r' → Behind t r' :=
    fun hr' => hr'.congr rfl rfl
  refine ⟨⟨fun r' hr' => hinv.behind r' (hb hr'), hinv.queued, hinv.known, hinv.single,
    hinv.stopRequested, fun _ => hflight, hinv.failures⟩, ⟨hrely.attached, hrely.tickStart⟩,
    fun hlt r' hr' => ?_, fun r' hr' => hbehind r' (hb hr'), fun hno => ?_, by simp⟩
  · by_cases hcompleted : r.isOk = true ∧ t.failures = before
    · cases r with
      | ok _ => exact hend.behind (hclean hcompleted.2) r' (hb hr')
      | error e => cases hcompleted.1
    · have hsame : (Op.run (.endTick r.isOk before) t).1.ended = t.ended := by
        simp [Op.run, State.ended, hcompleted]
      rw [hsame] at hlt
      exact hended hlt r' (hb hr')
  · rw [ho] at hno
    cases hno

/-- A turn of `tick` keeps the contract. -/
lemma follow_tick (h : FollowInv s) (htick : s.ticking = false) :
    (Call.body host .tick).Meets followContract Op.run
      (fun o s₀ _ t => followContract.guar o s₀ none t) (.inl .tick) s s := by
  refine meets_op_bind rfl (fun _ => trivial) fun _ => ?_
  set s₁ : State := { s with ticking := true, tickStart := s.failures } with hs₁
  have hI : FollowInv s₁ := ⟨fun r hr => h.behind r (hr.congr rfl rfl), h.queued, h.known, h.single,
    h.stopRequested, fun h => (by cases h), le_rfl⟩
  have hunder : UnderWay (fun r => r.state ∈ [ItemState.preparing, .submitting]) [] s₁ :=
    ⟨rfl, h.idle htick, fun _ r hr => hI.behind r hr⟩
  have hguar : ∀ {o s d t}, ofTick o = true → (FollowInv s → FollowStep s t) →
      followContract.guar o s d t := by
    intro o s d t ho hT hI
    have hstep := hT hI
    refine ⟨hstep.inv, hstep.rely, fun hlt => ?_, fun r' hr' => Or.inl (hstep.behind r' hr'),
      fun hno => ?_, fun _ _ _ => ho⟩
    · rw [hstep.ended] at hlt
      exact absurd hlt (Nat.lt_irrefl _)
    · rw [ho] at hno
      cases hno
  have halong := (ticks_rely (@ticks_tick (.inl .tick) s s₁ host hunder)).of_along
    (K := tickContract.assuming FollowInv) (T := fun s t => FollowInv s → FollowStep s t)
    ?_ ?_ ?_ ?_ ?_
  · have htick := halong.of_assuming (K := tickContract) (fun hI => hI)
      (fun a s _ hpre hI => (followStep_of_op hI hpre).inv) hI
    have hmeets := htick.mono_pre (K := tickContract) fun _ _ _ => trivial
    rw [meets_bind, meets_attempt]
    refine hmeets.mono fun o s₀ r t ⟨⟨⟨hend, hrely⟩, hg⟩, hIt⟩ => ?_
    refine meets_op_bind rfl (fun _ => trivial) fun _ => meets_ofExcept.mpr fun hI₀ => ?_
    refine follow_endTick (fun d hd => hg d hd hI₀) hend fun hfailures => ?_
    have hstart : s.failures ≤ t.tickStart := hrely.tickStart
    have := hIt.failures
    unfold Clean
    omega
  · exact fun {p s d t} hp _ hT => hguar hp hT
  · exact fun s hI => .refl hI
  · exact fun h₁ h₂ hI => (h₁ hI).trans (h₂ (h₁ hI).inv)
  · exact fun a s hallow hpre _ => followStep_of_op hallow.2 hpre
  · intro d t _ hT _
    have hstep := hT hI
    refine ⟨hstep.inv, ⟨hstep.rely.attached, h.failures.trans hstep.rely.tickStart⟩, fun hlt => ?_,
      fun r' hr' => Or.inl ?_, fun hno => (by cases hno), fun _ _ _ => rfl⟩
    · rw [hstep.ended] at hlt
      exact absurd hlt (Nat.lt_irrefl _)
    · obtain ⟨r, hr, hsame⟩ := hstep.behind r' hr'
      exact ⟨r, hr.congr rfl rfl, hsame⟩

lemma completed_setAttempt {y : ℕ} (h : Completed (Op.run (.setAttempt x checkpoint detail) s).1 y) :
    Completed s y ∨ checkpoint ∈ Checkpoint.completed ∧ x = y := by
  obtain ⟨a, ha, hcompleted⟩ := h
  simp only [Op.run, Option.mem_def, Table.get?_update] at ha
  split at ha
  · rename_i hxy
    obtain ⟨b, -, rfl⟩ := Option.map_eq_some_iff.mp ha
    exact Or.inr ⟨hcompleted, hxy⟩
  · exact Or.inl ⟨a, ha, hcompleted⟩

lemma follow_attempt (h : FollowInv s)
    (henter : followContract.enter (.attempt x checkpoint detail) s) :
    FollowGuar (.inl (.attempt x checkpoint detail)) s none
      (Op.run (.setAttempt x checkpoint detail) s).1 := by
  have hbehind : ∀ r', Behind (Op.run (.setAttempt x checkpoint detail) s).1 r' → Behind s r' ∨
      r' ∈ s.db.items.rows ∧ r'.state ∈ liveStates ∧
        s.db.isBlindApplyAuthorizationActive r'.authorizationId = true ∧
          r'.attemptId = some x ∧ checkpoint ∈ Checkpoint.completed := by
    rintro r' ⟨hrow, hlive, hact, y, hy, hcompleted⟩
    rcases completed_setAttempt hcompleted with hold | ⟨hnew, rfl⟩
    · exact Or.inl ⟨hrow, hlive, hact, y, hy, hold⟩
    · exact Or.inr ⟨hrow, hlive, hact, hy, hnew⟩
  refine ⟨⟨fun r' hr' => ?_, h.queued, h.known, h.single, h.stopRequested, h.idle, h.failures⟩,
    ⟨fun _ _ h => h, le_rfl⟩, fun hlt => absurd hlt (Nat.lt_irrefl _), fun r' hr' => ?_,
    fun _ => ⟨rfl, rfl, fun h => h, fun _ h => h, fun y hy => completed_setAttempt hy⟩, by simp⟩
  · rcases hbehind r' hr' with hr | ⟨hrow, hlive, hact, hx, hcp⟩
    · exact h.behind r' hr
    · exact henter hcp r' hrow hx hlive hact
  · rcases hbehind r' hr' with hr | ⟨hrow, hlive, hact, hx, hcp⟩
    · exact Or.inl ⟨r', hr, rfl, rfl, rfl⟩
    · exact Or.inr ⟨hrow, hlive, hact, x, hx, hcp, rfl⟩

lemma follow_body (c : Call) (h : FollowInv s) (henter : followContract.enter c s) :
    (c.body host).Meets followContract Op.run (fun o s₀ _ t => followContract.guar o s₀ none t)
      (.inl c) s s := by
  have haside : ∀ {c : Call}, ofTick (.inl c) = false →
      (c.body host).Meets asides Op.run (fun _ _ _ _ => True) (.inl c) s s →
        (c.body host).Meets followContract Op.run (fun o s₀ _ t => followContract.guar o s₀ none t)
          (.inl c) s s := fun ho hc =>
    (meets_of_asides hc h ho).mono fun _ _ _ _ ht => ht.2
  cases c with
  | tick => exact follow_tick h henter
  | attempt x checkpoint detail =>
    exact meets_op.mpr fun _ => ⟨trivial, fun _ => follow_attempt h henter⟩
  | stop reason => exact haside rfl ((asides_stop reason).bind (fun _ => Safe.ret _) _ _ _)
  | answer input => exact haside rfl ((asides_answer host input).bind (fun _ => Safe.ret _) _ _ _)
  | recoverOnStartup => exact haside rfl (asides_recoverOnStartup _ _ _)
  | createAuthorization input =>
    exact haside rfl ((Safe.op fun _ _ => trivial).bind (fun _ => Safe.ret _) _ _ _)
  | fieldMapper x map =>
    refine haside rfl (meets_bind.mpr ((asides_fieldMapper henter).mono fun _ _ r _ _ => ?_))
    cases r <;> trivial
  | artifact a => exact haside rfl (Safe.op (fun _ _ => trivial) _ _ _)
  | receipt r => exact haside rfl (Safe.op (fun _ _ => trivial) _ _ _)
  | world w => exact haside rfl (Safe.op (fun _ _ => trivial) _ _ _)
  | clock t => exact haside rfl (Safe.op (fun _ _ => trivial) _ _ _)

/-- One turn of `tick` is under way at a time. -/
def oneTick (p q : sig.Port) : Prop := ¬ (p.site.ofTick = true ∧ q.site.ofTick = true)

/-- While a turn of `tick` waits, no other turn of `tick` runs. -/
lemma not_ofTick_of_beside {p : sig.Port} (hp : p.site.ofTick = true)
    (hpoint : followContract.point p s) (hbeside : followContract.Beside oneTick p s o) :
    ofTick o = false := by
  cases o with
  | inl c =>
    cases c with
    | tick =>
      have henter : s.ticking = false := hbeside.2
      rw [(hpoint hp).underWay.ticking] at henter
      cases henter
    | _ => rfl
  | inr q =>
    by_contra hq
    exact hbeside.2.2 ⟨hp, by simpa [ofTick] using hq⟩

lemma followContract_sound (host : Host) : followContract.Sound (runner host) oneTick where
  rely_refl s := .refl s
  rely_trans h₁ h₂ := h₁.trans h₂
  rely_of_guar hI hguar := (hguar hI).rely
  inv_of_guar hI hguar := (hguar hI).inv
  point_of_guar := by
    intro o s d t p hI hpoint hbeside hguar hp
    have ho := not_ofTick_of_beside hp hpoint hbeside
    obtain ⟨hunder, hmine, hstarted⟩ := hpoint hp
    obtain ⟨hticking, hflight, hclean, hmine', hcompleted⟩ := (hguar hI).aside ho
    refine ⟨⟨hticking.trans hunder.ticking, hflight.trans hunder.submitsInFlight, ?_⟩,
      fun a ha => hmine' a (hmine a ha), fun x hx hdone => ?_⟩
    · intro hc r' hr'
      rcases (hguar hI).behind r' hr' with ⟨r, hr, hsame⟩ | ⟨hrow, hlive, hact, x, hx, hnew⟩
      · exact (hunder.behind (hclean hc) r hr).of_same hsame
      · -- the attempt is completed in this turn
        cases o with
        | inr q => exact hnew.elim
        | inl c =>
          cases c with
          | attempt y checkpoint detail =>
            obtain ⟨hcp, rfl⟩ := hnew
            exact (hbeside.1 hcp).2 r' hrow hx hlive hact
          | _ => exact hnew.elim
    · rcases hcompleted x hdone with hold | hnew
      · exact hstarted x hx hold
      · cases o with
        | inr q => exact hnew.elim
        | inl c =>
          cases c with
          | attempt y checkpoint detail =>
            obtain ⟨hcp, rfl⟩ := hnew
            exact (hbeside.1 hcp).1 hx
          | _ => exact hnew.elim
  compat_symm h := fun ⟨hp, hq⟩ => h ⟨hq, hp⟩
  compat_of_guar := by
    rintro o s d t p hI hpoint hbeside hguar ⟨hp, hd⟩
    have ho := not_ofTick_of_beside hp hpoint hbeside
    rw [(hguar hI).waits d rfl hd] at ho
    cases ho
  body c s hI henter := follow_body c hI henter
  restart s hI := ⟨fun r hr => hI.behind r (hr.congr rfl rfl), hI.queued, hI.known, hI.single,
    by simp [runner, State.restart], fun _ => rfl, hI.failures⟩

lemma follow_allowed {c : Coop.Cfg sig State} (h : FollowsInTime c e) : followContract.Allowed (runner host) c e:= by
  refine ⟨fun _ _ => trivial, ?_⟩
  cases e with
  | call x =>
    cases x with
    | attempt x checkpoint detail =>
      refine ⟨fun hcp r hr hx hlive hact => ((h hcp).2 r hr hx hlive hact).1, fun j p k hj hcp => ?_⟩
      refine ⟨(h hcp).1 _ (List.mem_of_getElem? hj) p rfl, fun r hr hx hlive hact => ?_⟩
      exact ((h hcp).2 r hr hx hlive hact).2 _ (List.mem_of_getElem? hj) p rfl
    | tick => exact ⟨h, fun _ _ _ _ => trivial⟩
    | fieldMapper x map => exact ⟨h, fun _ _ _ _ => trivial⟩
    | _ => exact ⟨trivial, fun _ _ _ _ => trivial⟩
  | reply i p r =>
    refine ⟨?_, fun _ _ _ _ _ => trivial⟩
    obtain ⟨site, wait⟩ := p
    cases wait with
    | submitAnswered j x answer =>
      cases r with
      | ok result => exact h
      | error e => trivial
    | _ => trivial
  | crash => trivial

def NothingBehind (s : State) : Prop :=
  ∀ auth ∈ s.db.getActiveBlindApplyAuthorization, ∀ r ∈ s.db.items.rows,
    r.authorizationId = auth.id → r.state ∈ liveStates → ∀ x ∈ r.attemptId, ¬ Completed s x

instance : DecidablePred NothingBehind := fun _ =>
  inferInstanceAs (Decidable (∀ _ ∈ _, ∀ _ ∈ _, _))

def CompletesAttempt : Coop.Event sig Call → Prop
  | .call (.attempt _ checkpoint _) => checkpoint ∈ Checkpoint.completed
  | _ => False

variable {c c' : Coop.Cfg sig State}

lemma follow_good (h : (runner host).Reach FollowsInTime (Cfg.init world) c) :
    followContract.Good Op.run oneTick c := by
  refine Contract.good_of_reach (followContract_sound host) (Contract.Good.start ?_)
    (h.mono fun _ _ => follow_allowed)
  refine ⟨?_, ?_, ?_, ?_, ?_, fun _ => rfl, le_rfl⟩
  · rintro r ⟨hrow, -⟩
    cases hrow
  · rintro r ⟨⟩
  · rintro r ⟨⟩
  · rintro i j ⟨⟩
  · rintro id ⟨⟩

lemma not_behind_of_step (hc : followContract.Good Op.run oneTick c) (he : FollowsInTime c e)
    (hno : ¬ CompletesAttempt e) (hstep : (runner host).step c e = some c') (h : ∀ r, ¬ Behind c.shared r)
    (r' : Item) : ¬ Behind c'.shared r':= by
  intro hr'
  cases e with
  | crash =>
    cases hstep
    exact h r' (hr'.congr rfl rfl)
  | reply i p r =>
    obtain ⟨d, hguar⟩ := hc.guar_step (followContract_sound host) (follow_allowed he) rfl hstep
    rcases (hguar hc.inv).behind r' hr' with ⟨r, hr, -⟩ | ⟨-, -, -, x, -, hnew⟩
    · exact h r hr
    · exact hnew
  | call x =>
    obtain ⟨d, hguar⟩ := hc.guar_step (followContract_sound host) (follow_allowed he) rfl hstep
    rcases (hguar hc.inv).behind r' hr' with ⟨r, hr, -⟩ | ⟨-, -, -, y, -, hnew⟩
    · exact h r hr
    · cases x with
      | attempt x checkpoint detail => exact hno hnew.1
      | _ => exact hnew

lemma not_behind_of_reach {c₀ c₁ : Coop.Cfg sig State}
    (h₁ : (runner host).Reach (fun c e => FollowsInTime c e ∧ ¬ CompletesAttempt e) c₀ c₁)
    (h₀ : (runner host).Reach FollowsInTime (Cfg.init world) c₀)
    (h : ∀ r, ¬ Behind c₀.shared r) :
    (runner host).Reach FollowsInTime (Cfg.init world) c₁ ∧ ∀ r, ¬ Behind c₁.shared r := by
  induction h₁ with
  | start => exact ⟨h₀, h⟩
  | next _ hok hnext ih =>
    exact ⟨ih.1.next hok.1 hnext, not_behind_of_step (follow_good ih.1) hok.1 hok.2 hnext ih.2⟩

/-- **Items follow their attempts, if attempts are completed in time.**  In every run that meets
`FollowsInTime`, a turn of `tick` without a failure leaves no live item of the active authorization
with a completed attempt, and a later Stop stops none as long as no further attempt is completed. -/
theorem items_follow_attempts (h : (runner host).Reach FollowsInTime (Cfg.init world) c)
    {e : Coop.Event sig Call} (he : FollowsInTime c e) (hstep : (runner host).step c e = some c')
    (hended : c.shared.ended < c'.shared.ended) :
    NothingBehind c'.shared ∧
      ∀ c₁, (runner host).Reach (fun c e => FollowsInTime c e ∧ ¬ CompletesAttempt e) c' c₁ →
        ∀ reason c₂, (runner host).step c₁ (.call (.stop reason)) = some c₂ →
          ∀ r ∈ c₂.shared.db.items.rows, (∃ x ∈ r.attemptId, Completed c₂.shared x) →
            r ∈ c₁.shared.db.items.rows := by
  have hsound := followContract_sound host
  have hgood := follow_good h
  have hbehind : ∀ r, ¬ Behind c'.shared r := by
    cases e with
    | crash =>
      cases hstep
      exact absurd hended (Nat.lt_irrefl _)
    | reply i p r =>
      obtain ⟨d, hguar⟩ := hgood.guar_step hsound (follow_allowed he) rfl hstep
      exact (hguar hgood.inv).ended hended
    | call x =>
      obtain ⟨d, hguar⟩ := hgood.guar_step hsound (follow_allowed he) rfl hstep
      exact (hguar hgood.inv).ended hended
  refine ⟨fun auth hauth r hr ha hlive x hx hcompleted => ?_, fun c₁ hc₁ reason c₂ hstop r hr hx => ?_⟩
  · exact hbehind r ⟨hr, hlive, ha ▸ active_of_some hauth, x, hx, hcompleted⟩
  · obtain ⟨hreach, hnone⟩ := not_behind_of_reach hc₁ (h.next he hstep) hbehind
    have hgood₁ := follow_good hreach
    -- an item that Stop moved was live under the active authorization
    rcases stopMoves_of_step (hreach.mono fun _ _ _ => trivial) hstop r hr with hold | hmoved
    · exact hold
    · obtain ⟨r₁, hr₁, hattempt, hlive, auth, hauth, ha⟩ := hmoved
      obtain ⟨x, hx, hcompleted⟩ := hx
      obtain ⟨d, hguar⟩ := hgood₁.guar_step hsound (follow_allowed (e := .call (.stop reason)) trivial) rfl hstop
      obtain ⟨-, -, -, -, hsame⟩ := (hguar hgood₁.inv).aside rfl
      refine absurd ⟨hr₁, hlive, ha ▸ active_of_some hauth, x, hattempt.trans hx, ?_⟩ (hnone r₁)
      exact (hsame x hcompleted).resolve_right fun hnew => hnew

def sampleReported : List (Coop.Event sig Call) :=
  sampleStart ++
    [.call (.attempt 0 .userReported ""),
      .call .tick,
      .reply 3 ⟨.facts 0, .loadCurrentFacts⟩ (.ok ⟨some "cv1", "p1"⟩),
      .reply 3 ⟨.select 0, .turn⟩ (.ok ())]

/-- The next turn of `tick` settles the item. -/
theorem items_follow_attempts_sampleReported :
    ∃ c c', (runner sampleHost).runWhere FollowsInTime (Cfg.init sampleWorld) sampleReported =
        some c ∧
      (runner sampleHost).step c (.reply 3 ⟨.reconcile 0 [], .turn⟩ (.ok ())) = some c' ∧
      c.shared.ended < c'.shared.ended ∧
      c'.shared.db.items.rows.map (fun r => (r.attemptId, r.state)) = [(some 0, .outcomeUnknown)] ∧
      NothingBehind c'.shared := by
  have hrun : ((runner sampleHost).runWhere FollowsInTime (Cfg.init sampleWorld)
      sampleReported).map (fun c => ((runner sampleHost).step c
        (.reply 3 ⟨.reconcile 0 [], .turn⟩ (.ok ()))).map fun c' =>
          (decide (c.shared.ended < c'.shared.ended),
            c'.shared.db.items.rows.map fun r => (r.attemptId, r.state))) =
      some (some (true, [(some 0, .outcomeUnknown)])) := by
    decide
  obtain ⟨c, hc, hstep⟩ := Option.map_eq_some_iff.mp hrun
  obtain ⟨c', hc', heq⟩ := Option.map_eq_some_iff.mp hstep
  simp only [Prod.mk.injEq, decide_eq_true_eq] at heq
  refine ⟨c, c', hc, hc', heq.1, heq.2, ?_⟩
  exact (items_follow_attempts (e := .reply 3 ⟨.reconcile 0 [], .turn⟩ (.ok ()))
    (System.Reach.of_runWhere hc) trivial hc' heq.1).1

def sampleBotCheck : List (Coop.Event sig Call) :=
  sampleStart ++
    [.call (.attempt 0 .needsUser captchaStopDetail),
      .call .tick,
      .reply 3 ⟨.facts 0, .loadCurrentFacts⟩ (.ok ⟨some "cv1", "p1"⟩),
      .reply 3 ⟨.select 0, .turn⟩ (.ok ()),
      .reply 3 ⟨.reconcile 0 [], .turn⟩ (.ok ()),
      .call (.attempt 0 .userReported ""),
      .call .tick,
      .reply 5 ⟨.facts 0, .loadCurrentFacts⟩ (.ok ⟨some "cv1", "p1"⟩)]

/-- The next turn of `tick` leaves the item as it is, and a later Stop stops an application that
was sent. -/
theorem not_nothingBehind_sampleBotCheck :
    ∃ c c' c₂, Reachable sampleHost sampleWorld c ∧
      (runner sampleHost).step c (.reply 5 ⟨.select 0, .turn⟩ (.ok ())) = some c' ∧
      c.shared.ended < c'.shared.ended ∧ ¬ NothingBehind c'.shared ∧
      (runner sampleHost).step c' (.call (.stop "stopped by you")) = some c₂ ∧
      ∃ r ∈ c₂.shared.db.items.rows, r.state = .stopped ∧ r.stateDetail = "Stopped by you" ∧
        ∃ x ∈ r.attemptId, Completed c₂.shared x := by
  have hrun : ((runner sampleHost).run (Cfg.init sampleWorld) sampleBotCheck).map (fun c =>
      ((runner sampleHost).step c (.reply 5 ⟨.select 0, .turn⟩ (.ok ()))).map fun c' =>
        (decide (c.shared.ended < c'.shared.ended), decide (NothingBehind c'.shared),
          ((runner sampleHost).step c' (.call (.stop "stopped by you"))).map fun c₂ =>
            decide (∃ r ∈ c₂.shared.db.items.rows, r.state = .stopped ∧
              r.stateDetail = "Stopped by you" ∧ ∃ x ∈ r.attemptId, Completed c₂.shared x))) =
      some (some (true, false, some true)) := by
    decide
  obtain ⟨c, hc, hstep⟩ := Option.map_eq_some_iff.mp hrun
  obtain ⟨c', hc', heq⟩ := Option.map_eq_some_iff.mp hstep
  simp only [Prod.mk.injEq, decide_eq_true_eq, decide_eq_false_iff_not] at heq
  obtain ⟨hended, hbehind, hstop⟩ := heq
  obtain ⟨c₂, hc₂, hsent⟩ := Option.map_eq_some_iff.mp hstop
  exact ⟨c, c', c₂, System.Reach.of_run hc, hc', hended, hbehind, hc₂, by simpa using hsent⟩

end Runs

end VacancyRadar.BlindApply
