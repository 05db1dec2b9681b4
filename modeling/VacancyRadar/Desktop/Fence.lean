import VacancyRadar.BlindApply.Trail
import VacancyRadar.Desktop.Effects
import VacancyRadar.Desktop.Uses

/-!
# The preparation fence

A preparation that was abandoned keeps running, and its awaits resolve whenever they do.  It is
fenced out: its generation is not the live one of its attempt any more and never will be again.
Its turns then leave the database alone, because every write is preceded, in its own turn, by a
look at the fence.  One write is not: the field mapper of Blind Apply, which
`fillApplicationForm` calls right after it has opened the page.
-/

namespace VacancyRadar.Desktop

open Coop Data Workspace Prog

/-! ## Fenced out -/

def FencedOut (run : PipelineRun) (s : State) : Prop :=
  s.livePreparations run.attemptId ≠ some run.generation ∧
    run.generation ≤ s.nextPreparationGeneration

lemma generation_mono (o : Op) (s : State) :
    s.nextPreparationGeneration ≤ (Op.run o s).1.nextPreparationGeneration := by
  cases o with
  | beginFence lease => exact Nat.le_succ _
  | unregisterReview x review =>
    simp only [Op.run]
    split <;> exact le_rfl
  | closeReview x =>
    simp only [Op.run]
    split <;> exact le_rfl
  | endFence x g =>
    simp only [Op.run]
    split <;> exact le_rfl
  | _ => exact le_rfl

lemma update_none_ne {f : ℕ → Option ℕ} {x y g : ℕ} (h : f x ≠ some g) :
    Function.update f y none x ≠ some g := by
  by_cases hxy : x = y
  · subst hxy
    simp
  · rwa [Function.update_of_ne hxy]

variable {x : ℕ} {s s₀ : State} {o : Call ⊕ sig.Port} {w : Wait} {a : Op} {review : Review}
  {input : FillInput} {cv : CvDocument} {kind : DraftKind} {fileName : String} {origin : DraftOrigin}
  {content : DraftContent} {critiqueRunId : Option String} {valueTable : List (String × String)}
  {documents : Documents}

lemma FencedOut.run {run : PipelineRun} (h : FencedOut run s) (o : Op) :
    FencedOut run (Op.run o s).1 := by
  refine ⟨?_, h.2.trans (generation_mono o s)⟩
  cases o with
  | beginFence lease =>
    change Function.update s.livePreparations lease.attemptId _ run.attemptId ≠ _
    by_cases hx : run.attemptId = lease.attemptId
    · rw [hx, Function.update_self]
      intro heq
      have hg := Option.some.inj heq
      have hle := h.2
      omega
    · rw [Function.update_of_ne hx]
      exact h.1
  | abandonFence x => exact update_none_ne h.1
  | unregisterReview x review =>
    simp only [Op.run]
    split <;> exact h.1
  | closeReview x =>
    simp only [Op.run]
    split <;> exact h.1
  | endFence x g =>
    simp only [Op.run]
    split
    · exact update_none_ne h.1
    · exact h.1
  | _ => exact h.1

/-! ## The contract -/

def MapsBlind (host : Host) (s : State) (x : ℕ) (input : FillInput) (current : FormSnapshot) :
    Prop :=
  current.challengeDetected = false ∧ (host.buildValueTable input.cv input.profile).isEmpty = false ∧
    input.attempt.workflowVersion = blindApplyWorkflowVersion ∧ host.hasFieldMapper = true ∧
    s.db.blind.handles x = true

instance (host : Host) (s : State) (x : ℕ) (input : FillInput) (current : FormSnapshot) :
    Decidable (MapsBlind host s x input current) :=
  inferInstanceAs (Decidable (_ ∧ _))

def OpensInTime (host : Host) (p : Port) (s : State) : Prop :=
  match p with
  | ⟨.prepare x g, .opened input (some current)⟩ =>
    s.livePreparations x ≠ some g → ¬MapsBlind host s x input current
  | _ => True

instance (host : Host) (p : Port) (s : State) : Decidable (OpensInTime host p s) := by
  unfold OpensInTime
  split <;> infer_instance

def fenceContract (host : Host) : Contract sig State Call where
  inv _ := True
  rely s t := s.nextPreparationGeneration ≤ t.nextPreparationGeneration
  point p s := ∀ x g, p.site = .prepare x g → g ≤ s.nextPreparationGeneration
  guar o s _ t := s.nextPreparationGeneration ≤ t.nextPreparationGeneration ∧
    ∀ x g w, o = .inr ⟨.prepare x g, w⟩ → FencedOut ⟨x, g⟩ s → t.db = s.db
  reply p _ s := OpensInTime host p s

section Turns

variable {host : Host} {run : PipelineRun} {α β : Type}

structure InTurn (run : PipelineRun) (o : Call ⊕ sig.Port) (s₀ s : State) : Prop where
  origin : ∀ x g w, o = .inr ⟨.prepare x g, w⟩ → run = ⟨x, g⟩
  minted : run.generation ≤ s.nextPreparationGeneration
  mono : s₀.nextPreparationGeneration ≤ s.nextPreparationGeneration
  quiet : FencedOut run s₀ → FencedOut run s ∧ s.db = s₀.db

lemma InTurn.guar (h : InTurn run o s₀ s) (d : Option sig.Port) : (fenceContract host).guar o s₀ d s:= by
  refine ⟨h.mono, fun x g w ho hout => ?_⟩
  obtain rfl := h.origin x g w ho
  exact (h.quiet hout).2

lemma InTurn.start (h : run.generation ≤ s.nextPreparationGeneration) :
    InTurn run (.inr ⟨run.site, w⟩) s s where
  origin x g w ho := by
    cases ho
    rfl
  minted := h
  mono := le_rfl
  quiet hout := ⟨hout, rfl⟩

lemma InTurn.of_live (h : InTurn run o s₀ s) (hlive : ¬FencedOut run s₀) (a : Op) :
    InTurn run o s₀ (Op.run a s).1 where
  origin := h.origin
  minted := h.minted.trans (generation_mono a s)
  mono := h.mono.trans (generation_mono a s)
  quiet hout := absurd hout hlive

lemma InTurn.of_db (h : InTurn run o s₀ s) (hdb : (Op.run a s).1.db = s.db) :
    InTurn run o s₀ (Op.run a s).1 where
  origin := h.origin
  minted := h.minted.trans (generation_mono a s)
  mono := h.mono.trans (generation_mono a s)
  quiet hout := ⟨(h.quiet hout).1.run a, hdb.trans (h.quiet hout).2⟩

lemma db_endFence (x g : ℕ) (s : State) : (Op.run (.endFence x g) s).1.db = s.db := by
  simp only [Op.run]
  split <;> rfl

def Fenced (host : Host) (run : PipelineRun) (x : Run α) : Prop :=
  ∀ o s₀ s, InTurn run o s₀ s →
    x.Meets (fenceContract host) Op.run (fun o s₀ _ t => InTurn run o s₀ t) o s₀ s

def FencedIn (host : Host) (run : PipelineRun) (x : Run α) : Prop :=
  ∀ o s₀ s, InTurn run o s₀ s → ¬FencedOut run s₀ →
    x.Meets (fenceContract host) Op.run (fun o s₀ _ t => InTurn run o s₀ t) o s₀ s

lemma Fenced.pure (a : α) : Fenced host run (pure a : Run α) := fun _ _ _ h => h

lemma Fenced.throw (e : DesktopError) : Fenced host run (throw e : Run α) := fun _ _ _ h => h

lemma Fenced.bind {x : Run α} {f : α → Run β} (hx : Fenced host run x)
    (hf : ∀ a, Fenced host run (f a)) : Fenced host run (x >>= f) := by
  intro o s₀ s h
  rw [meets_bind]
  refine (hx o s₀ s h).mono fun o s₀ r s hr => ?_
  cases r with
  | ok a => exact hf a o s₀ s hr
  | error e => exact hr

lemma Fenced.map {x : Run α} {f : α → β} (hx : Fenced host run x) : Fenced host run (f <$> x) :=
  hx.bind fun a => Fenced.pure (f a)

lemma Fenced.attempt {x : Run α} (hx : Fenced host run x) : Fenced host run x.attempt := by
  intro o s₀ s h
  rw [meets_attempt]
  exact hx o s₀ s h

lemma db_of_page (ha : PageOp x a) (s : State) : (Op.run a s).1.db = s.db:= by
  cases a <;> first
    | exact False.elim ha
    | rfl
    | (simp only [Op.run]; split <;> rfl)

lemma fenced_op (ha : PageOp x a) : Fenced host run (op a):= by
  intro o s₀ s h
  refine meets_exec.mpr fun _ => ⟨trivial, ?_⟩
  exact h.of_db (db_of_page ha s)

lemma fenced_close : Fenced host run (op (.closeReview x)):= by
  intro o s₀ s h
  refine meets_exec.mpr fun _ => ⟨trivial, h.of_db ?_⟩
  simp only [Op.run]
  split <;> rfl

lemma fenced_ask : Fenced host run (ask run.site w):= by
  intro o s₀ s h
  refine meets_wait.mpr ⟨h.guar _, ?_, fun r s' _ _ hpoint _ => ?_⟩
  · rintro x g ⟨⟩
    exact h.minted
  · exact InTurn.start (hpoint _ _ rfl)

lemma fenced_inner {x : Run α} (hx : Fenced host run x) : Fenced host run (inner run.site x) := by
  intro o s₀ s h
  refine meets_call.mpr ((hx o s₀ s h).mono fun o s₀ r s hr => ?_)
  refine ⟨hr.guar _, ?_, fun r' s' _ _ hpoint _ => InTurn.start (hpoint _ _ rfl)⟩
  rintro x g ⟨⟩
  exact hr.minted

lemma Fenced.ite {c : Prop} [Decidable c] {x y : Run α} (hx : Fenced host run x)
    (hy : Fenced host run y) : Fenced host run (if c then x else y) := by
  split
  · exact hx
  · exact hy

lemma Fenced.forEach {ρ : Type} {f : ρ → Run Unit} {xs : List ρ}
    (hf : ∀ x, Fenced host run (f x)) : Fenced host run (forEach xs f) := by
  induction xs with
  | nil => exact Fenced.pure ()
  | cons x xs ih => exact (hf x).bind fun _ => ih

lemma Fenced.fencedIn {x : Run α} (hx : Fenced host run x) : FencedIn host run x :=
  fun o s₀ s h _ => hx o s₀ s h

lemma fencedIn_op_bind {f : a.Res → Run β} (hf : ∀ r, FencedIn host run (f r)) :
    FencedIn host run (op a >>= f) := by
  intro o s₀ s h hlive
  refine meets_bind.mpr (meets_exec.mpr fun _ => ⟨trivial, ?_⟩)
  have hnext := h.of_live hlive a
  generalize (Op.run a s).2 = r at *
  cases r with
  | ok r => exact hf r _ _ _ hnext hlive
  | error e => exact hnext

lemma fencedIn_op : FencedIn host run (op a):= by
  intro o s₀ s h hlive
  exact meets_exec.mpr fun _ => ⟨trivial, h.of_live hlive a⟩

/-- **The look at the fence** separates the two kinds of turns. -/
lemma fenced_check {f : Bool → Run α} (hyes : FencedIn host run (f true))
    (hno : Fenced host run (f false)) : Fenced host run (isLivePreparation run >>= f) := by
  intro o s₀ s h
  refine meets_bind.mpr (meets_exec.mpr fun _ => ⟨trivial, ?_⟩)
  change andThen _ _ f _ o s₀
    (.ok (decide (s.livePreparations run.attemptId = some run.generation))) s
  by_cases hlive : s.livePreparations run.attemptId = some run.generation
  · rw [decide_eq_true hlive]
    exact hyes o s₀ s h fun hout => (h.quiet hout).1.1 hlive
  · rw [decide_eq_false hlive]
    exact hno o s₀ s h

lemma fenced_fencedWrite {write : Run α} (h : FencedIn host run write) :
    Fenced host run (fencedWrite run write) := by
  refine fenced_check ?_ (Fenced.pure none)
  intro o s₀ s hs hlive
  refine meets_bind.mpr ((h o s₀ s hs hlive).mono fun o s₀ r s hr => ?_)
  cases r with
  | ok a => exact hr
  | error e => exact hr

end Turns

/-! ## The stages of a preparation -/

section Stages

variable {host : Host} {run : PipelineRun}

lemma fenced_read (ha : ReadOp a) : Fenced host run (op a):=
  fenced_op (x := 0) (PageOp.of_read ha)

lemma fenced_isLivePreparation : Fenced host run (isLivePreparation run) := fenced_read (by trivial)

variable {checkpoint : Checkpoint} {current : FormSnapshot}

lemma fenced_settle {detail : String} {outcome : RunOutcome} :
    Fenced host run (settle run checkpoint detail outcome) :=
  (fenced_fencedWrite fencedIn_op).bind fun _ => .pure _

lemma fenced_advanceTo : Fenced host run (advanceTo run checkpoint) :=
  (fenced_fencedWrite fencedIn_op).bind fun _ => .pure _

lemma fenced_viewFor {attempt : Attempt} : Fenced host run (viewFor host attempt) :=
  (fenced_read (by trivial)).bind fun _ => (fenced_read (by trivial)).bind fun _ => .pure _

lemma fenced_snapshot {review : ℕ} : Fenced host run (snapshot run.site review) := by
  have hbody : Fenced host run (do
      let taken ← ask run.site (.snapshot review)
      op (.setSnapshot review taken)
      return taken) :=
    fenced_ask.bind fun taken => (fenced_op (x := 0) (by trivial)).bind fun _ => .pure taken
  intro o s₀ s h
  refine meets_call.mpr ((hbody o s₀ s h).mono fun o s₀ r s hr => ?_)
  refine ⟨hr.guar _, ?_, fun r' s' _ _ hpoint _ => InTurn.start (hpoint _ _ rfl)⟩
  rintro x g ⟨⟩
  exact hr.minted

lemma fenced_openApplicationReview {input : OpenInput} :
    Fenced host run (openApplicationReview host run.site input) := by
  have hregister : ∀ policyId targetUrl, Fenced host run
      (op (.registerReview input.attemptId policyId targetUrl)) :=
    fun _ _ => fenced_op (x := input.attemptId) rfl
  have hunregister : ∀ review, Fenced host run (op (.unregisterReview input.attemptId review)) :=
    fun _ => fenced_op (x := input.attemptId) rfl
  unfold openApplicationReview loadReview reopenReview
  repeat' first
    | with_reducible refine Fenced.bind ?_ fun _ => ?_
    | with_reducible refine Fenced.attempt ?_
    | with_reducible refine Fenced.map ?_
    | split
    | exact Fenced.pure _
    | exact Fenced.throw _
    | with_reducible exact fenced_snapshot
    | exact fenced_ask
    | exact hregister _ _
    | exact hunregister _
    | exact fenced_read (by trivial)
    | dsimp only

lemma fenced_verifyAttemptPosting : Fenced host run (verifyAttemptPosting host run) := by
  refine (fenced_read (by trivial)).bind fun attempt => ?_
  split
  · exact fenced_viewFor.bind fun _ => .pure _
  · refine (fenced_read (by trivial)).bind fun rows => (fenced_read (by trivial)).bind fun start => ?_
    split
    · exact fenced_viewFor.bind fun _ => .pure _
    · refine fenced_ask.bind fun observation => fenced_check ?_ ?_
      · refine fencedIn_op_bind fun fresh => fencedIn_op_bind fun rows => ?_
        refine fencedIn_op_bind fun written => ?_
        split
        · exact ((fenced_read (by trivial)).bind fun _ => .pure _).fencedIn
        · split
          · refine fencedIn_op_bind fun _ => fencedIn_op_bind fun _ => ?_
            exact (fenced_viewFor.bind fun _ => .pure _).fencedIn
          · refine fencedIn_op_bind fun _ => ?_
            exact (fenced_viewFor.bind fun _ => .pure _).fencedIn
      · exact (fenced_read (by trivial)).bind fun _ => .pure _

lemma fenced_actOnPosting {view : PostingView} : Fenced host run (actOnPosting host run view) := by
  unfold actOnPosting
  repeat' first
    | with_reducible refine Fenced.bind ?_ fun _ => ?_
    | split
    | exact Fenced.pure _
    | exact fenced_ask
    | exact fenced_settle
    | exact fenced_read (by trivial)

lemma fenced_checkPosting {attempt : Attempt} :
    Fenced host run (checkPosting host run attempt) := by
  unfold checkPosting
  repeat' first
    | with_reducible refine Fenced.bind ?_ fun _ => ?_
    | split
    | exact Fenced.pure _
    | with_reducible exact fenced_isLivePreparation
    | with_reducible exact fenced_inner fenced_verifyAttemptPosting
    | with_reducible exact fenced_actOnPosting
    | exact fenced_read (by trivial)

lemma fenced_fetchMissingJobDescription {attempt : Attempt} {mayFetch : Bool} :
    Fenced host run (fetchMissingJobDescription host run attempt mayFetch) := by
  unfold fetchMissingJobDescription
  repeat' first
    | with_reducible refine Fenced.bind ?_ fun _ => ?_
    | split
    | exact Fenced.pure _
    | exact fenced_ask.attempt
    | with_reducible exact fenced_fencedWrite fencedIn_op

lemma fenced_readJobDescription {attempt : Attempt} :
    Fenced host run (readJobDescription host run attempt) := by
  unfold readJobDescription
  repeat' first
    | with_reducible refine Fenced.bind ?_ fun _ => ?_
    | split
    | exact Fenced.pure _
    | with_reducible exact fenced_advanceTo
    | with_reducible exact fenced_checkPosting
    | with_reducible exact fenced_fetchMissingJobDescription
    | exact fenced_settle

lemma fenced_reusableRevisionDraft {attempt : Attempt} :
    Fenced host run (reusableRevisionDraft host attempt cv kind) :=
  (fenced_read (by trivial)).bind fun _ => .pure _

lemma fenced_generateApplicationTailoredResume :
    Fenced host run (generateApplicationTailoredResume run cv) := by
  unfold generateApplicationTailoredResume
  repeat' first
    | with_reducible refine Fenced.bind ?_ fun _ => ?_
    | split
    | exact Fenced.pure _
    | exact Fenced.throw _
    | exact fenced_ask

lemma fenced_tailorResume {attempt : Attempt} {profile : Option String} :
    Fenced host run (tailorResume host run attempt cv profile) := by
  unfold tailorResume
  repeat' first
    | with_reducible refine Fenced.bind ?_ fun _ => ?_
    | split
    | exact Fenced.pure _
    | with_reducible exact fenced_reusableRevisionDraft
    | with_reducible exact (fenced_inner fenced_generateApplicationTailoredResume).attempt
    | exact fenced_settle

lemma fenced_prepareLetters {attempt : Attempt} :
    Fenced host run (prepareLetters host run attempt cv) := by
  unfold prepareLetters loadCompanyEvidence
  repeat' first
    | with_reducible refine Fenced.bind ?_ fun _ => ?_
    | split
    | exact Fenced.pure _
    | exact fenced_ask.attempt
    | with_reducible exact fenced_reusableRevisionDraft
    | exact fenced_read (by trivial)
    | dsimp only

lemma fenced_writeAndRegisterArtifact {kind : ArtifactKind} {rendered : Rendered} :
    Fenced host run (writeAndRegisterArtifact host run kind fileName rendered) := by
  refine fenced_isLivePreparation.bind fun live => ?_
  split
  · exact Fenced.throw _
  · refine fenced_ask.bind fun _ => fenced_check ?_ ?_
    · refine fencedIn_op_bind fun registered => ?_
      have hremove : Fenced host run (forEach registered.2 fun path => do
          let _ ← (ask run.site (.removeFile path)).attempt) :=
        Fenced.forEach fun _ => fenced_ask.attempt.bind fun _ => .pure _
      exact (hremove.bind fun _ => .pure registered.1).fencedIn
    · refine (fenced_read (by trivial)).bind fun artifacts => ?_
      split
      · exact fenced_ask.attempt.bind fun _ => Fenced.throw _
      · exact Fenced.throw _

lemma fenced_recordDraftOf {attempt : Attempt} {artifactHash : String} :
    Fenced host run
      (recordDraftOf host run attempt kind origin content artifactHash critiqueRunId) :=
  (fenced_fencedWrite fencedIn_op).attempt.bind fun _ => .pure _

lemma fenced_stageDocument {attempt : Attempt} {artifactKind : ArtifactKind} :
    Fenced host run
      (stageDocument host run attempt artifactKind fileName kind origin content critiqueRunId) := by
  have hstage : Fenced host run (stageHtmlArtifact host run artifactKind fileName) :=
    fenced_ask.bind fun _ => fenced_writeAndRegisterArtifact
  refine (fenced_fencedWrite (fenced_inner hstage).fencedIn).bind fun staged => ?_
  split
  · exact Fenced.pure _
  · exact fenced_recordDraftOf.bind fun _ => .pure _

lemma fenced_stageCv {attempt : Attempt} {cv : PreparedCv} :
    Fenced host run (stageCv host run attempt cv) := by
  unfold stageCv
  repeat' first
    | with_reducible refine Fenced.bind ?_ fun _ => ?_
    | split
    | exact Fenced.pure _
    | with_reducible exact fenced_stageDocument.attempt
    | exact fenced_settle

lemma fenced_stageLetters {attempt : Attempt} (letters : List PreparedLetter)
    (records : List Artifact) (blocker : Option String) :
    Fenced host run (stageLetters host run attempt letters records blocker) := by
  induction letters generalizing records blocker with
  | nil => exact Fenced.pure _
  | cons letter rest ih =>
    rw [stageLetters]
    repeat' first
      | with_reducible refine Fenced.bind ?_ fun _ => ?_
      | split
      | exact Fenced.pure _
      | exact ih _ _
      | with_reducible exact fenced_stageDocument.attempt

lemma fenced_prepareDocuments {attempt : Attempt} :
    Fenced host run (prepareDocuments host run attempt) := by
  unfold prepareDocuments
  repeat' first
    | with_reducible refine Fenced.bind ?_ fun _ => ?_
    | split
    | exact Fenced.pure _
    | exact fenced_settle
    | with_reducible exact fenced_tailorResume
    | with_reducible exact fenced_isLivePreparation
    | with_reducible exact fenced_advanceTo
    | with_reducible exact fenced_prepareLetters
    | with_reducible exact fenced_fencedWrite fencedIn_op
    | with_reducible exact fenced_stageCv
    | with_reducible exact fenced_stageLetters _ _ _
    | exact fenced_ask
    | exact fenced_read (by trivial)

lemma fenced_resolveUploads (assignments : List Assignment) (planned : List (String × UploadFile)) :
    Fenced host run (resolveUploads host run review assignments planned) := by
  induction assignments generalizing planned with
  | nil => exact Fenced.pure _
  | cons assignment rest ih =>
    obtain ⟨fieldRef, source⟩ := assignment
    cases source <;> rw [resolveUploads] <;>
    repeat' first
      | with_reducible refine Fenced.bind ?_ fun _ => ?_
      | split
      | exact Fenced.pure _
      | exact ih _
      | with_reducible exact fenced_isLivePreparation
      | exact fenced_ask

lemma fenced_fillFields (assignments : List Assignment) :
    Fenced host run (fillFields run review valueTable assignments) := by
  induction assignments with
  | nil => exact Fenced.pure _
  | cons assignment rest ih =>
    obtain ⟨fieldRef, source⟩ := assignment
    cases source <;> rw [fillFields] <;>
    repeat' first
      | with_reducible refine Fenced.bind ?_ fun _ => ?_
      | split
      | exact Fenced.pure _
      | exact ih
      | with_reducible exact fenced_isLivePreparation
      | exact fenced_ask
      | exact Fenced.throw _

lemma fenced_attachUploads (uploads : List (String × UploadFile)) :
    Fenced host run (attachUploads run review uploads) := by
  induction uploads with
  | nil => exact Fenced.pure _
  | cons upload rest ih =>
    rw [attachUploads]
    repeat' first
      | with_reducible refine Fenced.bind ?_ fun _ => ?_
      | split
      | exact Fenced.pure _
      | exact ih
      | with_reducible exact fenced_isLivePreparation
      | exact fenced_ask.attempt
      | exact fenced_ask
      | exact Fenced.throw _

lemma fenced_applyApplicationFieldMap {map : SanitisedFieldMap} :
    Fenced host run (applyApplicationFieldMap host run map) := by
  unfold applyApplicationFieldMap
  repeat' first
    | with_reducible refine Fenced.bind ?_ fun _ => ?_
    | split
    | exact Fenced.pure _
    | with_reducible exact fenced_resolveUploads _ _
    | with_reducible exact fenced_fillFields _
    | with_reducible exact fenced_attachUploads _
    | exact fenced_ask
    | exact Fenced.throw _
    | exact fenced_read (by trivial)
    | dsimp only

lemma fenced_recordForm {map : SanitisedFieldMap} {readiness : Readiness} :
    Fenced host run (recordForm host run current map readiness) := by
  refine (fenced_fencedWrite fencedIn_op).bind fun _ => ?_
  exact .ite fenced_settle (.ite fenced_settle fenced_settle)

lemma fenced_applyMap (mapped : RunResult ⊕ SanitisedFieldMap) :
    Fenced host run (applyMap host run current mapped) := by
  unfold applyMap
  repeat' first
    | with_reducible refine Fenced.bind ?_ fun _ => ?_
    | split
    | exact Fenced.pure _
    | with_reducible exact fenced_isLivePreparation
    | with_reducible exact fenced_inner fenced_applyApplicationFieldMap
    | exact fenced_settle
    | with_reducible exact fenced_recordForm

lemma db_fieldMapper {mapAnswers : MapAnswers} (h : s.db.blind.handles x = false) :
    (Op.run (.fieldMapper x mapAnswers) s).1.db = s.db:= by
  have hblind : (s.db.blind.fieldMapper x (fun find => (mapAnswers find).1) s.clock).1 =
      s.db.blind := BlindApply.Store.fieldMapper_of_not_handles h
  have hdb : (Op.run (.fieldMapper x mapAnswers) s).1.db = { s.db with
      blind := (s.db.blind.fieldMapper x (fun find => (mapAnswers find).1) s.clock).1 } := rfl
  rw [hdb, hblind]

lemma meets_mapForm (h : InTurn run o s₀ s) (hchallenge : current.challengeDetected = false)
    (hvalues : (host.buildValueTable input.cv input.profile).isEmpty = false)
    (hmap : FencedOut run s₀ → ¬MapsBlind host s₀ run.attemptId input current) :
    (mapForm host run input current (host.buildValueTable input.cv input.profile)).Meets
      (fenceContract host) Op.run (fun o s₀ _ t => InTurn run o s₀ t) o s₀ s := by
  unfold mapForm
  split
  · rename_i hworkflow
    split
    · exact (fenced_settle.bind fun _ => .pure _) o s₀ s h
    · rename_i hmapper
      refine meets_bind.mpr (meets_exec.mpr fun _ => ⟨trivial, ?_⟩)
      have hnext : ∀ mapAnswers, InTurn run o s₀
          (Op.run (.fieldMapper run.attemptId mapAnswers) s).1 := by
        intro mapAnswers
        by_cases hout : FencedOut run s₀
        · refine h.of_db (db_fieldMapper ?_)
          rw [(h.quiet hout).2]
          by_contra hhandles
          refine hmap hout ⟨hchallenge, hvalues, hworkflow, ?_, ?_⟩
          · simpa using hmapper
          · simpa using hhandles
        · exact h.of_live hout _
      generalize host.mapBlindApplyAnswers input.attempt current _ input.stagedArtifacts = answers
      have hturn := hnext answers
      generalize (Op.run (.fieldMapper run.attemptId answers) s).2 = r
      cases r with
      | error e => exact hturn
      | ok mapped =>
        cases mapped with
        | inl detail => exact (fenced_settle.bind fun _ => .pure _) _ _ _ hturn
        | inr map => exact hturn
  · refine Fenced.bind (fenced_ask) (fun generation => ?_) o s₀ s h
    repeat' first
      | with_reducible refine Fenced.bind ?_ fun _ => ?_
      | split
      | exact Fenced.pure _
      | with_reducible exact fenced_isLivePreparation
      | exact fenced_settle

lemma meets_fillOpenedForm (h : InTurn run o s₀ s)
    (hmap : FencedOut run s₀ → ¬MapsBlind host s₀ run.attemptId input current) :
    (fillOpenedForm host run input current).Meets
      (fenceContract host) Op.run (fun o s₀ _ t => InTurn run o s₀ t) o s₀ s := by
  refine meets_ite.mpr ⟨fun _ => fenced_settle o s₀ s h, fun hchallenge => ?_⟩
  refine meets_ite.mpr ⟨fun _ => fenced_settle o s₀ s h, fun hvalues => ?_⟩
  rw [Bool.not_eq_true] at hchallenge hvalues
  refine meets_bind.mpr ((meets_mapForm h hchallenge hvalues hmap).mono fun o s₀ r s hr => ?_)
  cases r with
  | ok mapped => exact fenced_applyMap mapped o s₀ s hr
  | error e => exact hr

lemma fenced_fillApplicationForm : Fenced host run (fillApplicationForm host run input):= by
  refine fenced_isLivePreparation.bind fun live => .ite (.pure _) ?_
  refine fenced_openApplicationReview.attempt.bind fun opened o s₀ s h => ?_
  -- the page may have opened after the run was fenced out
  refine meets_bind.mpr (meets_wait.mpr ⟨h.guar _, ?_, fun r s' _ _ hpoint hreply => ?_⟩)
  · rintro x g ⟨⟩
    exact h.minted
  · have hturn : InTurn run (.inr ⟨run.site, .opened input opened.toOption⟩) s' s' :=
      InTurn.start (hpoint _ _ rfl)
    cases r with
    | error e => exact hturn
    | ok u =>
      cases opened with
      | error e => exact fenced_settle _ _ _ hturn
      | ok current => exact meets_fillOpenedForm hturn fun hout => hreply hout.1

lemma fenced_prepareForm {attempt : Attempt} {policyId : String} :
    Fenced host run (prepareForm host run attempt policyId documents) := by
  unfold prepareForm
  repeat' first
    | with_reducible refine Fenced.bind ?_ fun _ => ?_
    | split
    | exact Fenced.pure _
    | with_reducible exact fenced_isLivePreparation
    | with_reducible exact fenced_advanceTo
    | with_reducible exact fenced_fencedWrite fencedIn_op
    | with_reducible exact (fenced_inner fenced_fillApplicationForm).attempt
    | with_reducible exact fenced_inner fenced_close
    | exact fenced_settle
    | dsimp only

lemma fenced_deliver {attempt : Attempt} : Fenced host run (deliver host run attempt documents):= by
  unfold deliver
  repeat' first
    | with_reducible refine Fenced.bind ?_ fun _ => ?_
    | split
    | exact fenced_settle
    | exact fenced_ask
    | with_reducible exact fenced_prepareForm

/-- **A preparation** writes only in turns in which it is not fenced out. -/
theorem fenced_runApplicationAttempt : Fenced host run (runApplicationAttempt host run) := by
  unfold runApplicationAttempt
  repeat' first
    | with_reducible refine Fenced.bind ?_ fun _ => ?_
    | split
    | exact Fenced.pure _
    | exact fenced_ask
    | exact fenced_settle
    | with_reducible exact fenced_readJobDescription
    | with_reducible exact fenced_prepareDocuments
    | with_reducible exact fenced_deliver
    | exact fenced_read (by trivial)

end Stages

/-! ## All runs -/

section Runs

variable {host : Host}

lemma meets_of_uses {P : Op → Prop} {V : Port → Prop} {α : Type} {x : Run α} {z : Call}
    (hx : Uses (S := sig) P V x) (hV : ∀ p, V p → ∀ y g, p.site ≠ .prepare y g) :
    x.Meets (fenceContract host) Op.run (fun o s₀ _ t => (fenceContract host).guar o s₀ none t)
      (.inl z) s s := by
  let T : State → State → Prop := fun s t =>
    s.nextPreparationGeneration ≤ t.nextPreparationGeneration
  have hsafe : Safe ((fenceContract host).along V) Op.run x :=
    hx.safe (fun _ _ _ _ => trivial)
      (fun p s hp => ⟨hp, fun y g hy => absurd hy (hV p hp y g)⟩) fun _ _ _ _ _ => trivial
  refine (Meets.of_along (T := T) ?_ (fun _ => le_rfl) (fun h₁ h₂ => le_trans h₁ h₂)
    (fun a s _ _ => generation_mono a s) (hsafe (.inl z) s s) ?_).mono ?_
  · intro p s d t hp _ hT
    refine ⟨hT, fun y g w ho => ?_⟩
    cases ho
    exact absurd rfl (hV _ hp y g)
  · exact fun d t _ hT => ⟨hT, fun y g w ho => nomatch ho⟩
  · exact fun o s₀ r t h => h.2 none (by simp)

lemma meets_runNext :
    (runNextApplicationAttempt host).Meets (fenceContract host) Op.run
      (fun o s₀ _ t => (fenceContract host).guar o s₀ none t) (.inl .runNext) s s := by
  have hguar : ∀ {w : Wait} {s t : State} {d : Option sig.Port},
      s.nextPreparationGeneration ≤ t.nextPreparationGeneration →
        (fenceContract host).guar (.inr ⟨.worker, w⟩) s d t :=
    fun hT => ⟨hT, fun x g w ho => nomatch ho⟩
  refine meets_bind.mpr (meets_wait.mpr ⟨?_, nofun, fun r s₀ _ _ _ _ => ?_⟩)
  · exact ⟨le_rfl, fun x g w ho => nomatch ho⟩
  · cases r with
    | error e => exact hguar le_rfl
    | ok lease =>
      cases lease with
      | none => exact hguar le_rfl
      | some lease =>
        refine meets_bind.mpr (meets_exec.mpr fun _ => ⟨trivial, ?_⟩)
        let run : PipelineRun := ⟨lease.attemptId, s₀.nextPreparationGeneration + 1⟩
        have hturn : InTurn run (.inr ⟨.worker, .acquireLease⟩) s₀
            (Op.run (.beginFence lease) s₀).1 :=
          { origin := fun x g w ho => nomatch ho
            minted := le_rfl
            mono := Nat.le_succ _
            quiet := fun hout => absurd hout.2 (Nat.not_succ_le_self _) }
        have hrun : Fenced host run (runApplicationAttempt host run) := fenced_runApplicationAttempt
        refine meets_bind.mpr (((fenced_inner hrun).attempt _ _ _ hturn).mono fun o s₁ r t hr => ?_)
        cases r with
        | error e => exact hr.guar none
        | ok result =>
          refine meets_bind.mpr (meets_exec.mpr fun _ => ⟨trivial, ?_⟩)
          have hsettled := hr.of_db (a := .settled run.generation) rfl
          refine meets_ite.mpr ⟨fun _ => ?_, fun _ => hsettled.guar none⟩
          refine meets_bind.mpr (meets_exec.mpr fun _ => ⟨trivial, ?_⟩)
          have hend := hsettled.of_db (a := .endFence run.attemptId run.generation)
            (db_endFence _ _ _)
          refine meets_wait.mpr ⟨hend.guar _, nofun, fun r s' _ _ _ _ => hguar le_rfl⟩

theorem fenceContract_sound : (fenceContract host).Sound (desktop host) fun _ _ => True where
  rely_refl _ := le_rfl
  rely_trans h₁ h₂ := le_trans h₁ h₂
  rely_of_guar _ h := h.1
  inv_of_guar _ _ := trivial
  point_of_guar _ hp _ h x g hx := (hp x g hx).trans h.1
  compat_symm _ := trivial
  compat_of_guar _ _ _ _ := trivial
  body x s _ _ := by
    by_cases hx : x.Works
    · cases x with
      | runNext => exact meets_runNext
      | ceiling g =>
        refine meets_of_uses uses_abandonPreparation fun p hp y g hy => ?_
        rw [hp] at hy
        cases hy
      | _ => exact False.elim hx
    · refine meets_of_uses (apart_body hx) fun p hp y g hy => ?_
      rw [Outside, hy] at hp
      cases hp
  restart _ _ := trivial

/-- A page opens for a run that is fenced out only where the mapper of Blind Apply does not act. -/
def PagesInTime (host : Host) (c : Cfg sig State) : Event sig Call → Prop
  | .reply _ p _ => OpensInTime host p c.shared
  | _ => True

instance (host : Host) (c : Cfg sig State) (e : Event sig Call) :
    Decidable (PagesInTime host c e) :=
  match e with
  | .call _ => inferInstanceAs (Decidable True)
  | .reply _ p _ => inferInstanceAs (Decidable (OpensInTime host p c.shared))
  | .crash => inferInstanceAs (Decidable True)

lemma allowed_of_pagesInTime {c : Cfg sig State} {e : Event sig Call} (h : PagesInTime host c e) :
    (fenceContract host).Allowed (desktop host) c e := by
  refine ⟨fun _ _ => trivial, ?_⟩
  cases e with
  | call x => exact ⟨trivial, fun _ _ _ _ => trivial⟩
  | reply i p r => exact ⟨h, fun _ _ _ _ _ => trivial⟩
  | crash => trivial

/-- **A run that is fenced out writes nothing as long as pages open in time.**  In every run of the
process in which no page opens for a preparation that is fenced out while the mapper of Blind Apply
would act, every turn of a preparation that is not the live one of its attempt leaves the whole
database as it was. -/
theorem fenced_out_writes_nothing (host : Host) (db : Database) (world : World)
    {c c' : Cfg sig State} {i x g : ℕ} {w : Wait} {r : Except DesktopError w.Rep}
    (hreach : (desktop host).Reach (PagesInTime host) (started db world) c)
    (hok : PagesInTime host c (.reply i ⟨.prepare x g, w⟩ r))
    (hout : c.shared.livePreparations x ≠ some g)
    (hstep : (desktop host).step c (.reply i ⟨.prepare x g, w⟩ r) = some c') :
    c'.shared.db = c.shared.db := by
  have hgood : (fenceContract host).Good Op.run (fun _ _ => True) c :=
    Contract.good_of_reach fenceContract_sound (Contract.Good.start trivial)
      (hreach.mono fun _ _ => allowed_of_pagesInTime)
  obtain ⟨y, hy, -⟩ := System.step_reply hstep
  obtain ⟨k, hk, -⟩ := System.turn_reply hy
  have hminted : g ≤ c.shared.nextPreparationGeneration := hgood.point i _ k hk x g rfl
  obtain ⟨d, hguar⟩ :=
    hgood.guar_step fenceContract_sound (allowed_of_pagesInTime hok) rfl hstep
  exact hguar.2 x g w rfl ⟨hout, hminted⟩

def abandonedWhileTailoring : List (Event sig Call) :=
  [.call .runNext,
    .reply 0 ⟨.worker, .acquireLease⟩ (.ok (some ⟨0, 0⟩)),
    .reply 0 ⟨.prepare 0 1, .entryState 0⟩ (.ok none),
    .reply 0 ⟨.prepare 0 1, .loadProfile⟩ (.ok none),
    .call (.ceiling 1),
    .reply 0 ⟨.prepare 0 1, .tailor⟩ (.error (.other "the session ended"))]

/-- The session fails, and the preparation does not report it. -/
theorem fenced_out_writes_nothing_tailoring :
    ∃ c c', (desktop sampleHost).Reach (PagesInTime sampleHost)
        (started (sampleDb [.queued]) sampleWorld) c ∧
      (desktop sampleHost).step c (.reply 0 ⟨.prepare 0 1, .returned⟩ (.ok ())) = some c' ∧
      c.shared.livePreparations 0 = none ∧ c'.shared.db = c.shared.db := by
  have hrun : ((desktop sampleHost).runWhere (PagesInTime sampleHost)
      (started (sampleDb [.queued]) sampleWorld) abandonedWhileTailoring).map (fun c =>
        (c.shared.livePreparations 0,
          ((desktop sampleHost).step c (.reply 0 ⟨.prepare 0 1, .returned⟩ (.ok ()))).isSome)) =
      some (none, true) := by
    decide
  obtain ⟨c, hc, hpair⟩ := Option.map_eq_some_iff.mp hrun
  obtain ⟨hlive, hstep⟩ := Prod.mk.inj hpair
  obtain ⟨c', hc'⟩ := Option.isSome_iff_exists.mp hstep
  have hreach := System.Reach.of_runWhere hc
  have hout : c.shared.livePreparations 0 ≠ some 1 := by
    rw [hlive]
    exact nofun
  have hok : PagesInTime sampleHost c (.reply 0 ⟨.prepare 0 1, .returned⟩ (.ok ())) := trivial
  exact ⟨c, c', hreach, hc', hlive,
    fenced_out_writes_nothing sampleHost _ _ hreach hok hout hc'⟩

def sampleBlindAttempt (id : ℕ) : Attempt :=
  { sampleAttempt .queued id with
    workflowVersion := blindApplyWorkflowVersion
    tailoringMode := .original }

def sampleBlindDb : Database :=
  let authorized := (BlindApply.Store.empty.createBlindApplyAuthorization
    BlindApply.Store.sampleAuthorization 0).1
  let queued := (authorized.insertBlindApplyItem (BlindApply.Store.sampleInput "v1") 1).1
  { Database.empty with
    attempts := (∅ : Table Attempt).insert sampleBlindAttempt fun _ => rfl
    blind := (queued.transitionBlindApplyItem 0 [.queued] .preparing
      { attemptId := some (some 0) } { kind := .prepare } 3).1 }

def sampleFill : FillInput where
  attempt := sampleBlindAttempt 0
  policyId := "policy"
  cv := sampleCv
  profile := none
  stagedArtifacts :=
    [⟨0, 0, .cvPdf, "resume.pdf", 1, "cv", "cv-resume.pdf"⟩,
      ⟨1, 0, .coverLetterPdf, "cover-letter.pdf", 1, "letter", "letter-cover-letter.pdf"⟩]

def abandonedWhileOpening : List (Event sig Call) :=
  [.call .runNext,
    .reply 0 ⟨.worker, .acquireLease⟩ (.ok (some ⟨0, 0⟩)),
    .reply 0 ⟨.prepare 0 1, .entryState 0⟩ (.ok none),
    .reply 0 ⟨.prepare 0 1, .loadProfile⟩ (.ok none),
    .reply 0 ⟨.prepare 0 1, .coverLetter⟩ (.ok ⟨"Dear Acme", [], []⟩),
    .reply 0 ⟨.prepare 0 1, .render "resume.pdf"⟩ (.ok ⟨"cv", 1⟩),
    .reply 0 ⟨.prepare 0 1, .writeFile "cv-resume.pdf"⟩ (.ok ()),
    .reply 0 ⟨.prepare 0 1, .returned⟩ (.ok ()),
    .reply 0 ⟨.prepare 0 1, .render "cover-letter.pdf"⟩ (.ok ⟨"letter", 1⟩),
    .reply 0 ⟨.prepare 0 1, .writeFile "letter-cover-letter.pdf"⟩ (.ok ()),
    .reply 0 ⟨.prepare 0 1, .returned⟩ (.ok ()),
    .reply 0 ⟨.prepare 0 1, .entryState 0⟩ (.ok none),
    .reply 0 ⟨.prepare 0 1, .openTarget 0⟩ (.ok ()),
    .reply 0 ⟨.prepare 0 1, .snapshot 0⟩ (.ok samplePage),
    .reply 0 ⟨.prepare 0 1, .snapshotTaken⟩ (.ok ()),
    .reply 0 ⟨.prepare 0 1, .capture 0⟩ (.ok ()),
    .call (.ceiling 1),
    .reply 0 ⟨.prepare 0 1, .readiness 0⟩ (.ok ⟨true, []⟩)]

/-- The page opens, and the mapper writes into the trail of the item. -/
theorem fenced_out_maps_blind :
    ∃ c c', (desktop sampleHost).run (started sampleBlindDb sampleWorld)
        abandonedWhileOpening = some c ∧
      (desktop sampleHost).step c
        (.reply 0 ⟨.prepare 0 1, .opened sampleFill (some samplePage)⟩ (.ok ())) = some c' ∧
      c.shared.livePreparations 0 = none ∧
      c.shared.db.blind.events.rows.map (BlindApply.Event.kind) = [.gate, .prepare] ∧
      c'.shared.db.blind.events.rows.map (BlindApply.Event.kind) =
        [.gate, .prepare, .answerUsed] := by
  have hrun : ((desktop sampleHost).run (started sampleBlindDb sampleWorld)
      abandonedWhileOpening).map (fun c => (c.shared.livePreparations 0,
        c.shared.db.blind.events.rows.map BlindApply.Event.kind,
        ((desktop sampleHost).step c
          (.reply 0 ⟨.prepare 0 1, .opened sampleFill (some samplePage)⟩ (.ok ()))).map fun c' =>
            c'.shared.db.blind.events.rows.map BlindApply.Event.kind)) =
      some (none, [.gate, .prepare], some [.gate, .prepare, .answerUsed]) := by
    decide
  obtain ⟨c, hc, hrest⟩ := Option.map_eq_some_iff.mp hrun
  obtain ⟨hlive, hrest⟩ := Prod.mk.inj hrest
  obtain ⟨hevents, hstep⟩ := Prod.mk.inj hrest
  obtain ⟨c', hc', hevents'⟩ := Option.map_eq_some_iff.mp hstep
  exact ⟨c, c', hc, hc', hlive, hevents, hevents'⟩

end Runs

end VacancyRadar.Desktop
