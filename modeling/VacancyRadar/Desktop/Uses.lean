import VacancyRadar.Desktop.System

/-!
# What the programs of the process are made of

Which operations the functions execute and where they wait, read off their text.  A preparation
writes nothing but its own attempt, and it explains a new checkpoint only where it settles.
-/

namespace VacancyRadar.Desktop

open Coop Data Workspace Prog

/-! ## Kinds of operations -/

def ReadOp : Op → Prop
  | .now | .world | .getAttempt _ | .listAttempts | .listArtifacts _ | .currentDrafts _
  | .postings _ | .activeReview _ | .currentSnapshot _ | .handoff | .isSubmitting _
  | .isLive _ _ => True
  | _ => False

def PageOp (x : ℕ) : Op → Prop
  | .setSnapshot _ _ => True
  | .registerReview y _ _ | .unregisterReview y _ => y = x
  | o => ReadOp o

def PrepareOp (x : ℕ) : Op → Prop
  | .updateAttempt y patch =>
    y = x ∧ (patch.checkpoint = none ∨
      patch.checkpointDetail = some "" ∧ ∃ c ∈ Checkpoint.interrupted, patch.checkpoint = some c)
  | .settle y checkpoint _ => y = x ∧ checkpoint ∉ Checkpoint.submitting :: Checkpoint.completed
  | .recordPrepared y _ | .recordFetched y _ _ _ | .recordPosting y _
  | .registerArtifact y _ _ _ _ | .recordEvidence y _ | .fieldMapper y _ | .closeReview y => y = x
  | .recordDraft input => input.attemptId = x
  | o => PageOp x o

variable {o : Op} {K : Contract sig State Call} {review : Review} {input : OpenInput} {attemptId : ℕ}
  {mode : SubmissionMode} {askBefore : Bool} {detail fileName : String} {cv : CvDocument} {kind : DraftKind}
  {origin : DraftOrigin} {content : DraftContent} {critiqueRunId : Option String}
  {valueTable : List (String × String)} {documents : Documents} {firing : Option ℕ} {c : Call}
  {ok : Cfg sig State → Event sig Call → Prop}

lemma PageOp.of_read {x : ℕ} (h : ReadOp o) : PageOp x o:= by
  cases o <;> first | exact h | exact False.elim h

lemma PrepareOp.of_page {x : ℕ} (h : PageOp x o) : PrepareOp x o:= by
  cases o <;> first | exact h | exact False.elim h

lemma state_of_read {a : Op} (ha : ReadOp a) (s : State) : (Op.run a s).1 = s := by
  cases a <;> first
    | exact False.elim ha
    | rfl

lemma meets_read_bind {β : Type} {a : Op} {f : a.Res → Run β} {Q : Post sig State Call β}
    {o : Call ⊕ sig.Port} {s₀ s : State} (hpre : K.pre a s) (ha : ReadOp a)
    (hok : ∀ r, (Op.run a s).2 = .ok r → (f r).Meets K Op.run Q o s₀ s) (herror : ∀ e, Q o s₀ (.error e) s) :
    (op a >>= f).Meets K Op.run Q o s₀ s:= by
  refine meets_bind.mpr (meets_exec.mpr fun _ => ⟨hpre, ?_⟩)
  rw [state_of_read ha]
  cases hr : (Op.run a s).2 with
  | ok r => exact hok r hr
  | error e => exact herror e

/-- The program executes only operations in `P` and waits only at `site`. -/
abbrev Within {α : Type} (P : Op → Prop) (site : Site) (x : Run α) : Prop :=
  Uses (S := sig) P (fun p => p.site = site) x

section Basic

variable {α : Type} {P : Op → Prop} {V : Port → Prop} {site : Site}

lemma uses_op (h : P o) : Uses (S := sig) P V (op o):= Uses.exec h

lemma uses_ask {wait : Wait} : Within P site (ask site wait) := Uses.wait rfl

lemma uses_inner {x : Run α} (hx : Within P site x) : Within P site (inner site x) :=
  Uses.call hx rfl

end Basic

/-! ## Reviews -/

section Review

variable {host : Host} {site : Site} {x : ℕ}

lemma uses_snapshot {review : ℕ} : Within (PageOp x) site (snapshot site review) := by
  refine Uses.call ?_ rfl
  refine uses_ask.bind fun taken => ?_
  exact (uses_op trivial).bind fun _ => .ret taken

lemma uses_reopenReview {existing : Review} :
    Within (PageOp x) site (reopenReview site input existing) := by
  unfold reopenReview
  repeat' first
    | with_reducible refine Uses.bind ?_ fun _ => ?_
    | split
    | exact Uses.pure _
    | exact Uses.throw _
    | exact uses_snapshot.map
    | exact uses_op trivial
    | exact uses_ask
    | dsimp only

lemma uses_loadReview {review : ℕ} : Within (PageOp x) site (loadReview site review) := by
  refine uses_ask.bind fun _ => uses_snapshot.bind fun taken => ?_
  exact uses_ask.bind fun _ => uses_ask.bind fun _ => .ret taken

lemma uses_openApplicationReview :
    Within (PageOp input.attemptId) site (openApplicationReview host site input) := by
  refine (uses_op trivial).bind fun active => ?_
  repeat' first
    | with_reducible refine Uses.bind ?_ fun _ => ?_
    | split
    | exact Uses.pure _
    | exact Uses.throw _
    | exact uses_reopenReview
    | exact uses_loadReview.attempt
    | exact uses_op rfl

lemma uses_documentText {artifact : Artifact} :
    Within ReadOp site (documentText site artifact) :=
  uses_ask.bind fun _ => uses_ask

lemma uses_documentTexts {artifacts : List Artifact} :
    Within ReadOp site (documentTexts site artifacts) := by
  unfold documentTexts
  repeat' first
    | with_reducible refine Uses.bind ?_ fun _ => ?_
    | split
    | exact Uses.pure _
    | exact uses_documentText
    | exact uses_documentText.map

lemma uses_checkPage : Within (PageOp x) site (checkPage host site attemptId mode review):= by
  unfold checkPage
  repeat' first
    | with_reducible refine Uses.bind ?_ fun _ => ?_
    | split
    | exact Uses.pure _
    | exact uses_snapshot.map
    | exact uses_op trivial
    | dsimp only

variable {attempt : Attempt}

lemma uses_currentCvHash : Within ReadOp site (currentCvHash host attempt) := by
  unfold currentCvHash
  repeat' first
    | with_reducible refine Uses.bind ?_ fun _ => ?_
    | split
    | exact Uses.pure _
    | exact uses_op trivial

lemma uses_checkDocuments :
    Within ReadOp site (checkDocuments host site attemptId askBefore review attempt) := by
  unfold checkDocuments
  repeat' first
    | with_reducible refine Uses.bind ?_ fun _ => ?_
    | split
    | exact Uses.pure _
    | exact uses_currentCvHash
    | exact uses_documentTexts.attempt
    | exact uses_op trivial
    | exact uses_ask

lemma uses_checkAutomaticSubmissionEligibility {now : ℤ} :
    Within (PageOp x) site (checkAutomaticSubmissionEligibility host site attemptId now) := by
  unfold checkAutomaticSubmissionEligibility
  repeat' first
    | with_reducible refine Uses.bind ?_ fun _ => ?_
    | split
    | exact Uses.pure _
    | exact uses_snapshot
    | exact uses_op trivial

end Review

/-! ## Preparations -/

section Prepare

variable {host : Host} {run : PipelineRun}

/-- The programs of a preparation. -/
abbrev Prepares {α : Type} (run : PipelineRun) (x : Run α) : Prop :=
  Within (PrepareOp run.attemptId) run.site x

lemma uses_isLivePreparation : Prepares run (isLivePreparation run) := uses_op trivial

lemma uses_fencedWrite {α : Type} {write : Run α} (h : Prepares run write) :
    Prepares run (fencedWrite run write) :=
  uses_isLivePreparation.bind fun _ => .ite h.map (.ret none)

/-- Where a run may settle. -/
abbrev Settles (checkpoint : Checkpoint) : Prop :=
  checkpoint ∉ Checkpoint.submitting :: Checkpoint.completed

variable {checkpoint : Checkpoint} {attempt : Attempt} {map : SanitisedFieldMap}
  {current : FormSnapshot}

lemma uses_settle {outcome : RunOutcome} (h : Settles checkpoint) :
    Prepares run (settle run checkpoint detail outcome):= by
  have hop : PrepareOp run.attemptId (.settle run.attemptId checkpoint detail) := ⟨rfl, h⟩
  exact (uses_fencedWrite (uses_op hop)).bind fun _ => .ret _

lemma uses_advanceTo (h : checkpoint ∈ Checkpoint.interrupted) :
    Prepares run (advanceTo run checkpoint) := by
  have hop : PrepareOp run.attemptId (.updateAttempt run.attemptId
      { checkpoint := some checkpoint, checkpointDetail := some "" }) :=
    ⟨rfl, .inr ⟨rfl, checkpoint, h, rfl⟩⟩
  exact (uses_fencedWrite (uses_op hop)).bind fun _ => .ret _

lemma settles_of_directive {state : Option QueueState}
    (h : resolveQueueDirective state = some (checkpoint, detail)) : Settles checkpoint:= by
  unfold resolveQueueDirective at h
  split at h <;> cases h <;> decide

lemma uses_viewFor : Prepares run (viewFor host attempt) :=
  (uses_op trivial).bind fun _ => (uses_op trivial).bind fun _ => .ret _

lemma uses_verifyAttemptPosting : Prepares run (verifyAttemptPosting host run) := by
  unfold verifyAttemptPosting
  repeat' first
    | with_reducible refine Uses.bind ?_ fun _ => ?_
    | split
    | exact Uses.pure _
    | exact uses_isLivePreparation
    | exact uses_viewFor
    | exact uses_op trivial
    | exact uses_op rfl
    | exact uses_ask

lemma uses_actOnPosting {view : PostingView} : Prepares run (actOnPosting host run view) := by
  refine uses_ask.bind fun state => ?_
  split
  · rename_i checkpoint detail hstate
    exact (uses_settle (settles_of_directive hstate)).bind fun _ => .ret _
  · repeat' first
      | exact Uses.ret _
      | exact uses_settle (by decide)
      | exact uses_op trivial
      | with_reducible refine Uses.bind ?_ fun _ => ?_
      | split
  
lemma uses_checkPosting : Prepares run (checkPosting host run attempt) := by
  unfold checkPosting
  repeat' first
    | with_reducible refine Uses.bind ?_ fun _ => ?_
    | split
    | exact Uses.pure _
    | exact uses_isLivePreparation
    | exact uses_inner uses_verifyAttemptPosting
    | exact uses_actOnPosting
    | exact uses_op trivial

lemma uses_fetchMissingJobDescription {mayFetch : Bool} :
    Prepares run (fetchMissingJobDescription host run attempt mayFetch) := by
  unfold fetchMissingJobDescription
  repeat' first
    | with_reducible refine Uses.bind ?_ fun _ => ?_
    | split
    | exact Uses.pure _
    | exact uses_ask.attempt
    | exact uses_fencedWrite (uses_op rfl)

lemma uses_readJobDescription : Prepares run (readJobDescription host run attempt) := by
  refine (uses_advanceTo (by decide)).bind fun _ => uses_checkPosting.bind fun checked => ?_
  split
  · exact Uses.ret _
  · refine uses_fetchMissingJobDescription.bind fun attempt => ?_
    repeat' first
      | with_reducible refine Uses.bind ?_ fun _ => ?_
      | split
      | exact Uses.pure _
      | exact uses_settle (by decide)
  
lemma uses_reusableRevisionDraft : Prepares run (reusableRevisionDraft host attempt cv kind) :=
  (uses_op trivial).bind fun _ => .ret _

lemma uses_generateApplicationTailoredResume :
    Prepares run (generateApplicationTailoredResume run cv) := by
  unfold generateApplicationTailoredResume
  repeat' first
    | with_reducible refine Uses.bind ?_ fun _ => ?_
    | split
    | exact Uses.throw _
    | exact uses_ask

lemma uses_tailorResume {profile : Option String} :
    Prepares run (tailorResume host run attempt cv profile) := by
  refine uses_reusableRevisionDraft.bind fun revised => ?_
  repeat' first
    | with_reducible refine Uses.bind ?_ fun _ => ?_
    | split
    | exact Uses.pure _
    | exact (uses_inner uses_generateApplicationTailoredResume).attempt
    | exact uses_settle (by decide)

lemma uses_loadCompanyEvidence : Prepares run (loadCompanyEvidence host run) := by
  unfold loadCompanyEvidence
  repeat' first
    | with_reducible refine Uses.bind ?_ fun _ => ?_
    | split
    | exact Uses.pure _
    | exact uses_ask.attempt

lemma uses_prepareLetters : Prepares run (prepareLetters host run attempt cv) := by
  unfold prepareLetters
  repeat' first
    | with_reducible refine Uses.bind ?_ fun _ => ?_
    | split
    | exact Uses.pure _
    | exact uses_loadCompanyEvidence
    | exact uses_reusableRevisionDraft
    | exact uses_ask.attempt
    | exact uses_op trivial
    | dsimp only

lemma uses_writeAndRegisterArtifact {kind : ArtifactKind} {rendered : Rendered} :
    Prepares run (writeAndRegisterArtifact host run kind fileName rendered) := by
  unfold writeAndRegisterArtifact
  repeat' first
    | with_reducible refine Uses.bind ?_ fun _ => ?_
    | split
    | exact Uses.pure _
    | exact Uses.throw _
    | exact uses_isLivePreparation
    | exact uses_ask.attempt
    | exact uses_ask
    | exact uses_op trivial
    | exact uses_op rfl
    | refine Uses.forEach fun _ _ => ?_

lemma uses_stageHtmlArtifact {kind : ArtifactKind} :
    Prepares run (stageHtmlArtifact host run kind fileName) :=
  uses_ask.bind fun _ => uses_writeAndRegisterArtifact

lemma uses_recordDraftOf {artifactHash : String} : Prepares run
      (recordDraftOf host run attempt kind origin content artifactHash critiqueRunId) := by
  have hop : PrepareOp run.attemptId (.recordDraft
      { attemptId := run.attemptId, kind, origin, content
        contentHash := host.draftContentHash content, artifactHash
        jdHash := attempt.jdSnapshotHash, sourceCvHash := attempt.sourceCvContentHash
        critiqueRunId }) := rfl
  exact (uses_fencedWrite (uses_op hop)).attempt.bind fun _ => .ret _

lemma uses_stageDocument {artifactKind : ArtifactKind} : Prepares run
      (stageDocument host run attempt artifactKind fileName kind origin content critiqueRunId) := by
  refine (uses_fencedWrite (uses_inner uses_stageHtmlArtifact)).bind fun staged => ?_
  split
  · exact Uses.ret _
  · exact uses_recordDraftOf.bind fun _ => .ret _

lemma uses_stageCv {cv : PreparedCv} : Prepares run (stageCv host run attempt cv) := by
  unfold stageCv
  repeat' first
    | with_reducible refine Uses.bind ?_ fun _ => ?_
    | split
    | exact Uses.pure _
    | exact uses_stageDocument.attempt
    | exact uses_settle (by decide)

lemma uses_stageLetters (letters : List PreparedLetter) (records : List Artifact)
    (blocker : Option String) :
    Prepares run (stageLetters host run attempt letters records blocker) := by
  induction letters generalizing records blocker with
  | nil => exact Uses.ret _
  | cons letter rest ih =>
    rw [stageLetters]
    repeat' first
      | with_reducible refine Uses.bind ?_ fun _ => ?_
      | split
      | exact Uses.pure _
      | exact ih _ _
      | exact uses_stageDocument.attempt
  
lemma uses_prepareDocuments : Prepares run (prepareDocuments host run attempt) := by
  refine (uses_advanceTo (by decide)).bind fun _ => ?_
  repeat' first
    | with_reducible refine Uses.bind ?_ fun _ => ?_
    | split
    | exact Uses.pure _
    | exact uses_settle (by decide)
    | exact uses_tailorResume
    | exact uses_isLivePreparation
    | exact uses_advanceTo (by decide)
    | exact uses_prepareLetters
    | exact uses_fencedWrite (uses_op rfl)
    | exact uses_stageCv
    | exact uses_stageLetters _ _ _
    | exact uses_op trivial
    | exact uses_ask

lemma uses_resolveUploads (assignments : List Assignment) (planned : List (String × UploadFile)) :
    Prepares run (resolveUploads host run review assignments planned) := by
  induction assignments generalizing planned with
  | nil => exact Uses.ret _
  | cons assignment rest ih =>
    obtain ⟨fieldRef, source⟩ := assignment
    cases source <;> rw [resolveUploads] <;>
    repeat' first
      | with_reducible refine Uses.bind ?_ fun _ => ?_
      | split
      | exact Uses.pure _
      | exact ih _
      | exact uses_isLivePreparation
      | exact uses_ask
  
lemma uses_fillFields (assignments : List Assignment) :
    Prepares run (fillFields run review valueTable assignments) := by
  induction assignments with
  | nil => exact Uses.ret _
  | cons assignment rest ih =>
    obtain ⟨fieldRef, source⟩ := assignment
    cases source <;> rw [fillFields] <;>
    repeat' first
      | with_reducible refine Uses.bind ?_ fun _ => ?_
      | split
      | exact Uses.pure _
      | exact Uses.throw _
      | exact ih
      | exact uses_isLivePreparation
      | exact uses_ask
  
lemma uses_attachUploads (uploads : List (String × UploadFile)) :
    Prepares run (attachUploads run review uploads) := by
  induction uploads with
  | nil => exact Uses.ret _
  | cons upload rest ih =>
    rw [attachUploads]
    repeat' first
      | with_reducible refine Uses.bind ?_ fun _ => ?_
      | split
      | exact Uses.pure _
      | exact Uses.throw _
      | exact ih
      | exact uses_isLivePreparation
      | exact uses_ask.attempt
      | exact uses_ask
  
lemma uses_applyApplicationFieldMap : Prepares run (applyApplicationFieldMap host run map) := by
  unfold applyApplicationFieldMap
  repeat' first
    | with_reducible refine Uses.bind ?_ fun _ => ?_
    | split
    | exact Uses.pure _
    | exact Uses.throw _
    | exact uses_resolveUploads _ _
    | exact uses_fillFields _
    | exact uses_attachUploads _
    | exact uses_op trivial
    | exact uses_ask
    | dsimp only

lemma uses_mapForm {input : FillInput} :
    Prepares run (mapForm host run input current valueTable) := by
  unfold mapForm
  repeat' first
    | with_reducible refine Uses.bind ?_ fun _ => ?_
    | split
    | exact Uses.pure _
    | exact uses_settle (by decide)
    | exact uses_isLivePreparation
    | exact uses_op rfl
    | exact uses_ask

lemma uses_recordForm {readiness : Readiness} :
    Prepares run (recordForm host run current map readiness) := by
  have hop : PrepareOp run.attemptId (.recordPrepared run.attemptId
      (some (host.summarisePreparedFields current map readiness).1)) := rfl
  refine (uses_fencedWrite (uses_op hop)).bind fun _ => ?_
  repeat' first
    | split
    | exact uses_settle (by decide)

lemma uses_applyMap (mapped : RunResult ⊕ SanitisedFieldMap) :
    Prepares run (applyMap host run current mapped) := by
  unfold applyMap
  repeat' first
    | with_reducible refine Uses.bind ?_ fun _ => ?_
    | split
    | exact Uses.pure _
    | exact uses_settle (by decide)
    | exact uses_isLivePreparation
    | exact uses_inner uses_applyApplicationFieldMap
    | exact uses_recordForm

lemma uses_fillOpenedForm {input : FillInput} :
    Prepares run (fillOpenedForm host run input current) := by
  refine .ite (uses_settle (by decide)) (.ite (uses_settle (by decide)) ?_)
  exact uses_mapForm.bind uses_applyMap

lemma uses_openForPreparation (h : input.attemptId = run.attemptId) :
    Prepares run (openApplicationReview host run.site input) := by
  refine Uses.mono (fun o ho => PrepareOp.of_page ?_) (fun _ => id) uses_openApplicationReview
  exact h ▸ ho

lemma uses_fillApplicationForm {input : FillInput} :
    Prepares run (fillApplicationForm host run input) := by
  unfold fillApplicationForm
  repeat' first
    | with_reducible refine Uses.bind ?_ fun _ => ?_
    | split
    | exact Uses.pure _
    | exact uses_isLivePreparation
    | exact (uses_openForPreparation rfl).attempt
    | exact uses_settle (by decide)
    | exact uses_fillOpenedForm
    | exact uses_ask

lemma uses_prepareForm {policyId : String} :
    Prepares run (prepareForm host run attempt policyId documents) := by
  have hdetail : ∀ detail : String, PrepareOp run.attemptId
      (.updateAttempt run.attemptId { checkpointDetail := some detail }) :=
    fun _ => ⟨rfl, .inl rfl⟩
  unfold prepareForm
  repeat' first
    | with_reducible refine Uses.bind ?_ fun _ => ?_
    | split
    | exact Uses.pure _
    | exact uses_isLivePreparation
    | exact uses_advanceTo (by decide)
    | exact uses_fencedWrite (uses_op rfl)
    | exact uses_fencedWrite (uses_op (hdetail _))
    | exact (uses_inner uses_fillApplicationForm).attempt
    | exact uses_inner (uses_op rfl)
    | exact uses_settle (by decide)
    | dsimp only

lemma uses_deliver : Prepares run (deliver host run attempt documents):= by
  unfold deliver
  split
  · exact uses_settle (by decide)
  · split
    · exact uses_settle (by decide)
    · refine uses_ask.bind fun state => ?_
      split
      · rename_i hstate
        exact uses_settle (settles_of_directive hstate)
      · exact uses_prepareForm

/-- **A preparation** waits only at its own site, writes only its own attempt, and gives a
checkpoint a detail only where it settles. -/
theorem uses_runApplicationAttempt : Prepares run (runApplicationAttempt host run) := by
  refine (uses_op trivial).bind fun attempt => ?_
  split
  · exact Uses.pure _
  · refine uses_ask.bind fun state => ?_
    split
    · rename_i hstate
      exact uses_settle (settles_of_directive hstate)
    · refine uses_readJobDescription.bind fun read => ?_
      split
      · exact Uses.pure _
      · refine uses_prepareDocuments.bind fun prepared => ?_
        split
        · exact Uses.pure _
        · exact uses_deliver

end Prepare

/-! ## The other calls -/

section Others

variable {host : Host}

def Op.isClick : Op → Bool
  | .click _ _ => true
  | _ => false

/-- Whether the worker waits there, inside a preparation or around it. -/
def Site.isWorker : Site → Bool
  | .prepare _ _ | .worker => true
  | _ => false

abbrev NoClick (o : Op) : Prop := o.isClick = false

abbrev Outside (p : Port) : Prop := p.site.isWorker = false

lemma noClick_of_prepare {x : ℕ} (h : PrepareOp x o) : NoClick o:= by
  cases o with
  | click y firing => exact False.elim h
  | _ => rfl

abbrev Idle {α : Type} (x : Run α) : Prop := Uses (S := sig) NoClick Outside x

variable {site : Site} {wait : Wait} {now : ℤ} {attempt : Attempt} {current : FormSnapshot}

lemma idle_of_page {α : Type} {x : ℕ} {p : Run α} (hsite : site.isWorker = false)
    (h : Within (PageOp x) site p) : Idle p :=
  h.mono (fun _ ho => noClick_of_prepare (PrepareOp.of_page ho)) fun _ hp => by rwa [Outside, hp]

lemma idle_op (h : NoClick o) : Idle (op o):= uses_op h

lemma idle_ask (hsite : site.isWorker = false) : Idle (ask site wait) := Uses.wait hsite

lemma idle_inner {α : Type} {x : Run α} (hx : Idle x) (hsite : site.isWorker = false) :
    Idle (inner site x) := Uses.call hx hsite

lemma idle_enqueueApplicationAttempt : Idle (enqueueApplicationAttempt attemptId):= by
  unfold enqueueApplicationAttempt queueingFailed
  repeat' first
    | with_reducible refine Uses.bind ?_ fun _ => ?_
    | split
    | exact Uses.pure _
    | exact Uses.throw _
    | exact (idle_ask rfl).attempt
    | exact idle_op rfl

lemma idle_startApplicationAttempt {input : StartInput} :
    Idle (startApplicationAttempt host input) := by
  unfold startApplicationAttempt createApplicationAttempt
  repeat' first
    | with_reducible refine Uses.bind ?_ fun _ => ?_
    | split
    | exact Uses.pure _
    | exact Uses.throw _
    | exact (idle_op rfl).attempt
    | exact (idle_ask rfl).attempt
    | exact idle_op rfl
    | exact idle_enqueueApplicationAttempt

lemma idle_restartApplicationTailoring {mode : TailoringMode} :
    Idle (restartApplicationTailoring attemptId mode) := by
  unfold restartApplicationTailoring
  repeat' first
    | with_reducible refine Uses.bind ?_ fun _ => ?_
    | split
    | exact Uses.pure _
    | exact idle_op rfl
    | exact idle_enqueueApplicationAttempt

lemma idle_resumeApplicationAttempt : Idle (resumeApplicationAttempt attemptId):= by
  unfold resumeApplicationAttempt
  dsimp only
  repeat' first
    | with_reducible refine Uses.bind ?_ fun _ => ?_
    | split
    | exact Uses.pure _
    | exact idle_op rfl
    | exact idle_inner (idle_op rfl) rfl
    | exact idle_enqueueApplicationAttempt

lemma idle_showApplicationReviewHandoff {hasWindow : Bool} :
    Idle (showApplicationReviewHandoff attemptId hasWindow) := by
  unfold showApplicationReviewHandoff
  repeat' first
    | with_reducible refine Uses.bind ?_ fun _ => ?_
    | split
    | exact Uses.pure _
    | exact Uses.throw _
    | exact (idle_op rfl).attempt
    | exact idle_op rfl

lemma idle_hideApplicationReviewHandoff : Idle (hideApplicationReviewHandoff attemptId):= by
  exact (idle_op rfl).bind fun _ => .ite (idle_op rfl) (.pure _)

lemma idle_recordSubmissionReceipt {input : ReceiptInput} :
    Idle (recordSubmissionReceipt input) :=
  (idle_op rfl).attempt.bind fun _ => .pure _

lemma idle_recordUserReportedSubmission {statement : String} :
    Idle (recordUserReportedSubmission attemptId statement) := by
  unfold recordUserReportedSubmission
  repeat' first
    | with_reducible refine Uses.bind ?_ fun _ => ?_
    | split
    | exact Uses.pure _
    | exact Uses.throw _
    | exact (idle_op rfl).attempt
    | exact idle_op rfl

lemma idle_reconcileSubmissionOutcome {response : String} :
    Idle (reconcileSubmissionOutcome host attemptId response) := by
  unfold reconcileSubmissionOutcome
  repeat' first
    | with_reducible refine Uses.bind ?_ fun _ => ?_
    | split
    | exact Uses.pure _
    | exact Uses.throw _
    | exact (idle_op rfl).attempt
    | exact idle_recordSubmissionReceipt
    | exact idle_op rfl

lemma idle_eligibility (hsite : site.isWorker = false) :
    Idle (checkAutomaticSubmissionEligibility host site attemptId now) :=
  idle_of_page (x := 0) hsite uses_checkAutomaticSubmissionEligibility

lemma idle_evaluateAndScheduleAutomaticSubmission :
    Idle (evaluateAndScheduleAutomaticSubmission host attemptId) := by
  unfold evaluateAndScheduleAutomaticSubmission
  repeat' first
    | with_reducible refine Uses.bind ?_ fun _ => ?_
    | split
    | exact Uses.pure _
    | exact idle_op rfl
    | exact idle_inner (idle_eligibility rfl) rfl

lemma idle_cancelScheduledAutomaticSubmission :
    Idle (cancelScheduledAutomaticSubmission attemptId) := by
  unfold cancelScheduledAutomaticSubmission
  repeat' first
    | with_reducible refine Uses.bind ?_ fun _ => ?_
    | split
    | exact Uses.throw _
    | exact (idle_op rfl).attempt
    | exact idle_op rfl

lemma idle_recoverEnqueue (hsite : site.isWorker = false) : Idle (recoverEnqueue site attemptId) :=
  idle_inner ((idle_ask hsite).attempt.bind fun _ => .pure _) hsite

lemma idle_recoverPreparations (ids : List ℕ) : Idle (recoverPreparations ids) := by
  induction ids with
  | nil => exact Uses.pure _
  | cons x rest ih =>
    rw [recoverPreparations]
    refine (idle_op rfl).bind fun _ => (idle_op rfl).bind fun _ => ?_
    exact (idle_recoverEnqueue rfl).bind fun _ => ih

lemma idle_recoverSubmission : Idle (recoverSubmission attempt) :=
  (idle_op rfl).bind fun _ => (idle_op rfl).attempt.bind fun _ =>
    (idle_op rfl).bind fun _ => .pure _

lemma idle_recoverQueued : Idle (recoverQueued attempt) := by
  unfold recoverQueued
  repeat' first
    | with_reducible refine Uses.bind ?_ fun _ => ?_
    | split
    | exact Uses.pure _
    | exact (idle_ask rfl).attempt
    | exact idle_recoverEnqueue rfl

lemma idle_recoverInterruptedApplicationAttempts :
    Idle recoverInterruptedApplicationAttempts := by
  refine (idle_op rfl).bind fun attempts => (idle_recoverPreparations _).bind fun _ => ?_
  refine (Uses.forEach fun _ _ => idle_recoverSubmission).bind fun _ => ?_
  exact Uses.forEach fun _ _ => idle_recoverQueued

lemma uses_recordOutcome {report : OutcomeReport} :
    Idle (recordOutcome host attemptId mode review current report) := by
  unfold recordOutcome
  repeat' first
    | with_reducible refine Uses.bind ?_ fun _ => ?_
    | split
    | exact Uses.pure _
    | exact idle_recordSubmissionReceipt
    | exact idle_op rfl

/-- The programs that do not belong to the worker. -/
abbrev Apart {α : Type} (x : Run α) : Prop := Uses (S := sig) (fun _ => True) Outside x

lemma Idle.apart {α : Type} {x : Run α} (h : Idle x) : Apart x :=
  Uses.mono (fun _ _ => trivial) (fun _ => id) h

lemma apart_of_read {α : Type} {x : Run α} (hsite : site.isWorker = false)
    (h : Within ReadOp site x) : Apart x :=
  h.mono (fun _ _ => trivial) fun _ hp => by rwa [Outside, hp]

lemma apart_of_page {α : Type} {y : ℕ} {x : Run α} (hsite : site.isWorker = false)
    (h : Within (PageOp y) site x) : Apart x :=
  (idle_of_page hsite h).apart

lemma apart_clickSubmit {control : String} (hsite : site.isWorker = false) :
    Apart (clickSubmit host site attemptId mode firing review current control) := by
  have hask : ∀ wait, Apart (ask site wait) := fun wait => (idle_ask hsite).apart
  unfold clickSubmit
  repeat' first
    | with_reducible refine Uses.bind ?_ fun _ => ?_
    | split
    | exact Uses.pure _
    | exact (hask _).attempt
    | exact uses_recordOutcome.apart
    | exact uses_op trivial

lemma apart_submitApplicationReview (hsite : site.isWorker = false) :
    Apart (submitApplicationReview host site attemptId mode askBefore firing) := by
  unfold submitApplicationReview submitReserved
  repeat' first
    | with_reducible refine Uses.bind ?_ fun _ => ?_
    | with_reducible refine Uses.andFinally ?_ ?_
    | split
    | exact Uses.pure _
    | exact apart_of_page (y := 0) hsite uses_checkPage
    | exact apart_of_read hsite uses_checkDocuments
    | exact apart_clickSubmit hsite
    | exact uses_op trivial

lemma apart_fireAttempt {firing : Firing} : Apart (fireAttempt host now firing attempt) := by
  unfold fireAttempt
  dsimp only
  repeat' first
    | with_reducible refine Uses.bind ?_ fun _ => ?_
    | split
    | exact Uses.pure _
    | exact (idle_inner (idle_eligibility rfl) rfl).apart
    | exact Uses.call (apart_submitApplicationReview rfl) rfl
    | exact uses_op trivial

lemma apart_fireFrom {number : ℕ} (attempts : List Attempt) :
    Apart (fireFrom host now number attempts) := by
  induction attempts with
  | nil => exact Uses.pure _
  | cons attempt rest ih =>
    rw [fireFrom]
    exact apart_fireAttempt.bind fun _ => ih

def Call.Submits : Call → Prop
  | .submit _ _ _ | .fire => True
  | _ => False

def Call.Works : Call → Prop
  | .runNext | .ceiling _ => True
  | _ => False

/-- A call that is neither a submission nor one of the worker never clicks, and it waits apart from
the worker. -/
theorem idle_body (hsubmit : ¬c.Submits) (hwork : ¬c.Works) : Idle (c.body host):= by
  cases c with
  | create input => exact (idle_op rfl).bind fun _ => .pure _
  | start input => exact idle_startApplicationAttempt.bind fun _ => .pure _
  | restartTailoring x mode => exact idle_restartApplicationTailoring.bind fun _ => .pure _
  | resume x => exact idle_resumeApplicationAttempt.bind fun _ => .pure _
  | runNext => exact absurd trivial hwork
  | ceiling g => exact absurd trivial hwork
  | openReview input =>
    exact (idle_of_page rfl uses_openApplicationReview).bind fun _ => .pure _
  | closeReview x => exact idle_op rfl
  | showHandoff x w => exact idle_showApplicationReviewHandoff.bind fun _ => .pure _
  | hideHandoff x => exact idle_hideApplicationReviewHandoff
  | submit x mode b => exact absurd trivial hsubmit
  | report x t => exact idle_recordUserReportedSubmission.bind fun _ => .pure _
  | reconcile x r => exact idle_reconcileSubmissionOutcome.bind fun _ => .pure _
  | schedule x => exact idle_evaluateAndScheduleAutomaticSubmission.bind fun _ => .pure _
  | cancel x => exact idle_cancelScheduledAutomaticSubmission
  | fire => exact absurd trivial hsubmit
  | recover => exact idle_recoverInterruptedApplicationAttempts
  | setWorld w => exact idle_op rfl
  | setClock t => exact idle_op rfl
  | setBlind b => exact idle_op rfl

theorem apart_body (hwork : ¬c.Works) : Apart (c.body host):= by
  by_cases hsubmit : c.Submits
  · cases c with
    | submit x mode b => exact (apart_submitApplicationReview rfl).bind fun _ => .pure _
    | fire =>
      refine Uses.bind (uses_op trivial) fun now => Uses.bind (uses_op trivial) fun number => ?_
      exact Uses.bind (uses_op trivial) fun attempts => apart_fireFrom _
    | _ => exact False.elim hsubmit
  · exact (idle_body hsubmit hwork).apart

/-! ## The worker -/

def FenceOp : Op → Prop
  | .beginFence _ | .settled _ | .abandonFence _ | .endFence _ _ => True
  | _ => False

def WorkOp (o : Op) : Prop := FenceOp o ∨ ∃ x, PrepareOp x o

abbrev Works {α : Type} (x : Run α) : Prop :=
  Uses (S := sig) WorkOp (fun p => p.site.isWorker = true) x

lemma works_of_prepares {α : Type} {run : PipelineRun} {x : Run α} (h : Prepares run x) :
    Works x := by
  refine Uses.mono (fun o ho => .inr ⟨_, ho⟩) (fun p hp => ?_) h
  rw [hp]
  rfl

lemma works_ask : Works (ask .worker wait) := Uses.wait rfl

lemma works_runNextApplicationAttempt : Works (runNextApplicationAttempt host) := by
  refine works_ask.bind fun lease => ?_
  split
  · exact Uses.pure _
  · rename_i lease
    refine Uses.bind (uses_op (.inl trivial)) fun generation => ?_
    have hrun : Prepares ⟨lease.attemptId, generation⟩
        (runApplicationAttempt host ⟨lease.attemptId, generation⟩) := uses_runApplicationAttempt
    refine (works_of_prepares (uses_inner hrun).attempt).bind fun result => ?_
    refine Uses.bind (uses_op (.inl trivial)) fun awaited => .ite ?_ (.pure _)
    exact Uses.bind (uses_op (.inl trivial)) fun _ => works_ask

lemma uses_abandonPreparation {generation : ℕ} :
    Within WorkOp .worker (abandonPreparation host generation) := by
  have hclose : ∀ x, WorkOp (.closeReview x) := fun x => .inr ⟨x, rfl⟩
  unfold abandonPreparation
  split
  · exact Uses.pure _
  · refine Uses.bind (uses_op (.inl trivial)) fun awaited => ?_
    split
    · exact Uses.pure _
    · refine Uses.bind (uses_op (.inl trivial)) fun _ => ?_
      exact (uses_inner (uses_op (hclose _))).bind fun _ => uses_ask.attempt.bind fun _ => .pure _

theorem works_body (h : c.Works) : Works (c.body host):= by
  cases c with
  | runNext => exact works_runNextApplicationAttempt
  | ceiling g =>
    refine uses_abandonPreparation.mono (fun _ => id) fun p hp => ?_
    rw [hp]
    rfl
  | _ => exact False.elim h

/-- **What a turn of the worker executes**, in every run: nothing but operations of preparations
and of the fence. -/
theorem workOp_of_acts {db : Database} {world : World} {c : Cfg sig State}
    (h : (desktop host).Reach ok (started db world) c) {i : ℕ} {p : Port}
    {r : Except DesktopError p.wait.Rep} (hp : p.site.isWorker = true) :
    ∀ a ∈ (desktop host).acts c (.reply i p r), WorkOp a.1 := by
  let R : Call ⊕ sig.Port → Op → Prop := fun t o =>
    ∀ q : Port, t = .inr q → q.site.isWorker = true → WorkOp o
  have hbody : ∀ x, ((desktop host).body x).Obeys R (fun _ => True) (.inl x) := by
    intro x
    by_cases hx : x.Works
    · exact (works_body hx).obeys (fun _ ho _ _ _ => ho) (fun _ _ _ ho _ _ _ => ho) trivial
        fun _ _ => trivial
    · refine (apart_body hx).obeys (fun _ _ _ hq => nomatch hq) (fun q hq o _ q' hq' hw => ?_)
        trivial fun _ _ => trivial
      cases hq'
      rw [hq] at hw
      cases hw
  intro a ha
  exact System.acts_of_reach hbody rfl h rfl a ha p rfl hp

end Others

end VacancyRadar.Desktop
