import VacancyRadar.Desktop.Preparation

/-!
# Starting, resuming and recovering preparations

The rest of `application-pipeline.ts`: handing an attempt to the queue, a turn of the worker with
its ceiling, and the recovery that runs once after a start of the app.
-/

namespace VacancyRadar.Desktop

open Coop Data Workspace

/-! ## The queue -/

def queueingFailed (attemptId : ℕ) (e : DesktopError) : Run Unit := do
  op (.settle attemptId .failed
    ("application preparation could not be queued: " ++ e.describe))
  throw e

/-- `enqueueApplicationAttempt`: an error of the first call may have hidden its success. -/
def enqueueApplicationAttempt (attemptId : ℕ) : Run Unit := do
  match ← (ask .queueing (.enqueue attemptId)).attempt with
  | .ok () => return
  | .error first =>
    let state ← (ask .queueing (.entryState attemptId)).attempt
    match state.toOption.join with
    | none =>
      match ← (ask .queueing (.enqueue attemptId)).attempt with
      | .ok () => return
      | .error second => queueingFailed attemptId second
    | some .cancelled | some .done | some .failed => queueingFailed attemptId first
    | some .queued | some .active | some .paused => return

/-! ## Starting -/

def applicationPipelineWorkflowVersion : String := "review-mode-v2-ai-tailored"

structure StartInput where
  vacancyKey : Option String
  company : String
  role : String
  applyUrl : String
  description : Option String
  descriptionComplete : Bool
  cvId : Option String := none
  force : Bool := false
  workflowVersion : String := applicationPipelineWorkflowVersion

def resolveSourceCv (world : World) (cvId : Option String) : Option CvDocument :=
  match cvId with
  | some id => world.cvDocuments.find? fun cv => cv.id = id
  | none =>
    (world.cvDocuments.find? fun cv => some cv.id = world.defaultCvId).or
      (world.cvDocuments.find? CvDocument.isDefault)

section Pipeline

variable (host : Host)

def createApplicationAttempt (input : AttemptInput) : Run Attempt :=
  op (.createAttempt input
    (host.deriveApplicationIdentity input.company input.canonicalUrl input.requisitionId))

def startedAttempt (input : StartInput) (cv : CvDocument) : AttemptInput where
  vacancyKey := input.vacancyKey
  canonicalUrl := input.applyUrl
  company := input.company
  role := input.role
  sourceCvId := some cv.id
  sourceCvContentHash := host.sha256 cv.text
  jdSnapshot := input.description.getD ""
  jdSnapshotHash := host.sha256 (input.description.getD "")
  jdComplete := input.description.isSome && input.descriptionComplete
  workflowVersion := input.workflowVersion
  force := input.force

def startApplicationAttempt (input : StartInput) : Run (Option ℕ) := do
  if trim input.applyUrl = "" then
    return none
  match resolveSourceCv (← op .world) input.cvId with
  | none => return none
  | some cv =>
    match ← (createApplicationAttempt host (startedAttempt host input cv)).attempt with
    | .error (.workspace (.attemptDuplicate id)) => return some id
    | .error e => throw e
    | .ok attempt =>
      if host.pinsBriefs then
        let _ ← (ask .queueing .pinBrief).attempt
      enqueueApplicationAttempt attempt.id
      return some attempt.id

/-! ## Restarting -/

/-- `restartApplicationTailoring`; whether it was queued. -/
def restartApplicationTailoring (attemptId : ℕ) (mode : TailoringMode) : Run Bool := do
  let attempt ← op (.getAttempt attemptId)
  if attempt.checkpoint ≠ .needsUser ∨
      !decide (tailoringStopped.toList <+: attempt.checkpointDetail.toList) then
    return false
  op (.restartTailoring attemptId mode)
  enqueueApplicationAttempt attemptId
  return true

/-- `resumeApplicationAttempt` without a decision about a posting; whether it was queued. -/
def resumeApplicationAttempt (attemptId : ℕ) : Run Bool := do
  let attempt ← op (.getAttempt attemptId)
  let retryableFailure := attempt.checkpoint = .failed ∧ attempt.submittedAt = none
  let waitingOnBlocker := attempt.checkpoint = .needsUser ∧
    ¬documentsReady.toList <:+: attempt.checkpointDetail.toList
  if ¬retryableFailure ∧ ¬waitingOnBlocker then
    return false
  inner .queueing (op (.closeReview attemptId))
  op (.restartTailoring attemptId attempt.tailoringMode)
  enqueueApplicationAttempt attemptId
  return true

/-! ## The worker -/

def releaseOutcome : Except DesktopError RunResult → Release
  | .error _ => .failed
  | .ok result =>
    match result.outcome with
    | .failed => .failed
    | .halted => .requeue
    | .ready | .needsUser | .alreadySettled => .completed

def runNextApplicationAttempt : Run Unit := do
  match ← ask .worker .acquireLease with
  | none => return
  | some lease =>
    let run : PipelineRun := ⟨lease.attemptId, ← op (.beginFence lease)⟩
    let result ← (inner run.site (runApplicationAttempt host run)).attempt
    -- A turn that reached its ceiling has given up on the run, and its result is discarded.
    if (← op (.settled run.generation)).isSome then
      op (.endFence run.attemptId run.generation)
      ask .worker (.release lease.leaseId (releaseOutcome result))

/-- The part of `runNextApplicationAttempt` that runs when the ceiling of a generation has
elapsed. -/
def abandonPreparation (generation : ℕ) : Run Unit := do
  if !host.abandonsPreparations then
    return
  match ← op (.settled generation) with
  | none => return
  | some lease =>
    op (.abandonFence lease.attemptId)
    inner .worker (op (.closeReview lease.attemptId))
    let _ ← (ask .worker (.release lease.leaseId .requeue)).attempt

/-! ## Recovery -/

def interruptedRestartDetail : String :=
  "the app closed while this was being prepared; it will start again from the beginning"

def interruptedSubmissionDetail : String :=
  "the app closed during submission; this application may or may not have been sent, so it " ++
    "will not be sent again automatically"

def recoveryMayReQueue : Option QueueState → Bool
  | none | some .done | some .failed => true
  | some .queued | some .active | some .paused | some .cancelled => false

/-- `enqueue` of the recovery: an error is only logged. -/
def recoverEnqueue (site : Site) (attemptId : ℕ) : Run Unit :=
  inner site do
    let _ ← (ask site (.enqueue attemptId)).attempt

def recoverPreparations : List ℕ → Run Unit
  | [] => return
  | attemptId :: rest => do
    let _ ← op (.updateAttempt attemptId
      { checkpoint := some .queued, checkpointDetail := some interruptedRestartDetail })
    op (.recordPrepared attemptId none)
    recoverEnqueue (.recover rest) attemptId
    recoverPreparations rest

def recoverSubmission (attempt : Attempt) : Run Unit := do
  let observedAt ← op .now
  let _ ← (op (.createReceipt
    { attemptId := attempt.id, outcome := .unknown, source := .pageObservation
      destination := attempt.canonicalUrl, evidenceKind := .none
      detail := interruptedSubmissionDetail, observedAt })).attempt
  let _ ← op (.updateAttempt attempt.id
    { checkpoint := some .submissionUnknown
      checkpointDetail := some interruptedSubmissionDetail
      submittedAt := some (some observedAt) })

def recoverQueued (attempt : Attempt) : Run Unit := do
  match ← (ask .queueing (.entryState attempt.id)).attempt with
  | .error _ => return
  | .ok state =>
    if recoveryMayReQueue state then
      recoverEnqueue .queueing attempt.id

/-- `recoverInterruptedApplicationAttempts`.  The attempts are listed once, before the first of
them is written. -/
def recoverInterruptedApplicationAttempts : Run Unit := do
  let attempts ← op .listAttempts
  recoverPreparations <|
    (attempts.filter fun a => a.checkpoint ∈ Checkpoint.interrupted).map Attempt.id
  Prog.forEach (attempts.filter fun a => a.checkpoint = .submitting) recoverSubmission
  Prog.forEach (attempts.filter fun a => a.checkpoint = .queued) recoverQueued

end Pipeline

end VacancyRadar.Desktop
