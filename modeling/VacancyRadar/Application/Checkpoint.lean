import Mathlib.Data.List.Basic

/-!
# Checkpoints of an application attempt

The checkpoints of `workspace/types.ts` with the sets the code tests them against, the states of an
attempt in the queue of the daemon, the sentences that preparation leaves in `checkpointDetail` and that other modules compare with, and the
answers of `submitApplicationReview`.
-/

namespace VacancyRadar

/-- `ApplicationAttemptCheckpoint`. -/
inductive Checkpoint where
  | queued
  | readingJd
  | tailoring
  | rendering
  | filling
  | ready
  | submitting
  | submitted
  | needsUser
  | skipped
  | failed
  | submissionUnknown
  | userReported
deriving DecidableEq

namespace Checkpoint

def text : Checkpoint → String
  | queued => "queued"
  | readingJd => "reading_jd"
  | tailoring => "tailoring"
  | rendering => "rendering"
  | filling => "filling"
  | ready => "ready"
  | submitting => "submitting"
  | submitted => "submitted"
  | needsUser => "needs_user"
  | skipped => "skipped"
  | failed => "failed"
  | submissionUnknown => "submission_unknown"
  | userReported => "user_reported"

/-- `NON_TERMINAL_ATTEMPT_CHECKPOINTS`: a second attempt at the vacancy is refused. -/
def nonTerminal : List Checkpoint :=
  [queued, readingJd, tailoring, rendering, filling, ready, submitting, needsUser,
    submissionUnknown]

/-- `COMPLETED_ATTEMPT_CHECKPOINTS`: an application reached the employer, or may have. -/
def completed : List Checkpoint := [submitted, userReported, submissionUnknown]

/-- `HISTORICAL_CHECKPOINTS`: a submission was made, or may have been, or the attempt was
dropped. -/
def historical : List Checkpoint :=
  [submitting, submitted, submissionUnknown, userReported, skipped]

/-- `interruptedWhenAtRest`: only a preparation that is running sets it. -/
def interrupted : List Checkpoint := [readingJd, tailoring, rendering, filling]

/-- `preparationMayRun`: a preparation may carry the attempt on. -/
def preparable : List Checkpoint := queued :: interrupted

end Checkpoint

/-- `ApplicationQueueEntryState`. -/
inductive QueueState where
  | queued
  | active
  | paused
  | cancelled
  | done
  | failed
deriving DecidableEq

/-! ## Sentences other modules compare with -/

def captchaStopDetail : String :=
  "this page is showing a CAPTCHA or bot check. This app never answers those; " ++
    "open the application yourself to continue."

def postingClosedDetail : String :=
  "This posting looks closed: the employer's own job system says it no longer exists. " ++
    "Open the posting to check, or get ready anyway."

def postingChangedDetail : String :=
  "This posting changed since it was read. Review what changed, then refresh your application " ++
    "from the updated posting or keep what you have."

def postingReopenedDetail : String :=
  "The posting is open again, so this application can be prepared now."

def postingUnverifiedDetail : String :=
  "We couldn't check automatically whether this posting is still open. Open the posting, " ++
    "and if it is still listed, confirm it's open to continue."

def isPostingFindingDetail (detail : String) : Bool :=
  detail == postingClosedDetail || detail == postingChangedDetail

def isPostingPreparationStopDetail (detail : String) : Bool :=
  isPostingFindingDetail detail || detail == postingReopenedDetail ||
    detail == postingUnverifiedDetail

/-! ## Answers of a submission -/

/-- `SubmitApplicationReviewRefusalReason`, the reasons of the pre-submit gate included. -/
inductive SubmitRefusal where
  | sourceCvChanged
  | jdChanged
  | companyNotFoundInDocuments
  | roleNotFoundInDocuments
  | placeholderTextDetected
  | noOpenReview
  | noSnapshot
  | alreadySubmitting
  | alreadySubmitted
  | captchaDetected
  | formNotReady
  | handoffInProgress
  | unresolvedSubmitControl
  | sourceCvNotFound
  | artifactReadFailed
  | artifactBytesChanged
  | submitRefused
  | submissionRejected
  | submissionOutcomeUnresolved
  | submissionUnknown
  | stopped
deriving DecidableEq

def SubmitRefusal.text : SubmitRefusal → String
  | sourceCvChanged => "source_cv_changed"
  | jdChanged => "jd_changed"
  | companyNotFoundInDocuments => "company_not_found_in_documents"
  | roleNotFoundInDocuments => "role_not_found_in_documents"
  | placeholderTextDetected => "placeholder_text_detected"
  | noOpenReview => "no_open_review"
  | noSnapshot => "no_snapshot"
  | alreadySubmitting => "already_submitting"
  | alreadySubmitted => "already_submitted"
  | captchaDetected => "captcha_detected"
  | formNotReady => "form_not_ready"
  | handoffInProgress => "handoff_in_progress"
  | unresolvedSubmitControl => "unresolved_submit_control"
  | sourceCvNotFound => "source_cv_not_found"
  | artifactReadFailed => "artifact_read_failed"
  | artifactBytesChanged => "artifact_bytes_changed"
  | submitRefused => "submit_refused"
  | submissionRejected => "submission_rejected"
  | submissionOutcomeUnresolved => "submission_outcome_unresolved"
  | submissionUnknown => "submission_unknown"
  | stopped => "stopped"

/-- `SubmitApplicationReviewResult`. -/
structure SubmitResult where
  ok : Bool
  reason : Option SubmitRefusal := none
  detail : Option String := none

structure ApplicationIdentity where
  /-- Who the application goes to. -/
  employerKey : String
  /-- Which opening at that employer, when it is known. -/
  requisitionId : Option String
  /-- The apply URL reduced to what identifies the posting. -/
  canonicalUrlKey : String
deriving DecidableEq

end VacancyRadar
