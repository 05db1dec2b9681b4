import VacancyRadar.Desktop.Guardrails

/-!
# Reviews and submissions

The functions of `application-review-session.ts` as cooperative programs: opening and closing the
live page of an attempt, handing it to a person, the submission with its click, and the automatic
submissions that are scheduled and fired.  The notifications of a firing leave no trace here.
-/

namespace VacancyRadar.Desktop

open Coop Data Workspace

/-! ## Pages -/

def snapshot (site : Site) (review : ℕ) : Run FormSnapshot :=
  Prog.call (S := sig) ⟨site, .snapshotTaken⟩ do
    let taken ← ask site (.snapshot review)
    op (.setSnapshot review taken)
    return taken

/-- `OpenApplicationReviewInput`. -/
structure OpenInput where
  attemptId : ℕ
  policyId : String
  targetUrl : String
  refresh : Bool := false

def reopenReview (site : Site) (input : OpenInput) (existing : Review) : Run FormSnapshot := do
  if existing.policyId ≠ input.policyId ∨ existing.targetUrl ≠ input.targetUrl then
    throw (DesktopError.other ("attempt " ++ toString input.attemptId ++
      " already has an open review against a different target; close it before opening another"))
  let current ← if input.refresh then some <$> snapshot site existing.id
    else op (.currentSnapshot existing.id)
  match current with
  | none => throw (DesktopError.other ("attempt " ++ toString input.attemptId ++
      " has an open review with no snapshot yet"))
  | some current =>
    ask site (.capture existing.id)
    let _ ← ask site (.readiness existing.id)
    return current

def loadReview (site : Site) (review : ℕ) : Run FormSnapshot := do
  ask site (.openTarget review)
  let taken ← snapshot site review
  ask site (.capture review)
  let _ ← ask site (.readiness review)
  return taken

/-- `openApplicationReview`: a review that is open already is answered from its live page. -/
def openApplicationReview (host : Host) (site : Site) (input : OpenInput) : Run FormSnapshot := do
  match ← op (.activeReview input.attemptId) with
  | some existing => reopenReview site input existing
  | none =>
    if (host.resolveApplicationTargetPolicy input.policyId).isNone then
      throw (DesktopError.other ("unknown application target policy: " ++ input.policyId))
    let review ← op (.registerReview input.attemptId input.policyId input.targetUrl)
    match ← (loadReview site review).attempt with
    | .ok taken => return taken
    | .error e =>
      -- Only its own entry: another review may have been registered meanwhile.
      op (.unregisterReview input.attemptId review)
      throw e

/-- `showApplicationReviewHandoff`; whether the page is shown. -/
def showApplicationReviewHandoff (attemptId : ℕ) (hasWindow : Bool) : Run Bool := do
  if (← op (.activeReview attemptId)).isNone ∨ !hasWindow then
    return false
  if ← op (.isSubmitting attemptId) then
    return false
  match ← (op (.getAttempt attemptId)).attempt with
  | .ok _ =>
    op (.setHandoff (some attemptId))
    return true
  | .error (.workspace (.attemptNotFound _)) => return false
  | .error e => throw e

def hideApplicationReviewHandoff (attemptId : ℕ) : Run Unit := do
  if (← op .handoff) = some attemptId then
    op (.setHandoff none)

/-! ## The submission -/

def refuse (reason : SubmitRefusal) (detail : String) : SubmitResult where
  ok := false
  reason := some reason
  detail := some detail

def documentText (site : Site) (artifact : Artifact) : Run String := do
  let bytes ← ask site (.artifactBytes artifact.id)
  ask site (.pdfText bytes)

def documentTexts (site : Site) (artifacts : List Artifact) : Run (String × Option String) := do
  let cv ← match artifacts.find? fun a => a.kind = .cvPdf ∨ a.kind = .combinedPdf with
    | some artifact => documentText site artifact
    | none => pure ""
  let letter ← match artifacts.find? fun a => a.kind = .coverLetterPdf with
    | some artifact => some <$> documentText site artifact
    | none => pure none
  return (cv, letter)

section Submit

variable (host : Host) (site : Site) (attemptId : ℕ)

def checkPage (mode : SubmissionMode) (review : Review) :
    Run (SubmitResult ⊕ FormSnapshot × String × Attempt) := do
  let reviewed := (← op (.currentSnapshot review.id)).map FormSnapshot.pageStateFingerprint
  let current ← if mode = .automatic then some <$> snapshot site review.id
    else op (.currentSnapshot review.id)
  match current with
  | none =>
    return .inl (refuse .noSnapshot ("attempt " ++ toString attemptId ++ " has no snapshot yet"))
  | some current =>
    if current.challengeDetected then
      return .inl (refuse .captchaDetected
        "the current page has an active CAPTCHA/bot-detection challenge")
    else if mode = .automatic ∧ reviewed ≠ none ∧
        reviewed ≠ some current.pageStateFingerprint then
      return .inl (refuse .formNotReady ("the page changed during the cancel window, so nothing " ++
        "a person reviewed describes it any more"))
    else
      match host.resolveSubmitControl current.submitControls with
      | none =>
        return .inl (refuse .unresolvedSubmitControl
          "could not unambiguously identify the submit control on the current page")
      | some control =>
        let attempt ← op (.getAttempt attemptId)
        if attempt.checkpoint ∈ [Checkpoint.submitted, .submitting, .userReported] then
          return .inl (refuse .alreadySubmitted ("attempt " ++ toString attemptId ++
            " already reached checkpoint \"" ++ attempt.checkpoint.text ++ "\""))
        else if attempt.checkpoint = .submissionUnknown then
          return .inl (refuse .submissionOutcomeUnresolved ("attempt " ++ toString attemptId ++
            " has an unresolved earlier submission and will not be blindly retried"))
        else
          return .inr (current, control, attempt)

def currentCvHash (attempt : Attempt) : Run (SubmitResult ⊕ String) := do
  match attempt.sourceCvId with
  | none => return .inr attempt.sourceCvContentHash
  | some cvId =>
    match (← op .world).cvDocuments.find? fun cv => cv.id = cvId with
    | some cv => return .inr (host.sha256 cv.text)
    | none => return .inl (refuse .sourceCvNotFound ("the source CV (" ++ cvId ++
        ") used for this attempt no longer exists in the library"))

def checkDocuments (askBefore : Bool) (review : Review) (attempt : Attempt) :
    Run (Option SubmitResult) := do
  let readiness ← ask site (.readiness review.id)
  if !readiness.ready then
    return some (refuse .formNotReady (host.describeBlockers readiness.blockers))
  else
    match ← currentCvHash host attempt with
    | .inl refusal => return some refusal
    | .inr cvHash =>
      let artifacts ← op (.listArtifacts attemptId)
      match ← (documentTexts site artifacts).attempt with
      | .error (.acceptedBytesChanged message) =>
        return some (refuse .artifactBytesChanged message)
      | .error e => return some (refuse .artifactReadFailed e.describe)
      | .ok (cvText, letterText) =>
        match host.runPreSubmitGate attempt cvHash (host.sha256 attempt.jdSnapshot) cvText
            letterText with
        | some (reason, detail) => return some (refuse reason detail)
        | none =>
          if askBefore ∧ (← op .world).beforeClick attemptId = false then
            return some (refuse .stopped "submission was stopped before anything was sent")
          else
            return none

/-- `recordSubmissionReceipt`: a receipt that cannot be written never breaks the submission. -/
def recordSubmissionReceipt (input : ReceiptInput) : Run Unit := do
  let _ ← (op (.createReceipt input)).attempt

def recordOutcome (mode : SubmissionMode) (review : Review) (current : FormSnapshot) :
    OutcomeReport → Run SubmitResult
  | .submitted kind reference detail observedAt => do
    recordSubmissionReceipt
      { attemptId, outcome := .submitted, source := .pageObservation
        destination := review.targetUrl, evidenceKind := kind, evidenceReference := reference
        detail, observedAt }
    let _ ← op (.updateAttempt attemptId
      { checkpoint := some .submitted
        submittedAt := some (some observedAt)
        submissionMode := some (some mode)
        formStructureHash := some (some (host.computeFormStructureHash current.fields))
        completionEvidence := some (some .receiptConfirmed) })
    return { ok := true }
  | .rejected detail observedAt => do
    op (.clickRejected attemptId)
    recordSubmissionReceipt
      { attemptId, outcome := .rejected, source := .pageObservation
        destination := review.targetUrl, evidenceKind := .none, detail, observedAt }
    let _ ← op (.updateAttempt attemptId
      { checkpoint := some .needsUser, checkpointDetail := some detail })
    return refuse .submissionRejected detail
  | .unknown detail observedAt => do
    recordSubmissionReceipt
      { attemptId, outcome := .unknown, source := .pageObservation
        destination := review.targetUrl, evidenceKind := .none, detail, observedAt }
    let _ ← op (.updateAttempt attemptId
      { checkpoint := some .submissionUnknown, checkpointDetail := some detail
        submittedAt := some (some observedAt) })
    return refuse .submissionUnknown detail

def clickSubmit (mode : SubmissionMode) (firing : Option ℕ) (review : Review)
    (current : FormSnapshot) (control : String) : Run SubmitResult := do
  let _ ← op (.updateAttempt attemptId { checkpoint := some .submitting })
  op (.click attemptId firing)
  match ← (ask site (.submit review.id control)).attempt with
  | .error (.policy message) =>
    op (.clickEnded attemptId true)
    let _ ← op (.updateAttempt attemptId
      { checkpoint := some .ready, checkpointDetail := some message })
    return refuse .submitRefused message
  | .error e =>
    op (.clickEnded attemptId false)
    let _ ← op (.updateAttempt attemptId
      { checkpoint := some .submissionUnknown, checkpointDetail := some e.describe })
    return refuse .submissionUnknown e.describe
  | .ok () =>
    op (.clickEnded attemptId false)
    match ← (ask site (.observe review.id)).attempt with
    | .ok report => recordOutcome host attemptId mode review current report
    | .error e =>
      let observedAt ← op .now
      recordOutcome host attemptId mode review current
        (.unknown ("the submission outcome could not be observed: " ++ e.describe) observedAt)

def submitReserved (mode : SubmissionMode) (askBefore : Bool) (firing : Option ℕ)
    (review : Review) : Run SubmitResult := do
  match ← checkPage host site attemptId mode review with
  | .inl refusal => return refusal
  | .inr (current, control, attempt) =>
    match ← checkDocuments host site attemptId askBefore review attempt with
    | some refusal => return refusal
    | none => clickSubmit host site attemptId mode firing review current control

/-- `submitApplicationReview`; `askBefore` says whether the caller gave a `beforeClick`
callback. -/
def submitApplicationReview (mode : SubmissionMode) (askBefore : Bool) (firing : Option ℕ) :
    Run SubmitResult := do
  match ← op (.activeReview attemptId) with
  | none =>
    return refuse .noOpenReview ("no open review for attempt " ++ toString attemptId)
  | some review =>
    if ← op (.isSubmitting attemptId) then
      return refuse .alreadySubmitting
        ("attempt " ++ toString attemptId ++ " is already mid-submit")
    else if (← op .handoff) = some attemptId then
      return refuse .handoffInProgress
        ("attempt " ++ toString attemptId ++ " is open in the live view")
    else
      op (.beginSubmit attemptId)
      (submitReserved host site attemptId mode askBefore firing review).andFinally
        (op (.endSubmit attemptId))

end Submit

/-! ## What a person or a late receipt says -/

/-- `recordUserReportedSubmission`; whether it was recorded. -/
def recordUserReportedSubmission (attemptId : ℕ) (statement : String) : Run Bool := do
  match ← (op (.getAttempt attemptId)).attempt with
  | .error (.workspace (.attemptNotFound _)) => return false
  | .error e => throw e
  | .ok attempt =>
    if attempt.checkpoint = .submitted then
      return false
    else
      let detail := if trim statement = "" then "reported as applied by the user"
        else trim statement
      let review ← op (.activeReview attemptId)
      let observedAt ← op .now
      op (.createReceipt
        { attemptId, outcome := .userReported, source := .userReported
          destination := (review.map Review.targetUrl).getD attempt.canonicalUrl
          evidenceKind := .userStatement, evidenceReference := detail, detail, observedAt })
      let _ ← op (.updateAttempt attemptId
        { checkpoint := some .userReported, checkpointDetail := some detail
          completionEvidence := some (some .userReported) })
      return true

def reconcileSubmissionOutcome (host : Host) (attemptId : ℕ) (response : String) : Run Bool := do
  match ← (op (.getAttempt attemptId)).attempt with
  | .error (.workspace (.attemptNotFound _)) => return false
  | .error e => throw e
  | .ok attempt =>
    if attempt.checkpoint ≠ .submissionUnknown then
      return false
    else
      let now ← op .now
      let review ← op (.activeReview attemptId)
      let destination := (review.map Review.targetUrl).getD attempt.canonicalUrl
      match host.classifyDelayedReceipt response now with
      | .submitted kind reference detail observedAt =>
        recordSubmissionReceipt
          { attemptId, outcome := .submitted, source := .delayedReceipt, destination
            evidenceKind := kind, evidenceReference := reference, detail, observedAt }
        let _ ← op (.updateAttempt attemptId
          { checkpoint := some .submitted, checkpointDetail := some detail
            submittedAt := some (some (attempt.submittedAt.getD observedAt)) })
        return true
      | .rejected detail observedAt =>
        recordSubmissionReceipt
          { attemptId, outcome := .rejected, source := .delayedReceipt, destination
            evidenceKind := .none, detail, observedAt }
        return false
      | .unknown detail observedAt =>
        recordSubmissionReceipt
          { attemptId, outcome := .unknown, source := .delayedReceipt, destination
            evidenceKind := .none, detail, observedAt }
        return false

/-! ## Automatic submission -/

def automaticSubmitCancelWindowMs : ℤ := 3 * 60 * 1000

section Automatic

variable (host : Host)

/-- The checks of `checkAutomaticSubmissionEligibility` after the page was read. -/
def guardrails (attempt : Attempt) (attempts : List Attempt) (world : World)
    (current : FormSnapshot) (now : ℤ) : AutomaticCheck :=
  match host.resolvePolicyIdForCanonicalUrl attempt.canonicalUrl with
  | none => some (.unresolvedPolicy, none)
  | some policyId =>
    match host.resolveApplicationTargetPolicy policyId with
    | none => some (.notEligibleForAutomation, none)
    | some policy =>
      if !policy.termsEligibleForAutomation then some (.notEligibleForAutomation, none)
      else if !world.activeGrant policyId then some (.noActiveGrant, none)
      else
        let forPolicy := attempts.filter fun a =>
          host.resolvePolicyIdForCanonicalUrl a.canonicalUrl == some policyId
        let recent := forPolicy.filterMap fun a =>
          if a.submissionMode = some .automatic then
            a.submittedAt.map fun t => (a.company, t) else none
        let prior := forPolicy.filterMap fun a =>
          if a.checkpoint = .submitted then
            a.submittedAt.map fun t => (a.company, a.formStructureHash, t) else none
        (checkRateLimits policy.rateLimits attempt.company now recent).or
          (checkAutomaticEligibility attempt.company
            (host.computeFormStructureHash current.fields) prior)

def checkAutomaticSubmissionEligibility (site : Site) (attemptId : ℕ) (now : ℤ) :
    Run AutomaticCheck := do
  match ← op (.activeReview attemptId) with
  | none => return some (.noOpenReview, none)
  | some review =>
    let attempt ← op (.getAttempt attemptId)
    if attempt.checkpoint ∈ Checkpoint.submitting :: Checkpoint.completed then
      return some (.alreadySubmitted, none)
    else
      let current ← snapshot site review.id
      let attempts ← op .listAttempts
      let world ← op .world
      return guardrails host attempt attempts world current now

def evaluateAndScheduleAutomaticSubmission (attemptId : ℕ) : Run AutomaticCheck := do
  let now ← op .now
  match ← inner (.eligible attemptId none)
      (checkAutomaticSubmissionEligibility host (.eligible attemptId none) attemptId now) with
  | some refusal => return some refusal
  | none =>
    let _ ← op (.updateAttempt attemptId
      { scheduledAutomaticSubmitAt := some (some (now + automaticSubmitCancelWindowMs)) })
    op (.scheduled attemptId)
    return none

def cancelScheduledAutomaticSubmission (attemptId : ℕ) : Run Unit := do
  match ← (op (.updateAttempt attemptId { scheduledAutomaticSubmitAt := some none })).attempt with
  | .ok _ => op (.cancelled attemptId)
  | .error (.workspace (.attemptNotFound _)) => op (.cancelled attemptId)
  | .error e => throw e

/-- The part of `fireDueAutomaticSubmissions` for one attempt. -/
def fireAttempt (now : ℤ) (firing : Firing) (attempt : Attempt) : Run Unit := do
  let _ ← op (.updateAttempt attempt.id { scheduledAutomaticSubmitAt := some none })
  -- The filter of the caller guarantees that there is a time.
  let scheduledAt := attempt.scheduledAutomaticSubmitAt.getD 0
  if automaticSubmitCancelWindowMs < now - scheduledAt then
    return
  let eligible := Site.eligible attempt.id (some firing)
  if (← inner eligible
      (checkAutomaticSubmissionEligibility host eligible attempt.id now)).isSome then
    return
  let submit := Site.submit attempt.id (some firing)
  let _ ← inner submit
    (submitApplicationReview host submit attempt.id .automatic false (some firing.number))

def isDue (now : ℤ) (attempt : Attempt) : Bool :=
  attempt.scheduledAutomaticSubmitAt.any fun t => t ≤ now

/-- The loop of `fireDueAutomaticSubmissions`. -/
def fireFrom (now : ℤ) (number : ℕ) : List Attempt → Run Unit
  | [] => return
  | attempt :: rest => do
    fireAttempt host now ⟨number, rest.map Attempt.id⟩ attempt
    fireFrom now number rest

def fireDueAutomaticSubmissions : Run Unit := do
  let now ← op .now
  let number ← op .beginFiring
  fireFrom host now number ((← op .listAttempts).filter (isDue now))

end Automatic

end VacancyRadar.Desktop
