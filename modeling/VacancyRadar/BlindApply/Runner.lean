import VacancyRadar.BlindApply.Ports
import VacancyRadar.Data.Text

/-!
# The Blind Apply runner

The functions of `blind-apply-runner.ts` as cooperative programs.  The callback that
`submitApplicationReview` asks right before the click is run at the moment the port asks for it.
A new authorization can be recorded at any time; the confirmation dialog, which runs Stop first,
is one way in which that happens.  Logging leaves no trace here.
-/

namespace VacancyRadar.BlindApply

open Coop Data

/-- What the runner computes with code that is not modelled here. -/
structure Host where
  /-- `deriveApplicationIdentity`. -/
  deriveApplicationIdentity : (company canonicalUrl : String) → ApplicationIdentity
  /-- `normalizeBlindLabel`. -/
  normalizeBlindLabel : String → String

def Host.blindIdentityKey (host : Host) (company applyUrl : String) : String :=
  let identity := host.deriveApplicationIdentity company applyUrl
  identity.employerKey ++ "|" ++ identity.requisitionId.getD identity.canonicalUrlKey

def plainRefusal : Option SubmitRefusal → String
  | some .formNotReady => "Not sent: the form was not complete when it was time to send it."
  | some .unresolvedSubmitControl => "Not sent: the page did not show one clear Submit button."
  | some .sourceCvNotFound => "Not sent: your CV changed after this was prepared."
  | some .artifactBytesChanged | some .artifactReadFailed =>
    "Not sent: a prepared document could not be verified."
  | some .submitRefused => "Not sent: the page would not accept the click."
  | _ => "Not sent: a safety check stopped it."

def move (item : Item) (expected : List ItemState) (target : ItemState) (patch : ItemPatch)
    (event : EventInput) : Run (Option Item) :=
  op (.move item.id expected target patch event)

/-! ## The field mapper -/

/-- `BlindAnswerMapping`, without the field map and the values, which go to the pipeline. -/
structure Mapping where
  interventions : List (Intervention × String)
  missing : List MissingField
  uses : List AnswerUse

/-- `DeterministicFieldMapOutcome`, without the map itself. -/
structure MapOutcome where
  ok : Bool
  detail : String

def notHandledDetail : String :=
  "Blind Apply paused: this application is not being handled by Blind Apply right now"

def answersText (n : ℕ) : String := if n = 1 then "one answer" else toString n ++ " answers"

def blindApplyFieldMapper (attemptId : ℕ)
    (mapBlindApplyAnswers : (String → Option (ℕ × String)) → Mapping) : Run MapOutcome := do
  let some item ← op (.getItemByAttempt attemptId) | return ⟨false, notHandledDetail⟩
  if item.state ≠ .preparing ∧ item.state ≠ .needsAnswer then
    return ⟨false, notHandledDetail⟩
  if !(← op (.isStoreActive item.authorizationId)) then
    return ⟨false, "Blind Apply paused: Blind Apply was stopped"⟩
  let mapping := mapBlindApplyAnswers (← op (.savedAnswers item.id))
  match mapping.interventions with
  | (kind, label) :: _ =>
    let _ ← move item [.preparing, .needsAnswer] .needsYou
      { intervention := some kind, stateDetail := some ("Needs you: " ++ label)
        attemptId := some (some attemptId) }
      { kind := .prepare, detail := some ("needs you (" ++ kind.text ++ ")") }
    return ⟨false, "Blind Apply paused: \"" ++ label ++ "\" needs you"⟩
  | [] =>
    if mapping.missing ≠ [] then
      let n := mapping.missing.length
      let _ ← move item [.preparing, .needsAnswer] .needsAnswer
        { missingFields := some mapping.missing
          stateDetail := some ("Needs " ++ answersText n) }
        { kind := .prepare, detail := some ("needs " ++ toString n ++ " answer(s)") }
      return ⟨false, "Blind Apply paused: it needs " ++ answersText n ++ " from you"⟩
    Prog.forEach mapping.uses fun use =>
      match use.answerId with
      | some id => op (.answerUsed id)
      | none => pure ()
    op (.appendEvent item.id item.state
      { kind := .answerUsed, answers := some mapping.uses
        detail := some "form filled from your saved details" })
    return ⟨true, ""⟩

/-! ## Selection -/

section Selection

variable (host : Host)

def isDuplicate (candidate : Candidate) : Run Bool := do
  let world ← op .world
  if world.inFlightOrCompleted candidate then
    return true
  if ← op (.identityBlocked (host.blindIdentityKey candidate.company candidate.applyUrl)) then
    return true
  return world.manualDuplicate candidate

/-- `evaluateBlindApplyCandidate`, as the runner calls it. -/
def evaluateBlindApplyCandidate (auth : Authorization) (current : CurrentFacts)
    (candidate : Candidate) : Run GateDecision := do
  let duplicate ← isDuplicate host candidate
  let world ← op .world
  match gateBeforeLiveness true auth current world.resolvePolicy duplicate candidate with
  | .inl decision => return decision
  | .inr policy =>
    let liveness ← ask (.select auth.id) (.checkLiveness candidate.vacancyKey)
    return gateAfterLiveness policy candidate liveness

def baseInput (auth : Authorization) (candidate : Candidate) (verdict : Verdict) : ItemInput where
  authorizationId := auth.id
  vacancyKey := candidate.vacancyKey
  identityKey := host.blindIdentityKey candidate.company candidate.applyUrl
  company := candidate.company
  role := candidate.role
  applyUrl := candidate.applyUrl
  policyId := verdict.evidence.policyId
  state := .skipped
  stateDetail := ""
  skipReason := none
  gateEvidence := verdict.evidence

def verdictInput (auth : Authorization) (candidate : Candidate) (verdict : Verdict) : ItemInput :=
  let base := baseInput host auth candidate verdict
  match verdict with
  | .skip reason detail _ =>
    { base with state := .skipped, skipReason := some reason, stateDetail := detail }
  | .applyYourself detail _ => { base with state := .applyYourself, stateDetail := detail }
  | .eligible policyId _ =>
    { base with policyId := some policyId, state := .queued, stateDetail := "Waiting to start" }

def duplicateInput (auth : Authorization) (candidate : Candidate) (verdict : Verdict) :
    ItemInput :=
  { baseInput host auth candidate verdict with
    gateEvidence := { verdict.evidence with duplicateCheck := .duplicate }
    policyId := none
    state := .skipped
    skipReason := some .duplicate
    stateDetail := "You already applied or started this one" }

def recordDecision (auth : Authorization) (candidate : Candidate) (verdict : Verdict) :
    Run Unit := do
  match ← (op (.insertItem (verdictInput host auth candidate verdict))).attempt with
  | .ok _ => return
  | .error (.store (.duplicateItem _)) =>
    let _ ← op (.insertItem (duplicateInput host auth candidate verdict))
    return
  | .error e => throw e

/-- The loop of `selectCandidates` over the candidates still to come; `seen` holds the vacancies
that have been looked at. -/
def selectFrom (auth : Authorization) (current : CurrentFacts) :
    List Candidate → List String → Run Unit
  | [], _ => return
  | candidate :: rest, seen => do
    if candidate.vacancyKey ∈ seen then
      selectFrom auth current rest seen
    else if !(← op (.isActive auth.id)) then
      return
    else
      let evaluate := evaluateBlindApplyCandidate host auth current candidate
      match ← (inner (.select auth.id) evaluate).attempt with
      -- A failed check is not evidence of anything: the vacancy is left for the next turn.
      | .error _ => selectFrom auth current rest seen
      | .ok (.paused _ _) => return
      | .ok (.decided verdict) =>
        if !(← op (.isActive auth.id)) then
          return
        recordDecision host auth candidate verdict
        selectFrom auth current rest (candidate.vacancyKey :: seen)

def selectCandidates (auth : Authorization) (current : CurrentFacts) : Run Unit := do
  let items ← op (.listItems (some auth.id) none)
  let world ← op .world
  selectFrom host auth current world.listCandidates (items.map Item.vacancyKey)

end Selection

/-! ## Calls of the pipeline -/

def pipelineStart (site : Site) (itemId : ℕ) : Run (StartReply × ℕ) := do
  match ← ask site (.start itemId) with
  | .created =>
    let attemptId ← op (.createAttempt itemId)
    op (.note (.handed attemptId))
    ask site (.started attemptId)
    return (.created, attemptId)
  | reply => return (reply, 0)

/-- `pipeline.resume`; the result says whether it was accepted. -/
def pipelineResume (site : Site) (attemptId : ℕ) : Run Bool := do
  match ← ask site (.resume attemptId) with
  | .handed =>
    op (.note (.handed attemptId))
    ask site (.resumed attemptId)
    return true
  | .refused _ => return false

def pipelineRequeue (site : Site) (attemptId : ℕ) : Run Unit := do
  ask site (.requeue attemptId)
  op (.note (.handed attemptId))
  ask site (.requeued attemptId)

/-! ## Starting -/

def startItem (auth : Authorization) (item : Item) : Run Unit := do
  let world ← op .world
  if !world.resolveVacancy item.vacancyKey then
    let _ ← move item [.queued] .couldNotSubmit
      { stateDetail := some "This role is no longer in your latest results" }
      { kind := .prepare, detail := some "vacancy no longer available" }
    return
  if !(← op (.isActive auth.id)) then
    return
  match ← (pipelineStart (.start auth.id) item.id).attempt with
  | .error e =>
    let _ ← move item [.queued] .couldNotSubmit
      { stateDetail := some "Could not start this application" }
      { kind := .prepare, detail := some e.describe }
    return
  | .ok (.alreadyCompleted, _) =>
    let _ ← move item [.queued] .skipped
      { skipReason := some .duplicate
        stateDetail := some "You already applied or started this one" }
      { kind := .gate, detail := some "already applied (attempt guard)" }
    return
  | .ok (.refused .attemptAlreadyInProgress _, _) =>
    let _ ← move item [.queued] .skipped
      { skipReason := some .duplicate
        stateDetail := some "You already applied or started this one" }
      { kind := .gate, detail := some "already in progress (attempt guard)" }
    return
  | .ok (.refused reason detail, _) =>
    let _ ← move item [.queued] .couldNotSubmit
      { stateDetail := some (detail.getD "Could not start this application") }
      { kind := .prepare, detail := some reason.text }
    return
  | .ok (.created, attemptId) =>
    let moved ← move item [.queued] .preparing
      { attemptId := some (some attemptId), stateDetail := some "Preparing" }
      { kind := .prepare, detail := some "preparation started" }
    if moved.isNone then
      -- A Stop took the item while the attempt was being created: cancel what was just queued.
      let _ ← (ask (.start auth.id) (.cancelQueue attemptId)).attempt
      return

/-! ## Reconciling -/

def documentHashes (attemptId : ℕ) : Run (Option String × Option String) := do
  let artifacts ← op (.listArtifacts attemptId)
  let cv := artifacts.find? fun a => a.kind == .cvPdf || a.kind == .combinedPdf
  let letter := artifacts.find? fun a => a.kind == .coverLetterPdf
  return (cv.map ArtifactView.contentHash, letter.map ArtifactView.contentHash)

def latestSubmittedReceiptId (attemptId : ℕ) : Run (Option ℕ) := do
  let receipts ← op (.listReceipts attemptId)
  return ((receipts.filter fun r => r.submitted).getLast?).map ReceiptView.id

def settleFromAttempt (item : Item) (expected : List ItemState) (attempt : AttemptView) :
    Run Unit := do
  match attempt.checkpoint with
  | .submitted =>
    let receiptId ← latestSubmittedReceiptId attempt.id
    let _ ← move item expected .submitted { stateDetail := some "Submitted" }
      { kind := .receipt, detail := some "receipt observed", receiptId }
  | .userReported =>
    let _ ← move item expected .outcomeUnknown
      { stateDetail := some "You said you applied; no receipt was seen" }
      { kind := .userAction, detail := some "reported by you" }
  | .submissionUnknown =>
    let _ ← move item expected .outcomeUnknown
      { stateDetail := some "Sent? Couldn't confirm" }
      { kind := .recover, detail := some attempt.checkpointDetail }
  | .needsUser =>
    let _ ← move item expected .couldNotSubmit
      { stateDetail := some "The site did not accept it" }
      { kind := .receipt, detail := some attempt.checkpointDetail }
  | _ => return

def reconcilePreparing (site : Site) (item : Item) : Run Unit := do
  let some attemptId := item.attemptId | return
  let attempt ← op (.getAttempt attemptId)
  match attempt.checkpoint with
  | .ready =>
    let (cvArtifactHash, letterArtifactHash) ← documentHashes attempt.id
    let _ ← move item [.preparing] .ready { stateDetail := some "Prepared; sending" }
      { kind := .prepare, detail := some "ready to send", cvArtifactHash, letterArtifactHash }
  | .needsUser =>
    -- The field mapper records what it needs from the person before this is reached.
    if attempt.checkpointDetail = captchaStopDetail then
      let _ ← move item [.preparing] .needsYou
        { intervention := some .captcha, stateDetail := some "This page shows a bot check" }
        { kind := .prepare, detail := some "bot check detected" }
    else if isPostingPreparationStopDetail attempt.checkpointDetail then
      let closed := attempt.checkpointDetail == postingClosedDetail
      let _ ← move item [.preparing] .skipped
        { skipReason := some (if closed then .closed else .unverifiablePosting)
          stateDetail := some (if closed then "This posting is closed"
            else "This posting could not be confirmed open") }
        { kind := .gate, detail := some attempt.checkpointDetail }
    else
      let _ ← move item [.preparing] .couldNotSubmit
        { stateDetail := some "Could not prepare this application" }
        { kind := .prepare, detail := some attempt.checkpointDetail }
  | .failed =>
    if item.prepRetries < 1 then
      if ← pipelineResume site attempt.id then
        let _ ← move item [.preparing] .preparing
          { prepRetries := some (item.prepRetries + 1), stateDetail := some "Preparing again" }
          { kind := .prepare
            detail := some "one automatic retry after a failed preparation" }
        return
    let _ ← move item [.preparing] .couldNotSubmit
      { stateDetail := some "Could not prepare this application" }
      { kind := .prepare, detail := some attempt.checkpointDetail }
  | .skipped =>
    let _ ← move item [.preparing] .stopped
      { stateDetail := some "Cancelled before it was sent" }
      { kind := .stop, detail := some attempt.checkpointDetail }
  | .submitted | .submissionUnknown | .userReported => settleFromAttempt item [.preparing] attempt
  | _ => return

def reconcileSubmitting (item : Item) : Run Unit := do
  let some attemptId := item.attemptId | return
  if ← op (.submitInFlight item.id) then
    return
  let attempt ← op (.getAttempt attemptId)
  if attempt.checkpoint = .submitting then
    return
  settleFromAttempt item [.submitting] attempt
  if attempt.checkpoint = .ready then
    let _ ← move item [.submitting] .couldNotSubmit
      { stateDetail := some "Not sent: the page would not accept the click" }
      { kind := .recover, detail := some "the click was refused" }

def reconcileAllSubmitting : Run Unit := do
  let items ← op (.listItems none (some [.submitting]))
  Prog.forEach items fun item => do
    let _ ← (reconcileSubmitting item).attempt
    return

/-! ## Sending -/

def recordClick : Option String → Run Unit
  | some policyId => op (.clicked policyId)
  | none => return

/-- The `beforeClick` callback of `submitItem`: the last moment at which a Stop can win. -/
def beforeClick (auth : Authorization) (item : Item) : Run Bool := do
  if !(← op (.isActive auth.id)) then
    return false
  let sending ← move item [.ready] .submitting { stateDetail := some "Sending" }
    { kind := .submitClick, detail := some "about to send" }
  if sending.isNone then
    return false
  recordClick item.policyId
  op (.note (.clickAllowed item.id))
  return true

def reviewsSubmit (auth : Authorization) (item : Item) (attemptId : ℕ) : Run SubmitResult := do
  match ← ask (.send auth.id) (.submit item.id attemptId) with
  | .settled result => return result
  | .beforeClick =>
    let answer ← beforeClick auth item
    ask (.send auth.id) (.submitAnswered item.id attemptId answer)

/-- What `submitItem` does with the answer of the submission. -/
def settleSubmit (auth : Authorization) (item : Item) (attemptId : ℕ) (result : SubmitResult) :
    Run Unit := do
  let some fresh ← op (.getItem item.id) | return
  let current ← op (.getAttempt attemptId)
  if result.ok then
    let receiptId ← latestSubmittedReceiptId attemptId
    let _ ← move fresh [.submitting] .submitted { stateDetail := some "Submitted" }
      { kind := .receipt, detail := some "receipt observed", receiptId }
    let _ ← (ask (.send auth.id) (.close attemptId)).attempt
    return
  match result.reason with
  | some .stopped =>
    let _ ← move fresh [.ready] .stopped { stateDetail := some "Stopped before it was sent" }
      { kind := .stop, detail := some "stopped at the last moment" }
  | some .alreadySubmitting | some .handoffInProgress => return
  | some .noOpenReview =>
    let _ ← move fresh [.ready] .preparing { stateDetail := some "Preparing again" }
      { kind := .recover, detail := some "no live page" }
    pipelineRequeue (.send auth.id) attemptId
  | some .captchaDetected =>
    let _ ← move fresh [.ready] .needsYou
      { intervention := some .captcha, stateDetail := some "This page shows a bot check" }
      { kind := .submitClick, detail := some "bot check before sending" }
  | some .submissionUnknown =>
    let _ ← move fresh [.submitting] .outcomeUnknown
      { stateDetail := some "Sent? Couldn't confirm" }
      { kind := .receipt, detail := some (result.detail.getD current.checkpointDetail) }
    let _ ← (ask (.send auth.id) (.close attemptId)).attempt
    return
  | some .submissionRejected =>
    let _ ← move fresh [.submitting] .couldNotSubmit
      { stateDetail := some "The site did not accept it" }
      { kind := .receipt, detail := some (result.detail.getD "") }
  | some .submitRefused =>
    let _ ← move fresh [.submitting] .couldNotSubmit
      { stateDetail := some (plainRefusal result.reason) }
      { kind := .submitClick, detail := some (result.detail.getD "") }
  | reason =>
    -- A refusal before anything was sent: the attempt stays `ready` and untouched.
    let _ ← move fresh [.ready] .couldNotSubmit
      { stateDetail := some (plainRefusal reason) }
      { kind := .submitClick
        detail := some ((reason.map SubmitRefusal.text).getD "refused" ++ ": " ++
          result.detail.getD "") }

def tooSoon (world : World) : Option String → Run Bool
  | some policyId => do
    let now ← op .now
    let last ← op (.lastClick policyId)
    let interval := world.minIntervalMs policyId
    return decide (0 < interval) && last.any fun last => decide (now - last < interval)
  | none => return false

lemma meets_tooSoon {ι : Type} {K : Contract sig State ι} {o : ι ⊕ sig.Port} {s₀ s : State}
    {world : World} {policyId : Option String} {Q : Post sig State ι Bool}
    (hnow : K.pre .now s) (hlast : ∀ policyId, K.pre (.lastClick policyId) s)
    (h : ∀ soon, Q o s₀ (.ok soon) s) :
    (tooSoon world policyId).Meets K Op.run Q o s₀ s := by
  cases policyId with
  | none => exact h _
  | some policyId =>
    refine meets_op_bind rfl (fun _ => hnow) fun _ => ?_
    exact meets_op_bind rfl (fun _ => hlast policyId) fun _ => h _

def submitItem (auth : Authorization) (item : Item) : Run Unit := do
  let some attemptId := item.attemptId | return
  if ← op (.submitInFlight item.id) then
    return
  let attempt ← op (.getAttempt attemptId)
  if attempt.checkpoint ≠ .ready then
    return
  let world ← op .world
  -- The page view does not survive a restart.
  if !world.hasLive attempt.id then
    let moved ← move item [.ready] .preparing
      { stateDetail := some "Preparing again after a restart" }
      { kind := .recover, detail := some "the page view was closed; preparing again" }
    if moved.isSome then
      pipelineRequeue (.send auth.id) attempt.id
    return
  if ← tooSoon world item.policyId then
    return
  op (.beginSubmit item.id)
  match ← (reviewsSubmit auth item attempt.id).attempt with
  | .error _ => op (.endSubmit item.id)
  | .ok result =>
    op (.endSubmit item.id)
    settleSubmit auth item attempt.id result

/-! ## tick -/

/-- The loop of `tick` over the items that are being prepared. -/
def reconcileFrom (auth : Authorization) : List Item → Run Unit
  | [] => return
  | item :: rest => do
    let site := Site.reconcile auth.id rest
    let _ ← (inner site (reconcilePreparing site item)).attempt
    reconcileFrom auth rest

/-- The loop of `tick` over the queued items. -/
def startFrom (auth : Authorization) : List Item → Run Unit
  | [] => return
  | item :: rest => do
    if item.attemptId.isNone then
      if ← op (.isActive auth.id) then
        inner (.start auth.id) (startItem auth item)
    startFrom auth rest

/-- The loop of `tick` over the items that are ready. -/
def submitFrom (auth : Authorization) : List Item → Run Unit
  | [] => return
  | item :: rest => do
    if !(← op (.isActive auth.id)) then
      return
    let _ ← (inner (.send auth.id) (submitItem auth item)).attempt
    submitFrom auth rest

def tick (host : Host) : Run Unit := do
  reconcileAllSubmitting
  let some auth ← op .activeAuthorization | return
  if ← op (.stopRequested auth.id) then
    return
  match ← (ask (.facts auth.id) .loadCurrentFacts).attempt with
  | .error _ => return
  | .ok current =>
    let paused := decide (current.cvContentHash ≠ some auth.sourceCvContentHash) ||
      decide (current.profileVersion ≠ auth.profileVersion)
    if !paused then
      inner (.select auth.id) (selectCandidates host auth current)
    reconcileFrom auth (← op (.listItems (some auth.id) (some [.preparing])))
    if paused then
      return
    startFrom auth (← op (.listItems (some auth.id) (some [.queued])))
    -- Oldest first.
    submitFrom auth (← op (.listItems (some auth.id) (some [.ready]))).reverse

/-! ## stop -/

def stopItems (reason : String) : List Item → Run (List Item)
  | [] => return []
  | item :: rest => do
    let done ← move item [item.state] .stopped { stateDetail := some "Stopped by you" }
      { kind := .stop, detail := some reason }
    let moved ← stopItems reason rest
    return if done.isSome then item :: moved else moved

def cancelsPreparation (item : Item) : Bool :=
  item.state != .needsAnswer && item.state != .needsYou

def takenAttempts (moved : List Item) : List ℕ :=
  (moved.filter cancelsPreparation).filterMap Item.attemptId

def cancelItems (items : List Item) : Run Unit :=
  Prog.forEach items fun item => do
    let some attemptId := item.attemptId | return
    if cancelsPreparation item then
      op (.note (.stopCancels attemptId))
      let _ ← (ask .stop (.cancelQueue attemptId)).attempt
      let _ ← (ask .stop (.close attemptId)).attempt
      return

def stop (reason : String) : Run (Bool × ℕ) := do
  let some auth ← op .activeAuthorization | return (false, 0)
  -- The database write and the flag in memory, with no await between them and the moves.
  let _ ← op (.stopAuthorization auth.id reason)
  op (.requestStop auth.id)
  let items ← op (.listItems (some auth.id) (some stoppableStates))
  let moved ← stopItems reason items
  op (.recordStop auth.id (takenAttempts moved))
  cancelItems moved
  return (true, moved.length)

/-! ## answer -/

/-- `BlindApplyAnswerInput`. -/
structure AnswerInput where
  itemId : ℕ
  answers : List (String × String)
  remember : Bool

/-- Why `answer` does nothing. -/
inductive AnswerRefusal where
  | notWaiting
  | stopped
  | incomplete
  | invalidOption

def resolveAnswers (input : AnswerInput) :
    List MissingField → Except AnswerRefusal (List (MissingField × String))
  | [] => .ok []
  | field :: rest =>
    let given := trim (((input.answers.find? fun e => e.1 == field.label).map Prod.snd).getD "")
    if given = "" then
      .error .incomplete
    else if field.controlType = .select ∧ given ∉ field.options.getD [] then
      .error .invalidOption
    else
      (resolveAnswers input rest).map fun resolved => (field, given) :: resolved

def Host.blindAnswerKey (host : Host) (label : String) (controlType : ControlType)
    (optionSetHash : Option String) : String :=
  controlType.spelling ++ "::" ++ host.normalizeBlindLabel label ++ "::" ++ optionSetHash.getD ""

def saveGiven (host : Host) (input : AnswerInput) (itemId : ℕ) (field : MissingField)
    (given : String) : Run Unit :=
  let optionSetHash := if field.controlType = .select then field.optionSetHash else none
  let key := host.blindAnswerKey field.label field.controlType optionSetHash
  let matchKey := if input.remember then key else Store.scopedBlindAnswerKey key itemId
  op (.saveAnswer matchKey field.label field.controlType given optionSetHash)

def answer (host : Host) (input : AnswerInput) : Run (Except AnswerRefusal Unit) := do
  let some item ← op (.getItem input.itemId) | return .error .notWaiting
  let some attemptId := item.attemptId | return .error .notWaiting
  if item.state ≠ .needsAnswer then
    return .error .notWaiting
  if !(← op (.isActive item.authorizationId)) then
    return .error .stopped
  match resolveAnswers input (item.missingFields.getD []) with
  | .error refusal => return .error refusal
  | .ok resolved =>
    -- Saved before preparation runs again, so the mapper never runs ahead of its answers.
    Prog.forEach resolved fun (field, given) => saveGiven host input item.id field given
    if !(← pipelineResume .answer attemptId) then
      return .error .notWaiting
    let _ ← move item [.needsAnswer] .preparing
      { stateDetail := some "Preparing with your answer" }
      { kind := .userAction
        detail := some (if input.remember then "answered; remembered for Blind Apply"
          else "answered for this form only") }
    return .ok ()

/-! ## Recovery -/

/-- The first loop of `recoverOnStartup`. -/
def stopLeftBehind (items : List Item) : Run Unit :=
  Prog.forEach items fun item => do
    let auth ← op (.getAuthorization item.authorizationId)
    if auth.any fun auth => auth.stoppedAt.isSome then
      let _ ← move item [item.state] .stopped { stateDetail := some "Stopped by you" }
        { kind := .recover, detail := some "stopped before the app closed" }

/-- The second loop of `recoverOnStartup`. -/
def requeueLostPages (items : List Item) : Run Unit :=
  Prog.forEach items fun item => do
    let some attemptId := item.attemptId | return
    let world ← op .world
    if !world.hasLive attemptId then
      let moved ← move item [.ready] .preparing
        { stateDetail := some "Resumed after restart" }
        { kind := .recover, detail := some "resumed after a restart" }
      if moved.isSome then
        pipelineRequeue .recover attemptId

def recoverOnStartup : Run Unit := do
  stopLeftBehind (← op (.listItems none (some stoppableStates)))
  reconcileAllSubmitting
  let some active ← op .activeAuthorization | return
  requeueLostPages (← op (.listItems (some active.id) (some [.ready])))

/-! ## The system -/

/-- The calls of the runner, and what happens outside it. -/
inductive Call where
  | tick
  | stop (reason : String)
  | answer (input : AnswerInput)
  | recoverOnStartup
  | createAuthorization (input : AuthorizationInput)
  | fieldMapper (attemptId : ℕ)
      (mapBlindApplyAnswers : (String → Option (ℕ × String)) → Mapping)
  | attempt (id : ℕ) (checkpoint : Checkpoint) (detail : String)
  | artifact (a : ArtifactView)
  | receipt (r : ReceiptView)
  | world (w : World)
  | clock (t : ℤ)

def Call.body (host : Host) : Call → Run Unit
  | tick => do
    let before ← op .beginTick
    let outcome ← (BlindApply.tick host).attempt
    op (.endTick outcome.isOk before)
    Prog.ofExcept (S := sig) outcome
  | stop reason => do
    let _ ← BlindApply.stop reason
  | answer input => do
    let _ ← BlindApply.answer host input
  | recoverOnStartup => BlindApply.recoverOnStartup
  | createAuthorization input => do
    let _ ← op (.createAuthorization input)
  | fieldMapper attemptId mapBlindApplyAnswers => do
    let _ ← blindApplyFieldMapper attemptId mapBlindApplyAnswers
  | attempt id checkpoint detail => op (.setAttempt id checkpoint detail)
  | artifact a => op (.addArtifact a)
  | receipt r => op (.addReceipt r)
  | world w => op (.setWorld w)
  | clock t => op (.setClock t)

def runner (host : Host) : System sig State Call where
  ex := Op.run
  body := Call.body host
  restart := State.restart

/-- A fresh installation. -/
def State.init (world : World) : State where
  db := .empty
  attempts := ∅
  artifacts := []
  receipts := []
  world := world
  clock := 0
  stopRequested := []
  submitsInFlight := []
  lastClickAt := []
  stops := []
  taken := []
  notes := []
  failures := 0
  tickStart := 0
  ticking := false

/-- The configurations of the runner begin with a fresh installation and no program. -/
def Cfg.init (world : World) : Coop.Cfg sig State := ⟨.init world, []⟩

/-! ## Contracts that leave reading free -/

/-- Programs may read, and they may move an item to an end if its attempt stays. -/
structure Lenient (K : Contract sig State Call) : Prop where
  read : ∀ a s, a.reads → K.pre a s
  settle : ∀ s i expected target patch event, target ∈ terminalStates → patch.attemptId = none →
    K.pre (.move i expected target patch event) s

namespace Lenient

open Prog

variable {K : Contract sig State Call} {item : Item} {expected : List ItemState}
  {target : ItemState} {patch : ItemPatch} {event : EventInput} {a : Op} {auth : Authorization}
  {host : Host}

lemma safe_read (h : Lenient K) (ha : a.reads) : Safe K Op.run (op a) := Safe.op fun s _ => h.read a s ha

lemma safe_settled (h : Lenient K) (ht : target ∈ terminalStates) (hp : patch.attemptId = none) :
    Safe K Op.run (do
      let _ ← move item expected target patch event
      return) :=
  Safe.bind (Safe.op fun s _ => h.settle s _ _ _ _ _ ht hp) fun _ => Safe.ret _

lemma safe_settleFromAttempt (h : Lenient K) (attempt : AttemptView) :
    Safe K Op.run (settleFromAttempt item expected attempt) := by
  unfold settleFromAttempt
  split
  · exact ((h.safe_read rfl).bind fun _ => Safe.ret _).bind fun _ => h.safe_settled (by decide) rfl
  · exact h.safe_settled (by decide) rfl
  · exact h.safe_settled (by decide) rfl
  · exact h.safe_settled (by decide) rfl
  · exact Safe.ret _

lemma safe_reconcileAllSubmitting (h : Lenient K) : Safe K Op.run reconcileAllSubmitting := by
  refine (h.safe_read rfl).bind fun items => Safe.forEach fun item _ => ?_
  refine Safe.bind (Safe.attempt ?_) fun _ => Safe.ret _
  unfold reconcileSubmitting
  split
  · refine (h.safe_read rfl).bind fun inFlight => Safe.ite (Safe.ret _) ?_
    refine (h.safe_read rfl).bind fun attempt => Safe.ite (Safe.ret _) ?_
    refine (h.safe_settleFromAttempt _).bind fun _ => Safe.ite ?_ (Safe.ret _)
    exact h.safe_settled (by decide) rfl
  · exact Safe.ret _

lemma safe_evaluate (h : Lenient K) {current : CurrentFacts} {candidate : Candidate}
    (hask : Safe K Op.run (ask (.select auth.id) (.checkLiveness candidate.vacancyKey))) :
    Safe K Op.run (evaluateBlindApplyCandidate host auth current candidate) := by
  refine Safe.bind ?_ fun duplicate => (h.safe_read rfl).bind fun world => ?_
  · refine (h.safe_read rfl).bind fun world => Safe.ite (Safe.ret _) ?_
    exact (h.safe_read rfl).bind fun _ => Safe.ite (Safe.ret _) (Safe.ret _)
  · split
    · exact Safe.ret _
    · exact hask.bind fun _ => Safe.ret _

lemma safe_startFrom (h : Lenient K) (items : List Item)
    (hstart : ∀ item, Safe K Op.run (inner (.start auth.id) (startItem auth item))) :
    Safe K Op.run (startFrom auth items) := by
  induction items with
  | nil => exact Safe.ret _
  | cons item rest ih =>
    refine Safe.ite ?_ ih
    exact (h.safe_read rfl).bind fun active => Safe.ite ((hstart item).bind fun _ => ih) ih

lemma safe_tick (h : Lenient K)
    (hfacts : ∀ id, Safe K Op.run (ask (.facts id) .loadCurrentFacts))
    (hselect : ∀ auth current, Safe K Op.run
      (inner (.select auth.id) (selectCandidates host auth current)))
    (hrest : ∀ (auth : Authorization) (paused : Bool), Safe K Op.run (do
      reconcileFrom auth (← op (.listItems (some auth.id) (some [.preparing])))
      if paused then
        return
      startFrom auth (← op (.listItems (some auth.id) (some [.queued])))
      submitFrom auth (← op (.listItems (some auth.id) (some [.ready]))).reverse)) :
    Safe K Op.run (tick host) := by
  refine h.safe_reconcileAllSubmitting.bind fun _ => (h.safe_read rfl).bind fun auth => ?_
  split
  · refine (h.safe_read rfl).bind fun _ => Safe.ite (Safe.ret _) ?_
    refine (hfacts _).attempt.bind fun facts => ?_
    split
    · exact Safe.ret _
    · exact Safe.ite ((hselect _ _).bind fun _ => hrest _ _) (hrest _ _)
  · exact Safe.ret _

lemma safe_recoverOnStartup (h : Lenient K)
    (hrequeue : ∀ active : Authorization, Safe K Op.run (do
      requeueLostPages (← op (.listItems (some active.id) (some [.ready]))))) :
    Safe K Op.run recoverOnStartup := by
  refine (h.safe_read rfl).bind fun items => ?_
  refine Safe.bind (Safe.forEach fun item _ => ?_) fun _ => ?_
  · exact (h.safe_read rfl).bind fun auth => Safe.ite (h.safe_settled (by decide) rfl) (Safe.ret _)
  · refine h.safe_reconcileAllSubmitting.bind fun _ => (h.safe_read rfl).bind fun active => ?_
    split
    · exact hrequeue _
    · exact Safe.ret _

end Lenient

end VacancyRadar.BlindApply
