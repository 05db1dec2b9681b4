import VacancyRadar.Desktop.Review

/-!
# Preparing an application

`runApplicationAttempt` of `application-pipeline.ts`, in its stages: reading the job description,
tailoring the documents, staging them, filling the form.  A run carries a generation, and every
write of it that goes through the fence is dropped once another generation, or none, is the live
one of its attempt.  The staging of `application-artifact-staging.ts` and
`applyApplicationFieldMap` of `application-review-session.ts` ask for the fence themselves, right
before each effect.
-/

namespace VacancyRadar.Desktop

open Coop Data Workspace

/-! ## Texts -/

def blindApplyWorkflowVersion : String := "blind-apply-v1"

def noProfileSkillsWarning : String :=
  "Your CV profile has no skills, so tailoring cannot match this vacancy. Add skills to your CV."

def cvReadyPhrase (skillsMissing : Bool) : String :=
  if skillsMissing then "Your CV was prepared without any skills."
  else "Your tailored CV is ready."

def tailoringStopped : String := "Automatic CV tailoring stopped:"

/-- What the detail of a manual hand-off contains. -/
def documentsReady : String := "Your application documents are ready."

def draftWords : DraftKind → String
  | .cv => "cv"
  | .coverLetter => "cover letter"
  | .motivationLetter => "motivation letter"

def letterFileName : DraftKind → String
  | .cv => "cv.pdf"
  | .coverLetter => "cover-letter.pdf"
  | .motivationLetter => "motivation-letter.pdf"

/-! ## What the queue says -/

/-- `resolveQueueDirective`: where a run that the queue stops has to leave the attempt. -/
def resolveQueueDirective : Option QueueState → Option (Checkpoint × String)
  | some .paused => some (.queued, "paused; it will pick up again when you resume it")
  | some .cancelled => some (.skipped, "this application was cancelled from the queue")
  | none | some .queued | some .active | some .done | some .failed => none

/-! ## The fence -/

/-- `RunApplicationAttemptOutcome`. -/
inductive RunOutcome where
  | ready
  | needsUser
  | failed
  | alreadySettled
  | halted
deriving DecidableEq

/-- `RunApplicationAttemptResult`. -/
structure RunResult where
  outcome : RunOutcome
  checkpoint : Checkpoint
  detail : String

structure PipelineRun where
  attemptId : ℕ
  generation : ℕ

/-- Where a preparation waits. -/
abbrev PipelineRun.site (run : PipelineRun) : Site := .prepare run.attemptId run.generation

section Fence

variable (run : PipelineRun)

def isLivePreparation : Run Bool := op (.isLive run.attemptId run.generation)

def fencedWrite {α : Type} (write : Run α) : Run (Option α) := do
  if ← isLivePreparation run then
    some <$> write
  else
    return none

def settle (checkpoint : Checkpoint) (detail : String) (outcome : RunOutcome) :
    Run RunResult := do
  let _ ← fencedWrite run (op (.settle run.attemptId checkpoint detail))
  return ⟨outcome, checkpoint, detail⟩

def advanceTo (checkpoint : Checkpoint) : Run Unit := do
  let _ ← fencedWrite run (op (.updateAttempt run.attemptId
    { checkpoint := some checkpoint, checkpointDetail := some "" }))

def abandoned : RunResult where
  outcome := .halted
  checkpoint := .queued
  detail := "this preparation was abandoned after it stopped making progress; " ++
    "a newer run owns this attempt"

end Fence

section Run

variable (host : Host) (run : PipelineRun)

/-! ## The job description -/

/-- What `verifyAttemptPosting` answers to a preparation. -/
inductive PostingCheck where
  | verified (view : PostingView)
  | notApplicable (view : PostingView)
  | dropped

def viewFor (attempt : Attempt) : Run PostingView := do
  let rows ← op (.postings attempt.id)
  let now ← op .now
  return host.postingView attempt rows now

def verifyAttemptPosting : Run PostingCheck := do
  let attempt ← op (.getAttempt run.attemptId)
  if attempt.isHistorical then
    return .notApplicable (← viewFor host attempt)
  let rows ← op (.postings run.attemptId)
  let start ← op .now
  if host.reusesFinding attempt rows start then
    return .verified (← viewFor host attempt)
  let observation ← ask run.site .verifyPosting
  if !(← isLivePreparation run) then
    let _ ← op (.getAttempt run.attemptId)
    return .dropped
  -- The attempt can have moved while the request was out.
  let fresh ← op (.getAttempt run.attemptId)
  let rows ← op (.postings run.attemptId)
  if !(← op (.recordPosting run.attemptId (host.judgedRows fresh rows observation))) then
    let _ ← op (.getAttempt run.attemptId)
    return .dropped
  match host.fillDescription fresh rows observation with
  | some text =>
    let _ ← op (.recordFetched run.attemptId text (host.sha256 text) true)
  | none => pure ()
  return .verified (← viewFor host (← op (.getAttempt run.attemptId)))

def postingStop (view : PostingView) (openEvidence : Bool) : Option String :=
  if view.status = .confirmedClosed ∧ view.resolution ≠ some .prepareAnyway then
    some postingClosedDetail
  else if view.status = .materiallyChanged ∧ view.resolution = none then
    some postingChangedDetail
  else if view.status = .unableToVerify ∧ !openEvidence then
    some postingUnverifiedDetail
  else
    none

def actOnPosting (view : PostingView) : Run (RunResult ⊕ Attempt) := do
  match resolveQueueDirective (← ask run.site (.entryState run.attemptId)) with
  | some (checkpoint, detail) => return .inl (← settle run checkpoint detail .halted)
  | none =>
    let attempt ← op (.getAttempt run.attemptId)
    let rows ← op (.postings run.attemptId)
    let now ← op .now
    match postingStop view (host.postingOpenEvidence rows now) with
    | some detail => return .inl (← settle run .needsUser detail .needsUser)
    | none => return .inr attempt

def checkPosting (attempt : Attempt) : Run (RunResult ⊕ Attempt × Bool) := do
  if !host.verifiesPostings then
    return .inr (attempt, true)
  let checked ← inner run.site (verifyAttemptPosting host run)
  if !(← isLivePreparation run) then
    return .inl abandoned
  match checked with
  | .dropped =>
    let current ← op (.getAttempt run.attemptId)
    return .inl ⟨.halted, current.checkpoint, current.checkpointDetail⟩
  | .verified view =>
    return (← actOnPosting host run view).map id fun attempt =>
      (attempt, view.noAuthoritativeSource)
  | .notApplicable view =>
    return (← actOnPosting host run view).map id fun attempt => (attempt, true)

def fetchMissingJobDescription (attempt : Attempt) (mayFetch : Bool) : Run Attempt := do
  if trim attempt.jdSnapshot = "" ∧ host.fetchesDescriptions ∧ mayFetch then
    match ← (ask run.site .fetchJobDescription).attempt with
    | .ok (some (description, complete)) =>
      if trim description = "" then
        return attempt
      let recorded ← fencedWrite run (op (.recordFetched run.attemptId description
        (host.sha256 description) complete))
      if recorded = some true then
        return { attempt with
          jdSnapshot := description
          jdSnapshotHash := host.sha256 description
          jdComplete := complete }
      else
        return attempt
    | .ok none => return attempt
    | .error _ => return attempt
  else
    return attempt

def readJobDescription (attempt : Attempt) : Run (RunResult ⊕ Attempt) := do
  advanceTo run .readingJd
  match ← checkPosting host run attempt with
  | .inl result => return .inl result
  | .inr (attempt, mayFetch) =>
    let attempt ← fetchMissingJobDescription host run attempt mayFetch
    if trim attempt.jdSnapshot = "" then
      return .inl (← settle run .needsUser ("no job description was captured for this vacancy, " ++
        "so there is nothing to tailor an application from") .needsUser)
    else if !attempt.jdComplete then
      return .inl (← settle run .needsUser ("the job description this app captured is " ++
        "incomplete, so requirements may be missing; open the posting and apply from it " ++
        "directly") .needsUser)
    else
      return .inr attempt

/-! ## The CV -/

structure PreparedCv where
  resume : Resume
  summary : String
  skillsMissing : Bool
  basis : CvBasis
  origin : DraftOrigin
  critiqueRunId : Option String

/-- `reusableRevisionDraft`: the accepted revision, if it still describes the attempt. -/
def reusableRevisionDraft (attempt : Attempt) (cv : CvDocument) (kind : DraftKind) :
    Run (Option Draft) := do
  let drafts ← op (.currentDrafts attempt.id)
  return (drafts.find? fun d => d.kind = kind ∧ d.origin = .critiqueRevision).filter fun d =>
    d.jdHash = attempt.jdSnapshotHash ∧ d.sourceCvHash = attempt.sourceCvContentHash ∧
      host.sha256 cv.text = d.sourceCvHash ∧ host.draftContentHash d.content = d.contentHash

def revisedCv (cv : CvDocument) (draft : Draft) : Option PreparedCv :=
  match draft.content with
  | .cv resume _ =>
    if cv.reviewed ∧ host.validRevision resume cv then
      some
        { resume
          summary := "CV revised after your review (version " ++ toString draft.version ++
            ") from the reviewed source."
          skillsMissing := false
          basis := .revision
          origin := .critiqueRevision
          critiqueRunId := draft.critiqueRunId }
    else none
  | .letter _ _ _ _ _ => none

def tailoredCv (cv : CvDocument) (tailored : Tailored) : PreparedCv where
  resume := tailored.resume
  summary := "CV tailored for this vacancy from the reviewed source." ++
    (if tailored.dropped = [] then ""
      else " Removed unsupported output: " ++ "; ".intercalate tailored.dropped ++ ".") ++
    (if tailored.resume.skills ≠ [] then ""
      else if cv.skills = [] then " " ++ noProfileSkillsWarning
      else " Every skill was removed, so this CV is not tailored to the vacancy.")
  skillsMissing := tailored.resume.skills = []
  basis := .tailored
  origin := .prepared
  critiqueRunId := none

def generateApplicationTailoredResume (cv : CvDocument) : Run Tailored := do
  if !cv.reviewed then
    throw (DesktopError.other ("this CV has no reviewed source record. Review the CV source " ++
      "before automatic tailoring, or use the original CV."))
  ask run.site .tailor

def tailorResume (attempt : Attempt) (cv : CvDocument) (profile : Option String) :
    Run (RunResult ⊕ PreparedCv) := do
  match (← reusableRevisionDraft host attempt cv .cv).bind (revisedCv host cv) with
  | some reused => return .inr reused
  | none =>
    if attempt.tailoringMode = .original then
      return .inr
        { resume := host.originalResume cv profile
          summary := "Original reviewed CV used by your explicit choice after automatic " ++
            "tailoring stopped."
          skillsMissing := false
          basis := .original
          origin := .prepared
          critiqueRunId := none }
    else
      match ← (inner run.site (generateApplicationTailoredResume run cv)).attempt with
      | .ok tailored => return .inr (tailoredCv cv tailored)
      | .error e =>
        return .inl (← settle run .needsUser (tailoringStopped ++ " " ++ e.describe) .needsUser)

/-! ## The letters -/

structure PreparedLetter where
  kind : DraftKind
  title : String
  body : String
  authored : Authored
  factIds : List String
  companyClaims : List String
  origin : DraftOrigin
  revisedFrom : Option String

structure PreparedLetters where
  letters : List PreparedLetter
  blocker : Option String
  usedCompanyEvidence : List EvidenceFact

def userLetter (kind : DraftKind) (letter : Letter) : PreparedLetter where
  kind := kind
  title := letter.title
  body := letter.body
  authored := .user
  factIds := []
  companyClaims := []
  origin := .userLetter
  revisedFrom := none

def requestedLetters (letters : List Letter) (attempt : Attempt) : List PreparedLetter :=
  if attempt.vacancyKey = none ∨ attempt.vacancyKey = some "" then []
  else letters.filterMap fun letter =>
    if letter.vacancyKey ≠ attempt.vacancyKey ∨ letter.final = false then none
    else match letter.kind with
      | .coverLetter => some (userLetter .coverLetter letter)
      | .motivationLetter => some (userLetter .motivationLetter letter)
      | .other => none

def revisedLetter (companyEvidence : List EvidenceFact) (draft : Draft) :
    Option PreparedLetters :=
  match draft.content with
  | .letter title body .generated factIds companyClaims =>
    if companyClaims.all fun claim => claim ∈ companyEvidence.map EvidenceFact.claim then
      some
        { letters := [{
            kind := .coverLetter
            title
            body
            authored := .generated
            factIds
            companyClaims
            origin := .critiqueRevision
            revisedFrom := draft.critiqueRunId }]
          blocker := none
          usedCompanyEvidence := companyEvidence.filter fun fact => fact.claim ∈ companyClaims }
    else none
  | .letter _ _ .user _ _ => none
  | .cv _ _ => none

def generatedLetter (generated : CoverLetter) : PreparedLetters where
  letters := [{
    kind := .coverLetter
    title := "Cover Letter"
    body := generated.body
    authored := .generated
    factIds := generated.factIds
    companyClaims := generated.usedCompanyEvidence.map EvidenceFact.claim
    origin := .prepared
    revisedFrom := none }]
  blocker := none
  usedCompanyEvidence := generated.usedCompanyEvidence

def loadCompanyEvidence : Run (List EvidenceFact) := do
  if host.loadsCompanyEvidence then
    match ← (ask run.site .companyEvidence).attempt with
    | .ok facts => return facts
    | .error _ => return []
  else
    return []

def prepareLetters (attempt : Attempt) (cv : CvDocument) : Run PreparedLetters := do
  let requested := requestedLetters (← op .world).letters attempt
  if !requested.isEmpty then
    return ⟨requested, none, []⟩
  let companyEvidence ← loadCompanyEvidence host run
  match (← reusableRevisionDraft host attempt cv .coverLetter).bind
      (revisedLetter companyEvidence) with
  | some letters => return letters
  | none =>
    match ← (ask run.site .coverLetter).attempt with
    | .ok generated => return generatedLetter generated
    | .error e =>
      return ⟨[], some ("automatic cover letter generation stopped: " ++ e.describe), []⟩

/-! ## Staging -/

def writeAndRegisterArtifact (kind : ArtifactKind) (fileName : String) (rendered : Rendered) :
    Run Artifact := do
  if !(← isLivePreparation run) then
    throw (DesktopError.stagingAbandoned run.attemptId)
  let storagePath := host.stagedArtifactPath run.attemptId rendered.contentHash fileName
  ask run.site (.writeFile storagePath)
  if !(← isLivePreparation run) then
    let artifacts ← op (.listArtifacts run.attemptId)
    -- A replacement run may have registered the same bytes under this very path.
    if !(artifacts.any fun a => a.storagePath == storagePath) then
      let _ ← (ask run.site (.removeFile storagePath)).attempt
    throw (DesktopError.stagingAbandoned run.attemptId)
  let (record, superseded) ←
    op (.registerArtifact run.attemptId kind fileName rendered storagePath)
  Prog.forEach superseded fun path => do
    let _ ← (ask run.site (.removeFile path)).attempt
  return record

def stageHtmlArtifact (kind : ArtifactKind) (fileName : String) : Run Artifact := do
  let rendered ← ask run.site (.render fileName)
  writeAndRegisterArtifact host run kind fileName rendered

/-- `recordDraftOf`: best effort. -/
def recordDraftOf (attempt : Attempt) (kind : DraftKind) (origin : DraftOrigin)
    (content : DraftContent) (artifactHash : String) (critiqueRunId : Option String) :
    Run Unit := do
  let _ ← (fencedWrite run (op (.recordDraft
    { attemptId := run.attemptId
      kind
      origin
      content
      contentHash := host.draftContentHash content
      artifactHash
      jdHash := attempt.jdSnapshotHash
      sourceCvHash := attempt.sourceCvContentHash
      critiqueRunId }))).attempt

def stageDocument (attempt : Attempt) (artifactKind : ArtifactKind) (fileName : String)
    (kind : DraftKind) (origin : DraftOrigin) (content : DraftContent)
    (critiqueRunId : Option String) : Run (Option Artifact) := do
  match ← fencedWrite run (inner run.site (stageHtmlArtifact host run artifactKind fileName)) with
  | none => return none
  | some record =>
    recordDraftOf host run attempt kind origin content record.contentHash critiqueRunId
    return some record

def stageCv (attempt : Attempt) (cv : PreparedCv) : Run (RunResult ⊕ Artifact) := do
  match ← (stageDocument host run attempt .cvPdf "resume.pdf" .cv cv.origin
      (.cv cv.resume cv.basis) cv.critiqueRunId).attempt with
  | .ok (some record) => return .inr record
  | .ok none => return .inl abandoned
  | .error (.stagingAbandoned _) => return .inl abandoned
  | .error e =>
    return .inl (← settle run .needsUser
      ("the tailored CV could not be produced: " ++ e.describe) .needsUser)

def stageLetters (attempt : Attempt) : List PreparedLetter → List Artifact → Option String →
    Run (RunResult ⊕ List Artifact × Option String)
  | [], records, blocker => return .inr (records, blocker)
  | letter :: rest, records, blocker => do
    if trim letter.body = "" then
      stageLetters attempt rest records
        (blocker.or (some ("the requested " ++ draftWords letter.kind ++ " has no final content")))
    else
      match ← (stageDocument host run attempt .coverLetterPdf (letterFileName letter.kind)
          letter.kind letter.origin
          (.letter letter.title letter.body letter.authored letter.factIds letter.companyClaims)
          letter.revisedFrom).attempt with
      | .ok (some record) => stageLetters attempt rest (records ++ [record]) blocker
      | .ok none => return .inl abandoned
      | .error (.stagingAbandoned _) => return .inl abandoned
      | .error e =>
        stageLetters attempt rest records
          (blocker.or (some ("the " ++ draftWords letter.kind ++ " could not be produced: " ++
            e.describe)))

structure Documents where
  cv : CvDocument
  profile : Option String
  summary : String
  skillsMissing : Bool
  records : List Artifact
  letterBlocker : Option String

def prepareDocuments (attempt : Attempt) : Run (RunResult ⊕ Documents) := do
  advanceTo run .tailoring
  match (← op .world).cvDocuments.find? fun cv => some cv.id = attempt.sourceCvId with
  | none =>
    return .inl (← settle run .needsUser
      "the CV this application was started from is no longer in your library" .needsUser)
  | some cv =>
    let profile ← ask run.site .loadProfile
    match ← tailorResume host run attempt cv profile with
    | .inl result => return .inl result
    | .inr prepared =>
      if !(← isLivePreparation run) then
        return .inl abandoned
      advanceTo run .rendering
      let letters ← prepareLetters host run attempt cv
      let _ ← fencedWrite run (op (.recordEvidence run.attemptId letters.usedCompanyEvidence))
      match ← stageCv host run attempt prepared with
      | .inl result => return .inl result
      | .inr record =>
        match ← stageLetters host run attempt letters.letters [record] letters.blocker with
        | .inl result => return .inl result
        | .inr (records, letterBlocker) =>
          return .inr
            { cv
              profile
              summary := prepared.summary
              skillsMissing := prepared.skillsMissing
              records
              letterBlocker }

/-! ## The form -/

/-- What `applyApplicationFieldMap` answers. -/
inductive ApplyResult where
  | abandoned
  | refused (reason detail : String)
  | applied (readiness : Readiness)

def resolveUploads (review : Review) : List Assignment → List (String × UploadFile) →
    Run (ApplyResult ⊕ List (String × UploadFile))
  | [], planned => return .inr planned
  | ⟨fieldRef, source⟩ :: rest, planned => do
    match source with
    | .artifact artifactId =>
      if !(← isLivePreparation run) then
        return .inl .abandoned
      match ← ask run.site (.resolveUpload artifactId) with
      | .inl (reason, detail) => return .inl (.refused reason detail)
      | .inr file =>
        if (host.resolveApplicationTargetPolicy review.policyId).any TargetPolicy.allowsAttach then
          resolveUploads review rest (planned ++ [(fieldRef, file)])
        else
          return .inl (.refused "attachment_requires_manual_handoff" ("target policy \"" ++
            review.policyId ++ "\" does not permit automated uploads"))
    | .value _ | .option _ | .skip => resolveUploads review rest planned

def fillFields (review : Review) (valueTable : List (String × String)) :
    List Assignment → Run Bool
  | [] => return false
  | ⟨fieldRef, source⟩ :: rest => do
    match source with
    | .value valueRef =>
      if !(← isLivePreparation run) then
        return true
      if (valueTable.lookup valueRef).isNone then
        throw (DesktopError.other ("valueRef " ++ valueRef ++ " vanished after validation"))
      let _ ← ask run.site (.fill review.id fieldRef)
      fillFields review valueTable rest
    | .option _ =>
      if !(← isLivePreparation run) then
        return true
      let _ ← ask run.site (.select review.id fieldRef)
      fillFields review valueTable rest
    | .artifact _ | .skip => fillFields review valueTable rest

def attachUploads (review : Review) : List (String × UploadFile) → Run (Option ApplyResult)
  | [] => return none
  | (fieldRef, file) :: rest => do
    if !(← isLivePreparation run) then
      return some .abandoned
    match ← (ask run.site (.attach review.id fieldRef)).attempt with
    | .error (.policy message) =>
      return some (.refused "attachment_requires_manual_handoff" message)
    | .error e => throw e
    | .ok () =>
      let reported ← ask run.site (.readBack review.id fieldRef)
      if reported.any fun name => decide (file.stagedName.toList <:+: name.toList) then
        attachUploads review rest
      else
        return some (.refused "attachment_unconfirmed" ("the page did not report artifact " ++
          toString file.artifactId ++ " on field " ++ fieldRef ++ " after the upload"))

def applyApplicationFieldMap (map : SanitisedFieldMap) : Run ApplyResult := do
  match ← op (.activeReview run.attemptId) with
  | none =>
    throw (DesktopError.other ("no open review for attempt " ++ toString run.attemptId))
  | some review =>
    match ← op (.currentSnapshot review.id) with
    | none =>
      throw (DesktopError.other ("attempt " ++ toString run.attemptId ++ " has no snapshot yet"))
    | some current =>
      let owned := (← op (.listArtifacts run.attemptId)).map Artifact.id
      match host.validateFieldMap map current owned with
      | some (reason, detail) => return .refused reason detail
      | none =>
        match ← resolveUploads host run review map.assignments [] with
        | .inl result => return result
        | .inr planned =>
          if ← fillFields run review map.valueTable map.assignments then
            return .abandoned
          match ← attachUploads run review planned with
          | some result => return result
          | none =>
            let readiness ← ask run.site (.readiness review.id)
            return .applied readiness

def mapForm (input : FillInput) (current : FormSnapshot) (valueTable : List (String × String)) :
    Run (RunResult ⊕ SanitisedFieldMap) := do
  if input.attempt.workflowVersion = blindApplyWorkflowVersion then
    if !host.hasFieldMapper then
      return .inl (← settle run .needsUser ("Blind Apply paused: its answer mapper is not " ++
        "available, so nothing was typed into the form") .needsUser)
    match ← op (.fieldMapper run.attemptId
        (host.mapBlindApplyAnswers input.attempt current valueTable input.stagedArtifacts)) with
    | .inl detail => return .inl (← settle run .needsUser detail .needsUser)
    | .inr mapped => return .inr mapped
  else
    let generation ← ask run.site .generateFieldMap
    if !(← isLivePreparation run) then
      return .inl abandoned
    if !generation.ok then
      return .inl (← settle run .needsUser ("working out what goes in each field did not " ++
        "finish: " ++ generation.error.getD "no reason given") .needsUser)
    match host.readFieldMap generation.text current valueTable input.stagedArtifacts with
    | none =>
      return .inl (← settle run .needsUser ("the field-mapping step returned something this " ++
        "app could not read, so nothing was typed into the form") .needsUser)
    | some map => return .inr map

/-- The end of `fillApplicationForm`: what was filled in, and where that leaves the attempt. -/
def recordForm (current : FormSnapshot) (map : SanitisedFieldMap) (readiness : Readiness) :
    Run RunResult := do
  let summary := host.summarisePreparedFields current map readiness
  let _ ← fencedWrite run (op (.recordPrepared run.attemptId (some summary.1)))
  if !readiness.ready then
    settle run .needsUser (host.describeBlockers readiness.blockers) .needsUser
  else if !summary.2.isEmpty then
    settle run .needsUser ("; ".intercalate summary.2) .needsUser
  else
    settle run .ready "" .ready

/-- The part of `fillApplicationForm` after the field map was worked out. -/
def applyMap (current : FormSnapshot) : RunResult ⊕ SanitisedFieldMap → Run RunResult
  | .inl result => return result
  | .inr map => do
    if !(← isLivePreparation run) then
      return abandoned
    match ← inner run.site (applyApplicationFieldMap host run map) with
    | .abandoned => return abandoned
    | .refused reason detail =>
      settle run .needsUser ("the answers for this form were refused (" ++ reason ++ "): " ++
        detail) .needsUser
    | .applied readiness => recordForm host run current map readiness

/-- The part of `fillApplicationForm` after the page was opened. -/
def fillOpenedForm (input : FillInput) (current : FormSnapshot) : Run RunResult := do
  if current.challengeDetected then
    settle run .needsUser captchaStopDetail .needsUser
  else
    let valueTable := host.buildValueTable input.cv input.profile
    if valueTable.isEmpty then
      settle run .needsUser ("none of your saved details could be used to fill this form; " ++
        "review your CV contact details and candidate profile") .needsUser
    else
      applyMap host run current (← mapForm host run input current valueTable)

def fillApplicationForm (input : FillInput) : Run RunResult := do
  if !(← isLivePreparation run) then
    return abandoned
  let opened ← (openApplicationReview host run.site
    { attemptId := run.attemptId, policyId := input.policyId
      targetUrl := input.attempt.canonicalUrl }).attempt
  ask run.site (.opened input opened.toOption)
  match opened with
  | .error e =>
    settle run .needsUser ("the application page could not be opened: " ++ e.describe) .needsUser
  | .ok current => fillOpenedForm host run input current

def handOffDetail (documents : Documents) : String :=
  match documents.letterBlocker with
  | some blocker => documents.summary ++ " " ++ cvReadyPhrase documents.skillsMissing ++
      " Cover letter blocker: " ++ blocker ++ ". Use Generate letter to create and review one, " ++
      "then return here, or provide one on the employer site."
  | none => documents.summary ++ " " ++ documentsReady ++ " This employer site is not approved " ++
      "for automated submission, so apply on the site yourself and mark the attempt when you " ++
      "finish."

def prepareForm (attempt : Attempt) (policyId : String) (documents : Documents) :
    Run RunResult := do
  if !(← isLivePreparation run) then
    return abandoned
  advanceTo run .filling
  let _ ← fencedWrite run (op (.recordPrepared run.attemptId none))
  match ← (inner run.site (fillApplicationForm host run
      { attempt, policyId, cv := documents.cv, profile := documents.profile
        stagedArtifacts := documents.records })).attempt with
  | .error e =>
    settle run .failed ("preparing this application failed: " ++ e.describe) .failed
  | .ok result =>
    if !(← isLivePreparation run) then
      return abandoned
    if result.outcome ≠ .ready ∧ result.outcome ≠ .needsUser then
      inner run.site (op (.closeReview run.attemptId))
    if result.outcome = .ready then
      let _ ← fencedWrite run (op (.updateAttempt run.attemptId
        { checkpointDetail := some (documents.summary ++
            if result.detail = "" then "" else " " ++ result.detail) }))
    return result

def deliver (attempt : Attempt) (documents : Documents) : Run RunResult := do
  match host.resolvePolicyIdForCanonicalUrl attempt.canonicalUrl with
  | none => settle run .needsUser (handOffDetail documents) .needsUser
  | some policyId =>
    match documents.letterBlocker with
    | some blocker =>
      settle run .needsUser ("Automatic cover letter preparation stopped: " ++ blocker ++ ". " ++
        cvReadyPhrase documents.skillsMissing ++ " Generate and review a cover letter, then " ++
        "resume the application.") .needsUser
    | none =>
      match resolveQueueDirective (← ask run.site (.entryState run.attemptId)) with
      | some (checkpoint, detail) => settle run checkpoint detail .halted
      | none => prepareForm host run attempt policyId documents

/-! ## The whole run -/

/-- `runApplicationAttempt` under a fence. -/
def runApplicationAttempt : Run RunResult := do
  let attempt ← op (.getAttempt run.attemptId)
  if attempt.checkpoint ∉ Checkpoint.preparable then
    return ⟨.alreadySettled, attempt.checkpoint, attempt.checkpointDetail⟩
  match resolveQueueDirective (← ask run.site (.entryState run.attemptId)) with
  | some (checkpoint, detail) => settle run checkpoint detail .halted
  | none =>
    match ← readJobDescription host run attempt with
    | .inl result => return result
    | .inr attempt =>
      match ← prepareDocuments host run attempt with
      | .inl result => return result
      | .inr documents => deliver host run attempt documents

end Run

end VacancyRadar.Desktop
