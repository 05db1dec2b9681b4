import Mathlib.Algebra.GroupWithZero.Nat
import VacancyRadar.Application.Checkpoint
import VacancyRadar.BlindApply.Store
import VacancyRadar.Data.Text

/-!
# Application attempts in the workspace database

The tables of `workspace/repository.ts` that submission and preparation write, with the functions
that write them.  An attempt is one application to one vacancy.  Its checkpoint says how far it
is; the completed checkpoints say that the application reached the employer, or may have.

Rows are listed in the order of their insertion.  The tracker row that follows an attempt and the
manifest that is bound to a recorded submission leave no trace here.
-/

namespace VacancyRadar.Workspace

open Data

/-! ## Rows -/

inductive TailoringMode where
  | ai
  | original
deriving DecidableEq

inductive SubmissionMode where
  | manual
  | automatic
deriving DecidableEq

/-- `ApplicationCompletionEvidence`. -/
inductive CompletionEvidence where
  | userReported
  | receiptConfirmed
deriving DecidableEq

inductive PreparedFieldStatus where
  | committed
  | awaitingYou
  | leftBlank
  | pendingUpload
deriving DecidableEq

/-- `PreparedApplicationField`, as far as a preparation records it. -/
structure PreparedField where
  label : String
  status : PreparedFieldStatus
  value : Option String
deriving DecidableEq

/-- `PreparedApplicationFields`. -/
abbrev PreparedFields : Type := List PreparedField

structure Attempt extends ApplicationIdentity where
  id : ℕ
  vacancyKey : Option String
  canonicalUrl : String
  company : String
  role : String
  sourceCvId : Option String
  sourceCvContentHash : String
  jdSnapshot : String
  jdSnapshotHash : String
  jdComplete : Bool
  workflowVersion : String
  tailoringMode : TailoringMode
  checkpoint : Checkpoint
  checkpointDetail : String
  submittedAt : Option ℤ
  formStructureHash : Option String
  scheduledAutomaticSubmitAt : Option ℤ
  submissionMode : Option SubmissionMode
  completionEvidence : Option CompletionEvidence
  supersedesAttemptId : Option ℕ
  reapplyReason : String
  reapplyPreviousCvContentHash : Option String
  preparedFields : Option PreparedFields
deriving DecidableEq

/-- `ApplicationReapplyRequest`. -/
structure ReapplyRequest where
  supersedesAttemptId : ℕ
  reason : String

/-- `ApplicationAttemptInput`. -/
structure AttemptInput where
  vacancyKey : Option String := none
  canonicalUrl : String := ""
  requisitionId : Option String := none
  company : String
  role : String
  sourceCvId : Option String := none
  sourceCvContentHash : String
  jdSnapshot : String := ""
  jdSnapshotHash : String
  jdComplete : Bool := true
  workflowVersion : String := ""
  checkpoint : Checkpoint := .queued
  checkpointDetail : String := ""
  /-- Past the refusal of a second attempt that runs at the same time. -/
  force : Bool := false
  /-- Past the refusal of a second application. -/
  reapply : Option ReapplyRequest := none

/-- `ApplicationAttemptPatch`: a field that is not given is left alone. -/
structure AttemptPatch where
  checkpoint : Option Checkpoint := none
  checkpointDetail : Option String := none
  submittedAt : Option (Option ℤ) := none
  formStructureHash : Option (Option String) := none
  scheduledAutomaticSubmitAt : Option (Option ℤ) := none
  submissionMode : Option (Option SubmissionMode) := none
  completionEvidence : Option (Option CompletionEvidence) := none

/-- `ApplicationArtifactKind`. -/
inductive ArtifactKind where
  | cvPdf
  | coverLetterPdf
  | combinedPdf
  | other
deriving DecidableEq

/-- A row of `application_artifacts`. -/
structure Artifact where
  id : ℕ
  attemptId : ℕ
  kind : ArtifactKind
  fileName : String
  byteSize : ℕ
  contentHash : String
  storagePath : String
deriving DecidableEq

/-- `SubmissionReceiptOutcome`. -/
inductive ReceiptOutcome where
  | submitted
  | rejected
  | unknown
  | userReported
deriving DecidableEq

/-- `SubmissionReceiptSource`. -/
inductive ReceiptSource where
  | pageObservation
  | delayedReceipt
  | userReported
deriving DecidableEq

/-- `SubmissionReceiptEvidenceKind`. -/
inductive EvidenceKind where
  | confirmationPage
  | receiptReference
  | deliveryReceipt
  | userStatement
  | none
deriving DecidableEq

/-- `ApplicationSubmissionReceiptInput`. -/
structure ReceiptInput where
  attemptId : ℕ
  outcome : ReceiptOutcome
  source : ReceiptSource
  destination : String
  evidenceKind : EvidenceKind
  evidenceReference : String := ""
  detail : String
  observedAt : ℤ

/-- A row of `application_submission_receipts`. -/
structure Receipt extends ReceiptInput where
  id : ℕ

inductive DraftKind where
  | cv
  | coverLetter
  | motivationLetter
deriving DecidableEq

inductive DraftOrigin where
  | prepared
  | userLetter
  | critiqueRevision
deriving DecidableEq

/-- `TailoredResume`, as far as preparation looks into it. -/
structure Resume where
  candidateName : String
  skills : List String
  /-- The rest of the document. -/
  content : String

inductive CvBasis where
  | tailored
  | original
  | revision

inductive Authored where
  | generated
  | user

inductive DraftContent where
  | cv (resume : Resume) (basis : CvBasis)
  | letter (title body : String) (authored : Authored) (factIds companyClaims : List String)

structure DraftInput where
  attemptId : ℕ
  kind : DraftKind
  origin : DraftOrigin
  content : DraftContent
  contentHash : String
  artifactHash : String
  jdHash : String
  sourceCvHash : String
  critiqueRunId : Option String

/-- A row of `application_document_drafts`. -/
structure Draft extends DraftInput where
  id : ℕ
  version : ℕ
  /-- Whether it is `current` and not `superseded`. -/
  current : Bool

/-- `CompanyEvidenceProseFact`, as far as its uses are recorded. -/
structure EvidenceFact where
  claim : String
  sourceUrl : String

structure EvidenceUse extends EvidenceFact where
  attemptId : ℕ
  recordedAt : ℤ

instance : Keyed Attempt := ⟨Attempt.id⟩
instance : Keyed Artifact := ⟨Artifact.id⟩
instance : Keyed Receipt := ⟨Receipt.id⟩
instance : Keyed Draft := ⟨Draft.id⟩

/-- `PostingVerificationOutcome`. -/
inductive PostingOutcome where
  | isOpen
  | closed
  | unable

/-- `PostingVerificationResolution`. -/
inductive PostingResolution where
  | refreshed
  | prepareAnyway
  | keepCurrent
  | superseded
  | confirmedByPerson
deriving DecidableEq

/-- `PostingObservation`, as far as preparation looks into it. -/
structure PostingObservation where
  outcome : PostingOutcome
  reason : String
  text : Option String

/-- A row of `application_posting_verifications`, as far as preparation looks into it. -/
structure PostingRow where
  attemptId : ℕ
  observation : PostingObservation
  resolution : Option PostingResolution

/-- The part of the workspace database that submission and preparation write. -/
structure Database where
  attempts : Table Attempt
  artifacts : Table Artifact
  receipts : Table Receipt
  drafts : Table Draft
  evidenceUses : List EvidenceUse
  postings : List PostingRow
  blind : BlindApply.Store

def Database.empty : Database := ⟨∅, ∅, ∅, ∅, [], [], .empty⟩

inductive MatchedOn where
  | requisition
  | canonicalUrl
  | vacancyKey

/-- The tier as the source spells it. -/
def MatchedOn.text : MatchedOn → String
  | requisition => "requisition"
  | canonicalUrl => "canonical_url"
  | vacancyKey => "vacancy_key"

/-- `CompletedApplicationMatch`. -/
structure CompletedMatch where
  attemptId : ℕ
  checkpoint : Checkpoint
  completionEvidence : Option CompletionEvidence
  matchedOn : MatchedOn

inductive WorkspaceError where
  /-- `WorkspaceNotFoundError`. -/
  | attemptNotFound (id : ℕ)
  /-- `ApplicationAttemptDuplicateError`. -/
  | attemptDuplicate (existingAttemptId : ℕ)
  /-- `ApplicationAlreadyCompletedError`. -/
  | alreadyCompleted (earlier : CompletedMatch)
  /-- `ApplicationReapplyError`. -/
  | reapply (message : String)
  /-- `ApplicationCompletionDecisionError`. -/
  | completionDecision (id : ℕ) (current target : Checkpoint)
  /-- `restartApplicationTailoring` of an attempt that neither waits nor has failed. -/
  | notRestartable
  /-- `ApplicationSubmissionReceiptError`. -/
  | receipt (message : String)
  /-- `ApplicationArtifactQuotaError`. -/
  | artifactQuota (message : String)

def CompletionEvidence.text : CompletionEvidence → String
  | userReported => "user_reported"
  | receiptConfirmed => "receipt_confirmed"

def WorkspaceError.message : WorkspaceError → String
  | attemptNotFound id => "no application attempt with id \"" ++ toString id ++ "\""
  | attemptDuplicate id =>
    "an attempt for this vacancy is already in progress (attempt \"" ++ toString id ++ "\")"
  | alreadyCompleted m =>
    if m.checkpoint = .submissionUnknown then
      "a prior attempt at this requisition may already have been submitted and has not been " ++
        "reconciled (attempt \"" ++ toString m.attemptId ++ "\", matched on " ++ m.matchedOn.text ++
        "); reconcile it or record an explicit reapply"
    else
      "this requisition already has a completed application (attempt \"" ++ toString m.attemptId ++
        "\", matched on " ++ m.matchedOn.text ++ ", evidence " ++
        (m.completionEvidence.map CompletionEvidence.text).getD "unrecorded" ++
        "); record an explicit reapply to send another"
  | reapply message => message
  | completionDecision id current target =>
    "moving attempt \"" ++ toString id ++ "\" from \"" ++ current.text ++ "\" to \"" ++
      target.text ++ "\" removes this requisition's duplicate protection, so the patch must " ++
      "record why in \"checkpointDetail\""
  | notRestartable =>
    "only an application waiting for user input or a failed preparation can restart tailoring"
  | receipt message => message
  | artifactQuota message => message

/-- `isHistoricalAttempt`. -/
def Attempt.isHistorical (a : Attempt) : Bool :=
  a.submittedAt.isSome || a.checkpoint ∈ Checkpoint.historical

namespace Database

/-! ## Reading -/

/-- `listApplicationAttempts`: newest first. -/
def listApplicationAttempts (db : Database) : List Attempt := db.attempts.rows.reverse

def getApplicationAttempt (db : Database) (id : ℕ) : Except WorkspaceError Attempt :=
  match db.attempts.get? id with
  | some a => .ok a
  | none => .error (.attemptNotFound id)

def listApplicationArtifacts (db : Database) (attemptId : ℕ) : List Artifact :=
  db.artifacts.rows.filter fun r => r.attemptId == attemptId

def currentDrafts (db : Database) (attemptId : ℕ) : List Draft :=
  db.drafts.rows.filter fun d => d.attemptId == attemptId && d.current

/-! ## Identities -/

/-- The tiers of `identityMatches`, strongest first; a tier is only there when its key says
something. -/
def identityTiers (identity : ApplicationIdentity) (vacancyKey : Option String) :
    List (MatchedOn × (Attempt → Bool)) :=
  (if identity.employerKey ≠ "" ∧ identity.requisitionId ≠ none then
    [(.requisition, fun r => r.employerKey == identity.employerKey &&
      r.requisitionId == identity.requisitionId)] else []) ++
  (if identity.canonicalUrlKey ≠ "" then
    [(.canonicalUrl, fun r => r.canonicalUrlKey == identity.canonicalUrlKey)] else []) ++
  if vacancyKey ≠ none ∧ vacancyKey ≠ some "" then
    [(.vacancyKey, fun r => r.vacancyKey == vacancyKey)] else []

def identityMatches (rows : List Attempt) (identity : ApplicationIdentity)
    (vacancyKey : Option String) : List (Attempt × MatchedOn) :=
  (((identityTiers identity vacancyKey).map fun tier =>
    (rows.filter tier.2).map fun r => (r, tier.1)).find? fun hits => !hits.isEmpty).getD []

def toCompletedMatch (entry : Attempt × MatchedOn) : CompletedMatch where
  attemptId := entry.1.id
  checkpoint := entry.1.checkpoint
  completionEvidence := entry.1.completionEvidence
  matchedOn := entry.2

/-! ## Attempts -/

abbrev ReapplyRecord : Type := ℕ × String × String

def resolveReapply (input : AttemptInput) (completed : List (Attempt × MatchedOn)) :
    Except WorkspaceError (Option ReapplyRecord) :=
  match input.reapply with
  | none => .ok none
  | some request =>
    let reason := trim request.reason
    if reason = "" then .error (.reapply "a reapply must record a non-empty reason")
    else if completed = [] then
      .error (.reapply "there is no completed application at this requisition to reapply against")
    else
      match completed.find? fun entry => entry.1.id == request.supersedesAttemptId with
      | none => .error (.reapply ("attempt \"" ++ toString request.supersedesAttemptId ++
          "\" is not a completed application at this requisition"))
      | some entry => .ok (some (entry.1.id, reason, entry.1.sourceCvContentHash))

/-- The row that `createApplicationAttempt` writes under the key `id`. -/
def newAttempt (input : AttemptInput) (identity : ApplicationIdentity)
    (reapply : Option ReapplyRecord) (id : ℕ) : Attempt :=
  { identity with
    id
    vacancyKey := input.vacancyKey
    canonicalUrl := input.canonicalUrl
    company := input.company
    role := input.role
    sourceCvId := input.sourceCvId
    sourceCvContentHash := input.sourceCvContentHash
    jdSnapshot := input.jdSnapshot
    jdSnapshotHash := input.jdSnapshotHash
    jdComplete := input.jdComplete
    workflowVersion := input.workflowVersion
    tailoringMode := .ai
    checkpoint := input.checkpoint
    checkpointDetail := input.checkpointDetail
    submittedAt := none
    formStructureHash := none
    scheduledAutomaticSubmitAt := none
    submissionMode := none
    completionEvidence := none
    supersedesAttemptId := reapply.map Prod.fst
    reapplyReason := (reapply.map fun r => r.2.1).getD ""
    reapplyPreviousCvContentHash := reapply.map fun r => r.2.2
    preparedFields := none }

lemma key_newAttempt (input : AttemptInput) (identity : ApplicationIdentity)
    (reapply : Option ReapplyRecord) (id : ℕ) :
    Keyed.key (newAttempt input identity reapply id) = id := rfl

def createApplicationAttempt (db : Database) (input : AttemptInput)
    (identity : ApplicationIdentity) : Database × Except WorkspaceError Attempt :=
  let inProgress := if input.force then [] else
    identityMatches (db.attempts.rows.filter fun r => r.checkpoint ∈ Checkpoint.nonTerminal)
      identity input.vacancyKey
  let completed :=
    identityMatches
      (db.listApplicationAttempts.filter fun r => r.checkpoint ∈ Checkpoint.completed)
      identity input.vacancyKey
  match inProgress.head? with
  | some entry => (db, .error (.attemptDuplicate entry.1.id))
  | none =>
    match resolveReapply input completed with
    | .error e => (db, .error e)
    | .ok reapply =>
      match completed.head?, reapply with
      | some entry, none => (db, .error (.alreadyCompleted (toCompletedMatch entry)))
      | _, reapply =>
        ({ db with
            attempts := db.attempts.insert (newAttempt input identity reapply)
              (key_newAttempt input identity reapply) },
          .ok (newAttempt input identity reapply db.attempts.next))

def patchAttempt (patch : AttemptPatch) (a : Attempt) : Attempt :=
  { a with
    checkpoint := patch.checkpoint.getD a.checkpoint
    checkpointDetail := patch.checkpointDetail.getD a.checkpointDetail
    submittedAt := patch.submittedAt.getD a.submittedAt
    formStructureHash := patch.formStructureHash.getD a.formStructureHash
    scheduledAutomaticSubmitAt :=
      patch.scheduledAutomaticSubmitAt.getD a.scheduledAutomaticSubmitAt
    submissionMode := patch.submissionMode.getD a.submissionMode
    completionEvidence := patch.completionEvidence.getD a.completionEvidence }

lemma key_patchAttempt (patch : AttemptPatch) (a : Attempt) :
    Keyed.key (patchAttempt patch a) = Keyed.key a := rfl

def unexplained (patch : AttemptPatch) (a : Attempt) : Option Checkpoint :=
  match patch.checkpoint with
  | none => none
  | some next =>
    if next ∉ Checkpoint.completed ∧ a.checkpoint ∈ Checkpoint.completed ∧
        trim (patch.checkpointDetail.getD "") = "" then some next
    else none

/-- `updateApplicationAttempt`: a completed attempt is not moved on without an explanation. -/
def updateApplicationAttempt (db : Database) (id : ℕ) (patch : AttemptPatch) :
    Database × Except WorkspaceError Attempt :=
  match db.attempts.get? id with
  | none => (db, .error (.attemptNotFound id))
  | some a =>
    match unexplained patch a with
    | some next => (db, .error (.completionDecision id a.checkpoint next))
    | none =>
      ({ db with
          attempts := db.attempts.update id (patchAttempt patch) (key_patchAttempt patch) },
        .ok (patchAttempt patch a))

def recordPreparedApplicationFields (db : Database) (id : ℕ) (prepared : Option PreparedFields) :
    Database × Except WorkspaceError Unit :=
  match db.attempts.get? id with
  | none => (db, .error (.attemptNotFound id))
  | some _ =>
    ({ db with
        attempts := db.attempts.update id (fun a => { a with preparedFields := prepared })
          fun _ => rfl }, .ok ())

def recordFetchedJobDescription (db : Database) (id : ℕ) (jdSnapshot jdSnapshotHash : String)
    (jdComplete : Bool) : Database × Except WorkspaceError Bool :=
  match db.attempts.get? id with
  | none => (db, .error (.attemptNotFound id))
  | some a =>
    if a.checkpoint = .readingJd then
      ({ db with
          attempts := db.attempts.update id
            (fun a => { a with jdSnapshot, jdSnapshotHash, jdComplete }) fun _ => rfl }, .ok true)
    else (db, .ok false)

/-- `recordPostingVerification`: only at the checkpoints at which the caller may write, and never
for an attempt that was sent.  The caller computes the rows. -/
def recordPostingVerification (db : Database) (id : ℕ) (allowed : List Checkpoint)
    (rows : List PostingRow) : Database × Bool :=
  if (db.attempts.get? id).any fun a => !a.isHistorical && a.checkpoint ∈ allowed then
    ({ db with postings := (db.postings.filter fun r => r.attemptId != id) ++ rows }, true)
  else (db, false)

/-- `restartApplicationTailoring`: an attempt that waits or has failed goes back to the queue,
without its documents. -/
def restartApplicationTailoring (db : Database) (id : ℕ) (tailoringMode : TailoringMode) :
    Database × Except WorkspaceError Unit :=
  match db.attempts.get? id with
  | none => (db, .error (.attemptNotFound id))
  | some a =>
    if a.checkpoint = .needsUser ∨ a.checkpoint = .failed then
      ({ db with
          artifacts := db.artifacts.filter fun r => r.attemptId != id
          attempts := db.attempts.update id (fun a =>
            { a with
              tailoringMode, checkpoint := .queued, checkpointDetail := ""
              preparedFields := none }) fun _ => rfl }, .ok ())
    else (db, .error .notRestartable)

/-! ## Receipts, documents, drafts and evidence -/

/-- `APPLICATION_SUBMISSION_RECEIPT_QUOTA.maxPerAttempt`. -/
def maxReceiptsPerAttempt : ℕ := 50

def createApplicationSubmissionReceipt (db : Database) (input : ReceiptInput) :
    Database × Except WorkspaceError Unit :=
  if input.outcome = .submitted ∧
      (input.evidenceKind = .none ∨ trim input.evidenceReference = "") then
    (db, .error (.receipt
      "a \"submitted\" receipt must carry a real evidence kind and reference"))
  else if input.outcome = .userReported ∧
      (input.source ≠ .userReported ∨ input.evidenceKind ≠ .userStatement) then
    (db, .error (.receipt
      "a \"user_reported\" receipt must record its source as the person who reported it"))
  else if input.source = .userReported ∧ input.outcome ≠ .userReported then
    (db, .error (.receipt
      "a person's own statement is never recorded as an observed outcome"))
  else if (db.attempts.get? input.attemptId).isNone then
    (db, .error (.attemptNotFound input.attemptId))
  else if maxReceiptsPerAttempt <
      (db.receipts.rows.filter fun r => r.attemptId == input.attemptId).length + 1 then
    (db, .error (.receipt ("an attempt may have at most " ++ toString maxReceiptsPerAttempt ++
      " submission receipts")))
  else
    ({ db with receipts := db.receipts.insert (fun id => { input with id }) fun _ => rfl }, .ok ())

/-- `APPLICATION_ARTIFACT_QUOTA.maxPerAttempt`. -/
def maxArtifactsPerAttempt : ℕ := 10

def maxTotalBytesPerAttempt : ℕ := 100000000

def createApplicationArtifact (db : Database) (attemptId : ℕ) (kind : ArtifactKind)
    (fileName : String) (byteSize : ℕ) (contentHash storagePath : String) :
    Database × Except WorkspaceError Artifact :=
  let existing := db.listApplicationArtifacts attemptId
  if (db.attempts.get? attemptId).isNone then (db, .error (.attemptNotFound attemptId))
  else if maxArtifactsPerAttempt < existing.length + 1 then
    (db, .error (.artifactQuota ("an attempt may have at most " ++
      toString maxArtifactsPerAttempt ++ " artifacts")))
  else if maxTotalBytesPerAttempt < (existing.map Artifact.byteSize).sum + byteSize then
    (db, .error (.artifactQuota ("an attempt's artifacts may total at most " ++
      toString maxTotalBytesPerAttempt ++ " bytes")))
  else
    let mk := fun id => { id, attemptId, kind, fileName, byteSize, contentHash, storagePath }
    ({ db with artifacts := db.artifacts.insert mk fun _ => rfl }, .ok (mk db.artifacts.next))

def deleteApplicationArtifact (db : Database) (id : ℕ) : Database :=
  { db with artifacts := db.artifacts.filter fun r => r.id != id }

/-- Whether `writableAttempt` finds the attempt. -/
def writableAttempt (db : Database) (id : ℕ) : Bool :=
  (db.attempts.get? id).any fun a => !a.isHistorical

/-- `recordEvidenceUses`: the history of an attempt that was sent is never rewritten. -/
def recordEvidenceUses (db : Database) (attemptId : ℕ) (facts : List EvidenceFact) (now : ℤ) :
    Database :=
  if db.writableAttempt attemptId then
    { db with
      evidenceUses := (db.evidenceUses.filter fun u => u.attemptId != attemptId) ++
        facts.map fun fact => { fact with attemptId, recordedAt := now } }
  else db

/-- `recordPreparedDraft`: a draft that did not change is tied to its new document, and another
one supersedes it. -/
def recordPreparedDraft (db : Database) (input : DraftInput) : Database :=
  if db.writableAttempt input.attemptId then
    let same := fun d : Draft => d.attemptId == input.attemptId && d.kind == input.kind
    match db.drafts.rows.find? fun d => same d && d.current with
    | some d =>
      if d.contentHash = input.contentHash ∧ d.origin = input.origin then
        { db with
          drafts := db.drafts.update d.id (fun d =>
            { d with
              artifactHash := input.artifactHash, jdHash := input.jdHash
              sourceCvHash := input.sourceCvHash }) fun _ => rfl }
      else appendDraft db input same
    | none => appendDraft db input same
  else db
where
  /-- `appendDraft`. -/
  appendDraft (db : Database) (input : DraftInput) (same : Draft → Bool) : Database :=
    let version := ((db.drafts.rows.filter same).map Draft.version).foldl max 0 + 1
    { db with
      drafts := (db.drafts.updateWhere (fun d => same d && d.current)
        (fun d => { d with current := false }) fun _ => rfl).insert
          (fun id => { input with id, version, current := true }) fun _ => rfl }

end Database

end VacancyRadar.Workspace
