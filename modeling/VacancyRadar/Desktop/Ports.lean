import VacancyRadar.Workspace.Attempts
import VacancyRadar.BlindApply.Mapper

/-!
# The state and the ports of the desktop process

What the functions of `application-review-session.ts` and `application-pipeline.ts` share: the
workspace database, the open reviews with their live pages, the sets and maps with which the
functions keep out of each other's way, and the answers of everything they read without waiting.
Everything they await is a port: the page, the daemon's queue, the file system, the generation
sessions and the posting's source.
-/

namespace VacancyRadar.Desktop

open Coop Data Workspace

/-! ## The live page -/

/-- A field of a form, as far as its structure is compared. -/
structure SnapshotField where
  label : String
  controlType : String
  required : Bool
deriving DecidableEq

structure FormSnapshot where
  fields : List SnapshotField
  submitControls : List String
  challengeDetected : Bool
  pageStateFingerprint : String
deriving DecidableEq

/-- `FormReadiness`. -/
structure Readiness where
  ready : Bool
  blockers : List String

/-- `SubmissionOutcomeReport`. -/
inductive OutcomeReport where
  | submitted (kind : EvidenceKind) (reference detail : String) (observedAt : ℤ)
  | rejected (detail : String) (observedAt : ℤ)
  | unknown (detail : String) (observedAt : ℤ)

/-- `ActiveReview` with the executor that drives its page. -/
structure Review where
  id : ℕ
  attemptId : ℕ
  policyId : String
  targetUrl : String
  /-- `executor.currentSnapshot`. -/
  currentSnapshot : Option FormSnapshot

instance : Keyed Review := ⟨Review.id⟩

/-! ## What is read without waiting -/

structure RateLimits where
  perDay : ℕ
  perEmployerPerDay : ℕ
  minIntervalMs : ℤ

/-- `ApplicationTargetPolicy`, as far as it is asked here. -/
structure TargetPolicy where
  id : String
  termsEligibleForAutomation : Bool
  rateLimits : RateLimits
  /-- Whether the action `attach` is allowed. -/
  allowsAttach : Bool

structure CvDocument where
  id : String
  text : String
  /-- Whether it has a reviewed source. -/
  reviewed : Bool
  candidateName : String
  /-- The skills of its profile. -/
  skills : List String
  isDefault : Bool
deriving DecidableEq

inductive LetterKind where
  | coverLetter
  | motivationLetter
  | other

structure Letter where
  vacancyKey : Option String
  kind : LetterKind
  /-- Whether its status is `final`. -/
  final : Bool
  title : String
  body : String

/-- `ApplicationQueueLeaseHandle`. -/
structure Lease where
  leaseId : ℕ
  attemptId : ℕ

/-- The tables and callbacks that are read without waiting and change at any time. -/
structure World where
  cvDocuments : List CvDocument
  /-- `defaultCvId` of the settings. -/
  defaultCvId : Option String
  letters : List Letter
  /-- Whether `findActiveAutomationGrant` finds a grant for the policy. -/
  activeGrant : String → Bool
  /-- What the `beforeClick` callback of Blind Apply answers for an attempt. -/
  beforeClick : ℕ → Bool

/-! ## The state -/

structure State where
  db : Database
  world : World
  clock : ℤ
  /-- Every review opened since the process started. -/
  reviews : Table Review
  /-- `activeReviews`: the open review of an attempt. -/
  activeReviews : ℕ → Option ℕ
  /-- `handoffAttemptId`. -/
  handoffAttemptId : Option ℕ
  /-- `submittingAttemptIds`. -/
  submittingAttemptIds : List ℕ
  /-- `livePreparations`: the generation that may write for an attempt. -/
  livePreparations : ℕ → Option ℕ
  /-- `nextPreparationGeneration`. -/
  nextPreparationGeneration : ℕ
  /-- The generations a turn of the worker still waits for, with their leases. -/
  awaited : List (ℕ × Lease)
  /-- The attempts for which an invocation of `executor.submit` has not finished. -/
  clicking : List ℕ
  /-- The attempts for which an invocation ended in something other than a policy refusal or an
  observed rejection, once for each. -/
  spent : List ℕ
  /-- How many firings of due submissions have begun. -/
  firings : ℕ
  /-- The cancelled attempts, each with the number of firings that had begun. -/
  cancels : List (ℕ × ℕ)
  /-- The attempts that were cancelled and not scheduled again. -/
  revoked : List ℕ
  /-- The fingerprint of the snapshot that was current when the attempt was scheduled last. -/
  scheduledOn : ℕ → Option String

def State.restart (s : State) : State :=
  { s with
    reviews := ∅
    activeReviews := fun _ => none
    handoffAttemptId := none
    submittingAttemptIds := []
    livePreparations := fun _ => none
    nextPreparationGeneration := 0
    awaited := []
    clicking := []
    spent := s.clicking ++ s.spent }

def State.start (db : Database) (world : World) : State where
  db := db
  world := world
  clock := 0
  reviews := ∅
  activeReviews := fun _ => none
  handoffAttemptId := none
  submittingAttemptIds := []
  livePreparations := fun _ => none
  nextPreparationGeneration := 0
  awaited := []
  clicking := []
  spent := []
  firings := 0
  cancels := []
  revoked := []
  scheduledOn _ := none

/-! ## Ports -/

/-- A firing of due submissions: its number, and the attempts still to come. -/
structure Firing where
  number : ℕ
  rest : List ℕ
deriving DecidableEq

inductive Site where
  | submit (attemptId : ℕ) (firing : Option Firing)
  | eligible (attemptId : ℕ) (firing : Option Firing)
  /-- The loop over the interrupted attempts, with the attempts still to come. -/
  | recover (rest : List ℕ)
  /-- A preparation run with its generation. -/
  | prepare (attemptId generation : ℕ)
  | review
  | worker
  | queueing
deriving DecidableEq

structure FillInput where
  attempt : Attempt
  policyId : String
  cv : CvDocument
  profile : Option String
  stagedArtifacts : List Artifact
deriving DecidableEq

inductive Release where
  | completed
  | failed
  | requeue
deriving DecidableEq

/-- `ApplicationTailoringGenerationResult`, read and checked against the source. -/
structure Tailored where
  resume : Resume
  /-- What was removed because the source does not support it. -/
  dropped : List String

structure CoverLetter where
  body : String
  usedCompanyEvidence : List EvidenceFact
  factIds : List String

/-- `FieldMapGenerationOutcome`. -/
structure Generation where
  ok : Bool
  text : String
  error : Option String

structure Rendered where
  contentHash : String
  byteSize : ℕ

/-- `UploadReadyArtifact`. -/
structure UploadFile where
  artifactId : ℕ
  fileName : String
  /-- The base name of its local path. -/
  stagedName : String

abbrev Upload : Type := (String × String) ⊕ UploadFile

inductive Wait where
  | acquireLease
  | release (leaseId : ℕ) (outcome : Release)
  | entryState (attemptId : ℕ)
  | enqueue (attemptId : ℕ)
  | openTarget (review : ℕ)
  | snapshot (review : ℕ)
  /-- `executor.snapshot` has set the current snapshot and the caller is about to continue. -/
  | snapshotTaken
  | capture (review : ℕ)
  | readiness (review : ℕ)
  | submit (review : ℕ) (controlRef : String)
  | observe (review : ℕ)
  | artifactBytes (artifact : ℕ)
  | pdfText (bytes : String)
  | resolveUpload (artifact : ℕ)
  | fill (review : ℕ) (fieldRef : String)
  | select (review : ℕ) (fieldRef : String)
  | attach (review : ℕ) (fieldRef : String)
  | readBack (review : ℕ) (fieldRef : String)
  | pinBrief
  | verifyPosting
  | fetchJobDescription
  | loadProfile
  | tailor
  | companyEvidence
  | coverLetter
  | render (fileName : String)
  | writeFile (storagePath : String)
  | removeFile (storagePath : String)
  | generateFieldMap
  /-- `openApplicationReview` has settled inside a preparation, with the snapshot if it
  succeeded. -/
  | opened (input : FillInput) (snapshot : Option FormSnapshot)
  /-- An inner call has settled and the caller is about to continue. -/
  | returned
deriving DecidableEq

/-- A point at which a program gives up the thread. -/
structure Port where
  site : Site
  wait : Wait
deriving DecidableEq

/-- The replies of a port. -/
abbrev Wait.Rep : Wait → Type
  | acquireLease => Option Lease
  | entryState _ => Option QueueState
  | snapshot _ => FormSnapshot
  | readiness _ => Readiness
  | observe _ => OutcomeReport
  | artifactBytes _ | pdfText _ => String
  | resolveUpload _ => Upload
  | fill _ _ | select _ _ => Bool
  | readBack _ _ => Option String
  | verifyPosting => PostingObservation
  | fetchJobDescription => Option (String × Bool)
  | loadProfile => Option String
  | tailor => Tailored
  | companyEvidence => List EvidenceFact
  | coverLetter => CoverLetter
  | render _ => Rendered
  | generateFieldMap => Generation
  | release _ _ | enqueue _ | openTarget _ | snapshotTaken | capture _ | submit _ _ | attach _ _
  | writeFile _ | removeFile _ | pinBrief | opened _ _ | returned => Unit

/-- What the functions of the process throw. -/
inductive DesktopError where
  | workspace (error : WorkspaceError)
  | blind (error : BlindApply.StoreError)
  /-- `ExecutorPolicyError`. -/
  | policy (message : String)
  /-- `AcceptedBytesChangedError`. -/
  | acceptedBytesChanged (message : String)
  /-- `StagingAbandonedError`. -/
  | stagingAbandoned (attemptId : ℕ)
  | other (message : String)

/-- `describeError`. -/
def DesktopError.describe : DesktopError → String
  | workspace error => error.message
  | blind error => (BlindApply.RunnerError.store error).describe
  | policy message => message
  | acceptedBytesChanged message => message
  | stagingAbandoned id => "staging for attempt " ++ toString id ++
      " was abandoned before its artifact was registered"
  | other message => message

/-! ## Operations -/

inductive AssignmentSource where
  | value (valueRef : String)
  | option (optionRef : String)
  | artifact (artifactId : ℕ)
  | skip

structure Assignment where
  fieldRef : String
  source : AssignmentSource

structure SanitisedFieldMap where
  assignments : List Assignment
  uploadFieldRefs : List String
  optionFieldRefs : List String
  valueTable : List (String × String)

abbrev MapAnswers : Type :=
  (String → Option (ℕ × String)) → BlindApply.Mapping × SanitisedFieldMap

/-- Everything the programs do without giving up the thread.  The last group is what happens
outside the modelled functions. -/
inductive Op where
  | now
  | world
  | getAttempt (id : ℕ)
  | listAttempts
  | listArtifacts (attemptId : ℕ)
  | currentDrafts (attemptId : ℕ)
  | postings (attemptId : ℕ)
  | createAttempt (input : AttemptInput) (identity : ApplicationIdentity)
  | updateAttempt (id : ℕ) (patch : AttemptPatch)
  /-- The write of `settle`. -/
  | settle (id : ℕ) (checkpoint : Checkpoint) (detail : String)
  | restartTailoring (id : ℕ) (mode : TailoringMode)
  | recordPrepared (id : ℕ) (prepared : Option PreparedFields)
  | recordFetched (id : ℕ) (jdSnapshot jdSnapshotHash : String) (jdComplete : Bool)
  | recordPosting (id : ℕ) (rows : List PostingRow)
  | createReceipt (input : ReceiptInput)
  | registerArtifact (attemptId : ℕ) (kind : ArtifactKind) (fileName : String)
      (rendered : Rendered) (storagePath : String)
  | recordDraft (input : DraftInput)
  | recordEvidence (attemptId : ℕ) (facts : List EvidenceFact)
  | fieldMapper (attemptId : ℕ) (mapAnswers : MapAnswers)
  | activeReview (attemptId : ℕ)
  | registerReview (attemptId : ℕ) (policyId targetUrl : String)
  | unregisterReview (attemptId review : ℕ)
  | closeReview (attemptId : ℕ)
  | currentSnapshot (review : ℕ)
  | setSnapshot (review : ℕ) (snapshot : FormSnapshot)
  | handoff
  | setHandoff (attemptId : Option ℕ)
  | isSubmitting (attemptId : ℕ)
  | beginSubmit (attemptId : ℕ)
  | endSubmit (attemptId : ℕ)
  | click (attemptId : ℕ) (firing : Option ℕ)
  | clickEnded (attemptId : ℕ) (refused : Bool)
  | clickRejected (attemptId : ℕ)
  | beginFiring
  | cancelled (attemptId : ℕ)
  | scheduled (attemptId : ℕ)
  | beginFence (lease : Lease)
  | isLive (attemptId generation : ℕ)
  | abandonFence (attemptId : ℕ)
  | endFence (attemptId generation : ℕ)
  | settled (generation : ℕ)
  | setWorld (w : World)
  | setClock (t : ℤ)
  | setBlind (blind : BlindApply.Store)

abbrev Op.Res : Op → Type
  | now => ℤ
  | world => World
  | getAttempt _ | createAttempt _ _ | updateAttempt _ _ => Attempt
  | listAttempts => List Attempt
  | listArtifacts _ => List Artifact
  | currentDrafts _ => List Draft
  | postings _ => List PostingRow
  | recordFetched _ _ _ _ | recordPosting _ _ | isSubmitting _ | isLive _ _ => Bool
  | settled _ => Option Lease
  | registerArtifact _ _ _ _ _ => Artifact × List String
  | fieldMapper _ _ => String ⊕ SanitisedFieldMap
  | activeReview _ => Option Review
  | registerReview _ _ _ | beginFiring | beginFence _ => ℕ
  | currentSnapshot _ => Option FormSnapshot
  | handoff => Option ℕ
  | settle _ _ _ | restartTailoring _ _ | recordPrepared _ _ | createReceipt _ | recordDraft _
  | recordEvidence _ _ | unregisterReview _ _ | closeReview _ | setSnapshot _ _ | setHandoff _ | beginSubmit _ | endSubmit _ | click _ _ | clickEnded _ _
  | clickRejected _ | cancelled _ | scheduled _ | abandonFence _ | endFence _ _ | setWorld _ | setClock _
  | setBlind _ => Unit

/-- The signature of the process. -/
abbrev sig : Sig where
  Op := Op
  Res := Op.Res
  Port := Port
  Rep p := p.wait.Rep
  Err := DesktopError

instance : DecidableEq sig.Port := inferInstanceAs (DecidableEq Port)

abbrev Run (α : Type) : Type := Prog sig α

def State.activeReview (s : State) (attemptId : ℕ) : Option Review :=
  (s.activeReviews attemptId).bind s.reviews.get?

def registerArtifact (db : Database) (attemptId : ℕ) (kind : ArtifactKind) (fileName : String)
    (rendered : Rendered) (storagePath : String) :
    Database × Except WorkspaceError (Artifact × List String) :=
  let superseded := (db.listApplicationArtifacts attemptId).filter fun a =>
    a.kind == kind && a.fileName == fileName
  let kept := superseded.foldl (fun db a => db.deleteApplicationArtifact a.id) db
  let q := kept.createApplicationArtifact attemptId kind fileName rendered.byteSize
    rendered.contentHash storagePath
  (q.1, q.2.map fun a =>
    (a, (superseded.map Artifact.storagePath).filter fun path => path != storagePath))

def State.onDb {α : Type} (s : State) (q : Database × Except WorkspaceError α) :
    State × Except DesktopError α :=
  ({ s with db := q.1 }, q.2.mapError .workspace)

/-- The meaning of the operations. -/
def Op.run : Prog.Exec sig State := fun o s =>
  match o with
  | .now => (s, .ok s.clock)
  | .world => (s, .ok s.world)
  | .getAttempt id => (s, (s.db.getApplicationAttempt id).mapError .workspace)
  | .listAttempts => (s, .ok s.db.listApplicationAttempts)
  | .listArtifacts id => (s, .ok (s.db.listApplicationArtifacts id))
  | .currentDrafts id => (s, .ok (s.db.currentDrafts id))
  | .postings id => (s, .ok (s.db.postings.filter fun r => r.attemptId == id))
  | .createAttempt input identity => s.onDb (s.db.createApplicationAttempt input identity)
  | .updateAttempt id patch => s.onDb (s.db.updateApplicationAttempt id patch)
  | .settle id checkpoint detail =>
    let q := s.db.updateApplicationAttempt id
      { checkpoint := some checkpoint, checkpointDetail := some detail }
    s.onDb (q.1, q.2.map fun _ => ())
  | .restartTailoring id mode => s.onDb (s.db.restartApplicationTailoring id mode)
  | .recordPrepared id prepared => s.onDb (s.db.recordPreparedApplicationFields id prepared)
  | .recordFetched id jdSnapshot jdSnapshotHash jdComplete =>
    s.onDb (s.db.recordFetchedJobDescription id jdSnapshot jdSnapshotHash jdComplete)
  | .recordPosting id rows =>
    let q := s.db.recordPostingVerification id [.readingJd] rows
    ({ s with db := q.1 }, .ok q.2)
  | .createReceipt input => s.onDb (s.db.createApplicationSubmissionReceipt input)
  | .registerArtifact attemptId kind fileName rendered storagePath =>
    s.onDb (Desktop.registerArtifact s.db attemptId kind fileName rendered storagePath)
  | .recordDraft input => ({ s with db := s.db.recordPreparedDraft input }, .ok ())
  | .recordEvidence attemptId facts =>
    ({ s with db := s.db.recordEvidenceUses attemptId facts s.clock }, .ok ())
  | .fieldMapper attemptId mapAnswers =>
    let q := s.db.blind.fieldMapper attemptId (fun find => (mapAnswers find).1) s.clock
    ({ s with db := { s.db with blind := q.1 } },
      match q.2 with
      | .error e => .error (.blind e)
      | .ok outcome =>
        match s.db.blind.getBlindApplyItemByAttempt attemptId with
        | some item =>
          .ok (if outcome.ok then .inr (mapAnswers (s.db.blind.findSavedAnswer item.id)).2
            else .inl outcome.detail)
        | none => .ok (.inl outcome.detail))
  | .activeReview id => (s, .ok (s.activeReview id))
  | .registerReview attemptId policyId targetUrl =>
    ({ s with
        reviews := s.reviews.insert
          (fun id => { id, attemptId, policyId, targetUrl, currentSnapshot := none }) fun _ => rfl
        activeReviews := Function.update s.activeReviews attemptId (some s.reviews.next) },
      .ok s.reviews.next)
  | .unregisterReview attemptId review =>
    (if s.activeReviews attemptId = some review then
      { s with activeReviews := Function.update s.activeReviews attemptId none } else s, .ok ())
  | .closeReview attemptId =>
    (if (s.activeReviews attemptId).isSome then
      { s with
        activeReviews := Function.update s.activeReviews attemptId none
        handoffAttemptId :=
          if s.handoffAttemptId = some attemptId then none else s.handoffAttemptId }
      else s, .ok ())
  | .currentSnapshot review => (s, .ok ((s.reviews.get? review).bind Review.currentSnapshot))
  | .setSnapshot review snapshot =>
    ({ s with
        reviews := s.reviews.update review
          (fun r => { r with currentSnapshot := some snapshot }) fun _ => rfl }, .ok ())
  | .handoff => (s, .ok s.handoffAttemptId)
  | .setHandoff attemptId => ({ s with handoffAttemptId := attemptId }, .ok ())
  | .isSubmitting id => (s, .ok (s.submittingAttemptIds.contains id))
  | .beginSubmit id => ({ s with submittingAttemptIds := id :: s.submittingAttemptIds }, .ok ())
  | .endSubmit id =>
    ({ s with submittingAttemptIds := s.submittingAttemptIds.filter (· != id) }, .ok ())
  | .click id _ => ({ s with clicking := id :: s.clicking }, .ok ())
  | .clickEnded id refused =>
    ({ s with
        clicking := s.clicking.erase id
        spent := if refused then s.spent else id :: s.spent }, .ok ())
  | .clickRejected id => ({ s with spent := s.spent.erase id }, .ok ())
  | .beginFiring => ({ s with firings := s.firings + 1 }, .ok s.firings)
  | .cancelled id =>
    ({ s with cancels := (s.firings, id) :: s.cancels, revoked := id :: s.revoked }, .ok ())
  | .scheduled id =>
    ({ s with
        revoked := s.revoked.filter (· != id)
        scheduledOn := Function.update s.scheduledOn id
          (((s.activeReview id).bind Review.currentSnapshot).map
            FormSnapshot.pageStateFingerprint) }, .ok ())
  | .beginFence lease =>
    let generation := s.nextPreparationGeneration + 1
    ({ s with
        nextPreparationGeneration := generation
        livePreparations := Function.update s.livePreparations lease.attemptId (some generation)
        awaited := (generation, lease) :: s.awaited }, .ok generation)
  | .isLive attemptId generation =>
    (s, .ok (decide (s.livePreparations attemptId = some generation)))
  | .abandonFence attemptId =>
    ({ s with livePreparations := Function.update s.livePreparations attemptId none }, .ok ())
  | .endFence attemptId generation =>
    (if s.livePreparations attemptId = some generation then
      { s with livePreparations := Function.update s.livePreparations attemptId none } else s,
      .ok ())
  | .settled generation =>
    ({ s with awaited := s.awaited.filter fun e => e.1 != generation },
      .ok ((s.awaited.find? fun e => e.1 == generation).map Prod.snd))
  | .setWorld w => ({ s with world := w }, .ok ())
  | .setClock t => ({ s with clock := t }, .ok ())
  | .setBlind blind => ({ s with db := { s.db with blind } }, .ok ())

/-! ## Basic programs -/

/-- Execute an operation. -/
def op (o : Op) : Run o.Res := Prog.exec (S := sig) o

def ask (site : Site) (wait : Wait) : Run wait.Rep := Prog.wait (S := sig) ⟨site, wait⟩

def inner {α : Type} (site : Site) (x : Run α) : Run α := Prog.call (S := sig) ⟨site, .returned⟩ x

end VacancyRadar.Desktop
