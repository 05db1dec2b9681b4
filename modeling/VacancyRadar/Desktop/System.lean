import VacancyRadar.Coop.Uses
import VacancyRadar.Desktop.Pipeline

/-!
# The desktop process

The calls that reach the modelled functions: from the windows of the app, from the worker that
prepares applications, from the timer that fires automatic submissions and from the start of the
app.  They come in any number and any order, and the programs they start interleave at their
awaits.  The last calls change what the functions read without waiting.
-/

namespace VacancyRadar.Desktop

open Coop Data Workspace

inductive Call where
  | create (input : AttemptInput)
  | start (input : StartInput)
  | restartTailoring (attemptId : ℕ) (mode : TailoringMode)
  | resume (attemptId : ℕ)
  | runNext
  /-- The ceiling of a preparation has elapsed. -/
  | ceiling (generation : ℕ)
  | openReview (input : OpenInput)
  | closeReview (attemptId : ℕ)
  | showHandoff (attemptId : ℕ) (hasWindow : Bool)
  | hideHandoff (attemptId : ℕ)
  /-- A submission by a person, or by Blind Apply with its callback before the click. -/
  | submit (attemptId : ℕ) (mode : SubmissionMode) (askBefore : Bool)
  | report (attemptId : ℕ) (statement : String)
  | reconcile (attemptId : ℕ) (response : String)
  | schedule (attemptId : ℕ)
  | cancel (attemptId : ℕ)
  | fire
  | recover
  | setWorld (w : World)
  | setClock (t : ℤ)
  | setBlind (blind : BlindApply.Store)

def Call.body (host : Host) : Call → Run Unit
  | create input => do
    let _ ← createApplicationAttempt host input
  | start input => do
    let _ ← startApplicationAttempt host input
  | restartTailoring attemptId mode => do
    let _ ← restartApplicationTailoring attemptId mode
  | resume attemptId => do
    let _ ← resumeApplicationAttempt attemptId
  | runNext => runNextApplicationAttempt host
  | ceiling generation => abandonPreparation host generation
  | openReview input => do
    let _ ← openApplicationReview host .review input
  | closeReview attemptId => op (.closeReview attemptId)
  | showHandoff attemptId hasWindow => do
    let _ ← showApplicationReviewHandoff attemptId hasWindow
  | hideHandoff attemptId => hideApplicationReviewHandoff attemptId
  | submit attemptId mode askBefore => do
    let _ ← submitApplicationReview host (.submit attemptId none) attemptId mode askBefore none
  | report attemptId statement => do
    let _ ← recordUserReportedSubmission attemptId statement
  | reconcile attemptId response => do
    let _ ← reconcileSubmissionOutcome host attemptId response
  | schedule attemptId => do
    let _ ← evaluateAndScheduleAutomaticSubmission host attemptId
  | cancel attemptId => cancelScheduledAutomaticSubmission attemptId
  | fire => fireDueAutomaticSubmissions host
  | recover => recoverInterruptedApplicationAttempts
  | setWorld w => op (.setWorld w)
  | setClock t => op (.setClock t)
  | setBlind blind => op (.setBlind blind)

/-- The process. -/
def desktop (host : Host) : System sig State Call where
  ex := Op.run
  body := Call.body host
  restart := State.restart

/-- The process after its start on a database, before any call. -/
def started (db : Database) (world : World) : Cfg sig State := ⟨State.start db world, []⟩

/-! ## A small instance -/

def sampleHost : Host where
  deriveApplicationIdentity company url requisitionId :=
    { employerKey := company, requisitionId, canonicalUrlKey := url }
  sha256 := id
  toLowerCase := id
  placeholder _ := none
  resolvePolicyIdForCanonicalUrl _ := some "policy"
  resolveApplicationTargetPolicy id := some
    { id, termsEligibleForAutomation := true
      rateLimits := { perDay := 1, perEmployerPerDay := 1, minIntervalMs := 1000 }
      allowsAttach := true }
  resolveSubmitControl := List.head?
  computeFormStructureHash _ := "form"
  describeBlockers := "; ".intercalate
  classifyDelayedReceipt response now := .submitted .deliveryReceipt response "delivered" now
  pinsBriefs := false
  verifiesPostings := false
  fetchesDescriptions := false
  loadsCompanyEvidence := false
  hasFieldMapper := true
  abandonsPreparations := true
  reusesFinding _ _ _ := false
  judgedRows _ rows _ := rows
  fillDescription _ _ _ := none
  postingView _ _ _ := { status := .notChecked, noAuthoritativeSource := false, resolution := none }
  postingOpenEvidence _ _ := false
  originalResume cv _ :=
    { candidateName := cv.candidateName, skills := cv.skills, content := cv.text }
  validRevision _ _ := true
  draftContentHash _ := "draft"
  buildValueTable _ _ := [("name", "Ada")]
  readFieldMap _ _ valueTable _ := some
    { assignments := [], uploadFieldRefs := [], optionFieldRefs := [], valueTable }
  mapBlindApplyAnswers _ _ valueTable _ _ :=
    ({ interventions := [], missing := [], uses := [] },
      { assignments := [], uploadFieldRefs := [], optionFieldRefs := [], valueTable })
  validateFieldMap _ _ _ := none
  summarisePreparedFields _ _ _ := ([], [])
  stagedArtifactPath _ contentHash fileName := contentHash ++ "-" ++ fileName

def sampleCv : CvDocument where
  id := "cv"
  text := "Engineer"
  reviewed := true
  candidateName := "Ada"
  skills := ["Lean"]
  isDefault := true

def sampleWorld : World where
  cvDocuments := [sampleCv]
  defaultCvId := none
  letters := []
  activeGrant _ := true
  beforeClick _ := true

def sampleAttempt (checkpoint : Checkpoint) (id : ℕ) : Attempt where
  employerKey := "acme"
  requisitionId := some "R1"
  canonicalUrlKey := ""
  id := id
  vacancyKey := none
  canonicalUrl := "jobs/1"
  company := "acme"
  role := "Engineer"
  sourceCvId := some "cv"
  sourceCvContentHash := "Engineer"
  jdSnapshot := "description"
  jdSnapshotHash := "description"
  jdComplete := true
  workflowVersion := applicationPipelineWorkflowVersion
  tailoringMode := .ai
  checkpoint := checkpoint
  checkpointDetail := ""
  submittedAt := none
  formStructureHash := none
  scheduledAutomaticSubmitAt := none
  submissionMode := none
  completionEvidence := none
  supersedesAttemptId := none
  reapplyReason := ""
  reapplyPreviousCvContentHash := none
  preparedFields := none

def sampleArtifact (id : ℕ) : Artifact := ⟨id, id, .cvPdf, "resume.pdf", 1, "cv", "cv-resume.pdf"⟩

def sampleDb (checkpoints : List Checkpoint) : Database :=
  { Database.empty with
    attempts := checkpoints.foldl
      (fun t checkpoint => t.insert (sampleAttempt checkpoint) fun _ => rfl) ∅
    artifacts := checkpoints.foldl (fun t _ => t.insert sampleArtifact fun _ => rfl) ∅ }

def sampleSubmitted (id : ℕ) : Attempt :=
  { sampleAttempt .submitted id with
    submittedAt := some 0
    submissionMode := some .manual
    formStructureHash := some "form" }

def sampleDue (id : ℕ) : Attempt :=
  { sampleAttempt .ready id with scheduledAutomaticSubmitAt := some 0 }

def sampleDueDb : Database :=
  { sampleDb [.submitted, .ready, .ready] with
    attempts := (((∅ : Table Attempt).insert sampleSubmitted fun _ => rfl).insert sampleDue
      fun _ => rfl).insert sampleDue fun _ => rfl }

def samplePage : FormSnapshot := ⟨[], ["submit"], false, "page"⟩

/-- What the world outside answers in the concrete runs, where a preparation is leased for the
attempt `x`. -/
def sampleAnswer (x : ℕ) (p : Port) : Except DesktopError p.wait.Rep :=
  match p with
  | ⟨_, .acquireLease⟩ => .ok (some ⟨x, x⟩)
  | ⟨_, .entryState _⟩ => .ok none
  | ⟨_, .snapshot _⟩ => .ok samplePage
  | ⟨_, .readiness _⟩ => .ok ⟨true, []⟩
  | ⟨_, .observe _⟩ => .ok (.submitted .confirmationPage "thanks" "sent" 0)
  | ⟨_, .artifactBytes _⟩ => .ok "bytes"
  | ⟨_, .pdfText _⟩ => .ok "Engineer at acme"
  | ⟨_, .loadProfile⟩ => .ok none
  | ⟨_, .tailor⟩ => .ok ⟨⟨"Ada", ["Lean"], "Engineer at acme"⟩, []⟩
  | ⟨_, .coverLetter⟩ => .ok ⟨"Engineer at acme", [], []⟩
  | ⟨_, .render fileName⟩ => .ok ⟨fileName, 1⟩
  | ⟨_, .generateFieldMap⟩ => .ok ⟨true, "", none⟩
  | ⟨_, .fill _ _⟩ | ⟨_, .select _ _⟩ => .ok true
  | ⟨_, .readBack _ _⟩ | ⟨_, .fetchJobDescription⟩ => .ok none
  | ⟨_, .companyEvidence⟩ => .ok []
  | ⟨_, .resolveUpload _⟩ | ⟨_, .verifyPosting⟩ => .error (.other "not there")
  | ⟨_, .release _ _⟩ | ⟨_, .enqueue _⟩ | ⟨_, .openTarget _⟩ | ⟨_, .snapshotTaken⟩
  | ⟨_, .capture _⟩ | ⟨_, .submit _ _⟩ | ⟨_, .attach _ _⟩ | ⟨_, .writeFile _⟩
  | ⟨_, .removeFile _⟩ | ⟨_, .pinBrief⟩ | ⟨_, .opened _ _⟩ | ⟨_, .returned⟩ => .ok ()

end VacancyRadar.Desktop
