import VacancyRadar.Application.Checkpoint
import VacancyRadar.Data.Table
import VacancyRadar.Data.Text

/-!
# The tracker

`workspace/attempt-application-sync.ts` keeps the list of applications and the saved jobs in step with the attempts
that produced them.  A row of the list belongs to the person as well: what they wrote as the next step is told from
the sentences of the module by its beginning.
-/

namespace VacancyRadar.Workspace.Tracker

open Data

/-! ## Rows -/

inductive ApplicationStatus where
  | preparing
  | applied
  | recruiterScreen
  | interview
  | offer
  | rejected
  | withdrawn
deriving DecidableEq

inductive SavedJobStatus where
  | considering
  | preparing
  | applied
deriving DecidableEq

structure ApplicationRow where
  id : ℕ
  savedJobId : Option ℕ
  role : String
  company : String
  location : String
  verification : Option String
  status : ApplicationStatus
  appliedAt : Option ℤ := none
  nextStep : String := ""
  cvId : Option String
  archived : Bool := false

/-- A row of `saved_jobs`, as far as it is read here. -/
structure SavedJob where
  id : ℕ
  vacancyKey : Option String
  role : String
  company : String
  location : String
  verification : Option String
  status : SavedJobStatus

structure AttemptRow where
  id : ℕ
  applicationId : Option ℕ
  applicationDetached : Bool
  vacancyKey : Option String
  canonicalUrlKey : String
  company : String
  role : String
  sourceCvId : Option String
  checkpoint : Checkpoint
  submittedAt : Option ℤ
  createdAt : ℤ
  updatedAt : ℤ

instance : Keyed ApplicationRow := ⟨ApplicationRow.id⟩
instance : Keyed SavedJob := ⟨SavedJob.id⟩
instance : Keyed AttemptRow := ⟨AttemptRow.id⟩

@[ext]
structure Tables where
  attempts : Table AttemptRow
  applications : Table ApplicationRow
  savedJobs : Table SavedJob

/-- How the platform writes a date. -/
structure Calendar where
  toISOString : ℤ → String
  /-- `toLocaleDateString`, with a short month. -/
  toLocaleDateString : ℤ → String

/-! ## The next step -/

def autoNextSteps : List String :=
  ["Preparing the application.",
    "Ready for your review under Ready to apply.",
    "Ready for your review in the Review queue.",
    "Sending now.",
    "Needs your input under Ready to apply.",
    "Needs your input in the Review queue.",
    "Preparation failed. Open Ready to apply to retry.",
    "Preparation failed. Open the Review queue to retry.",
    "Skipped from Ready to apply.",
    "Skipped from the Review queue.",
    "Sent, but no confirmation was seen.",
    "Sent ",
    "You said you applied on ",
    "Reported by you "]

def startsWith (value start : String) : Bool := start.toList.isPrefixOf value.toList

def isAutomaticNextStep (value : String) : Bool :=
  trim value = "" || autoNextSteps.any fun start => startsWith value start

/-- `DerivedApplicationState`.  The status is one of the first two. -/
structure DerivedApplicationState where
  status : ApplicationStatus
  appliedAt : Option ℤ
  nextStep : String
  archived : Bool
  savedJobStatus : Option SavedJobStatus

section

variable (calendar : Calendar)

def isoDay (date : ℤ) : String := sliceUnits (calendar.toISOString date) 10

def displayDay (date : ℤ) : String := calendar.toLocaleDateString date

/-- What a checkpoint that is not the end says. -/
def inPreparation (nextStep : String) : DerivedApplicationState where
  status := .preparing
  appliedAt := none
  nextStep := nextStep
  archived := false
  savedJobStatus := some .preparing

def deriveApplicationState (attempt : AttemptRow) : DerivedApplicationState :=
  let date := attempt.submittedAt.getD attempt.updatedAt
  match attempt.checkpoint with
  | .submitted =>
    { status := .applied
      appliedAt := some date
      nextStep := "Sent " ++ isoDay calendar date ++ ": the employer page confirmed it."
      archived := false
      savedJobStatus := some .applied }
  | .userReported =>
    { status := .applied
      appliedAt := some date
      nextStep := "You said you applied on " ++ displayDay calendar date ++ ". The app did not see a confirmation."
      archived := false
      savedJobStatus := some .applied }
  | .submissionUnknown =>
    inPreparation
      "Sent, but no confirmation was seen. Check the employer site or your email, then mark it applied."
  | .skipped =>
    { inPreparation "Skipped from Ready to apply." with
      archived := true
      savedJobStatus := some .considering }
  | .failed => inPreparation "Preparation failed. Open Ready to apply to retry."
  | .needsUser => inPreparation "Needs your input under Ready to apply."
  | .ready => inPreparation "Ready for your review under Ready to apply."
  | .submitting => inPreparation "Sending now."
  | _ => inPreparation "Preparing the application."

/-! ## One attempt -/

def findSavedJob (savedJobs : Table SavedJob) (vacancyKey : Option String) : Option SavedJob :=
  (vacancyKey.filter (· ≠ "")).bind fun vacancyKey =>
    savedJobs.rows.find? fun job => job.vacancyKey = some vacancyKey

def sameOpening (attempt other : AttemptRow) : Bool :=
  (attempt.vacancyKey.any (· ≠ "") && other.vacancyKey = attempt.vacancyKey) ||
    (attempt.canonicalUrlKey ≠ "" && other.canonicalUrlKey = attempt.canonicalUrlKey)

def siblingRow (tables : Tables) (attempt : AttemptRow) : Option ApplicationRow :=
  let siblings := (tables.attempts.rows.filter fun other => sameOpening attempt other && !other.applicationDetached)
  (siblings.mergeSort fun a b => b.createdAt ≤ a.createdAt).findSome? fun sibling =>
    (sibling.applicationId.bind tables.applications.get?).filter fun row => row.status = .preparing

def newRow (savedJob : Option SavedJob) (attempt : AttemptRow) (id : ℕ) : ApplicationRow where
  id := id
  savedJobId := savedJob.map SavedJob.id
  role := (savedJob.map SavedJob.role).getD attempt.role
  company := (savedJob.map SavedJob.company).getD attempt.company
  location := (savedJob.map SavedJob.location).getD ""
  verification := savedJob.bind SavedJob.verification
  status := .preparing
  cvId := attempt.sourceCvId

lemma key_newRow (savedJob : Option SavedJob) (attempt : AttemptRow) (id : ℕ) :
    Keyed.key (newRow savedJob attempt id) = id := rfl

def resolveApplicationRow (tables : Tables) (attempt : AttemptRow) : ApplicationRow × Table ApplicationRow :=
  match attempt.applicationId.bind tables.applications.get? with
  | some linked => (linked, tables.applications)
  | none =>
    match siblingRow tables attempt with
    | some row => (row, tables.applications)
    | none =>
      let savedJob := findSavedJob tables.savedJobs attempt.vacancyKey
      (newRow savedJob attempt tables.applications.next,
        tables.applications.insert (newRow savedJob attempt) (key_newRow savedJob attempt))

/-- What `syncApplicationForAttempt` patches in a row. -/
def syncedRow (attempt : AttemptRow) (row : ApplicationRow) : ApplicationRow :=
  let derived := deriveApplicationState calendar attempt
  let finalStatus := if row.status = .preparing ∧ derived.status = .applied then .applied else row.status
  { row with
    status := finalStatus
    appliedAt :=
      if row.status = .preparing ∧ derived.status = .applied then row.appliedAt.or derived.appliedAt
      else row.appliedAt
    archived := if row.status = .preparing then derived.archived else row.archived
    nextStep :=
      if finalStatus = derived.status ∧ isAutomaticNextStep row.nextStep then derived.nextStep else row.nextStep
    cvId := row.cvId.or (attempt.sourceCvId.filter (· ≠ "")) }

lemma key_syncedRow (attempt : AttemptRow) (row : ApplicationRow) :
    Keyed.key (syncedRow calendar attempt row) = Keyed.key row := rfl

def stillLive (attempts : Table AttemptRow) (vacancyKey : Option String) : Bool :=
  vacancyKey.any (· ≠ "") && attempts.rows.any fun other =>
    other.vacancyKey = vacancyKey && other.checkpoint ∈ Checkpoint.nonTerminal

def nextJobStatus (live : Bool) (derived : Option SavedJobStatus) (status : SavedJobStatus) : SavedJobStatus :=
  match derived, status with
  | some .applied, _ => .applied
  | some .preparing, .considering => .preparing
  | some .considering, .preparing => if live then .preparing else .considering
  | _, status => status

def setStatus (f : SavedJobStatus → SavedJobStatus) (job : SavedJob) : SavedJob := { job with status := f job.status }

lemma key_setStatus (f : SavedJobStatus → SavedJobStatus) (job : SavedJob) :
    Keyed.key (setStatus f job) = Keyed.key job := rfl

def setLink (applicationId : ℕ) (attempt : AttemptRow) : AttemptRow :=
  { attempt with applicationId := some applicationId }

lemma key_setLink (applicationId : ℕ) (attempt : AttemptRow) :
    Keyed.key (setLink applicationId attempt) = Keyed.key attempt := rfl

def followedJob (savedJobs : Table SavedJob) (attempt : AttemptRow) (linkedSavedJobId : Option ℕ) : Option SavedJob :=
  match linkedSavedJobId with
  | some id => savedJobs.get? id
  | none => findSavedJob savedJobs attempt.vacancyKey

def syncSavedJobStatus (tables : Tables) (attempt : AttemptRow) (linkedSavedJobId : Option ℕ) : Table SavedJob :=
  match followedJob tables.savedJobs attempt linkedSavedJobId with
  | none => tables.savedJobs
  | some job =>
    tables.savedJobs.update job.id (setStatus (nextJobStatus (stillLive tables.attempts attempt.vacancyKey)
      (deriveApplicationState calendar attempt).savedJobStatus)) (key_setStatus _)

def syncApplicationForAttempt (tables : Tables) (attemptId : ℕ) : Tables :=
  match (tables.attempts.get? attemptId).filter fun attempt => !attempt.applicationDetached with
  | none => tables
  | some attempt =>
    let resolved := resolveApplicationRow tables attempt
    let attempts :=
      if attempt.applicationId = some resolved.1.id then tables.attempts
      else tables.attempts.update attemptId (setLink resolved.1.id) (key_setLink _)
    let applications := resolved.2.update resolved.1.id (syncedRow calendar attempt) (key_syncedRow calendar attempt)
    { attempts
      applications
      savedJobs := syncSavedJobStatus calendar { tables with attempts } attempt resolved.1.savedJobId }

/-! ## All attempts -/

def historyOnlyCheckpoints : List Checkpoint := [.failed, .skipped]

def worthARow (attempt : AttemptRow) : Bool :=
  attempt.applicationId.isSome || attempt.checkpoint ∉ historyOnlyCheckpoints

/-- The attempts that `reconcileApplicationRows` reads, the oldest first. -/
def reconciledAttempts (attempts : Table AttemptRow) : List AttemptRow :=
  (attempts.rows.filter fun attempt => !attempt.applicationDetached).mergeSort fun a b => a.createdAt ≤ b.createdAt

def reconcileApplicationRows (tables : Tables) : Tables :=
  (((reconciledAttempts tables.attempts).filter worthARow).map AttemptRow.id).foldl
    (syncApplicationForAttempt calendar) tables

/-! ## Runs -/

inductive Call where
  | sync (attemptId : ℕ)
  | reconcile
  /-- Other code writes the attempts and the saved jobs. -/
  | elsewhere (attempts : Table AttemptRow) (savedJobs : Table SavedJob)

def step (tables : Tables) : Call → Tables
  | .sync attemptId => syncApplicationForAttempt calendar tables attemptId
  | .reconcile => reconcileApplicationRows calendar tables
  | .elsewhere attempts savedJobs => { tables with attempts, savedJobs }

def run (calls : List Call) (tables : Tables) : Tables := calls.foldl (step calendar) tables

/-- A text that the person typed: it says something, and is no sentence of the module. -/
structure Typed (text : String) : Prop where
  notBlank : trim text ≠ ""
  notListed : text ∉ autoNextSteps
  notDerived : ∀ attempt, (deriveApplicationState calendar attempt).nextStep ≠ text

/-- Syncing keeps what is the person's, and settles.  In every run a text that was typed stays in its row, and so does
a status that is past the application; every attempt is linked to one row at most; and a second reconcile changes
nothing. -/
structure SyncKeeps (text : String) : Prop where
  text : ∀ (tables : Tables) (calls : List Call) (id : ℕ) (row : ApplicationRow),
    tables.applications.get? id = some row → row.nextStep = text → Typed calendar text →
      ∃ row', (run calendar calls tables).applications.get? id = some row' ∧ row'.nextStep = text
  status : ∀ (tables : Tables) (calls : List Call) (id : ℕ) (row : ApplicationRow),
    tables.applications.get? id = some row → row.status ≠ .preparing → row.status ≠ .applied →
      ∃ row', (run calendar calls tables).applications.get? id = some row' ∧ row'.status = row.status
  linked : ∀ (tables : Tables) (calls : List Call), ∀ attempt ∈ (run calendar calls tables).attempts.rows,
    ((run calendar calls tables).applications.rows.filter fun row => attempt.applicationId = some row.id).length ≤ 1
  settled : ∀ (tables : Tables) (calls : List Call),
    reconcileApplicationRows calendar (reconcileApplicationRows calendar (run calendar calls tables)) =
      reconcileApplicationRows calendar (run calendar calls tables)

end

end VacancyRadar.Workspace.Tracker
