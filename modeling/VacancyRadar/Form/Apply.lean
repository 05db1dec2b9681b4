import VacancyRadar.Form.Values

/-!
# Applying a field map

`applyApplicationFieldMap` types the values of a field map into the page, chooses its options and attaches
its documents.  What it does to the page is kept as a list, and whatever the page answers may depend on all
that was done to it before.
-/

namespace VacancyRadar.Form

open Data Workspace

/-! ## The page -/

structure UploadReadyArtifact where
  artifactId : ℕ
  fileName : String
  baseName : String

inductive PageCall where
  | fill (fieldRef : Ref) (value : String)
  | select (fieldRef optionRef : Ref)
  | attach (fieldRef : Ref) (file : UploadReadyArtifact)
  | readBack (fieldRef : Ref) (reported : Option String)

/-- `FieldVerificationStatus`. -/
inductive VerificationStatus where
  | verified
  | mismatch
  | unreadable
deriving DecidableEq

/-- `FormReadiness`, as far as it is read here. -/
structure FormReadiness where
  ready : Bool
  blockers : List ReadinessBlocker

inductive ExecutorError where
  | policy (message : String)
  | other (message : String)

structure ReviewSession where
  policyId : String
  allowsAttach : Bool
  currentSnapshot : Option FormSnapshot
  ownedArtifactIds : List ℕ
  stillLive : List PageCall → Bool
  resolveUploadArtifact : List PageCall → ℕ → Except (String × String) UploadReadyArtifact
  fill : List PageCall → Ref → String → Except ExecutorError VerificationStatus
  select : List PageCall → Ref → Ref → Except ExecutorError VerificationStatus
  attach : List PageCall → Ref → UploadReadyArtifact → Except ExecutorError Unit
  readBackAttachment : List PageCall → Ref → Option String
  evaluateReadiness : List PageCall → FormReadiness

/-- Why the map is not applied, or not to its end. -/
inductive ApplyStop where
  | invalid (reason : RefusalReason) (detail : String)
  | abandoned
  | upload (reason detail : String)
  | manualHandoff (detail : String) (fieldRef : Ref) (artifactId : ℕ) (fileName : String)
  | attachmentUnconfirmed (detail : String)
  | threw (message : String)

abbrev PageM : Type → Type := EStateM ApplyStop (List PageCall)

/-- `ApplyApplicationFieldMapInput`. -/
structure ApplyInput where
  attemptId : ℕ
  fieldMap : Except String FieldMap
  valueTable : List ValueTableEntry
  allowJdProvenance : Bool := false

/-- What is answered when the whole map was applied. -/
structure Applied where
  appliedCount : ℕ
  verifiedCount : ℕ
  readiness : FormReadiness
  attachments : List AttachmentResult

structure WriteCounts where
  applied : ℕ
  verified : ℕ

def WriteCounts.add (counts : WriteCounts) (status : VerificationStatus) : WriteCounts where
  applied := counts.applied + 1
  verified := counts.verified + if status = .verified then 1 else 0

def maxReportedAttachmentNameLength : ℕ := 200

/-! ## The three phases -/

section Phases

variable (session : ReviewSession) (input : ApplyInput)

def stopIfFencedOut : PageM Unit := do
  if !session.stillLive (← get) then throw .abandoned

def perform {α : Type} (answer : List PageCall → Except ExecutorError α) (call : PageCall) : PageM α := do
  match answer (← get) with
  | .error (.policy message) | .error (.other message) => throw (.threw message)
  | .ok a =>
    modify (· ++ [call])
    return a

def planAttachments : List FieldAssignment → PageM (List (Ref × UploadReadyArtifact))
  | [] => return []
  | ⟨fieldRef, source⟩ :: rest => do
    match source with
    | .artifact artifactId =>
      stopIfFencedOut session
      match session.resolveUploadArtifact (← get) artifactId with
      | .error (reason, detail) => throw (.upload reason detail)
      | .ok file =>
        if !session.allowsAttach then
          throw (.manualHandoff
            ("target policy \"" ++ session.policyId ++ "\" does not permit automated uploads") fieldRef
            artifactId file.fileName)
        return (fieldRef, file) :: (← planAttachments rest)
    | .value _ | .option _ | .skip _ => planAttachments rest

def writeFields : List FieldAssignment → WriteCounts → PageM WriteCounts
  | [], counts => return counts
  | ⟨fieldRef, source⟩ :: rest, counts => do
    match source with
    | .value valueRef =>
      stopIfFencedOut session
      match (valueByRef input.valueTable).get? valueRef with
      | none => throw (.threw ("valueRef " ++ valueRef.text "v" ++ " vanished after validation"))
      | some entry =>
        let status ← perform (fun calls => session.fill calls fieldRef entry.value)
          (.fill fieldRef entry.value)
        writeFields rest (counts.add status)
    | .option optionRef =>
      stopIfFencedOut session
      let status ← perform (fun calls => session.select calls fieldRef optionRef)
        (.select fieldRef optionRef)
      writeFields rest (counts.add status)
    | .artifact _ | .skip _ => writeFields rest counts

/-- `executor.attach`; a control that the executor refuses is handed to the person. -/
def attachFile (fieldRef : Ref) (file : UploadReadyArtifact) : PageM Unit := do
  match session.attach (← get) fieldRef file with
  | .error (.policy message) =>
    throw (.manualHandoff message fieldRef file.artifactId file.fileName)
  | .error (.other message) => throw (.threw message)
  | .ok () => modify (· ++ [.attach fieldRef file])

def attachFiles : List (Ref × UploadReadyArtifact) → WriteCounts →
    PageM (List AttachmentResult × WriteCounts)
  | [], counts => return ([], counts)
  | (fieldRef, file) :: rest, counts => do
    stopIfFencedOut session
    attachFile session fieldRef file
    let reported := session.readBackAttachment (← get) fieldRef
    modify (· ++ [.readBack fieldRef reported])
    match reported.filter fun name => file.baseName.toList <:+: name.toList with
    | none =>
      throw (.attachmentUnconfirmed ("the page did not report artifact " ++ toString file.artifactId ++
        " on field " ++ fieldRef.text "f" ++ " after the upload"))
    | some name =>
      let (attachments, counts) ← attachFiles rest (counts.add .verified)
      let attachment : AttachmentResult :=
        { artifactId := file.artifactId, fieldRef, fileName := file.fileName
          attachedFileName := sliceUnits name maxReportedAttachmentNameLength }
      return (attachment :: attachments, counts)

end Phases

def applyApplicationFieldMap (review : Option ReviewSession) (input : ApplyInput) : PageM Applied := do
  let some session := review
    | throw (.threw ("no open review for attempt " ++ toString input.attemptId))
  let some snapshot := session.currentSnapshot
    | throw (.threw ("attempt " ++ toString input.attemptId ++ " has no snapshot yet"))
  match validateFieldMap
      { raw := input.fieldMap, attemptId := input.attemptId, snapshot, valueTable := input.valueTable
        ownedArtifactIds := session.ownedArtifactIds, allowJdProvenance := input.allowJdProvenance } with
  | .error (reason, detail) => throw (.invalid reason detail)
  | .ok fieldMap =>
    let planned ← planAttachments session fieldMap.assignments
    let counts ← writeFields session input fieldMap.assignments ⟨0, 0⟩
    let (attachments, counts) ← attachFiles session planned counts
    let readiness := session.evaluateReadiness (← get)
    return { appliedCount := counts.applied, verifiedCount := counts.verified, readiness, attachments }

end VacancyRadar.Form
