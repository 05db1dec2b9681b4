import VacancyRadar.Form.FieldMap
import VacancyRadar.Form.Labels
import VacancyRadar.Workspace.Attempts

/-!
# Values and prepared fields

`sanitiseGeneratedFieldMap` narrows a field map to what the application commits by itself, and
`summarisePreparedFields` records what became of each field of the form.
-/

namespace VacancyRadar.Form

open Data Workspace

structure ApplicationValueTableEntry extends ValueTableEntry where
  label : String
deriving DecidableEq

/-! ## The value table -/

def push (entries : List ApplicationValueTableEntry) (valueRef : Ref) (label : String)
    (value : Option String) (provenance : Provenance) : List ApplicationValueTableEntry :=
  let trimmed := trim (value.getD "")
  if trimmed = "" ∨ (entries.any fun entry => entry.label = label) then entries
  else entries ++ [{ valueRef, label, value := trimmed, provenance }]

/-- `ApplicationValueCvContact`. -/
structure CvContact where
  name : String
  title : String
  location : String
  email : String
  phone : String
  links : List String

/-- `ApplicationValueProfile`. -/
structure ValueProfile where
  candidateName : String
  currentRole : String
  location : String
  professionalLanguage : String

/-- `findLink`, given the host name of a link that is an URL, in lower case. -/
def findLink (hostname : String → Option String) (links : List String) (host : String) : Option String :=
  links.find? fun link => (hostname link).any fun name => host.toList.isSuffixOf name.toList

def buildApplicationValueTable (hostname : String → Option String) (mint : ℕ → Ref)
    (cv : Option CvContact) (profile : Option ValueProfile) : List ApplicationValueTableEntry :=
  let links := (cv.map CvContact.links).getD []
  let entries := push [] (mint 0) "Full name" (cv.map CvContact.name) .cv
  let entries := push entries (mint 1) "Full name" (profile.map ValueProfile.candidateName) .profile
  let entries := push entries (mint 2) "Email address" (cv.map CvContact.email) .cv
  let entries := push entries (mint 3) "Phone number" (cv.map CvContact.phone) .cv
  let entries := push entries (mint 4) "Current location" (cv.map CvContact.location) .cv
  let entries := push entries (mint 5) "Current location" (profile.map ValueProfile.location) .profile
  let entries := push entries (mint 6) "Current job title" (cv.map CvContact.title) .cv
  let entries := push entries (mint 7) "Current job title" (profile.map ValueProfile.currentRole) .profile
  let entries :=
    push entries (mint 8) "Working languages" (profile.map ValueProfile.professionalLanguage) .profile
  let entries :=
    push entries (mint 9) "LinkedIn profile URL" (findLink hostname links "linkedin.com") .cv
  push entries (mint 10) "GitHub profile URL" (findLink hostname links "github.com") .cv

def Reviewed (valueTable : List ApplicationValueTableEntry) : Prop :=
  ∀ entry ∈ valueTable, entry.provenance = .cv ∨ entry.provenance = .profile

def applicationValueLabelSynonyms (label : String) : List String :=
  if label = "Full name" then
    ["full name", "name", "your name", "legal name", "full legal name", "first and last name"]
  else if label = "Email address" then
    ["email", "email address", "e-mail", "e-mail address", "your email", "your email address"]
  else if label = "Phone number" then
    ["phone", "phone number", "telephone", "mobile", "mobile phone", "mobile number", "contact number",
      "your phone number"]
  else if label = "Current location" then
    ["current location", "location", "city", "city and country", "where are you based",
      "where are you located"]
  else if label = "Current job title" then
    ["current job title", "current title", "job title", "current role", "current position"]
  else if label = "Working languages" then ["working languages", "professional languages"]
  else if label = "LinkedIn profile URL" then
    ["linkedin", "linkedin url", "linkedin profile", "linkedin profile url"]
  else if label = "GitHub profile URL" then
    ["github", "github url", "github profile", "github profile url"]
  else []

/-! ## Narrowing a field map -/

structure SanitisedFieldMap where
  fieldMap : FieldMap
  uploadFieldRefs : List Ref
  optionFieldRefs : List Ref

def isDocumentUploadField (field : SnapshotField) : Bool :=
  field.active && field.classification.isNone && field.controlType == .file

def firstOfKind (artifacts : List Artifact) (kind : ArtifactKind) : Option Artifact :=
  (artifacts.find? fun artifact => artifact.kind = kind).or
    (artifacts.find? fun artifact => artifact.kind = .combinedPdf)

def chooseArtifactForField (letters : Letters) (field : SnapshotField) (artifacts : List Artifact) :
    Option Artifact :=
  let label := letters.toLowerCase field.label
  if Pattern.test (Pattern.words ["cover", "letter", "motivation"]) label then
    firstOfKind artifacts .coverLetterPdf
  else firstOfKind artifacts .cvPdf

def FieldAssignment.isOption (assignment : FieldAssignment) : Bool :=
  match assignment.source with
  | .option _ => true
  | _ => false

def FieldAssignment.isArtifact (assignment : FieldAssignment) : Bool :=
  match assignment.source with
  | .artifact _ => true
  | _ => false

def assignUploads (letters : Letters) (artifacts : List Artifact) :
    List SnapshotField → List FieldAssignment × List Ref → List FieldAssignment × List Ref
  | [], acc => acc
  | field :: rest, (assignments, uploads) =>
    if !isDocumentUploadField field ||
        (assignments.map FieldAssignment.fieldRef).contains field.fieldRef then
      assignUploads letters artifacts rest (assignments, uploads)
    else
      match chooseArtifactForField letters field artifacts with
      | none => assignUploads letters artifacts rest (assignments, uploads ++ [field.fieldRef])
      | some artifact =>
        assignUploads letters artifacts rest
          (assignments ++ [⟨field.fieldRef, .artifact artifact.id⟩], uploads ++ [field.fieldRef])

def sanitiseGeneratedFieldMap (letters : Letters) (fieldMap : FieldMap) (snapshot : FormSnapshot)
    (artifacts : List Artifact) : SanitisedFieldMap :=
  let optionFieldRefs :=
    (fieldMap.assignments.filter FieldAssignment.isOption).map FieldAssignment.fieldRef
  let uploads := (fieldMap.assignments.filter FieldAssignment.isArtifact).map FieldAssignment.fieldRef
  let (assignments, uploadFieldRefs) := assignUploads letters artifacts snapshot.fields
    (fieldMap.assignments.filter fun assignment => !assignment.isOption, uploads)
  let assigned := assignments.map FieldAssignment.fieldRef
  let removed := uploadFieldRefs ++ optionFieldRefs
  let unmapped :=
    (fieldMap.unmapped.filter fun entry => entry.fieldRef ∉ removed ∧ entry.fieldRef ∉ assigned) ++
      (removed.filter fun fieldRef => fieldRef ∉ assigned).map fun fieldRef => ⟨fieldRef, .needsUser⟩
  { fieldMap := { fieldMap with assignments, unmapped }, uploadFieldRefs, optionFieldRefs }

def sanitiseDeterministicFieldMap (fieldMap : FieldMap) : SanitisedFieldMap where
  fieldMap := fieldMap
  uploadFieldRefs :=
    (fieldMap.assignments.filter FieldAssignment.isArtifact).map FieldAssignment.fieldRef
  optionFieldRefs := []

/-! ## The record of the prepared fields -/

inductive PreparedStatus where
  | committed (value : String) (provenance : Provenance)
  | awaitingYou (detail : String)
  | leftBlank (detail : String)
  | pendingUpload (detail : String)
deriving DecidableEq

/-- `PreparedApplicationField`. -/
structure PreparedField where
  label : String
  controlType : ControlType
  required : Bool
  status : PreparedStatus

inductive ReadinessBlocker where
  | requiredFieldEmpty (fieldRef : Ref) (label : String)
  | validationError (fieldRef : Ref) (label message : String)
  | valueMismatch (fieldRef : Ref) (label : String)
  | unverifiedWrite (fieldRef : Ref) (label : String)
  | attachmentMissing (fieldRef : Ref) (label : String)
  | stalePageState (detail : String)
  | challengeDetected

def ReadinessBlocker.fieldRef? : ReadinessBlocker → Option Ref
  | requiredFieldEmpty fieldRef _ | validationError fieldRef _ _ | valueMismatch fieldRef _
  | unverifiedWrite fieldRef _ | attachmentMissing fieldRef _ => some fieldRef
  | stalePageState _ | challengeDetected => none

structure AttachmentResult where
  artifactId : ℕ
  fieldRef : Ref
  fileName : String
  attachedFileName : String

/-- `SummarisePreparedFieldsInput`. -/
structure SummariseInput where
  snapshot : FormSnapshot
  sanitised : SanitisedFieldMap
  valueTable : List ApplicationValueTableEntry
  readinessBlockers : List ReadinessBlocker
  attachments : List AttachmentResult
  company : String
  role : String
  preparedAt : ℤ

namespace SummariseInput

variable (input : SummariseInput)

def valueByRef : Assoc Ref ApplicationValueTableEntry :=
  Assoc.ofEntries (input.valueTable.map fun entry => (entry.valueRef, entry))

def assignmentByFieldRef : Assoc Ref FieldAssignment :=
  Assoc.ofEntries (input.sanitised.fieldMap.assignments.map fun a => (a.fieldRef, a))

def blockedFieldRefs : List Ref := input.readinessBlockers.filterMap ReadinessBlocker.fieldRef?

def attachmentByFieldRef : Assoc Ref AttachmentResult :=
  Assoc.ofEntries (input.attachments.map fun a => (a.fieldRef, a))

def unansweredStatus (field : SnapshotField) : PreparedStatus :=
  if field.fieldRef ∈ input.sanitised.optionFieldRefs ∨ field.controlType = .select ∨
      field.controlType = .radio then
    .awaitingYou
      "a choice about you that none of your saved details answers, so this app leaves it to you"
  else if field.required then
    .awaitingYou "none of your saved details answers this, so this app left it for you"
  else .leftBlank "optional, and none of your saved details answers it"

def answeredStatus (field : SnapshotField) : PreparedStatus :=
  match (input.assignmentByFieldRef.get? field.fieldRef).map FieldAssignment.source with
  | some (.value valueRef) =>
    match input.valueByRef.get? valueRef with
    | some entry =>
      if field.fieldRef ∈ input.blockedFieldRefs then
        .awaitingYou "this app tried to fill this field, but the page did not confirm the value"
      else .committed entry.value entry.provenance
    | none => input.unansweredStatus field
  | some (.option optionRef) =>
    if field.fieldRef ∈ input.sanitised.optionFieldRefs then input.unansweredStatus field
    else
      match findSnapshotOption field optionRef with
      | some chosen =>
        if field.fieldRef ∈ input.blockedFieldRefs then
          .awaitingYou "this app chose an option here, but the page did not confirm it"
        else .committed chosen.label .userAnswer
      | none => .awaitingYou "this app chose an option here, but the page did not confirm it"
  | _ => input.unansweredStatus field

def unconfirmedUpload : String :=
  "this form wants a document attached, but the page did not confirm the attachment yet"

def status (field : SnapshotField) : PreparedStatus :=
  match field.classification with
  | some .consentField => .awaitingYou "a consent question, which this app never answers on your behalf"
  | some .credentialField => .awaitingYou "a credential field, which this app never fills"
  | none =>
    match input.attachmentByFieldRef.get? field.fieldRef with
    | some attachment => .committed attachment.attachedFileName .cv
    | none =>
      if field.fieldRef ∈ input.sanitised.uploadFieldRefs ∨ field.controlType = .file then
        .pendingUpload unconfirmedUpload
      else input.answeredStatus field

def preparedField (field : SnapshotField) : PreparedField :=
  { label := field.label, controlType := field.controlType, required := field.required
    status := input.status field }

def blocker (prepared : PreparedField) : List String :=
  match prepared.status with
  | .pendingUpload _ =>
    if prepared.required then
      ["\"" ++ prepared.label ++
        "\" needs a document attached, but the page did not confirm the attachment yet"]
    else []
  | _ => []

end SummariseInput

/-- `PreparedApplicationFields`. -/
structure PreparedFields where
  preparedAt : ℤ
  company : String
  role : String
  fields : List PreparedField

structure PreparedFieldsSummary where
  prepared : PreparedFields
  blockers : List String

def summarisePreparedFields (input : SummariseInput) : PreparedFieldsSummary :=
  let (fields, blockers) := input.snapshot.fields.foldl
    (fun (fields, blockers) field =>
      let prepared := input.preparedField field
      (fields ++ [prepared], blockers ++ SummariseInput.blocker prepared)) ([], [])
  { prepared :=
      { preparedAt := input.preparedAt, company := input.company, role := input.role, fields }
    blockers }

end VacancyRadar.Form
