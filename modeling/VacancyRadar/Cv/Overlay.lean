import VacancyRadar.Cv.Evidence

/-!
# Cases

`workspace/cv-evidence-schema.ts`: a case holds the text of a job description, the requirements that
were read from it, and the evidence of the candidate.  What is missing for an approval is told in the
words of the candidate.
-/

namespace VacancyRadar.Cv

open Data

/-- `CvEngagementType`. -/
inductive Engagement where
  | employment
  | clientEngagement
deriving DecidableEq

structure CvSourceContact where
  name : String := ""
  title : String := ""
  location : String := ""
  email : String := ""
  phone : String := ""
  links : List String := []
deriving DecidableEq

structure CvSourceExperienceEntry where
  id : String
  company : String := ""
  title : String := ""
  dates : String := ""
  engagement : Engagement := .employment
  client : String := ""
  bullets : List String := []
deriving DecidableEq

structure CvSourceEducationEntry where
  institution : String := ""
  credential : String := ""
  dates : String := ""
deriving DecidableEq

structure CvSourceProjectEntry where
  id : String
  name : String := ""
  role : String := ""
  dates : String := ""
  organization : String := ""
  description : String := ""
  technologies : List String := []
  links : List String := []
  pinned : Bool := false
deriving DecidableEq

structure CvSourceDocument where
  contact : CvSourceContact := {}
  summary : String := ""
  experience : List CvSourceExperienceEntry := []
  education : List CvSourceEducationEntry := []
  projects : List CvSourceProjectEntry := []
  /-- Zero stands for no limit. -/
  maxProjects : ℕ := 0
  complete : Bool := true
  incompleteReason : String := ""
  coveredChars : ℕ := 0
  sourceChars : ℕ := 0
  reviewedAt : String := ""
deriving DecidableEq

def selectSourceProjects (source : CvSourceDocument) : List CvSourceProjectEntry :=
  let pinned := source.projects.filter fun project => project.pinned
  let unpinned := source.projects.filter fun project => !project.pinned
  if source.maxProjects = 0 then pinned ++ unpinned
  else pinned ++ unpinned.take (source.maxProjects - pinned.length)

def describeCvSourceContentGaps (source : CvSourceDocument) : List String :=
  if source.complete then [] else ["your CV was only partly read, so some sections may be missing"]

def describeCvSourceGaps (source : CvSourceDocument) : List String :=
  describeCvSourceContentGaps source ++
    if trim source.reviewedAt = "" then ["your CV details have not been checked yet"] else []

def stableIdsFrom (mint : ℕ → String) :
    (index : ℕ) → (seen taken : List String) → List CvSourceExperienceEntry →
      List CvSourceExperienceEntry
  | _, _, _, [] => []
  | index, seen, taken, entry :: rest =>
    let own := trim entry.id
    let legacy := "experience-" ++ toString (index + 1)
    let id :=
      if own = "" then if legacy ∈ taken then mint index else legacy
      else if own ∈ seen then mint index
      else own
    { entry with id } :: stableIdsFrom mint (index + 1) (id :: seen) (id :: taken) rest

def withStableExperienceIds (mint : ℕ → String) (experience : List CvSourceExperienceEntry) :
    List CvSourceExperienceEntry :=
  stableIdsFrom mint 0 [] ((experience.map fun entry => trim entry.id).filter (· ≠ "")) experience

/-! ## Documents -/

/-- The fields of a `CvProfile` that a case depends on. -/
structure CvProfile where
  skills : List String := []
  summary : String := ""

/-- A stored CV document: the fields that a case depends on. -/
structure CvDocument where
  text : String := ""
  profile : CvProfile := {}
  sourceCv : Option CvSourceDocument := none

structure CvDocumentRecord where
  text : String
  profile : CvProfile
  source : Option CvSourceDocument

/-- `toCvDocument`.  A row that was written with all fields is read with all fields. -/
def CvDocument.read (mint : ℕ → String) (row : CvDocument) : CvDocumentRecord where
  text := row.text
  profile := row.profile
  source := row.sourceCv.map fun source =>
    { source with experience := withStableExperienceIds mint source.experience }

def resolvesInSource (source : Option CvSourceDocument) (id : String) : Bool :=
  id = "" || match source with
    | none => false
    | some source =>
      (source.experience.any fun entry => entry.id = id) ||
        source.projects.any fun project => project.id = id

/-- `CvDocumentPatch`, of the fields that a case depends on.  A source may be cleared. -/
structure CvDocumentPatch where
  text : Option String := none
  skills : Option (List String) := none
  summary : Option String := none
  source : Option (Option CvSourceDocument) := none

/-- The row that `updateCvDocument` writes. -/
def CvDocument.patched (row : CvDocument) (values : CvDocumentPatch) (now : String) : CvDocument where
  text := values.text.getD row.text
  profile :=
    { skills := values.skills.getD row.profile.skills
      summary := values.summary.getD row.profile.summary }
  sourceCv := match values.source with
    | none => row.sourceCv
    -- `stampReviewed`.
    | some source => source.map fun source => { source with reviewedAt := now }

/-- `CvCurrentInputs`: what a case depends on in its CV. -/
structure CvCurrentInputs where
  source : Option CvSourceDocument
  skills : List String
  profileSummary : String
  textDigest : String
deriving DecidableEq

/-! ## Requirements -/

/-- `CvRequirementClassification`. -/
inductive RequirementClassification where
  | required
  | preferred
  | unclear
deriving DecidableEq

/-- `CvEvidenceClass`. -/
inductive EvidenceClass where
  | direct
  | transferable
  | unsupported
  | needsVerification
  | candidateConfirmedGap
deriving DecidableEq

/-- `CvRequirementMapping`.  A quote that was not found is at minus one. -/
structure CvRequirementMapping where
  requirementId : String
  text : String
  jdAnchor : String := ""
  classification : RequirementClassification
  evidenceClass : EvidenceClass
  anchorParentId : String := ""
  candidateAdded : Bool := false
  reviewed : Bool := false
  quoteStart : Int := -1
  quoteEnd : Int := -1
  jdRevisionId : String := ""
  excluded : Bool := false
  exclusionReason : String := ""
  sourceIds : List String := []
  factIds : List String := []
deriving DecidableEq

/-- `CvRequirementCoverageStatus`. -/
inductive CoverageStatus where
  | notRun
  | partly
  | complete
deriving DecidableEq

structure CvRequirementCoverage where
  status : CoverageStatus := .notRun
  revisionId : String := ""
  batches : ℕ := 0
deriving DecidableEq

/-! ## Job descriptions -/

/-- `CvJdOrigin`. -/
inductive JdOrigin where
  | found
  | pasted
  | manual

/-- `CvJdIncompleteReason`. -/
inductive JdIncompleteReason where
  | noPostingText
  | postingTextTooThin
  | noRequirementsCaptured
  | truncatedAtSource
deriving DecidableEq

def cvJdUnwaivableReasons : List JdIncompleteReason := [.noPostingText, .truncatedAtSource]

structure CvJdRevision where
  revisionId : String
  text : String
  textHash : String
  complete : Bool
  capturedAt : String
  origin : JdOrigin := .found
  url : String := ""
  requisition : String := ""
  incompleteReasons : List JdIncompleteReason := []
  warning : String := ""

/-! ## Resumes -/

structure ResumeExperienceEntry where
  company : String
  title : String
  dates : String
  engagement : Engagement
  client : String
  bullets : List String
deriving DecidableEq

structure ResumeProjectEntry where
  name : String
  role : String
  dates : String
  organization : String
  description : String
  technologies : List String
  links : List String
deriving DecidableEq

structure TailoredResume where
  contact : CvSourceContact
  summary : String
  experience : List ResumeExperienceEntry
  projects : List ResumeProjectEntry
  skills : List String
  education : List CvSourceEducationEntry
deriving DecidableEq

structure CvApprovedResumeSnapshot where
  renderContractVersion : ℕ
  resume : TailoredResume
  digest : String
  approvedAt : String
  caseRevision : ℕ

def cvRenderContractVersion : ℕ := 1

/-! ## Files -/

/-- `CvArtifactFormat`. -/
inductive ArtifactFormat where
  | pdf
  | docx
deriving DecidableEq

structure ArtifactValidation where
  ok : Bool
  reasons : List String := []
  pageCount : Option ℕ := none

structure CvArtifactRecord where
  artifactId : String
  format : ArtifactFormat
  contentHash : String
  exportedAt : String
  snapshotDigest : String
  snapshotApprovedAt : String
  renderContractVersion : ℕ
  validation : ArtifactValidation
  savedPath : String
  reviewOpenedAt : String := ""
  pagesViewedAt : String := ""
  confirmedAt : String := ""

def cvArtifactHistoryLimit : ℕ := 40

/-! ## Overlays -/

/-- `CvEvidenceOverlayState`. -/
inductive OverlayState where
  | needsInput
  | conflict
  | draft
  | candidateApproved
  | qaFailed
  | artifactApproved
deriving DecidableEq

/-- `CvListingStatus`. -/
inductive ListingStatus where
  | isOpen
  | closed
  | unknown

/-- `CvEvidenceOverlayOrigin`. -/
inductive OverlayOrigin where
  | vacancy
  | manual
deriving DecidableEq

structure CvProjectSelection where
  projectIds : List String
  maxProjects : ℕ
  approvedAt : String

structure CvSourceBaseline where
  source : Option CvSourceDocument
  skills : List String
  profileSummary : String
  textDigest : String
  inputsDigest : String
  capturedAt : String

/-- `CvEvidenceOverlay`, without its identity and its times of capture and update. -/
structure CvEvidenceOverlay where
  sourceCvContentHash : String
  jdSnapshot : String := ""
  jdSnapshotHash : String := ""
  jdComplete : Bool := true
  jdIncompleteReasons : List JdIncompleteReason := []
  jdWarning : String := ""
  jdConfirmedComplete : Bool := false
  jdRevisions : List CvJdRevision := []
  listingStatus : ListingStatus := .unknown
  state : OverlayState := .needsInput
  requirements : List CvRequirementMapping := []
  requirementCoverage : CvRequirementCoverage := {}
  facts : List CvEvidenceFact := []
  wordingVariants : List CvApprovedWording := []
  origin : OverlayOrigin := .vacancy
  caseRevision : ℕ := 0
  approvedResumeSnapshot : Option CvApprovedResumeSnapshot := none
  projectSelection : Option CvProjectSelection := none
  sourceBaseline : Option CvSourceBaseline := none
  artifacts : List CvArtifactRecord := []

def invalidatedOverlayState (current : OverlayState) : OverlayState :=
  if current = .candidateApproved ∨ current = .artifactApproved ∨ current = .qaFailed then .draft
  else current

def currentCvJdRevisionId (jdRevisions : List CvJdRevision) : String :=
  (jdRevisions.getLast?.map CvJdRevision.revisionId).getD ""

def withJdRevision (overlay : CvEvidenceOverlay) (revision : CvJdRevision) : List CvJdRevision :=
  if revision.text = overlay.jdSnapshot ∧ revision.textHash = overlay.jdSnapshotHash ∧
      revision.complete = overlay.jdComplete then overlay.jdRevisions
  else overlay.jdRevisions ++ [revision]

/-! ## What is missing -/

/-- `plural`, with the number itself in the second text. -/
def counted (count : ℕ) (one many : String) : String :=
  if count = 1 then "1 " ++ one else toString count ++ " " ++ many

def describeCvJdGaps (overlay : CvEvidenceOverlay) : List String :=
  if trim overlay.jdSnapshot = "" then
    ["there is no job description text yet, so nothing can be approved against it"]
  else if .truncatedAtSource ∈ overlay.jdIncompleteReasons then
    ["the job description is cut off, so paste the full text before approving"]
  else if overlay.jdIncompleteReasons ≠ [] then
    if overlay.jdConfirmedComplete then []
    else ["the job description looks incomplete and you have not confirmed it is complete after " ++
      "reading it"]
  else if overlay.jdComplete then []
  else ["the job description was not read in full"]

structure CvRequirementGap where
  reason : String
  requirementIds : List String := []

def requirementGap (requirements : List CvRequirementMapping) (one many rest : String) :
    List CvRequirementGap :=
  if requirements = [] then []
  else [⟨counted requirements.length one many ++ " " ++ rest,
    requirements.map CvRequirementMapping.requirementId⟩]

def describeCvRequirementGapRows (overlay : CvEvidenceOverlay) : List CvRequirementGap :=
  let currentRevisionId := currentCvJdRevisionId overlay.jdRevisions
  let coverage := overlay.requirementCoverage
  let active := overlay.requirements.filter fun requirement => !requirement.excluded
  let approvedFactIds :=
    (overlay.facts.filter fun fact => fact.approval = .approved).map CvEvidenceFact.factId
  (if coverage.revisionId ≠ currentRevisionId ∨ coverage.status = .notRun then
    [⟨"the job requirements have not been read and confirmed as a full list", []⟩]
  else if coverage.status = .partly then
    [⟨"some job requirements may be missing because only part of the job description was read", []⟩]
  else []) ++
  requirementGap (active.filter fun requirement => requirement.jdRevisionId ≠ currentRevisionId)
    "job requirement was" "job requirements were"
    "checked against an older job description and need another look" ++
  requirementGap (active.filter fun requirement => requirement.quoteStart < 0)
    "job requirement" "job requirements" "could not be found in the job description" ++
  requirementGap (active.filter fun requirement => !requirement.reviewed)
    "job requirement has" "job requirements have" "not been reviewed" ++
  requirementGap (active.filter fun requirement => requirement.classification = .required &&
      requirement.reviewed && requirement.evidenceClass = .needsVerification)
    "job requirement still needs" "job requirements still need" "your answer" ++
  requirementGap (active.filter fun requirement =>
      requirement.factIds.any fun factId => factId ∉ approvedFactIds)
    "job requirement links" "job requirements link" "to a fact you have not approved" ++
  requirementGap (active.filter fun requirement =>
      requirement.evidenceClass = .candidateConfirmedGap && requirement.factIds ≠ [])
    "job requirement is" "job requirements are" "marked as a gap but also links a fact"

def describeCvRequirementGaps (overlay : CvEvidenceOverlay) : List String :=
  (describeCvRequirementGapRows overlay).map CvRequirementGap.reason

def wordingGap (variants : List CvApprovedWording) (one many rest : String) : List String :=
  if variants = [] then [] else [counted variants.length one many ++ " " ++ rest]

/-- The part of `describeCvEvidenceOverlayGaps` about the evidence. -/
def describeEvidenceGaps (u : Unicode) (overlay : CvEvidenceOverlay) : List String :=
  let approvedVariants := overlay.wordingVariants.filter fun variant =>
    variant.status = .candidateApproved
  let conflictedFactIds := conflictedFactIdSet u overlay.facts
  wordingGap (approvedVariants.filter fun variant =>
      variant.sourceRevision ≠ overlay.sourceCvContentHash)
    "wording choice needs" "wording choices need" "approving again because your CV changed" ++
  wordingGap (approvedVariants.filter fun variant => variant.factIds = [])
    "wording choice is" "wording choices are" "not backed by a confirmed fact" ++
  wordingGap (approvedVariants.filter fun variant => variant.factIds ≠ [] &&
      !variant.factIds.all fun factId =>
        match overlay.facts.find? fun fact => fact.factId = factId with
        | none => false
        | some fact => isCvFactUsable fact conflictedFactIds)
    "wording choice relies" "wording choices rely" "on a fact you have not approved" ++
  if conflictedFactIds ≠ [] then
    ["some of your facts contradict each other, so fix or remove one of each pair"]
  else if overlay.state = .conflict then ["some of your corrections contradict each other"]
  else []

def describeCvEvidenceOverlayGaps (u : Unicode) (overlay : CvEvidenceOverlay)
    (currentSourceCvContentHash : String) : List String :=
  (if overlay.sourceCvContentHash ≠ currentSourceCvContentHash then
    ["your CV changed since this draft was built, so update the tailoring"]
  else []) ++
  describeCvJdGaps overlay ++ describeCvRequirementGaps overlay ++ describeEvidenceGaps u overlay

/-! ## Quotes -/

def occurrences (needle : List Char) : ℕ → List Char → List ℕ
  | _, [] => []
  | start, c :: rest =>
    (if needle.isPrefixOf (c :: rest) then [start] else []) ++
      occurrences needle (start + unitLength [c]) rest

structure QuoteSpan where
  start : ℕ
  stop : ℕ

def locateJdQuote (text quote : String) (takenStarts : List ℕ) : Option QuoteSpan :=
  let needle := (trim quote).toList
  if needle = [] then none
  else
    let starts := occurrences needle 0 text.toList
    ((starts.find? fun start => start ∉ takenStarts).or starts.head?).map fun start =>
      ⟨start, start + unitLength needle⟩

def shortened (text : String) : String := sliceUnits text 80

def requirementOf : List CvRequirementMapping → String → Option CvRequirementMapping :=
  lastOf CvRequirementMapping.requirementId

def verifyQuote (before : Option CvRequirementMapping) (jdText currentRevisionId : String)
    (taken : List ℕ) (requirement : CvRequirementMapping) :
    Except String (CvRequirementMapping × List ℕ) :=
  let quoteChanged := before.map CvRequirementMapping.jdAnchor ≠ some requirement.jdAnchor
  let reReviewed := requirement.reviewed ∧ before.all fun before =>
    !before.reviewed || before.jdRevisionId ≠ currentRevisionId
  match before.filter fun _ => ¬ quoteChanged ∧ ¬ reReviewed with
  | some before =>
    .ok ({ requirement with
        quoteStart := before.quoteStart
        quoteEnd := before.quoteEnd
        jdRevisionId := before.jdRevisionId },
      if 0 ≤ before.quoteStart then before.quoteStart.toNat :: taken else taken)
  | none =>
    match locateJdQuote jdText requirement.jdAnchor taken with
    | some span =>
      .ok ({ requirement with
          jdAnchor := trim requirement.jdAnchor
          quoteStart := span.start
          quoteEnd := span.stop
          jdRevisionId := currentRevisionId }, span.start :: taken)
    | none =>
      if requirement.excluded then
        .ok ({ requirement with
          quoteStart := (before.map CvRequirementMapping.quoteStart).getD (-1)
          quoteEnd := (before.map CvRequirementMapping.quoteEnd).getD (-1)
          jdRevisionId :=
            (before.map CvRequirementMapping.jdRevisionId).getD currentRevisionId }, taken)
      else if quoteChanged then
        .error ("\"" ++ shortened requirement.jdAnchor ++ "\" is not an exact quote from the job " ++
          "description, so this requirement cannot be saved")
      else
        .error ("the quote for \"" ++ shortened requirement.text ++ "\" is no longer in the job " ++
          "description: correct the quote or mark it as not a requirement")

/-- `verifyCvRequirementQuotes`, with the places that are taken. -/
def verifyQuotes (previous : List CvRequirementMapping) (jdText currentRevisionId : String) :
    List ℕ → List CvRequirementMapping → Except String (List CvRequirementMapping)
  | _, [] => .ok []
  | taken, requirement :: rest => do
    let (verified, taken) ← verifyQuote (requirementOf previous requirement.requirementId) jdText
      currentRevisionId taken requirement
    let others ← verifyQuotes previous jdText currentRevisionId taken rest
    return verified :: others

def verifyCvRequirementQuotes (next previous : List CvRequirementMapping)
    (jdText currentRevisionId : String) : Except String (List CvRequirementMapping) :=
  verifyQuotes previous jdText currentRevisionId [] next

def requirementDedupeKeys (u : Unicode) (text jdAnchor : String) : List String :=
  ("text:" ++ normalizeWords u text) ::
    if trim jdAnchor = "" then [] else ["quote:" ++ normalizeWords u jdAnchor]

end VacancyRadar.Cv
