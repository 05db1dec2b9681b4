import VacancyRadar.Cv.Compose
import VacancyRadar.Cv.Rebase

/-!
# The operations of a case

`workspace/repository.ts`: every operation reads the case and its CV anew, and writes a part of the
case.  An approval is given by one operation alone, which freezes the CV that was approved; the others
drop it where they change what it stands on.  A file of an approved case is made only if nothing that
the approval depends on is another one since.
-/

namespace VacancyRadar.Cv

open Data

/-- What the operations have from outside. -/
structure Platform where
  unicode : Unicode
  /-- SHA-256 of a text, in hex. -/
  sha256Hex : String → String
  /-- SHA-256 of `stableCvSourceJson`. -/
  computeSourceCvContentHash : CvSourceDocument → String
  /-- SHA-256 of the JSON of all that a case depends on. -/
  computeCaseInputsDigest : CvCurrentInputs → String
  /-- SHA-256 of the JSON of a resume. -/
  resumeDigest : TailoredResume → String
  /-- The reasons and the details of `assessJdCompleteness` for a description. -/
  assessJdCompleteness : String → List JdIncompleteReason × List String

inductive CaseError where
  | refused (message : String)
  /-- `CvEvidenceOverlayRevisionConflictError`. -/
  | revisionConflict (currentCaseRevision : ℕ)
  /-- `WorkspaceNotFoundError`. -/
  | notFound (entity id : String)

variable (p : Platform)

/-- `toCvEvidenceOverlay`.  A row that was written with all fields is read with all fields. -/
def CvEvidenceOverlay.read (row : CvEvidenceOverlay) : CvEvidenceOverlay :=
  { row with
    state := if row.state = .artifactApproved then .candidateApproved else row.state }

def currentCaseInputs (doc : CvDocumentRecord) : CvCurrentInputs where
  source := doc.source
  skills := doc.profile.skills
  profileSummary := doc.profile.summary
  textDigest := p.sha256Hex doc.text

def captureSourceBaseline (doc : CvDocumentRecord) (now : String) : CvSourceBaseline :=
  let inputs := currentCaseInputs p doc
  { source := inputs.source
    skills := inputs.skills
    profileSummary := inputs.profileSummary
    textDigest := inputs.textDigest
    inputsDigest := p.computeCaseInputsDigest inputs
    capturedAt := now }

/-! ## Job descriptions -/

/-- What `assessJdText` returns. -/
structure JdAssessment where
  complete : Bool
  reasons : List JdIncompleteReason
  warning : String

def assessJdText (text : String) (reportedComplete : Bool) : JdAssessment :=
  let (reasons, details) := p.assessJdCompleteness text
  let cut := ¬ reportedComplete ∧ .truncatedAtSource ∉ reasons
  let reasons := if cut then reasons ++ [.truncatedAtSource] else reasons
  let details := if cut then
    details ++ ["The source reported that this text was cut off before the posting ended."] else details
  { complete := reasons = []
    reasons
    warning := " ".intercalate details }

def jdDigest (text supplied : String) : String := if text = "" then supplied else p.sha256Hex text

/-! ## Creation -/

structure CvEvidenceOverlayInput where
  sourceCvContentHash : String
  jdSnapshot : Option String := none
  jdSnapshotHash : String
  jdComplete : Option Bool := none
  jdOrigin : Option JdOrigin := none
  jdUrl : Option String := none
  jdRequisition : Option String := none
  listingStatus : Option ListingStatus := none
  origin : Option OverlayOrigin := none

def createCvEvidenceOverlay (doc : CvDocumentRecord) (input : CvEvidenceOverlayInput)
    (revisionId now : String) : CvEvidenceOverlay :=
  let jdSnapshot := input.jdSnapshot.getD ""
  let origin := input.origin.getD .vacancy
  let jdSnapshotHash := jdDigest p jdSnapshot input.jdSnapshotHash
  let assessment := assessJdText p jdSnapshot (input.jdComplete.getD true)
  { sourceCvContentHash := input.sourceCvContentHash
    jdSnapshot
    jdSnapshotHash
    jdComplete := assessment.complete
    jdIncompleteReasons := assessment.reasons
    jdWarning := assessment.warning
    jdRevisions :=
      if jdSnapshot = "" then []
      else [
        { revisionId
          text := jdSnapshot
          textHash := jdSnapshotHash
          complete := assessment.complete
          capturedAt := now
          origin := input.jdOrigin.getD (if origin = .manual then .manual else .found)
          url := input.jdUrl.getD ""
          requisition := input.jdRequisition.getD ""
          incompleteReasons := assessment.reasons
          warning := assessment.warning }]
    listingStatus := input.listingStatus.getD .unknown
    origin
    caseRevision := 1
    sourceBaseline := some (captureSourceBaseline p doc now) }

/-! ## Updates -/

abbrev PatchableState :=
  { state : OverlayState // state ≠ .candidateApproved ∧ state ≠ .qaFailed ∧ state ≠ .artifactApproved }

structure CvEvidenceOverlayPatch where
  sourceCvContentHash : Option String := none
  jdSnapshot : Option String := none
  jdSnapshotHash : Option String := none
  jdComplete : Option Bool := none
  jdOrigin : Option JdOrigin := none
  jdUrl : Option String := none
  jdRequisition : Option String := none
  jdConfirmedComplete : Option Bool := none
  listingStatus : Option ListingStatus := none
  state : Option PatchableState := none
  requirements : Option (List CvRequirementMapping) := none
  /-- Whether the list is complete, and the batches. -/
  requirementCoverage : Option (Bool × ℕ) := none
  facts : Option (List CvEvidenceFact) := none
  wordingVariants : Option (List CvApprovedWording) := none

/-- The ids and times that an operation makes, and the ids of its readings of the CV. -/
structure Fresh where
  id : String
  now : String
  mint : ℕ → String
  mintAgain : ℕ → String

/-- The part of `updateCvEvidenceOverlay` about the text of the job description. -/
def patchJd (overlay : CvEvidenceOverlay) (values : CvEvidenceOverlayPatch) (fresh : Fresh) :
    CvEvidenceOverlay :=
  if values.jdSnapshot = none ∧ values.jdSnapshotHash = none ∧ values.jdComplete = none then overlay
  else
    let jdSnapshot := values.jdSnapshot.getD overlay.jdSnapshot
    let jdSnapshotHash := jdDigest p jdSnapshot (values.jdSnapshotHash.getD overlay.jdSnapshotHash)
    let jdTextChanged := jdSnapshot ≠ overlay.jdSnapshot
    -- Only a new text lifts a cut that is known.
    let knownCut := ¬ jdTextChanged ∧ .truncatedAtSource ∈ overlay.jdIncompleteReasons
    let assessment := assessJdText p jdSnapshot
      (if knownCut then false else values.jdComplete.getD true)
    let lastRevision := overlay.jdRevisions.getLast?
    { overlay with
      jdSnapshot
      jdSnapshotHash
      jdComplete := assessment.complete
      jdIncompleteReasons := assessment.reasons
      jdWarning := assessment.warning
      jdRevisions := withJdRevision overlay
        { revisionId := fresh.id
          text := jdSnapshot
          textHash := jdSnapshotHash
          complete := assessment.complete
          capturedAt := fresh.now
          origin := values.jdOrigin.getD (if overlay.origin = .manual then .manual else .pasted)
          url := values.jdUrl.getD ((lastRevision.map CvJdRevision.url).getD "")
          requisition := values.jdRequisition.getD ((lastRevision.map CvJdRevision.requisition).getD "")
          incompleteReasons := assessment.reasons
          warning := assessment.warning }
      jdConfirmedComplete := if jdTextChanged then false else overlay.jdConfirmedComplete }

/-- The part of `updateCvEvidenceOverlay` about the confirmation of a short text. -/
def patchConfirmation (overlay : CvEvidenceOverlay) (values : CvEvidenceOverlayPatch) :
    Except CaseError CvEvidenceOverlay :=
  match values.jdConfirmedComplete with
  | none => .ok overlay
  | some confirmed =>
    if confirmed ∧ (trim overlay.jdSnapshot = "" ∨
        cvJdUnwaivableReasons.any (· ∈ overlay.jdIncompleteReasons)) then
      .error (.refused ("an empty or cut-off job description cannot be confirmed as complete, " ++
        "so paste the full text instead"))
    else .ok { overlay with jdConfirmedComplete := confirmed }

/-- The part of `updateCvEvidenceOverlay` about reviews of a text that is gone. -/
def clearReviews (before overlay : CvEvidenceOverlay) (values : CvEvidenceOverlayPatch) :
    CvEvidenceOverlay :=
  if overlay.jdSnapshot ≠ before.jdSnapshot ∧ values.requirements = none ∧
      before.requirements.any CvRequirementMapping.reviewed then
    { overlay with
      requirements := before.requirements.map fun requirement => { requirement with reviewed := false } }
  else overlay

def patchEvidence (overlay : CvEvidenceOverlay) (values : CvEvidenceOverlayPatch) (doc : CvDocumentRecord)
    (now : String) : Except CaseError CvEvidenceOverlay :=
  if values.facts = none ∧ values.wordingVariants = none then .ok overlay
  else
    let previous : CvEvidence := ⟨overlay.facts, overlay.wordingVariants⟩
    let next : CvEvidence :=
      ⟨values.facts.getD overlay.facts, values.wordingVariants.getD overlay.wordingVariants⟩
    match reconcileCvEvidence p.unicode previous next ⟨overlay.sourceCvContentHash, now⟩ with
    | .error message => .error (.refused message)
    | .ok reconciled =>
      .ok { overlay with
        facts := anchorCvFacts p.unicode p.sha256Hex reconciled.facts overlay.facts
          reconciled.wordingVariants doc
        wordingVariants := reconciled.wordingVariants }

/-- `assertRequirementLinks`, as a message. -/
def requirementLinkProblem (requirements : List CvRequirementMapping) (facts : List CvEvidenceFact)
    (source : Option CvSourceDocument) : Option String :=
  let factIds := facts.map CvEvidenceFact.factId
  if requirements.any fun requirement => requirement.factIds.any (· ∉ factIds) then
    some "a requirement links a fact that does not exist on this case"
  else if requirements.any fun requirement =>
      !requirement.sourceIds.all fun id => resolvesInSource source id then
    some "a requirement links a role or project that does not exist in the reviewed source"
  else none

/-- The part of `updateCvEvidenceOverlay` about requirements. -/
def patchRequirements (overlay : CvEvidenceOverlay) (values : CvEvidenceOverlayPatch)
    (doc : CvDocumentRecord) : Except CaseError CvEvidenceOverlay :=
  match values.requirements with
  | none => .ok overlay
  | some requirements =>
    match verifyCvRequirementQuotes requirements overlay.requirements overlay.jdSnapshot
      (currentCvJdRevisionId overlay.jdRevisions) with
    | .error message => .error (.refused message)
    | .ok verified =>
      match requirementLinkProblem verified overlay.facts doc.source with
      | some problem => .error (.refused problem)
      | none => .ok { overlay with requirements := verified }

def patchCoverage (overlay : CvEvidenceOverlay) (values : CvEvidenceOverlayPatch) :
    Except CaseError CvEvidenceOverlay :=
  match values.requirementCoverage with
  | none => .ok overlay
  | some (complete, batches) =>
    if trim overlay.jdSnapshot = "" then
      .error (.refused ("there is no job description text yet, so its requirements cannot be " ++
        "marked as covered"))
    else
      .ok { overlay with
        requirementCoverage :=
          { status := if complete then .complete else .partly
            revisionId := currentCvJdRevisionId overlay.jdRevisions
            batches } }

structure ApprovalInputs where
  sourceCvContentHash : String
  jdSnapshot : String
  jdSnapshotHash : String
  jdComplete : Bool
  jdConfirmedComplete : Bool
  requirements : List CvRequirementMapping
  requirementCoverage : CvRequirementCoverage
  facts : List CvEvidenceFact
  wordingVariants : List CvApprovedWording
deriving DecidableEq

def CvEvidenceOverlay.approvalInputs (overlay : CvEvidenceOverlay) : ApprovalInputs where
  sourceCvContentHash := overlay.sourceCvContentHash
  jdSnapshot := overlay.jdSnapshot
  jdSnapshotHash := overlay.jdSnapshotHash
  jdComplete := overlay.jdComplete
  jdConfirmedComplete := overlay.jdConfirmedComplete
  requirements := overlay.requirements
  requirementCoverage := overlay.requirementCoverage
  facts := overlay.facts
  wordingVariants := overlay.wordingVariants

/-- The part of `updateCvEvidenceOverlay` about the state. -/
def patchState (before overlay : CvEvidenceOverlay) (values : CvEvidenceOverlayPatch) :
    OverlayState :=
  let existing := before.read.state
  match values.state with
  | some state => state.1
  | none =>
    if values.facts ≠ none ∧ findCvFactConflicts p.unicode overlay.facts ≠ [] then .conflict
    else if values.facts ≠ none ∧ existing = .conflict then .draft
    else if overlay.approvalInputs ≠ before.approvalInputs then invalidatedOverlayState existing
    else before.state

def updateCvEvidenceOverlay (row : CvEvidenceOverlay) (doc : CvDocument)
    (values : CvEvidenceOverlayPatch) (fresh : Fresh) : Except CaseError CvEvidenceOverlay := do
  let overlay := { row with
    sourceCvContentHash := values.sourceCvContentHash.getD row.sourceCvContentHash }
  let overlay ← patchConfirmation (patchJd p overlay values fresh) values
  let overlay := clearReviews row overlay values
  let overlay ← patchEvidence p overlay values (doc.read fresh.mint) fresh.now
  let overlay ← patchRequirements overlay values (doc.read fresh.mintAgain)
  let overlay ← patchCoverage overlay values
  return { overlay with
    listingStatus := values.listingStatus.getD row.listingStatus
    state := patchState p row overlay values
    caseRevision := row.caseRevision + 1 }

/-! ## Proposals -/

inductive CvProposalPayload where
  | requirement (text jdAnchor : String) (classification : RequirementClassification)
      (evidenceClass : EvidenceClass) (anchorParentId : String)
  | evidenceLink (requirementId anchorParentId : String) (evidenceClass : EvidenceClass)
  | clarificationQuestion (requirementId question : String)
  | fact (parentId : String) (parentType : ParentType) (client activity mechanism result : String)
      (ownership : Ownership) (sourceReference metricValue metricUnit metricBasis : String)
  | wording (targetField : ClaimField) (parentId text : String) (factIds : List String)

def changeRequirement (requirements : List CvRequirementMapping) (requirementId : String)
    (change : CvRequirementMapping → CvRequirementMapping) : List CvRequirementMapping :=
  requirements.map fun requirement =>
    if requirement.requirementId = requirementId then change requirement else requirement

def promote (overlay : CvEvidenceOverlay) (doc : CvDocumentRecord) (fresh : Fresh) :
    CvProposalPayload → Except CaseError CvEvidenceOverlay
  | .requirement text jdAnchor classification evidenceClass anchorParentId =>
    if resolvesInSource doc.source anchorParentId = false then
      .error (.refused "this proposal anchors to a role or project that no longer exists in this case")
    else
      match locateJdQuote overlay.jdSnapshot jdAnchor [] with
      | none =>
        .error (.refused ("this proposal quotes text that is not in the job description, " ++
          "so it cannot be added"))
      | some span =>
        let added : CvRequirementMapping :=
          { requirementId := fresh.id
            text
            jdAnchor := trim jdAnchor
            classification
            evidenceClass
            anchorParentId
            candidateAdded := true
            quoteStart := span.start
            quoteEnd := span.stop
            jdRevisionId := currentCvJdRevisionId overlay.jdRevisions }
        let seen := overlay.requirements.flatMap fun requirement =>
          requirementDedupeKeys p.unicode requirement.text requirement.jdAnchor
        if (requirementDedupeKeys p.unicode added.text added.jdAnchor).any (· ∈ seen) then
          .error (.refused "this requirement is already on the list")
        else .ok { overlay with requirements := overlay.requirements ++ [added] }
  | .evidenceLink requirementId anchorParentId evidenceClass =>
    if overlay.requirements.all fun r => r.requirementId ≠ requirementId then
      .error (.refused "the requirement this proposal links to no longer exists in this case")
    else if resolvesInSource doc.source anchorParentId = false then
      .error (.refused "this proposal anchors to a role or project that no longer exists in this case")
    else
      .ok { overlay with
        requirements := changeRequirement overlay.requirements requirementId fun r =>
          { r with anchorParentId, evidenceClass, reviewed := false } }
  | .clarificationQuestion requirementId _ =>
    if overlay.requirements.all fun r => r.requirementId ≠ requirementId then
      .error (.refused "the requirement this proposal asks about no longer exists in this case")
    else
      .ok { overlay with
        requirements := changeRequirement overlay.requirements requirementId fun r =>
          { r with evidenceClass := .needsVerification, reviewed := false } }
  | .fact parentId parentType client activity mechanism result ownership sourceReference metricValue
      metricUnit metricBasis =>
    if resolvesInSource doc.source parentId = false then
      .error (.refused "this proposal anchors to a role or project that no longer exists in this case")
    else
      let added : CvEvidenceFact :=
        { factId := fresh.id
          parentId
          parentType
          client
          activity
          mechanism
          result
          ownership
          sourceKind := .mcpProposal
          sourceReference
          verification := .unreviewed
          metricValue
          metricUnit
          metricBasis
          createdAt := fresh.now
          approval := .proposed
          anchor := buildCvFactAnchor p.unicode p.sha256Hex doc.source parentId [] doc.profile.skills }
      .ok { overlay with facts := overlay.facts ++ [added] }
  | .wording targetField parentId text factIds =>
    if factIds.any fun factId => overlay.facts.all fun fact => fact.factId ≠ factId then
      .error (.refused "this proposal cites a fact id that no longer exists in this case")
    else if resolvesInSource doc.source parentId = false then
      .error (.refused "this proposal anchors to a role or project that no longer exists in this case")
    else
      .ok { overlay with
        wordingVariants := overlay.wordingVariants ++
          [{ variantId := fresh.id, targetField, parentId, text, factIds }] }

def CvProposalPayload.isFact : CvProposalPayload → Bool
  | .fact .. => true
  | _ => false

/-- `acceptCvTailoringProposal`, of a proposal that is pending. -/
def acceptCvTailoringProposal (row : CvEvidenceOverlay) (doc : CvDocument)
    (payload : CvProposalPayload) (fresh : Fresh) : Except CaseError CvEvidenceOverlay :=
  (promote p row (doc.read fresh.mint) fresh payload).map fun overlay =>
    { overlay with
      state :=
        if payload.isFact ∧ findCvFactConflicts p.unicode overlay.facts ≠ [] then .conflict
        else invalidatedOverlayState row.read.state
      caseRevision := row.caseRevision + 1 }

/-! ## Approvals -/

def checkRevision (row : CvEvidenceOverlay) (expectedCaseRevision : ℕ) : Except CaseError Unit :=
  if row.caseRevision = expectedCaseRevision then .ok ()
  else .error (.revisionConflict row.caseRevision)

def assertCvSourceReviewed (source : CvSourceDocument) : Except CaseError Unit :=
  let gaps := describeCvSourceGaps source
  if gaps = [] then .ok ()
  else .error (.refused ("this CV cannot be approved yet: " ++ "; ".intercalate gaps ++
    ". Check your CV details in the CV Library first"))

def requireSource (doc : CvDocumentRecord) (message : String) : Except CaseError CvSourceDocument :=
  match doc.source with
  | none => .error (.refused message)
  | some source => .ok source

def composeCase (overlay : CvEvidenceOverlay) (source : CvSourceDocument) (skills : List String) :
    ComposedTailoredResume :=
  composeApprovedTailoredResume p.unicode source overlay (p.computeSourceCvContentHash source) skills
    overlay.projectSelection

def approveCvEvidenceOverlay (row : CvEvidenceOverlay) (doc : CvDocumentRecord)
    (expectedCaseRevision : ℕ) (now : String) : Except CaseError CvEvidenceOverlay := do
  checkRevision row expectedCaseRevision
  let source ← requireSource doc
    "this CV has no reviewed source yet, so there is nothing to compose an approved CV from"
  assertCvSourceReviewed source
  let inputsDigest := p.computeCaseInputsDigest (currentCaseInputs p doc)
  if row.sourceBaseline.any fun baseline => baseline.inputsDigest ≠ inputsDigest then
    throw (.refused ("this CV cannot be approved yet: your CV, profile or skills changed since " ++
      "this case was started, so review the changes and rebase the case first"))
  let composed := composeCase p row.read source doc.profile.skills
  if composed.blockers ≠ [] then
    throw (.refused ("this CV cannot be approved yet: " ++ "; ".intercalate composed.blockers))
  return { row with
    state := .candidateApproved
    approvedResumeSnapshot := some
      { renderContractVersion := cvRenderContractVersion
        resume := composed.resume
        digest := p.resumeDigest composed.resume
        approvedAt := now
        caseRevision := row.caseRevision + 1 }
    caseRevision := row.caseRevision + 1 }

def joinedIds (projectIds : List String) : String := "\n".intercalate projectIds

def selectedIds (source : CvSourceDocument) : List String :=
  (selectSourceProjects source).map CvSourceProjectEntry.id

def approveCvProjectSelection (row : CvEvidenceOverlay) (doc : CvDocumentRecord)
    (expectedCaseRevision : ℕ) (now : String) : Except CaseError CvEvidenceOverlay := do
  checkRevision row expectedCaseRevision
  let source ← requireSource doc
    "this CV has no reviewed source yet, so there are no projects to approve"
  assertCvSourceReviewed source
  let changed := row.projectSelection.any fun selection =>
    joinedIds selection.projectIds ≠ joinedIds (selectedIds source)
  return { row with
    projectSelection := some
      { projectIds := selectedIds source, maxProjects := source.maxProjects, approvedAt := now }
    state := if changed then invalidatedOverlayState row.read.state else row.read.state
    caseRevision := row.caseRevision + 1 }

def rebaseCvEvidenceOverlay (row : CvEvidenceOverlay) (doc : CvDocumentRecord)
    (expectedCaseRevision : ℕ) (now : String) : Except CaseError CvEvidenceOverlay := do
  checkRevision row expectedCaseRevision
  let source ← requireSource doc
    "this CV has no reviewed source yet, so a case cannot be rebased onto it"
  let plan := planCvEvidenceRebase p.unicode p.sha256Hex row.read (currentCaseInputs p doc)
  let newHash := p.computeSourceCvContentHash source
  let live := source.experience.map CvSourceExperienceEntry.id ++
    source.projects.map CvSourceProjectEntry.id
  return { row with
    sourceCvContentHash := newHash
    facts := row.facts.map fun fact =>
      if fact.factId ∈ plan.staleFacts then { fact with approval := .proposed } else fact
    wordingVariants := (revokeVariantsCiting row.wordingVariants plan.staleFacts).map fun variant =>
      if variant.variantId ∈ plan.droppedVariants then { variant with status := .superseded }
      else if variant.status = .candidateApproved then { variant with sourceRevision := newHash }
      else variant
    requirements := row.requirements.map fun requirement =>
      if requirement.requirementId ∈ plan.requirementIdsToReview then
        { requirement with
          anchorParentId :=
            if requirement.anchorParentId ∈ live then requirement.anchorParentId else ""
          sourceIds := requirement.sourceIds.filter (· ∈ live)
          reviewed := false }
      else requirement
    sourceBaseline := some (captureSourceBaseline p doc now)
    projectSelection := none
    state := invalidatedOverlayState row.read.state
    caseRevision := row.caseRevision + 1 }

/-! ## Exports -/

/-- What `checkCvCaseExportReadiness` returns. -/
structure ExportReadiness where
  overlay : CvEvidenceOverlay
  snapshot : Option CvApprovedResumeSnapshot
  blockers : List String

def sourceBlockers (overlay : CvEvidenceOverlay) (source : Option CvSourceDocument) : List String :=
  match source with
  | none => ["your CV details have not been checked yet, so there is nothing to export it against"]
  | some source =>
    ((describeCvSourceGaps source).map fun gap =>
      gap ++ ". Check your CV details in the CV Library, then approve this CV again") ++
    (if p.computeSourceCvContentHash source ≠ overlay.sourceCvContentHash then
      ["your CV changed since this tailoring was approved, so review the changes and approve this " ++
        "CV again"]
    else []) ++
    if selectedIds source = [] then []
    else
      match overlay.projectSelection with
      | none =>
        ["the projects on this CV were never approved, so approve the project selection and this " ++
          "CV again"]
      | some selection =>
        if joinedIds selection.projectIds ≠ joinedIds (selectedIds source) then
          ["the projects on this CV changed since you approved them, so approve the new selection " ++
            "and this CV again"]
        else []

def jdDigestBlockers (overlay : CvEvidenceOverlay) : List String :=
  let jdHash := p.sha256Hex overlay.jdSnapshot
  if trim overlay.jdSnapshot = "" ∨ overlay.jdSnapshotHash ≠ jdHash ∨
      (overlay.jdRevisions.getLast?.any fun lastRevision => lastRevision.textHash ≠ jdHash) then
    ["the job description on record does not match its digest, so review it and approve this CV " ++
      "again"]
  else []

def checkCvCaseExportReadiness (row : CvEvidenceOverlay) (doc : CvDocumentRecord) : ExportReadiness :=
  let overlay := row.read
  match overlay.approvedResumeSnapshot.filter fun _ => overlay.state = .candidateApproved with
  | none =>
    { overlay
      snapshot := none
      blockers := ["this CV is not approved: it changed since it was approved, or it was never " ++
        "approved, so approve it again before exporting"] }
  | some snapshot =>
    let inputsDigest := p.computeCaseInputsDigest (currentCaseInputs p doc)
    { overlay
      snapshot := some snapshot
      blockers :=
        (if p.resumeDigest snapshot.resume ≠ snapshot.digest then
          ["the approved CV on record does not match its own digest, so it cannot be exported"]
        else []) ++
        (if snapshot.renderContractVersion ≠ cvRenderContractVersion then
          ["this CV was approved before the current document format, so approve it again to " ++
            "export it. Your facts and wording are kept"]
        else []) ++
        describeCvJdGaps overlay ++ jdDigestBlockers p overlay ++ sourceBlockers p overlay doc.source ++
        if overlay.sourceBaseline.any fun baseline => baseline.inputsDigest ≠ inputsDigest then
          ["your CV, profile or skills changed since this case was started, so review the changes " ++
            "and rebase the case first"]
        else [] }

/-! ## Files -/

def isCurrentArtifact (overlay : CvEvidenceOverlay) (artifact : CvArtifactRecord) : Bool :=
  overlay.state = .candidateApproved &&
    overlay.approvedResumeSnapshot.any fun snapshot =>
      artifact.snapshotDigest = snapshot.digest && artifact.snapshotApprovedAt = snapshot.approvedAt &&
        artifact.renderContractVersion = cvRenderContractVersion

def latestArtifactOfFormat (overlay : CvEvidenceOverlay) (format : ArtifactFormat) :
    Option CvArtifactRecord :=
  overlay.artifacts.reverse.find? fun artifact => artifact.format = format

def writeCvArtifacts (row : CvEvidenceOverlay) (artifacts : List CvArtifactRecord) :
    CvEvidenceOverlay :=
  { row with
    artifacts
    state := if row.state = .artifactApproved then .candidateApproved else row.state }

/-- What `recordCvArtifact` is told of a file. -/
structure CvArtifactInput where
  format : ArtifactFormat
  contentHash : String
  snapshotDigest : String
  snapshotApprovedAt : String
  renderContractVersion : ℕ
  validation : ArtifactValidation
  savedPath : String

def recordCvArtifact (row : CvEvidenceOverlay) (input : CvArtifactInput) (artifactId now : String) :
    CvEvidenceOverlay :=
  let record : CvArtifactRecord :=
    { artifactId
      format := input.format
      contentHash := input.contentHash
      exportedAt := now
      snapshotDigest := input.snapshotDigest
      snapshotApprovedAt := input.snapshotApprovedAt
      renderContractVersion := input.renderContractVersion
      validation := input.validation
      savedPath := input.savedPath }
  let artifacts := row.artifacts ++ [record]
  writeCvArtifacts row (artifacts.drop (artifacts.length - cvArtifactHistoryLimit))

def findArtifact (overlay : CvEvidenceOverlay) (artifactId : String) :
    Except CaseError CvArtifactRecord :=
  match overlay.artifacts.find? fun artifact => artifact.artifactId = artifactId with
  | none => .error (.notFound "CV artifact" artifactId)
  | some artifact => .ok artifact

def refuseFirst (checks : List (Bool × String)) : Except CaseError Unit :=
  match checks.find? Prod.fst with
  | none => .ok ()
  | some (_, message) => .error (.refused message)

def changeArtifact (row : CvEvidenceOverlay) (artifactId : String)
    (change : CvArtifactRecord → CvArtifactRecord) : CvEvidenceOverlay :=
  writeCvArtifacts row (row.artifacts.map fun entry =>
    if entry.artifactId = artifactId then change entry else entry)

def markCvArtifactReviewOpened (row : CvEvidenceOverlay) (artifactId now : String) :
    Except CaseError CvEvidenceOverlay := do
  let artifact ← findArtifact row.read artifactId
  refuseFirst [
    (artifact.savedPath = "", "this file was never saved, so there is nothing to open"),
    (!isCurrentArtifact row.read artifact, "this file belongs to an earlier version of the CV, " ++
      "so export it again before reviewing it")]
  return changeArtifact row artifactId fun entry => { entry with reviewOpenedAt := now }

def markCvArtifactPagesViewed (row : CvEvidenceOverlay) (artifactId : String) (pagesShown : ℕ)
    (now : String) : Except CaseError CvEvidenceOverlay := do
  let artifact ← findArtifact row.read artifactId
  let expected := (artifact.validation.pageCount.map toString).getD "an unknown number of"
  refuseFirst [
    (artifact.format ≠ .pdf, "only a PDF is read page by page in the app"),
    (artifact.savedPath = "", "this file was never saved, so there are no pages to read"),
    (!isCurrentArtifact row.read artifact, "this file belongs to an earlier version of the CV, " ++
      "so export it again before reviewing it"),
    (artifact.validation.pageCount ≠ some pagesShown, "the PDF has " ++ expected ++ " page(s) and " ++
      toString pagesShown ++ " were shown, so it cannot be marked as read")]
  return changeArtifact row artifactId fun entry => { entry with pagesViewedAt := now }

def confirmCvArtifact (row : CvEvidenceOverlay) (artifactId now : String) :
    Except CaseError CvEvidenceOverlay := do
  let artifact ← findArtifact row.read artifactId
  let latest := latestArtifactOfFormat row.read artifact.format
  refuseFirst [
    (!artifact.validation.ok, "this file failed its checks, so it cannot be accepted. Fix the " ++
      "problems and export it again"),
    (artifact.savedPath = "", "this file was never saved, so there is nothing to accept"),
    (!isCurrentArtifact row.read artifact, "this file belongs to an earlier version of the CV, " ++
      "so export it again before accepting it"),
    (latest.map CvArtifactRecord.artifactId ≠ some artifactId,
      "a newer export of this format exists, so review that one"),
    (artifact.format = .pdf ∧ artifact.pagesViewedAt = "",
      "read every page of the PDF in the app before accepting it")]
  if artifact.confirmedAt ≠ "" then return row
  return changeArtifact row artifactId fun entry => { entry with confirmedAt := now }

/-! ## Edits of the CV -/

def invalidateApprovedCase (row : CvEvidenceOverlay) : CvEvidenceOverlay :=
  if row.state = .candidateApproved ∨ row.state = .artifactApproved ∨ row.state = .qaFailed then
    { row with state := invalidatedOverlayState row.state, caseRevision := row.caseRevision + 1 }
  else row

structure CaseWorld where
  doc : CvDocument
  overlay : CvEvidenceOverlay
  /-- The inputs that were digested, which the code does not keep. -/
  digested : List CvCurrentInputs

def updateCvDocument (w : CaseWorld) (values : CvDocumentPatch) (fresh : Fresh) : CaseWorld :=
  let doc := w.doc.patched values fresh.now
  let existing := currentCaseInputs p (w.doc.read fresh.mint)
  let updated := currentCaseInputs p (doc.read fresh.mintAgain)
  { doc
    overlay :=
      if p.computeCaseInputsDigest existing ≠ p.computeCaseInputsDigest updated then
        invalidateApprovedCase w.overlay
      else w.overlay
    digested := existing :: updated :: w.digested }

/-! ## Runs -/

inductive CaseCall where
  | update (values : CvEvidenceOverlayPatch)
  | accept (payload : CvProposalPayload)
  | approveSelection (expectedCaseRevision : ℕ)
  | approve (expectedCaseRevision : ℕ)
  | rebase (expectedCaseRevision : ℕ)
  | recordArtifact (input : CvArtifactInput)
  | openArtifact (artifactId : String)
  | viewPages (artifactId : String) (pagesShown : ℕ)
  | confirmArtifact (artifactId : String)
  | editCv (values : CvDocumentPatch)

def CaseWorld.withOverlay (w : CaseWorld) (overlay : CvEvidenceOverlay) : CaseWorld :=
  { w with overlay }

def CaseWorld.digesting (w : CaseWorld) (doc : CvDocumentRecord) (overlay : CvEvidenceOverlay) :
    CaseWorld :=
  { w with overlay, digested := currentCaseInputs p doc :: w.digested }

def call (w : CaseWorld) (fresh : Fresh) : CaseCall → Except CaseError CaseWorld
  | .update values =>
    (updateCvEvidenceOverlay p w.overlay w.doc values fresh).map w.withOverlay
  | .accept payload =>
    (acceptCvTailoringProposal p w.overlay w.doc payload fresh).map w.withOverlay
  | .approveSelection expected =>
    (approveCvProjectSelection w.overlay (w.doc.read fresh.mint) expected fresh.now).map w.withOverlay
  | .approve expected =>
    (approveCvEvidenceOverlay p w.overlay (w.doc.read fresh.mint) expected fresh.now).map
      (w.digesting p (w.doc.read fresh.mint))
  | .rebase expected =>
    (rebaseCvEvidenceOverlay p w.overlay (w.doc.read fresh.mint) expected fresh.now).map
      (w.digesting p (w.doc.read fresh.mint))
  | .recordArtifact input => .ok (w.withOverlay (recordCvArtifact w.overlay input fresh.id fresh.now))
  | .openArtifact artifactId =>
    (markCvArtifactReviewOpened w.overlay artifactId fresh.now).map w.withOverlay
  | .viewPages artifactId pagesShown =>
    (markCvArtifactPagesViewed w.overlay artifactId pagesShown fresh.now).map w.withOverlay
  | .confirmArtifact artifactId =>
    (confirmCvArtifact w.overlay artifactId fresh.now).map w.withOverlay
  | .editCv values => .ok (updateCvDocument p w values fresh)

/-- A call, which leaves everything as it was if it throws. -/
def caseStep (w : CaseWorld) (move : Fresh × CaseCall) : CaseWorld :=
  match call p w move.1 move.2 with
  | .error _ => w
  | .ok next => next

def createdCase (doc : CvDocument) (input : CvEvidenceOverlayInput) (fresh : Fresh) : CaseWorld where
  doc
  overlay := createCvEvidenceOverlay p (doc.read fresh.mint) input fresh.id fresh.now
  digested := [currentCaseInputs p (doc.read fresh.mint)]

def CaseWorld.after (w : CaseWorld) (moves : List (Fresh × CaseCall)) : CaseWorld :=
  moves.foldl (caseStep p) w

end VacancyRadar.Cv
