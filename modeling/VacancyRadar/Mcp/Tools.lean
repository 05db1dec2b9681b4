import VacancyRadar.Mcp.Grants

/-!
# Tools

What the tools of the endpoint do.  A tool that changes anything does so in one transaction with its entry in
the audit trail; when it throws, the entry says that it was denied, and is written after all else was undone.
-/

namespace VacancyRadar.Mcp

open Data Cv

/-! ## Calls -/

structure VacancyArgument where
  title : String
  company : String
  location : String
  url : String
  postingText : String

structure ManualJdArgument where
  role : String
  company : String
  jdText : String
  url : String

inductive ToolCall where
  | startTailoringCase (vacancy : Option VacancyArgument) (manualJd : Option ManualJdArgument)
  | getTailoringCase (caseId : String) (page : ℕ)
  | propose (caseId : String) (payload : CvProposalPayload)
  | getTailoringStatus (caseId : String)
  | readApprovedResume (caseId : String)

def proposalTool : CvProposalPayload → String
  | .requirement .. => "propose_requirements"
  | .evidenceLink .. => "propose_evidence_link"
  | .clarificationQuestion .. => "propose_clarification_question"
  | .fact .. => "propose_fact"
  | .wording .. => "propose_wording"

def ToolCall.toolName : ToolCall → String
  | startTailoringCase .. => "start_tailoring_case"
  | getTailoringCase .. => "get_tailoring_case"
  | propose _ payload => proposalTool payload
  | getTailoringStatus _ => "get_tailoring_status"
  | readApprovedResume _ => "read_approved_resume"

def ToolCall.caseId? : ToolCall → Option String
  | startTailoringCase .. => none
  | getTailoringCase caseId _ | propose caseId _ | getTailoringStatus caseId | readApprovedResume caseId =>
    some caseId

inductive CvArtifactStatus where
  | legacyUnverified
  | notExported
  | stale
  | qaFailed
  | accepted
  | awaitingReview
deriving DecidableEq

def cvArtifactStatus (row : CvEvidenceOverlayRow) (format : ArtifactFormat) : CvArtifactStatus :=
  match latestArtifactOfFormat row.overlay format with
  | none => if row.legacyUnverifiedExport then .legacyUnverified else .notExported
  | some latest =>
    if !isCurrentArtifact row.overlay latest then
      if latest.validation.ok then .stale else .notExported
    else if !latest.validation.ok then .qaFailed
    else if latest.confirmedAt ≠ "" then .accepted
    else .awaitingReview

inductive ArtifactState where
  | notApproved
  | exported
  | approvedNotExported

def artifactState (row : CvEvidenceOverlayRow) : ArtifactState :=
  if row.overlay.state ≠ .candidateApproved then .notApproved
  else if [ArtifactFormat.pdf, .docx].any fun format =>
      cvArtifactStatus row format = .awaitingReview || cvArtifactStatus row format = .accepted then .exported
  else .approvedNotExported

structure JdPage where
  page : ℕ
  totalPages : ℕ
  text : List ℕ
  isLastPage : Bool
  isComplete : Bool

def jdPageSize : ℕ := 4000

def jdPage (row : CvEvidenceOverlayRow) (page : ℕ) : JdPage :=
  let units := codeUnits row.overlay.jdSnapshot
  let totalPages := max 1 ((units.length + jdPageSize - 1) / jdPageSize)
  { page
    totalPages
    text := (units.drop (page * jdPageSize)).take jdPageSize
    isLastPage := totalPages - 1 ≤ page
    isComplete := row.overlay.jdComplete }

inductive ToolResult where
  | started (caseId : String) (caseRevision : ℕ) (gaps : List String)
  | tailoringCase (caseId : String) (caseRevision : ℕ) (state : OverlayState) (jd : JdPage)
      (requirements : List CvRequirementMapping) (facts : List CvEvidenceFact)
      (pendingProposals : List CvTailoringProposal)
  | proposed (caseId proposalId : String) (status : CvProposalStatus)
  | status (caseId : String) (caseRevision : ℕ) (state : OverlayState) (gaps : List String)
      (pendingProposalCount : ℕ) (pdf docx : CvArtifactStatus) (artifactState : ArtifactState)
  | resume (caseId : String) (snapshot : CvApprovedResumeSnapshot)

def ToolResult.caseId : ToolResult → String
  | started caseId .. | tailoringCase caseId .. | proposed caseId .. | status caseId .. | resume caseId _ => caseId

/-! ## Bodies -/

def requireCoverage (grant : McpClientGrant) (caseId : String) : DbTx Unit :=
  Tx.require (mcpGrantCoversCase grant caseId) (.error "this grant does not cover this case")

/-- `auditTool`, for a call that went well. -/
def auditSuccess (grant : McpClientGrant) (toolName caseId : String) (revision : ℕ) : DbTx Unit :=
  modify (appendMcpAuditLogEntry grant.id toolName caseId .success (toString revision))

def vacancyKeyFor (u : Unicode) (vacancy : VacancyArgument) : String :=
  let url := trim vacancy.url
  if url ≠ "" then "url:" ++ url
  else
    "fields:" ++ normalizeWords u vacancy.title ++ "|" ++ normalizeWords u vacancy.company ++ "|" ++
      normalizeWords u vacancy.location

def foreignCase (grant : McpClientGrant) (key : Option String) (db : WorkspaceDb) : Option CvEvidenceOverlayRow :=
  (key.bind fun vacancyKey => db.overlayFor grant.sourceCvId vacancyKey).filter fun existing =>
    !mcpGrantCoversCase grant existing.id

variable (p : Platform)

def startTailoringCase (grant : McpClientGrant) (vacancy : Option VacancyArgument)
    (manualJd : Option ManualJdArgument) (minted : Minted) : DbTx ToolResult := do
  Tx.require (vacancy.isSome ≠ manualJd.isSome) (.error "provide exactly one of \"vacancy\" or \"manualJd\"")
  Tx.require (grant.scopeType = .sourceCv)
    (.error "this grant cannot start new cases, only work on previously named ones")
  let doc ← getCvDocument grant.sourceCvId minted.mint
  let source ← Tx.orThrow doc.source
    (.error "this CV has no reviewed source yet, so there is nothing to tailor from")
  let sourceCvContentHash := p.computeSourceCvContentHash source
  let jdSnapshot := (vacancy.map VacancyArgument.postingText).getD ((manualJd.map ManualJdArgument.jdText).getD "")
  let key := vacancy.map (vacancyKeyFor p.unicode)
  let db ← get
  match foreignCase grant key db with
  | some existing =>
    throw ⟨"a case for this vacancy already exists under a different client's grant", existing.id⟩
  | none =>
    let overlay ← createCvEvidenceOverlay p grant.sourceCvId (key.getD ("manual:" ++ minted.key))
      { sourceCvContentHash
        jdSnapshot := some jdSnapshot
        jdSnapshotHash := p.sha256Hex jdSnapshot
        jdComplete := some true
        jdOrigin := some (if vacancy.isSome then .found else .manual)
        origin := some (if vacancy.isSome then .vacancy else .manual) } minted
    appendMcpClientGrantCaseId grant.id overlay.id
    auditSuccess grant "start_tailoring_case" overlay.id overlay.overlay.caseRevision
    return .started overlay.id overlay.overlay.caseRevision
      (describeCvEvidenceOverlayGaps p.unicode overlay.overlay sourceCvContentHash)

def getTailoringCase (grant : McpClientGrant) (caseId : String) (page : ℕ) : DbTx ToolResult := do
  requireCoverage grant caseId
  let row ← getCvEvidenceOverlayById caseId
  let db ← get
  auditSuccess grant "get_tailoring_case" caseId row.overlay.caseRevision
  return .tailoringCase row.id row.overlay.caseRevision row.overlay.state (jdPage row page) row.overlay.requirements
    row.overlay.facts ((db.proposalsFor caseId).filter fun proposal => proposal.status = .pending)

def proposeChange (grant : McpClientGrant) (caseId : String) (payload : CvProposalPayload) (minted : Minted) :
    DbTx ToolResult := do
  requireCoverage grant caseId
  let proposal ← createCvTailoringProposal caseId grant.id payload minted
  auditSuccess grant (proposalTool payload) caseId proposal.caseRevisionAtProposal
  return .proposed proposal.caseId proposal.id proposal.status

def getTailoringStatus (grant : McpClientGrant) (caseId : String) (minted : Minted) : DbTx ToolResult := do
  requireCoverage grant caseId
  let row ← getCvEvidenceOverlayById caseId
  let doc ← getCvDocument row.cvId minted.mint
  let currentSourceCvContentHash := (doc.source.map p.computeSourceCvContentHash).getD ""
  let db ← get
  auditSuccess grant "get_tailoring_status" caseId row.overlay.caseRevision
  return .status row.id row.overlay.caseRevision row.overlay.state
    (describeCvEvidenceOverlayGaps p.unicode row.overlay currentSourceCvContentHash)
    ((db.proposalsFor caseId).filter fun proposal => proposal.status = .pending).length
    (cvArtifactStatus row .pdf) (cvArtifactStatus row .docx) (artifactState row)

def readApprovedResume (grant : McpClientGrant) (caseId : String) : DbTx ToolResult := do
  Tx.require (grant.canReadFinalSnapshot = true)
    (.error "this grant does not have permission to read the approved resume")
  requireCoverage grant caseId
  let row ← getCvEvidenceOverlayById caseId
  let snapshot ← Tx.orThrow row.overlay.approvedResumeSnapshot
    (.error "this case has not been approved yet")
  Tx.require (row.overlay.state = .candidateApproved)
    (.error "the case has changed since it was approved; the approved snapshot is no longer current")
  auditSuccess grant "read_approved_resume" caseId row.overlay.caseRevision
  return .resume row.id snapshot

def toolBody (grant : McpClientGrant) (minted : Minted) : ToolCall → DbTx ToolResult
  | .startTailoringCase vacancy manualJd => startTailoringCase p grant vacancy manualJd minted
  | .getTailoringCase caseId page => getTailoringCase grant caseId page
  | .propose caseId payload => proposeChange grant caseId payload minted
  | .getTailoringStatus caseId => getTailoringStatus p grant caseId minted
  | .readApprovedResume caseId => readApprovedResume grant caseId

def callTool (grant : McpClientGrant) (call : ToolCall) (minted : Minted) (db : WorkspaceDb) :
    Except Thrown ToolResult × WorkspaceDb :=
  match Tx.commit (toolBody p grant minted call) db with
  | (.ok result, db') => (.ok result, db')
  | (.error thrown, db') =>
    (.error thrown, appendMcpAuditLogEntry grant.id call.toolName (call.caseId?.getD thrown.deniedCaseId) .denied "" db')

end VacancyRadar.Mcp
