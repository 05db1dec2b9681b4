import VacancyRadar.Cv.Case
import VacancyRadar.Data.Transaction

/-!
# Client grants

A grant lets one local client work on cases: on those that it names, or on those that the client starts from
one CV.  What a client does is written to an audit trail.
-/

namespace VacancyRadar.Mcp

open Data Cv

/-! ## Records -/

inductive McpGrantScopeType where
  | sourceCv
  | caseIds
deriving DecidableEq

inductive McpAuditOutcome where
  | success
  | denied
  | error

def caseIdsPerGrant : ℕ := 200

/-- A row of `mcp_client_grants`, with no time of its revocation while it is active. -/
structure McpClientGrant where
  id : String
  name : String
  scopeType : McpGrantScopeType
  sourceCvId : String
  caseIds : List String
  canReadFinalSnapshot : Bool
  credentialVerifierHash : String
  createdAt : String
  expiresAt : String
  revokedAt : Option String

def describeMcpGrantBlockers (grant : McpClientGrant) (now : String) : List String :=
  (if grant.revokedAt ≠ none then ["this grant was revoked"] else []) ++
    if grant.expiresAt ≤ now then ["this grant has expired"] else []

def mcpGrantCoversCase (grant : McpClientGrant) (caseId : String) : Bool := caseId ∈ grant.caseIds

structure McpClientGrantInput where
  name : String
  scopeType : McpGrantScopeType
  sourceCvId : Option String
  caseIds : Option (List String)
  canReadFinalSnapshot : Option Bool
  expiresAt : String

structure CvEvidenceOverlayRow where
  id : String
  cvId : String
  vacancyKey : String
  legacyUnverifiedExport : Bool
  overlay : CvEvidenceOverlay

inductive CvProposalStatus where
  | pending
  | accepted
  | rejected
deriving DecidableEq

deriving instance DecidableEq for CvProposalPayload

structure CvTailoringProposal where
  id : String
  caseId : String
  grantId : Option String
  status : CvProposalStatus
  payload : CvProposalPayload
  caseRevisionAtProposal : ℕ
  createdAt : ℕ

structure McpAuditLogEntry where
  grantId : Option String
  toolName : String
  caseId : Option String
  outcome : McpAuditOutcome
  revision : Option String

structure WorkspaceDb where
  cvDocuments : List (String × CvDocument)
  cvEvidenceOverlays : List CvEvidenceOverlayRow
  cvTailoringProposals : List CvTailoringProposal
  mcpClientGrants : List McpClientGrant
  mcpAuditLogEntries : List McpAuditLogEntry

structure Thrown where
  message : String
  deniedCaseId : String

abbrev Thrown.error (message : String) : Thrown := ⟨message, ""⟩

/-- `WorkspaceNotFoundError`. -/
def workspaceNotFound (entity id : String) : Thrown := .error ("no " ++ entity ++ " with id \"" ++ id ++ "\"")

abbrev DbTx : Type → Type := Tx WorkspaceDb Thrown

structure Minted where
  id : String
  key : String
  revisionId : String
  now : String
  createdAt : ℕ
  mint : ℕ → String
  mintAgain : ℕ → String

/-! ## The repository -/

def orNull (text : String) : Option String := if text = "" then none else some text

def appendMcpAuditLogEntry (grantId toolName caseId : String) (outcome : McpAuditOutcome) (revision : String)
    (db : WorkspaceDb) : WorkspaceDb :=
  { db with
    mcpAuditLogEntries := db.mcpAuditLogEntries ++
      [⟨orNull grantId, toolName, orNull caseId, outcome, orNull revision⟩] }

def WorkspaceDb.grant? (db : WorkspaceDb) (id : String) : Option McpClientGrant :=
  db.mcpClientGrants.find? fun grant => grant.id = id

def WorkspaceDb.updateGrant (db : WorkspaceDb) (id : String) (f : McpClientGrant → McpClientGrant) : WorkspaceDb :=
  { db with mcpClientGrants := db.mcpClientGrants.map fun grant => if grant.id = id then f grant else grant }

def createMcpClientGrant (input : McpClientGrantInput) (id credentialVerifierHash now : String)
    (db : WorkspaceDb) : Except Thrown WorkspaceDb :=
  if input.scopeType = .sourceCv ∧ db.cvDocuments.lookup (input.sourceCvId.getD "") = none then
    .error (workspaceNotFound "CV document" (input.sourceCvId.getD ""))
  else if db.grant? id ≠ none then .error (.error "UNIQUE constraint failed: mcp_client_grants.id")
  else
    .ok { db with
      mcpClientGrants := db.mcpClientGrants ++ [{
        id := id
        name := input.name
        scopeType := input.scopeType
        sourceCvId := if input.scopeType = .sourceCv then input.sourceCvId.getD "" else ""
        caseIds := if input.scopeType = .caseIds then input.caseIds.getD [] else []
        canReadFinalSnapshot := input.canReadFinalSnapshot.getD false
        credentialVerifierHash := credentialVerifierHash
        createdAt := now
        expiresAt := input.expiresAt
        revokedAt := none }] }

def revokeMcpClientGrant (id now : String) (db : WorkspaceDb) : Except Thrown WorkspaceDb :=
  match db.grant? id with
  | none => .error (workspaceNotFound "MCP client grant" id)
  | some existing =>
    if existing.revokedAt ≠ none then .ok db
    else .ok (db.updateGrant id fun grant => { grant with revokedAt := some now })

def findMcpClientGrantByCredential (providedHash : String) (db : WorkspaceDb) : Option McpClientGrant :=
  db.mcpClientGrants.reverse.find? fun row => row.credentialVerifierHash = providedHash

def appendMcpClientGrantCaseId (grantId caseId : String) : DbTx Unit := do
  let db ← get
  let existing ← Tx.orThrow (db.grant? grantId) (workspaceNotFound "MCP client grant" grantId)
  if caseId ∈ existing.caseIds then return ()
  else
    Tx.require (existing.caseIds.length < caseIdsPerGrant)
      (.error s!"this grant has already started the maximum of {caseIdsPerGrant} cases")
    modify fun db => db.updateGrant grantId fun grant => { grant with caseIds := existing.caseIds ++ [caseId] }

def getCvDocument (cvId : String) (mint : ℕ → String) : DbTx CvDocumentRecord := do
  let db ← get
  let row ← Tx.orThrow (db.cvDocuments.lookup cvId) (workspaceNotFound "CV document" cvId)
  return row.read mint

/-- `toCvEvidenceOverlay`. -/
def CvEvidenceOverlayRow.record (row : CvEvidenceOverlayRow) : CvEvidenceOverlayRow :=
  { row with overlay := row.overlay.read }

/-- `getCvEvidenceOverlay`. -/
def WorkspaceDb.overlayFor (db : WorkspaceDb) (cvId vacancyKey : String) : Option CvEvidenceOverlayRow :=
  (db.cvEvidenceOverlays.find? fun row => row.cvId = cvId ∧ row.vacancyKey = vacancyKey).map
    CvEvidenceOverlayRow.record

def getCvEvidenceOverlayById (id : String) : DbTx CvEvidenceOverlayRow := do
  let db ← get
  let row ← Tx.orThrow (db.cvEvidenceOverlays.find? fun row => row.id = id)
    (workspaceNotFound "CV evidence overlay" id)
  return row.record

/-- `createCvEvidenceOverlay`.  An id is taken only once. -/
def createCvEvidenceOverlay (p : Platform) (cvId vacancyKey : String) (input : CvEvidenceOverlayInput)
    (minted : Minted) : DbTx CvEvidenceOverlayRow := do
  let doc ← getCvDocument cvId minted.mintAgain
  let db ← get
  match db.overlayFor cvId vacancyKey with
  | some existing => return existing
  | none =>
    Tx.require (db.cvEvidenceOverlays.find? (fun row => row.id = minted.id) = none)
      (.error "UNIQUE constraint failed: cv_evidence_overlays.id")
    let row : CvEvidenceOverlayRow :=
      { id := minted.id, cvId, vacancyKey, legacyUnverifiedExport := false
        overlay := Cv.createCvEvidenceOverlay p doc input minted.revisionId minted.now }
    modify fun db => { db with cvEvidenceOverlays := db.cvEvidenceOverlays ++ [row] }
    return row.record

def CvEvidenceOverlayRow.hasRequirement (row : CvEvidenceOverlayRow) (requirementId : String) : Bool :=
  row.overlay.requirements.any fun requirement => requirement.requirementId = requirementId

def proposalProblem (row : CvEvidenceOverlayRow) (source : Option CvSourceDocument) :
    CvProposalPayload → Option String
  | .requirement _ _ _ _ anchorParentId => sourceProblem anchorParentId
  | .evidenceLink requirementId anchorParentId _ =>
    (requirementProblem requirementId).or (sourceProblem anchorParentId)
  | .clarificationQuestion requirementId _ => requirementProblem requirementId
  | .fact parentId .. => sourceProblem parentId
  | .wording _ parentId _ factIds =>
    if !factIds.all fun id => row.overlay.facts.any fun fact => fact.factId = id then
      some "this proposal cites a fact id that does not exist in this case"
    else sourceProblem parentId
where
  /-- An anchor that is not in the source. -/
  sourceProblem (id : String) : Option String :=
    if resolvesInSource source id then none
    else some "this proposal anchors to a role or project that does not exist in the reviewed source"
  /-- A requirement that is not in the case. -/
  requirementProblem (requirementId : String) : Option String :=
    if row.hasRequirement requirementId then none
    else some "this proposal references a requirement that does not exist in this case"

def createCvTailoringProposal (caseId grantId : String) (payload : CvProposalPayload) (minted : Minted) :
    DbTx CvTailoringProposal := do
  let overlay ← getCvEvidenceOverlayById caseId
  let doc ← getCvDocument overlay.cvId minted.mint
  match proposalProblem overlay doc.source payload with
  | some problem => throw (.error problem)
  | none =>
    let row : CvTailoringProposal :=
      { id := minted.id, caseId, grantId := orNull grantId, status := .pending, payload
        caseRevisionAtProposal := overlay.overlay.caseRevision, createdAt := minted.createdAt }
    modify fun db => { db with cvTailoringProposals := db.cvTailoringProposals ++ [row] }
    return row

/-- `listCvTailoringProposals`: the newest come first. -/
def WorkspaceDb.proposalsFor (db : WorkspaceDb) (caseId : String) : List CvTailoringProposal :=
  (db.cvTailoringProposals.reverse.filter fun row => row.caseId = caseId).mergeSort
    fun a b => b.createdAt ≤ a.createdAt

/-! ## Grants that are looked up -/

variable {db db' : WorkspaceDb} {id other : String} {f : McpClientGrant → McpClientGrant}

variable {grant : McpClientGrant}

lemma id_of_grant? (h : db.grant? id = some grant) : grant.id = id:= by
  simpa using List.find?_some h

lemma mem_of_grant? (h : db.grant? id = some grant) : grant ∈ db.mcpClientGrants:=
  List.mem_of_find?_eq_some h

lemma grant?_updateGrant (hf : ∀ grant, (f grant).id = grant.id) :
    (db.updateGrant id f).grant? other =
      (db.grant? other).map fun grant => if other = id then f grant else grant := by
  unfold WorkspaceDb.grant? WorkspaceDb.updateGrant
  induction db.mcpClientGrants with
  | nil => rfl
  | cons grant rest ih =>
    rw [List.map_cons, List.find?_cons, List.find?_cons]
    have hid : (if grant.id = id then f grant else grant).id = grant.id := by
      split
      · exact hf grant
      · rfl
    rw [hid]
    by_cases hother : grant.id = other
    · simp [hother]
    · simp only [hother, decide_false]
      exact ih

lemma map_id_updateGrant (hf : ∀ grant, (f grant).id = grant.id) :
    (db.updateGrant id f).mcpClientGrants.map McpClientGrant.id = db.mcpClientGrants.map McpClientGrant.id := by
  show (db.mcpClientGrants.map _).map McpClientGrant.id = _
  rw [List.map_map]
  refine List.map_congr_left fun grant _ => ?_
  show (if grant.id = id then f grant else grant).id = grant.id
  split
  · exact hf grant
  · rfl

lemma grant?_of_mem (hids : (db.mcpClientGrants.map McpClientGrant.id).Nodup)
    (h : grant ∈ db.mcpClientGrants) : db.grant? grant.id = some grant:= by
  unfold WorkspaceDb.grant?
  cases hfind : db.mcpClientGrants.find? fun other => other.id = grant.id with
  | none => simpa using List.find?_eq_none.mp hfind grant h
  | some other =>
    have hsame : other.id = grant.id := by simpa using List.find?_some hfind
    rw [List.inj_on_of_nodup_map hids (List.mem_of_find?_eq_some hfind) h hsame]

end VacancyRadar.Mcp
