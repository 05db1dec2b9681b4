import VacancyRadar.Mcp.Tools

/-!
# What calls do

A call that goes well writes one entry to the audit trail and is about one case: it adds nothing to the tables
but what belongs to that case.  A call that throws leaves one entry that says that it was denied.
-/

namespace VacancyRadar.Mcp

open Data Cv

structure Effect (grantId toolName caseId : String) (before after : WorkspaceDb) : Prop where
  audited : ∃ revision, after.mcpAuditLogEntries =
    before.mcpAuditLogEntries ++ [⟨orNull grantId, toolName, orNull caseId, .success, revision⟩]
  documents : after.cvDocuments = before.cvDocuments
  overlays : ∃ new, after.cvEvidenceOverlays = before.cvEvidenceOverlays ++ new ∧ ∀ row ∈ new, row.id = caseId
  proposals : ∃ new, after.cvTailoringProposals = before.cvTailoringProposals ++ new ∧
    ∀ row ∈ new, row.caseId = caseId ∧ row.grantId = orNull grantId

variable {p : Platform} {grant : McpClientGrant} {minted : Minted} {db db' : WorkspaceDb} {caseId : String}

/-! ## The parts of a body -/

lemma of_getCvDocument {cvId : String} {mint : ℕ → String} {doc : CvDocumentRecord}
    (h : getCvDocument cvId mint db = .ok (doc, db')) : db = db' := by
  obtain ⟨row, -, h⟩ := Tx.orThrow_bind_eq_ok.mp (Tx.get_bind_eq_ok.mp h)
  exact (Tx.pure_eq_ok.mp h).2

variable {row : CvEvidenceOverlayRow} {grantId revision : String} {payload : CvProposalPayload}
  {u : Unit} {result : ToolResult}

lemma of_getCvEvidenceOverlayById (h : getCvEvidenceOverlayById caseId db = .ok (row, db')) :
    row.id = caseId ∧ db = db' := by
  obtain ⟨stored, hstored, h⟩ := Tx.orThrow_bind_eq_ok.mp (Tx.get_bind_eq_ok.mp h)
  obtain ⟨rfl, rfl⟩ := Tx.pure_eq_ok.mp h
  have hid : stored.id = caseId := by simpa using List.find?_some hstored
  exact ⟨hid, rfl⟩

lemma of_createCvTailoringProposal {row : CvTailoringProposal}
    (h : createCvTailoringProposal caseId grantId payload minted db = .ok (row, db')) :
    row.caseId = caseId ∧ row.grantId = orNull grantId ∧
      { db with cvTailoringProposals := db.cvTailoringProposals ++ [row] } = db' := by
  obtain ⟨overlay, db₁, hoverlay, h⟩ := Tx.bind_eq_ok.mp h
  obtain ⟨-, rfl⟩ := of_getCvEvidenceOverlayById hoverlay
  obtain ⟨doc, db₂, hdoc, h⟩ := Tx.bind_eq_ok.mp h
  obtain rfl := of_getCvDocument hdoc
  cases hproblem : proposalProblem overlay doc.source payload with
  | some problem =>
    rw [hproblem] at h
    exact (Tx.throw_eq_ok.mp h).elim
  | none =>
    rw [hproblem] at h
    obtain ⟨rfl, rfl⟩ := Tx.pure_eq_ok.mp h
    exact ⟨rfl, rfl, rfl⟩

lemma of_createCvEvidenceOverlay {cvId vacancyKey : String} {input : CvEvidenceOverlayInput}
    (h : createCvEvidenceOverlay p cvId vacancyKey input minted db = .ok (row, db')) :
    db.overlayFor cvId vacancyKey = some row ∧ db = db' ∨
      db.overlayFor cvId vacancyKey = none ∧ (∀ old ∈ db.cvEvidenceOverlays, old.id ≠ row.id) ∧
        ∃ new, new.id = row.id ∧ { db with cvEvidenceOverlays := db.cvEvidenceOverlays ++ [new] } = db' := by
  obtain ⟨doc, db₁, hdoc, h⟩ := Tx.bind_eq_ok.mp h
  obtain rfl := of_getCvDocument hdoc
  have h := Tx.get_bind_eq_ok.mp h
  cases hexisting : db.overlayFor cvId vacancyKey with
  | some existing =>
    rw [hexisting] at h
    obtain ⟨rfl, rfl⟩ := Tx.pure_eq_ok.mp h
    exact .inl ⟨rfl, rfl⟩
  | none =>
    rw [hexisting] at h
    obtain ⟨hnone, h⟩ := Tx.require_bind_eq_ok.mp h
    obtain ⟨rfl, rfl⟩ := Tx.pure_eq_ok.mp h
    refine .inr ⟨rfl, fun old hold hid => ?_, _, rfl, rfl⟩
    exact List.find?_eq_none.mp hnone old hold (decide_eq_true hid)

def McpClientGrant.withCase (grant : McpClientGrant) (caseId : String) : McpClientGrant :=
  { grant with caseIds := grant.caseIds ++ [caseId] }

structure Granted (grantId caseId : String) (before after : WorkspaceDb) : Prop where
  ids : after.mcpClientGrants.map McpClientGrant.id = before.mcpClientGrants.map McpClientGrant.id
  lookup : ∃ existing, before.grant? grantId = some existing ∧
    (caseId ∈ existing.caseIds ∧ (∀ id, after.grant? id = before.grant? id) ∨
      caseId ∉ existing.caseIds ∧ ∀ id, after.grant? id =
        if id = grantId then some (existing.withCase caseId) else before.grant? id)

lemma granted_of_appendMcpClientGrantCaseId
    (h : appendMcpClientGrantCaseId grantId caseId db = .ok (u, db')) :
    Granted grantId caseId db db' ∧ db' = { db with mcpClientGrants := db'.mcpClientGrants } := by
  obtain ⟨existing, hgrant, h⟩ := Tx.orThrow_bind_eq_ok.mp (Tx.get_bind_eq_ok.mp h)
  by_cases hmem : caseId ∈ existing.caseIds
  · rw [if_pos hmem] at h
    obtain ⟨-, rfl⟩ := Tx.pure_eq_ok.mp h
    exact ⟨⟨rfl, existing, hgrant, .inl ⟨hmem, fun _ => rfl⟩⟩, rfl⟩
  · rw [if_neg hmem] at h
    obtain rfl := Tx.modify_eq_ok.mp (Tx.require_bind_eq_ok.mp h).2
    have hid : ∀ grant : McpClientGrant,
        ({ grant with caseIds := existing.caseIds ++ [caseId] } : McpClientGrant).id = grant.id := fun _ => rfl
    refine ⟨⟨map_id_updateGrant hid, existing, hgrant, .inr ⟨hmem, fun id => ?_⟩⟩, rfl⟩
    refine (grant?_updateGrant hid).trans ?_
    by_cases hother : id = grantId
    · subst hother
      rw [hgrant, if_pos rfl, Option.map_some, if_pos rfl]
      rfl
    · rw [if_neg hother]
      simp [hother]

/-! ## Bodies -/

lemma of_requireCoverage {α : Type} {f : Unit → DbTx α} {r : α × WorkspaceDb}
    (h : (requireCoverage grant caseId >>= f) db = .ok r) :
    mcpGrantCoversCase grant caseId = true ∧ f () db = .ok r := Tx.require_bind_eq_ok.mp h

lemma nothing_new {α : Type} {l : List α} {P : α → Prop} : ∃ new, l = l ++ new ∧ ∀ row ∈ new, P row :=
  ⟨[], (List.append_nil l).symm, fun _ h => absurd h List.not_mem_nil⟩

lemma Effect.audit {toolName : String} :
    Effect grant.id toolName caseId db (appendMcpAuditLogEntry grant.id toolName caseId .success revision db) where
  audited := ⟨_, rfl⟩
  documents := rfl
  overlays := nothing_new
  proposals := nothing_new

structure Served (grant : McpClientGrant) (toolName caseId : String) (db db' : WorkspaceDb) : Prop
    extends Effect grant.id toolName caseId db db' where
  covered : mcpGrantCoversCase grant caseId = true
  grants : db'.mcpClientGrants = db.mcpClientGrants

lemma served_getTailoringCase {page : ℕ}
    (h : getTailoringCase grant caseId page db = .ok (result, db')) :
    result.caseId = caseId ∧ Served grant "get_tailoring_case" caseId db db' := by
  obtain ⟨hcovers, h⟩ := of_requireCoverage h
  obtain ⟨row, db₁, hrow, h⟩ := Tx.bind_eq_ok.mp h
  obtain ⟨hid, rfl⟩ := of_getCvEvidenceOverlayById hrow
  obtain ⟨rfl, rfl⟩ := Tx.pure_eq_ok.mp h
  exact ⟨hid, { Effect.audit with covered := hcovers, grants := rfl }⟩

lemma served_proposeChange (h : proposeChange grant caseId payload minted db = .ok (result, db')) :
    result.caseId = caseId ∧ Served grant (proposalTool payload) caseId db db' := by
  obtain ⟨hcovers, h⟩ := of_requireCoverage h
  obtain ⟨proposal, db₁, hproposal, h⟩ := Tx.bind_eq_ok.mp h
  obtain ⟨hcase, hgrant, rfl⟩ := of_createCvTailoringProposal hproposal
  obtain ⟨rfl, rfl⟩ := Tx.pure_eq_ok.mp h
  refine ⟨hcase, {
    audited := ⟨_, rfl⟩
    documents := rfl
    overlays := nothing_new
    proposals := ⟨[proposal], rfl, fun row hrow => ?_⟩
    covered := hcovers
    grants := rfl }⟩
  obtain rfl := List.mem_singleton.mp hrow
  exact ⟨hcase, hgrant⟩

lemma served_getTailoringStatus
    (h : getTailoringStatus p grant caseId minted db = .ok (result, db')) :
    result.caseId = caseId ∧ Served grant "get_tailoring_status" caseId db db' := by
  obtain ⟨hcovers, h⟩ := of_requireCoverage h
  obtain ⟨row, db₁, hrow, h⟩ := Tx.bind_eq_ok.mp h
  obtain ⟨hid, rfl⟩ := of_getCvEvidenceOverlayById hrow
  obtain ⟨doc, db₂, hdoc, h⟩ := Tx.bind_eq_ok.mp h
  obtain rfl := of_getCvDocument hdoc
  obtain ⟨rfl, rfl⟩ := Tx.pure_eq_ok.mp h
  exact ⟨hid, { Effect.audit with covered := hcovers, grants := rfl }⟩

lemma served_readApprovedResume (h : readApprovedResume grant caseId db = .ok (result, db')) :
    result.caseId = caseId ∧ Served grant "read_approved_resume" caseId db db' := by
  obtain ⟨-, h⟩ := Tx.require_bind_eq_ok.mp h
  obtain ⟨hcovers, h⟩ := of_requireCoverage h
  obtain ⟨row, db₁, hrow, h⟩ := Tx.bind_eq_ok.mp h
  obtain ⟨hid, rfl⟩ := of_getCvEvidenceOverlayById hrow
  obtain ⟨snapshot, -, h⟩ := Tx.orThrow_bind_eq_ok.mp h
  obtain ⟨-, h⟩ := Tx.require_bind_eq_ok.mp h
  obtain ⟨rfl, rfl⟩ := Tx.pure_eq_ok.mp h
  exact ⟨hid, { Effect.audit with covered := hcovers, grants := rfl }⟩

structure Started (grant : McpClientGrant) (caseId : String) (db db' : WorkspaceDb) : Prop
    extends Effect grant.id "start_tailoring_case" caseId db db', Granted grant.id caseId db db' where
  sourceCv : grant.scopeType = .sourceCv
  own : mcpGrantCoversCase grant caseId = true ∨ ∀ old ∈ db.cvEvidenceOverlays, old.id ≠ caseId

lemma Started.of_append {db₁ db₂ : WorkspaceDb} (hsource : grant.scopeType = .sourceCv)
    (hown : mcpGrantCoversCase grant row.id = true ∨ ∀ old ∈ db.cvEvidenceOverlays, old.id ≠ row.id)
    (hcreated : ∃ new, db₁ = { db with cvEvidenceOverlays := db.cvEvidenceOverlays ++ new } ∧
      ∀ other ∈ new, other.id = row.id)
    (happend : appendMcpClientGrantCaseId grant.id row.id db₁ = .ok (u, db₂)) :
    Started grant row.id db
      (appendMcpAuditLogEntry grant.id "start_tailoring_case" row.id .success revision db₂) := by
  obtain ⟨new, rfl, hnew⟩ := hcreated
  obtain ⟨hgranted, hsame⟩ := granted_of_appendMcpClientGrantCaseId happend
  rw [hsame]
  exact {
    audited := ⟨_, rfl⟩
    documents := rfl
    overlays := ⟨new, rfl, hnew⟩
    proposals := nothing_new
    sourceCv := hsource
    own := hown
    ids := hgranted.ids
    lookup := hgranted.lookup }

lemma started_startTailoringCase {vacancy : Option VacancyArgument}
    {manualJd : Option ManualJdArgument}
    (hkey : db.overlayFor grant.sourceCvId ("manual:" ++ minted.key) = none)
    (h : startTailoringCase p grant vacancy manualJd minted db = .ok (result, db')) :
    Started grant result.caseId db db' := by
  obtain ⟨-, h⟩ := Tx.require_bind_eq_ok.mp h
  obtain ⟨hsource, h⟩ := Tx.require_bind_eq_ok.mp h
  obtain ⟨doc, db₀, hdoc, h⟩ := Tx.bind_eq_ok.mp h
  obtain rfl := of_getCvDocument hdoc
  obtain ⟨source, -, h⟩ := Tx.orThrow_bind_eq_ok.mp h
  have h := Tx.get_bind_eq_ok.mp h
  -- no case is there, or one that the grant covers
  cases hforeign : foreignCase grant (vacancy.map (vacancyKeyFor p.unicode)) db with
  | some existing =>
    rw [hforeign] at h
    exact (Tx.throw_eq_ok.mp h).elim
  | none =>
    rw [hforeign] at h
    obtain ⟨row, db₁, hrow, h⟩ := Tx.bind_eq_ok.mp h
    obtain ⟨u, db₂, happend, h⟩ := Tx.bind_eq_ok.mp h
    obtain ⟨rfl, rfl⟩ := Tx.pure_eq_ok.mp h
    rcases of_createCvEvidenceOverlay hrow with ⟨hthere, rfl⟩ | ⟨-, hnew, new, hid, rfl⟩
    · refine Started.of_append hsource (.inl ?_) ⟨[], ?_, fun _ hmem => absurd hmem List.not_mem_nil⟩ happend
      · cases vacancy with
        | none => exact absurd (hkey.symm.trans hthere) nofun
        | some vacancy =>
          have hcovered := Option.filter_eq_none_iff.mp hforeign row hthere
          simpa using hcovered
      · rw [List.append_nil]
    · refine Started.of_append hsource (.inr hnew) ⟨[new], rfl, fun other hmem => ?_⟩ happend
      rw [List.mem_singleton.mp hmem]
      exact hid

/-! ## Calls -/

lemma of_toolBody {call : ToolCall}
    (hkey : db.overlayFor grant.sourceCvId ("manual:" ++ minted.key) = none)
    (h : toolBody p grant minted call db = .ok (result, db')) :
    Served grant call.toolName result.caseId db db' ∨
      (∃ vacancy manualJd, call = .startTailoringCase vacancy manualJd) ∧ Started grant result.caseId db db' := by
  cases call with
  | startTailoringCase vacancy manualJd =>
    exact .inr ⟨⟨vacancy, manualJd, rfl⟩, started_startTailoringCase hkey h⟩
  | getTailoringCase caseId page =>
    obtain ⟨rfl, hserved⟩ := served_getTailoringCase h
    exact .inl hserved
  | propose caseId payload =>
    obtain ⟨rfl, hserved⟩ := served_proposeChange h
    exact .inl hserved
  | getTailoringStatus caseId =>
    obtain ⟨rfl, hserved⟩ := served_getTailoringStatus h
    exact .inl hserved
  | readApprovedResume caseId =>
    obtain ⟨rfl, hserved⟩ := served_readApprovedResume h
    exact .inl hserved

lemma callTool_cases (p : Platform) (grant : McpClientGrant) (call : ToolCall) (minted : Minted) (db : WorkspaceDb) :
    (∃ result db', callTool p grant call minted db = (.ok result, db') ∧
        toolBody p grant minted call db = .ok (result, db')) ∨
      ∃ thrown caseId, callTool p grant call minted db =
        (.error thrown, appendMcpAuditLogEntry grant.id call.toolName caseId .denied "" db) := by
  unfold callTool Tx.commit
  cases toolBody p grant minted call db with
  | ok r => exact .inl ⟨r.1, r.2, rfl, rfl⟩
  | error thrown => exact .inr ⟨thrown, _, rfl⟩

end VacancyRadar.Mcp
