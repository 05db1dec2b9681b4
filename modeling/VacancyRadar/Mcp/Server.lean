import VacancyRadar.Data.Runs
import VacancyRadar.Mcp.Effects

/-!
# The endpoint

A request is let in with the grant as it stood then.  Its body is read, and it is dispatched, while other
requests come in and grants are created and revoked; its tools run with the grant that was let in.
-/

namespace VacancyRadar.Mcp

open Data Cv

/-! ## The gate -/

structure Headers where
  origin : Option String
  host : Option String
  authorization : Option String

def extractBearerToken (header : Option String) : Option String :=
  header.bind fun value =>
    if "Bearer ".toList.isPrefixOf value.toList then some (String.ofList (value.toList.drop 7)) else none

/-- The host name in a header: up to a bracket that closes it, or to its port. -/
def hostname (value : String) : String :=
  match value.toList with
  | '[' :: rest =>
    String.ofList (if ']' ∈ rest then '[' :: rest.takeWhile (· ≠ ']') ++ [']'] else [])
  | chars => String.ofList (chars.takeWhile (· ≠ ':'))

def hasAllowedHost (header : Option String) : Bool :=
  header.any fun value => value ≠ "" && (hostname value).toLower ∈ ["127.0.0.1", "localhost", "[::1]"]

/-- What the gate answers to a request that it does not let in. -/
structure Refusal where
  status : ℕ
  error : String

def noteDenied (grantId : String) (db : WorkspaceDb) : WorkspaceDb :=
  appendMcpAuditLogEntry grantId "" "" .denied "" db

variable (p : Platform)

def gate (headers : Headers) (now : String) (db : WorkspaceDb) : Except Refusal McpClientGrant × WorkspaceDb :=
  if headers.origin ≠ none then
    (.error ⟨403, "browser-originated requests are not allowed"⟩, noteDenied "" db)
  else if !hasAllowedHost headers.host then
    (.error ⟨403, "unexpected Host header"⟩, noteDenied "" db)
  else
    match ((extractBearerToken headers.authorization).filter fun credential => credential ≠ "").bind
      fun credential => findMcpClientGrantByCredential (p.sha256Hex credential) db with
    | none => (.error ⟨401, "unauthorized"⟩, noteDenied "" db)
    | some grant =>
      let blockers := describeMcpGrantBlockers grant now
      if blockers ≠ [] then (.error ⟨403, String.intercalate "; " blockers⟩, noteDenied grant.id db)
      else (.ok grant, db)

inductive BodyOutcome where
  | parsed
  | tooLarge
  | malformed

def BodyOutcome.refusal : BodyOutcome → Option Refusal
  | parsed => none
  | tooLarge => some ⟨413, "request body too large"⟩
  | malformed => some ⟨400, "malformed JSON body"⟩

/-! ## The system -/

structure InFlight where
  grant : McpClientGrant
  dispatching : Bool

structure CallRecord where
  grantId : String
  call : ToolCall
  before : WorkspaceDb
  result : Except Thrown ToolResult
  after : WorkspaceDb

/-- The endpoint.  The calls, and the cases that each grant started, are noted for the proofs. -/
structure World where
  db : WorkspaceDb
  inFlight : List InFlight
  calls : List CallRecord
  started : List (String × String)

/-- Nothing was done yet. -/
def World.start : World := ⟨⟨[], [], [], [], []⟩, [], [], []⟩

inductive Move where
  | request (headers : Headers) (isPost : Bool) (now : String)
  | body (place : ℕ) (outcome : BodyOutcome)
  | callTool (place : ℕ) (call : ToolCall) (minted : Minted)
  | respond (place : ℕ)
  | createGrant (input : McpClientGrantInput) (id credentialVerifierHash now : String)
  | revokeGrant (id now : String)
  | work (cvDocuments : List (String × CvDocument)) (cvEvidenceOverlays : List CvEvidenceOverlayRow)
      (cvTailoringProposals : List CvTailoringProposal)

def startedCase (record : CallRecord) : Option (String × String) :=
  match record.call, record.result with
  | .startTailoringCase .., .ok result =>
    if record.before.cvEvidenceOverlays.any fun row => row.id = result.caseId then none
    else some (record.grantId, result.caseId)
  | _, _ => none

def World.called (w : World) (record : CallRecord) : World :=
  { w with
    db := record.after
    calls := w.calls ++ [record]
    started := w.started ++ (startedCase record).toList }

/-- The key that is made for a case without a vacancy is a new one. -/
def Minted.Fresh (minted : Minted) (db : WorkspaceDb) : Prop :=
  ∀ row ∈ db.cvEvidenceOverlays, row.vacancyKey ≠ "manual:" ++ minted.key

instance (minted : Minted) (db : WorkspaceDb) : Decidable (minted.Fresh db) :=
  inferInstanceAs (Decidable (∀ row ∈ db.cvEvidenceOverlays, _))

def step (w : World) : Move → Option World
  | .request headers isPost now =>
    match gate p headers now w.db with
    | (.error _, db) => some { w with db }
    | (.ok grant, db) => some { w with db, inFlight := w.inFlight ++ [⟨grant, !isPost⟩] }
  | .body place outcome => do
    let request ← w.inFlight[place]?
    if request.dispatching then none
    else
      match outcome.refusal with
      | none => some { w with inFlight := w.inFlight.set place { request with dispatching := true } }
      | some _ => some { w with db := noteDenied request.grant.id w.db, inFlight := w.inFlight.eraseIdx place }
  | .callTool place call minted => do
    let request ← w.inFlight[place]?
    if request.dispatching ∧ minted.Fresh w.db then
      let answer := callTool p request.grant call minted w.db
      some (w.called ⟨request.grant.id, call, w.db, answer.1, answer.2⟩)
    else none
  | .respond place => do
    let request ← w.inFlight[place]?
    if request.dispatching then some { w with inFlight := w.inFlight.eraseIdx place } else none
  | .createGrant input id credentialVerifierHash now =>
    match createMcpClientGrant input id credentialVerifierHash now w.db with
    | .ok db => some { w with db }
    | .error _ => some w
  | .revokeGrant id now =>
    match revokeMcpClientGrant id now w.db with
    | .ok db => some { w with db }
    | .error _ => some w
  | .work cvDocuments cvEvidenceOverlays cvTailoringProposals =>
    some { w with db := { w.db with cvDocuments, cvEvidenceOverlays, cvTailoringProposals } }

end VacancyRadar.Mcp
