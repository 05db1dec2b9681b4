import VacancyRadar.Coop.Uses

/-!
# Admission to a workspace

`SessionManager` and `WorkspaceTrustStore` with the routes that share them: a session is created in
a workspace that is trusted, a grant makes a workspace trusted, and a revocation takes the trust
back.  Every request waits many times between the decision it takes and the effect it has.  The
blocked workspaces and a counter for each workspace, the epoch, tell it whether the decision still
stands.
-/

namespace VacancyRadar.Daemon.Admission

open Coop Prog

/-! ## Data -/

inductive ProviderId where
  | claude
  | codex
deriving DecidableEq

/-- `WorkspaceTrustState`. -/
inductive TrustState where
  | trusted
  | untrusted
  | revoking
deriving DecidableEq

/-- `WorkspaceIdentity`, without what only the answers show. -/
structure WorkspaceIdentity where
  workspaceId : String
  incarnation : String
  canonicalPath : String
  reusable : Bool
deriving DecidableEq

/-- `WorkspaceTrustRecord` of a workspace, without the time of its last change. -/
structure TrustRecord where
  incarnation : String
  state : TrustState
  provider : ProviderId

inductive AuditEvent where
  | grantConsumed
  | grantDenied
  | trustGranted
  | trustRevocationStarted
  | trustRevoked
  | sessionWorkspaceAllowed
  | sessionWorkspaceDenied
deriving DecidableEq

inductive AuditReason where
  | trustRevoked
  | identityDrift
  | notTrusted
deriving DecidableEq

inductive AuditActor where
  | user
  | policy
deriving DecidableEq

/-- An entry of the audit log.  The transport is always the same. -/
structure AuditEntry where
  event : AuditEvent
  workspaceId : String
  incarnation : String
  provider : ProviderId
  sessionId : Option ℕ := none
  reason : Option AuditReason := none
  actor : AuditActor
deriving DecidableEq

inductive DaemonError where
  | uncWorkspacePath
  | invalidWorkspacePath (message : String)
  | nonReusableWorkspace
  | revokedWorkspace (workspaceId : String)
  | staleWorkspaceGrant (workspaceId : String)
  | activeSessionLimit
  | storageFull
  | leaseConflict
  | auditCapacity
  | auditUnavailable
  | other (message : String)
deriving DecidableEq

inductive Answer where
  /-- The view of a workspace that is trusted now. -/
  | trusted (workspaceId incarnation : String) (dirty : Bool)
  | revoked (workspaceId : String) (state : TrustState) (cancelledSessions : ℕ)
  | created (sessionId : ℕ)
  | refused (status : ℕ) (code : String)
deriving DecidableEq

structure Refusal where
  status : ℕ
  code : String
  reason : Option AuditReason := none

namespace Refusal

def workspaceRevoked : Refusal := ⟨403, "workspace_revoked", some .trustRevoked⟩

def workspaceGrantStale : Refusal := ⟨409, "workspace_grant_stale", some .notTrusted⟩

def workspaceIdentityDrift : Refusal := ⟨409, "workspace_identity_drift", some .identityDrift⟩

def workspaceNotReusable : Refusal := ⟨409, "workspace_not_reusable", some .notTrusted⟩

def workspaceNotTrusted : Refusal := ⟨403, "workspace_not_trusted", some .notTrusted⟩

def resumeNotSupported : Refusal := ⟨400, "resume_not_supported", none⟩

def unknownResumeTarget : Refusal := ⟨409, "unknown_resume_target", none⟩

def resumeCannotOverrideModel : Refusal := ⟨400, "resume_cannot_override_model", none⟩

def invalidCapabilityRequest : Refusal := ⟨400, "invalid_capability_request", none⟩

def activeSessionLimit : Refusal := ⟨409, "active_session_limit", none⟩

def storageFull : Refusal := ⟨507, "storage_full", none⟩

def workspaceLeaseConflict : Refusal := ⟨409, "workspace_lease_conflict", none⟩

end Refusal

inductive AuditFailure where
  | auditLogFull
  | auditUnavailable
  | auditWriteFailed

namespace AuditFailure

def refusal : AuditFailure → Refusal
  | auditLogFull => ⟨507, "audit_log_full", none⟩
  | auditUnavailable => ⟨503, "audit_unavailable", none⟩
  | auditWriteFailed => ⟨500, "audit_write_failed", none⟩

def ofError : DaemonError → AuditFailure
  | .auditCapacity => auditLogFull
  | .auditUnavailable => auditUnavailable
  | _ => auditWriteFailed

end AuditFailure

/-! ## Capabilities -/

structure Capability where
  id : String
  model : Option String

def modelSelectCapabilityId : String := "ext.open_vacancy_radar.model_select"

inductive UnavailableReason where
  | unsupportedCapability
  | unknownModel
  | noCatalog

/-- `CapabilitySelectionV2`. -/
structure Selection where
  enabled : List Capability := []
  unavailableOptional : List (String × UnavailableReason) := []

inductive CapabilityOutcome where
  | enabled (entry : Capability) (model : String)
  | unavailable (id : String) (reason : UnavailableReason)
  | invalid

/-- `resolveCapability`, with `resolveModelSelection` inside. -/
def resolveCapability (extension : Capability) (catalog : Option (List String)) :
    CapabilityOutcome :=
  if extension.id ≠ modelSelectCapabilityId then
    .unavailable extension.id .unsupportedCapability
  else
    match extension.model with
    | none => .invalid
    | some model =>
      let reviewed := (catalog.getD []).filter fun entry => entry ≠ ""
      if reviewed = [] then .unavailable extension.id .noCatalog
      else if model ∈ reviewed then .enabled extension model
      else .unavailable extension.id .unknownModel

def resolveCapabilities (catalog : Option (List String)) :
    List Capability → Option (Selection × Option String)
  | capabilities => go capabilities ({}, none)
where
  go : List Capability → Selection × Option String → Option (Selection × Option String)
    | [], found => some found
    | extension :: rest, (selection, model) =>
      match resolveCapability extension catalog with
      | .invalid => none
      | .unavailable id reason =>
        go rest ({ selection with
          unavailableOptional := selection.unavailableOptional ++ [(id, reason)] }, model)
      | .enabled entry model =>
        go rest ({ selection with enabled := selection.enabled ++ [entry] }, some model)

/-! ## Requests -/

/-- The body of `POST /v2/workspaces/consume-grant`. -/
structure GrantRequest where
  path : String
  provider : ProviderId
  workspaceId : String
  incarnation : String
  sessionId : Option ℕ := none

/-- The body of `POST /v2/sessions`. -/
structure SessionRequest where
  provider : ProviderId
  cwd : String
  workspaceId : String
  incarnation : String
  prompt : String
  resumeProviderSessionId : Option String := none
  capabilities : Option (List Capability) := none
  /-- The paths of the attachments. -/
  attachments : List String := []

structure ResumeParent where
  selection : Option Selection
  model : Option String

structure Detection where
  resume : Bool := true
  availableModels : Option (List String) := none
  attachmentFailure : Option Refusal := none
  parent : Option ResumeParent := none

/-- The states a revocation can ask for. -/
inductive Lowered where
  | untrusted
  | revoking
deriving DecidableEq

/-! ## The trust store -/

abbrev Records : Type := String → Option TrustRecord

inductive TrustChange where
  | setTrusted (identity : WorkspaceIdentity) (provider : ProviderId)
  | beginRevocation (workspaceId : String)
  | setUntrusted (workspaceId : String)
deriving DecidableEq

namespace TrustChange

def workspaceId : TrustChange → String
  | setTrusted identity _ => identity.workspaceId
  | beginRevocation workspaceId => workspaceId
  | setUntrusted workspaceId => workspaceId

def record : TrustChange → Option TrustRecord → Option TrustRecord
  | setTrusted identity provider, _ => some ⟨identity.incarnation, .trusted, provider⟩
  | beginRevocation _, old => old.map fun r => { r with state := .revoking }
  | setUntrusted _, old => old.map fun r => { r with state := .untrusted }

def apply (change : TrustChange) (records : Records) : Records :=
  Function.update records change.workspaceId (change.record (records change.workspaceId))

end TrustChange

def loadRecords (file : Records) : Records := fun w =>
  (file w).map fun r => if r.state = .revoking then { r with state := .untrusted } else r

/-! ## The session manager -/

structure LiveSession where
  id : ℕ
  workspaceId : Option String
  model : Option String
  selection : Option Selection
  cancelled : Bool := false

inductive Happened where
  | blocked (workspaceId : String)
  | allowed (workspaceId : String)
  | created (sessionId : ℕ) (workspaceId : String)
deriving DecidableEq

def Happened.Opens (w : String) : Happened → Prop
  | blocked _ => False
  | allowed v => v = w
  | created _ v => v = w

structure State where
  blockedWorkspaces : String → Bool
  workspaceRevocationEpochs : String → ℕ
  sessionsByWorkspace : String → List ℕ
  workspaceBySession : ℕ → Option String
  /-- The reservations of `ActiveSessionLimiter`. -/
  held : List (ℕ × ProviderId)
  /-- The sessions whose `consume` is running. -/
  live : List LiveSession
  /-- What the next `randomUUID` returns. -/
  nextSession : ℕ
  /-- The records of the trust store, in memory and on disk. -/
  records : Records
  file : Records
  /-- The answers given so far, in order. -/
  answers : List Answer
  /-- What happened to the workspaces since the start of the daemon, in order. -/
  history : List Happened

namespace State

/-- The daemon right after its start on a trust file. -/
def start (file : Records) : State where
  blockedWorkspaces _ := false
  workspaceRevocationEpochs _ := 0
  sessionsByWorkspace _ := []
  workspaceBySession _ := none
  held := []
  live := []
  nextSession := 0
  records := loadRecords file
  file := file
  answers := []
  history := []

def restart (s : State) : State :=
  { start s.file with nextSession := s.nextSession, answers := s.answers }

def bumpWorkspaceEpoch (s : State) (w : String) : State :=
  { s with workspaceRevocationEpochs :=
      Function.update s.workspaceRevocationEpochs w (s.workspaceRevocationEpochs w + 1) }

def blockWorkspace (s : State) (w : String) : State :=
  { s.bumpWorkspaceEpoch w with
    blockedWorkspaces := Function.update s.blockedWorkspaces w true
    history := s.history ++ [.blocked w] }

def allowWorkspace (s : State) (w : String) : State :=
  { s.bumpWorkspaceEpoch w with
    blockedWorkspaces := Function.update s.blockedWorkspaces w false
    history := s.history ++ [.allowed w] }

def indexWorkspaceSession (s : State) (w : String) (id : ℕ) : State :=
  { s with
    sessionsByWorkspace :=
      Function.update s.sessionsByWorkspace w (s.sessionsByWorkspace w ++ [id])
    workspaceBySession := Function.update s.workspaceBySession id (some w) }

def unindexWorkspaceSession (s : State) (id : ℕ) : State :=
  match s.workspaceBySession id with
  | none => s
  | some w =>
    { s with
      workspaceBySession := Function.update s.workspaceBySession id none
      sessionsByWorkspace :=
        Function.update s.sessionsByWorkspace w ((s.sessionsByWorkspace w).filter (· != id)) }

end State

inductive Launch where
  /-- The session store has no room for another record. -/
  | storageFull
  /-- The record cannot be written. -/
  | recordFails (message : String)
  /-- The provider does not start. -/
  | startFails (message : String)
  | starts

/-- What the daemon does not decide: the registered providers, and what each start of a session
meets. -/
structure World where
  registered : ProviderId → Bool
  launch : ℕ → Launch

def reserve (held : List (ℕ × ProviderId)) (provider : ProviderId) (id : ℕ) :
    Except DaemonError (List (ℕ × ProviderId)) :=
  if held.any fun h => h.1 = id then
    .error (.other "session already holds an active-session reservation")
  else if 4 ≤ held.length then .error .activeSessionLimit
  else if 2 ≤ (held.filter fun h => h.2 = provider).length then .error .activeSessionLimit
  else .ok (held ++ [(id, provider)])

/-- What `create` is called with.  The lease is the one that the route acquired for the session. -/
structure CreateInput where
  provider : ProviderId
  sessionId : ℕ
  workspaceId : Option String
  model : Option String := none
  selection : Option Selection := none
  expectedWorkspaceEpoch : Option ℕ

/-- The refusals of `create` before the reservation. -/
def admissionError (world : World) (s : State) (input : CreateInput) : Option DaemonError :=
  if world.registered input.provider = false then some (.other "no provider registered")
  else
    match input.workspaceId with
    | none => none
    | some w =>
      if s.blockedWorkspaces w then some (.revokedWorkspace w)
      else if input.expectedWorkspaceEpoch.any (· != s.workspaceRevocationEpochs w) then
        some (.staleWorkspaceGrant w)
      else none

def State.addSession (s : State) (input : CreateInput) : State :=
  let session : LiveSession :=
    { id := input.sessionId, workspaceId := input.workspaceId, model := input.model
      selection := input.selection }
  let started := { s with live := s.live ++ [session] }
  match input.workspaceId with
  | none => started
  | some w =>
    { started.indexWorkspaceSession w input.sessionId with
      history := s.history ++ [.created input.sessionId w] }

def create (world : World) (s : State) (input : CreateInput) : State × Except DaemonError Unit :=
  match admissionError world s input with
  | some e => (s, .error e)
  | none =>
    match reserve s.held input.provider input.sessionId with
    | .error e => (s, .error e)
    | .ok held =>
      match world.launch input.sessionId with
      | .storageFull => (s, .error .storageFull)
      | .recordFails message => (s, .error (.other message))
      | .startFails message => (s, .error (.other message))
      | .starts => ({ s with held }.addSession input, .ok ())

/-- The end of `consume`: the reservation and the entry in the index go. -/
def State.finishSession (s : State) (id : ℕ) : State :=
  if s.live.any fun session => session.id = id then
    { s with
      held := s.held.filter fun h => h.1 != id
      live := s.live.filter fun session => session.id != id }.unindexWorkspaceSession id
  else s

/-- `cancelRuntime` for one session: the provider is told to stop. -/
def State.cancelSession (s : State) (id : ℕ) : State :=
  { s with live := s.live.map fun session =>
      if session.id = id then { session with cancelled := true } else session }

/-! ## Programs -/

/-- Everything the requests do without waiting. -/
inductive Op where
  | isWorkspaceBlocked (workspaceId : String)
  | workspaceEpoch (workspaceId : String)
  | blockWorkspace (workspaceId : String)
  | allowWorkspace (workspaceId : String)
  | sessionsInWorkspace (workspaceId : String)
  | cancelSession (id : ℕ)
  | randomId
  | registered (provider : ProviderId)
  | create (input : CreateInput)
  | finishSession (id : ℕ)
  | inspect (workspaceId : String)
  | change (change : TrustChange)
  | persist
  | answer (a : Answer)

abbrev Op.Res : Op → Type
  | isWorkspaceBlocked _ | registered _ => Bool
  | workspaceEpoch _ | randomId => ℕ
  | sessionsInWorkspace _ => List ℕ
  | inspect _ => Option TrustRecord
  | blockWorkspace _ | allowWorkspace _ | cancelSession _ | create _ | finishSession _ | change _
  | persist | answer _ => Unit

/-- What the requests wait for.  A grant that has been decided on waits together with the epoch of
its decision. -/
inductive Port where
  | resolveIdentity (path : String)
  | revalidate (identity : WorkspaceIdentity)
  | audit (entry : AuditEntry) (decided : Option ℕ)
  /-- The way back from `writeAudit` to the caller, with its answer. -/
  | audited (entry : AuditEntry) (decided : Option ℕ) (written : Bool)
  /-- The turn of a change in the write queue of the trust store.  The reply says whether the file
  can be written. -/
  | writeQueue (change : TrustChange) (decided : Option ℕ)
  /-- The way back from the trust store to the caller. -/
  | settled (change : TrustChange) (decided : Option ℕ)
  | inspected (workspaceId : String)
  | checked (workspaceId : String)
  | catalog
  | detect (provider : ProviderId)
  | fetchModelCatalog (canonicalPath : String)
  | lease (workspaceId : String) (sessionId : ℕ)
  | cancelled (sessionIds : List ℕ)
  | isDirty (identity : WorkspaceIdentity)
deriving DecidableEq

abbrev Port.Rep : Port → Type
  | resolveIdentity _ => WorkspaceIdentity
  | revalidate _ | writeQueue _ _ | isDirty _ => Bool
  | detect _ => Detection
  | fetchModelCatalog _ => List String
  | audit _ _ | audited _ _ _ | settled _ _ | inspected _ | checked _ | catalog | lease _ _
  | cancelled _ => Unit

abbrev sig : Sig where
  Op := Op
  Res := Op.Res
  Port := Port
  Rep := Port.Rep
  Err := DaemonError

instance : DecidableEq sig.Port := inferInstanceAs (DecidableEq Port)

abbrev Run (α : Type) : Type := Prog sig α

/-- The meaning of the operations. -/
def Op.run (world : World) : Exec sig State := fun o s =>
  match o with
  | .isWorkspaceBlocked w => (s, .ok (s.blockedWorkspaces w))
  | .workspaceEpoch w => (s, .ok (s.workspaceRevocationEpochs w))
  | .blockWorkspace w => (s.blockWorkspace w, .ok ())
  | .allowWorkspace w => (s.allowWorkspace w, .ok ())
  | .sessionsInWorkspace w => (s, .ok (s.sessionsByWorkspace w))
  | .cancelSession id => (s.cancelSession id, .ok ())
  | .randomId => ({ s with nextSession := s.nextSession + 1 }, .ok s.nextSession)
  | .registered provider => (s, .ok (world.registered provider))
  | .create input => Admission.create world s input
  | .finishSession id => (s.finishSession id, .ok ())
  | .inspect w => (s, .ok (s.records w))
  | .change edit => ({ s with records := edit.apply s.records }, .ok ())
  | .persist => ({ s with file := s.records }, .ok ())
  | .answer a => ({ s with answers := s.answers ++ [a] }, .ok ())

/-- Execute an operation. -/
def op (o : Op) : Run o.Res := exec (S := sig) o

def awaits (p : Port) : Run p.Rep := wait (S := sig) p

def refuse (refusal : Refusal) : Run Unit := op (.answer (.refused refusal.status refusal.code))

def appendAudit (entry : AuditEntry) (decided : Option ℕ := none) : Run (Option AuditFailure) := do
  match ← (awaits (.audit entry decided)).attempt with
  | .ok _ => pure none
  | .error e => pure (some (.ofError e))

def writeAudit (entry : AuditEntry) (decided : Option ℕ := none) : Run Bool := do
  match ← appendAudit entry decided with
  | none => do
    awaits (.audited entry decided true)
    pure true
  | some failure => do
    refuse failure.refusal
    awaits (.audited entry decided false)
    pure false

def replyForIdentityError : DaemonError → Run Unit
  | .uncWorkspacePath => refuse ⟨400, "unc_workspace_unsupported", none⟩
  | .invalidWorkspacePath _ => refuse ⟨400, "invalid_workspace_path", none⟩
  | e => throw e

def mutate (change : TrustChange) (decided : Option ℕ) : Run Unit := do
  let writable ← awaits (.writeQueue change decided)
  op (.change change)
  if writable then
    op .persist
  else
    throw (DaemonError.other "the trust file could not be written")

/-- `setTrusted`, `beginRevocation` and `setUntrusted`, as their callers await them. -/
def setTrust (change : TrustChange) (decided : Option ℕ := none) : Run Unit :=
  call (S := sig) (.settled change decided) <|
    match change with
    | .setTrusted identity _ =>
      if identity.reusable then mutate change decided
      else throw DaemonError.nonReusableWorkspace
    | _ => mutate change decided

inductive Changed where
  | blocked
  | epochMoved

/-- `changedSince` of the one route and `changedSinceDecision` of the other. -/
def changedSince (w : String) (expectedEpoch : ℕ) : Run (Option Changed) := do
  let blocked ← op (.isWorkspaceBlocked w)
  if blocked then pure (some .blocked)
  else
    let epoch ← op (.workspaceEpoch w)
    if epoch ≠ expectedEpoch then pure (some .epochMoved)
    else pure none

def Changed.refusal : Changed → Refusal
  | blocked => .workspaceRevoked
  | epochMoved => .workspaceGrantStale

/-! ### Grants -/

def GrantRequest.entry (request : GrantRequest) (identity : WorkspaceIdentity)
    (event : AuditEvent) (actor : AuditActor) (reason : Option AuditReason := none) :
    AuditEntry where
  event := event
  workspaceId := identity.workspaceId
  incarnation := identity.incarnation
  provider := request.provider
  sessionId := request.sessionId
  reason := reason
  actor := actor

/-- A refusal that is filed before it is answered; `denyMidFlight` is one. -/
def denyGrant (request : GrantRequest) (identity : WorkspaceIdentity) (refusal : Refusal) :
    Run Unit := do
  let audited ← writeAudit (request.entry identity .grantDenied .policy refusal.reason)
  if audited then refuse refusal
  else pure ()

def rollBack (w : String) : Run Unit := do
  op (.blockWorkspace w)
  let _ ← (setTrust (.setUntrusted w)).attempt
  pure ()

def openWorkspace (request : GrantRequest) (identity : WorkspaceIdentity) (epochAtDecision : ℕ) :
    Run Unit := do
  let afterPersist ← changedSince identity.workspaceId epochAtDecision
  match afterPersist with
  | some changed => do
    rollBack identity.workspaceId
    denyGrant request identity changed.refusal
  | none => do
    op (.allowWorkspace identity.workspaceId)
    let dirty ← awaits (.isDirty identity)
    op (.answer (.trusted identity.workspaceId identity.incarnation dirty))

def persistGrant (request : GrantRequest) (identity : WorkspaceIdentity) (epochAtDecision : ℕ) :
    Run Unit := do
  let beforePersist ← changedSince identity.workspaceId epochAtDecision
  match beforePersist with
  | some changed => denyGrant request identity changed.refusal
  | none => do
    let written ← (setTrust (.setTrusted identity request.provider) (some epochAtDecision)).attempt
    match written with
    | .ok _ => openWorkspace request identity epochAtDecision
    | .error .nonReusableWorkspace => refuse .workspaceNotReusable
    | .error _ => do
      rollBack identity.workspaceId
      refuse ⟨500, "trust_write_failed", none⟩

def decideGrant (request : GrantRequest) (identity : WorkspaceIdentity) : Run Unit := do
  let blocked ← op (.isWorkspaceBlocked identity.workspaceId)
  let epochAtDecision ← op (.workspaceEpoch identity.workspaceId)
  if identity.workspaceId ≠ request.workspaceId ∨ identity.incarnation ≠ request.incarnation then
    denyGrant request identity .workspaceIdentityDrift
  else if identity.reusable = false then
    denyGrant request identity .workspaceNotReusable
  else if blocked then
    denyGrant request identity .workspaceRevoked
  else do
    let consumed ← writeAudit (request.entry identity .grantConsumed .user) (some epochAtDecision)
    if consumed then do
      let granted ← writeAudit (request.entry identity .trustGranted .user) (some epochAtDecision)
      if granted then persistGrant request identity epochAtDecision
      else pure ()
    else pure ()

/-- `POST /v2/workspaces/consume-grant`. -/
def consumeGrant (request : GrantRequest) : Run Unit := do
  match ← (awaits (.resolveIdentity request.path)).attempt with
  | .error e => replyForIdentityError e
  | .ok identity => decideGrant request identity

/-! ### Revocations -/

def Lowered.change (state : Lowered) (w : String) : TrustChange :=
  match state with
  | .revoking => .beginRevocation w
  | .untrusted => .setUntrusted w

def Lowered.trustState : Lowered → TrustState
  | revoking => .revoking
  | untrusted => .untrusted

/-- The part of `revokeWorkspace` that does not wait: the workspace is blocked, and every session in
its index is told to stop. -/
def revokeWorkspace (w : String) : Run (List ℕ) := do
  op (.blockWorkspace w)
  let sessionIds ← op (.sessionsInWorkspace w)
  forEach sessionIds fun id => op (.cancelSession id)
  pure sessionIds

def auditRevoked (w : String) (record : TrustRecord) (state : Lowered) : Run Bool :=
  if state = .untrusted then
    writeAudit
      { event := .trustRevoked, workspaceId := w, incarnation := record.incarnation
        provider := record.provider, actor := .user }
  else pure true

/-- `PUT /v2/workspaces/:workspaceId/trust`.  The trust store and the sessions' ends are awaited
together; a failure of either is only logged. -/
def updateTrust (w : String) (state : Lowered) : Run Unit := do
  let existing ← op (.inspect w)
  match existing with
  | none => refuse ⟨404, "workspace_not_found", none⟩
  | some record => do
    op (.blockWorkspace w)
    let startFailure ← appendAudit
      { event := .trustRevocationStarted, workspaceId := w, incarnation := record.incarnation
        provider := record.provider, actor := .user }
    let sessionIds ← revokeWorkspace w
    let _ ← (setTrust (state.change w)).attempt
    let _ ← (awaits (.cancelled sessionIds)).attempt
    match startFailure with
    | some failure => refuse failure.refusal
    | none => do
      let audited ← auditRevoked w record state
      if audited then op (.answer (.revoked w state.trustState sessionIds.length))
      else pure ()

/-! ### Sessions -/

/-- `deny`: the refusal stands even if it cannot be filed. -/
def deny (request : SessionRequest) (w incarnation : String) (refusal : Refusal)
    (sessionId : Option ℕ := none) : Run Unit := do
  let _ ← appendAudit
    { event := .sessionWorkspaceDenied, workspaceId := w, incarnation
      provider := request.provider, sessionId, reason := refusal.reason, actor := .policy }
  refuse refusal

def workspaceIsTrusted (identity : WorkspaceIdentity) (expectedEpoch : ℕ) : Run Bool := do
  let changed ← changedSince identity.workspaceId expectedEpoch
  if changed.isSome then pure false
  else do
    let same ← awaits (.revalidate identity)
    let epochAfterRevalidation ← op (.workspaceEpoch identity.workspaceId)
    if epochAfterRevalidation ≠ expectedEpoch ∨ same = false then pure false
    else do
      let inspection ← op (.inspect identity.workspaceId)
      awaits (.inspected identity.workspaceId)
      let changed ← changedSince identity.workspaceId expectedEpoch
      pure (changed.isNone &&
        inspection.any fun r => r.state = .trusted && r.incarnation = identity.incarnation)

/-- `liveOrStaticModelCatalog`. -/
def modelCatalog (request : SessionRequest) (canonicalPath : String)
    (availableModels : Option (List String)) : Run (Option (List String)) := do
  if request.provider ≠ .codex ∨ request.capabilities.getD [] = [] then pure availableModels
  else do
    match ← (awaits (.fetchModelCatalog canonicalPath)).attempt with
    | .ok models => pure (some models)
    | .error _ => pure availableModels

structure Negotiated where
  selection : Option Selection
  model : Option String

def resumed (request : SessionRequest) (status : Detection) : Except Refusal Negotiated :=
  if status.resume = false then .error .resumeNotSupported
  else if (request.capabilities.getD []).any fun entry => entry.id = modelSelectCapabilityId then
    .error .resumeCannotOverrideModel
  else
    match status.parent with
    | none => .error .unknownResumeTarget
    | some parent => .ok ⟨parent.selection, parent.model⟩

def fresh (request : SessionRequest) (catalog : Option (List String)) :
    Except Refusal Negotiated :=
  match resolveCapabilities catalog (request.capabilities.getD []) with
  | none => .error .invalidCapabilityRequest
  | some (selection, model) => .ok ⟨request.capabilities.map fun _ => selection, model⟩

def startSession (request : SessionRequest) (identity : WorkspaceIdentity) (epochAtDecision : ℕ)
    (negotiated : Negotiated) : Run Unit := do
  let sessionId ← op .randomId
  let allowed ← writeAudit
    { event := .sessionWorkspaceAllowed, workspaceId := identity.workspaceId
      incarnation := identity.incarnation, provider := request.provider
      sessionId := some sessionId, actor := .policy }
  if allowed then do
    let beforeLease ← changedSince identity.workspaceId epochAtDecision
    match beforeLease with
    | some changed =>
      deny request identity.workspaceId identity.incarnation changed.refusal (some sessionId)
    | none => do
      let lease ← (awaits (.lease identity.workspaceId sessionId)).attempt
      match lease with
      | .error .leaseConflict =>
        deny request identity.workspaceId identity.incarnation .workspaceLeaseConflict
          (some sessionId)
      | .error e => throw e
      | .ok _ => do
        let created ← (op (.create
          { provider := request.provider, sessionId, workspaceId := some identity.workspaceId
            model := negotiated.model, selection := negotiated.selection
            expectedWorkspaceEpoch := some epochAtDecision })).attempt
        match created with
        | .ok _ => op (.answer (.created sessionId))
        | .error e =>
          match e with
          | .revokedWorkspace _ =>
            deny request identity.workspaceId identity.incarnation .workspaceRevoked
              (some sessionId)
          | .staleWorkspaceGrant _ =>
            deny request identity.workspaceId identity.incarnation .workspaceGrantStale
              (some sessionId)
          | .activeSessionLimit =>
            deny request identity.workspaceId identity.incarnation .activeSessionLimit
              (some sessionId)
          | .storageFull =>
            deny request identity.workspaceId identity.incarnation .storageFull (some sessionId)
          | e => throw e
  else pure ()

def negotiate (request : SessionRequest) (identity : WorkspaceIdentity) :
    Run (Except Refusal Negotiated) := do
  let status ← awaits (.detect request.provider)
  match if request.attachments = [] then none else status.attachmentFailure with
  | some refusal => pure (.error refusal)
  | none =>
    if request.resumeProviderSessionId.isSome then
      pure (resumed request status)
    else do
      let catalog ← call (S := sig) .catalog
        (modelCatalog request identity.canonicalPath status.availableModels)
      pure (fresh request catalog)

def admitSession (request : SessionRequest) (identity : WorkspaceIdentity) (epochAtDecision : ℕ) :
    Run Unit := do
  if identity.workspaceId ≠ request.workspaceId ∨ identity.incarnation ≠ request.incarnation then
    deny request identity.workspaceId identity.incarnation .workspaceIdentityDrift
  else if identity.reusable = false then
    deny request identity.workspaceId identity.incarnation .workspaceNotReusable
  else do
    let trusted ← call (S := sig) (.checked identity.workspaceId)
      (workspaceIsTrusted identity epochAtDecision)
    if trusted then do
      match ← negotiate request identity with
      | .error refusal => deny request identity.workspaceId identity.incarnation refusal
      | .ok negotiated => startSession request identity epochAtDecision negotiated
    else deny request identity.workspaceId identity.incarnation .workspaceNotTrusted

/-- `POST /v2/sessions`. -/
def createSession (request : SessionRequest) : Run Unit := do
  let known ← op (.registered request.provider)
  if known = false then refuse ⟨400, "unsupported_provider", none⟩
  else do
    let blocked ← op (.isWorkspaceBlocked request.workspaceId)
    if blocked then deny request request.workspaceId request.incarnation .workspaceRevoked
    else do
      let epochAtDecision ← op (.workspaceEpoch request.workspaceId)
      match ← (awaits (.resolveIdentity request.cwd)).attempt with
      | .error e => replyForIdentityError e
      | .ok identity => admitSession request identity epochAtDecision

/-! ## The daemon -/

inductive Call where
  | createSession (request : SessionRequest)
  | consumeGrant (request : GrantRequest)
  | updateTrust (workspaceId : String) (state : Lowered)
  | streamEnds (sessionId : ℕ)

def Call.body : Call → Run Unit
  | createSession request => Admission.createSession request
  | consumeGrant request => Admission.consumeGrant request
  | updateTrust w state => Admission.updateTrust w state
  | streamEnds id => op (.finishSession id)

def daemon (world : World) : System sig State Call where
  ex := Op.run world
  body := Call.body
  restart := State.restart

/-- The daemon after its start, before any request. -/
def started (file : Records) : Cfg sig State := ⟨.start file, []⟩

/-! ## A small instance -/

def sampleWorld : World where
  registered _ := true
  launch _ := .starts

def sampleIdentity : WorkspaceIdentity where
  workspaceId := "w"
  incarnation := "i"
  canonicalPath := "/w"
  reusable := true

def sampleGrant : GrantRequest where
  path := "/w"
  provider := .claude
  workspaceId := "w"
  incarnation := "i"

def sampleSession : SessionRequest where
  provider := .claude
  cwd := "/w"
  workspaceId := "w"
  incarnation := "i"
  prompt := "hello"

def sampleReply : (p : Port) → Except DaemonError p.Rep
  | .resolveIdentity _ => .ok sampleIdentity
  | .revalidate _ => .ok true
  | .writeQueue _ _ => .ok true
  | .isDirty _ => .ok false
  | .detect _ => .ok {}
  | .fetchModelCatalog _ => .ok []
  | .audit _ _ | .audited _ _ _ | .settled _ _ | .inspected _ | .checked _ | .catalog
  | .lease _ _ | .cancelled _ => .ok ()

end VacancyRadar.Daemon.Admission
