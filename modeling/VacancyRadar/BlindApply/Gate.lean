import VacancyRadar.BlindApply.Store

/-!
# The gates of Blind Apply

The decision of `blind-apply-eligibility.ts` about one vacancy.  The last gate asks the network,
so the function is split at that call: `gateBeforeLiveness` either decides or asks for the check,
and `gateAfterLiveness` decides with its answer.
-/

namespace VacancyRadar.BlindApply

inductive ExecutorAction where
  | openTarget
  | snapshot
  | fill
  | select
  | attach
  | capture
  | handoff
  | submit
deriving DecidableEq

/-- The fields of `ApplicationTargetPolicy` that Blind Apply reads. -/
structure TargetPolicy where
  id : String
  termsEligibleForAutomation : Bool
  allowedActions : List ExecutorAction
  killSwitchSubmit : Bool

/-- `BlindApplyCandidate`. -/
structure Candidate where
  vacancyKey : String
  company : String
  role : String
  applyUrl : String
  family : Option String
  filters : FilterStatus
  linkStatus : LinkStatus

/-- `BlindApplyCurrentFacts`. -/
structure CurrentFacts where
  cvContentHash : Option String
  profileVersion : String

inductive LivenessStatus where
  | opened
  | closed
  | unverifiable

/-- The status as it is stored with the evidence. -/
def LivenessStatus.text : LivenessStatus → String
  | opened => "open"
  | closed => "closed"
  | unverifiable => "unverifiable"

/-- `BlindApplyLiveness`. -/
structure Liveness where
  status : LivenessStatus
  verificationId : Option String

/-- `BlindApplyPauseReason`. -/
inductive PauseReason where
  | inactive
  | cvChanged
  | profileChanged

/-- A decision about the vacancy itself. -/
inductive Verdict where
  | eligible (policyId : String) (evidence : GateEvidence)
  | skip (reason : SkipReason) (detail : String) (evidence : GateEvidence)
  | applyYourself (detail : String) (evidence : GateEvidence)

/-- `BlindApplyGateDecision`. -/
inductive GateDecision where
  | decided (verdict : Verdict)
  | paused (reason : PauseReason) (detail : String)

def Verdict.evidence : Verdict → GateEvidence
  | eligible _ e => e
  | skip _ _ e => e
  | applyYourself _ e => e

def policyPermitsBlindSubmission (policy : TargetPolicy) : Bool :=
  policy.termsEligibleForAutomation && policy.allowedActions.contains .submit &&
    !policy.killSwitchSubmit

/-- `evidenceOf` without further findings. -/
def evidenceOf (candidate : Candidate) : GateEvidence where
  family := candidate.family
  filters := candidate.filters
  linkStatus := candidate.linkStatus
  policyId := none
  livenessStatus := none
  livenessVerificationId := none
  duplicateCheck := .clear

def gateBeforeLiveness (active : Bool) (auth : Authorization) (current : CurrentFacts)
    (resolvePolicy : String → Option TargetPolicy) (isDuplicate : Bool)
    (candidate : Candidate) : GateDecision ⊕ TargetPolicy :=
  if ¬ active then
    .inl (.paused .inactive "Blind Apply is not turned on")
  else if current.cvContentHash ≠ some auth.sourceCvContentHash then
    .inl (.paused .cvChanged
      "Your CV changed after you turned Blind Apply on. Confirm it again to continue.")
  else if current.profileVersion ≠ auth.profileVersion then
    .inl (.paused .profileChanged
      "Your profile changed after you turned Blind Apply on. Confirm it again to continue.")
  else if ¬ candidate.family.any (auth.roleFamilies.contains ·) then
    .inl (.decided (.skip .notFrontend "Not a frontend role" (evidenceOf candidate)))
  else if candidate.filters ≠ .eligible then
    .inl (.decided (.skip .filters
      (if candidate.filters = .unknown then "Your filters could not be confirmed for this role"
        else "Outside your filters") (evidenceOf candidate)))
  else if candidate.linkStatus ≠ .verified then
    .inl (.decided (.skip .unverifiedLink "The apply link is not confirmed"
      (evidenceOf candidate)))
  else if isDuplicate then
    .inl (.decided (.skip .duplicate "You already applied or started this one"
      { evidenceOf candidate with duplicateCheck := .duplicate }))
  else
    let apply := fun policyId => GateDecision.decided
      (.applyYourself "This site is not set up for Blind Apply. Apply yourself."
        { evidenceOf candidate with policyId })
    match resolvePolicy candidate.applyUrl with
    | none => .inl (apply none)
    | some policy =>
      if policyPermitsBlindSubmission policy then .inr policy else .inl (apply (some policy.id))

def gateAfterLiveness (policy : TargetPolicy) (candidate : Candidate) (liveness : Liveness) :
    GateDecision :=
  let evidence := { evidenceOf candidate with
    policyId := some policy.id
    livenessStatus := some liveness.status.text
    livenessVerificationId := liveness.verificationId }
  match liveness.status with
  | .closed => .decided (.skip .closed "This posting is closed" evidence)
  | .unverifiable =>
    .decided (.skip .unverifiablePosting "This posting could not be confirmed open" evidence)
  | .opened => .decided (.eligible policy.id evidence)

end VacancyRadar.BlindApply
