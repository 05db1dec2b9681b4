import Mathlib.Data.List.Infix
import VacancyRadar.Desktop.Ports

/-!
# What is checked before a submission

The pure checks that run before a click: the gate of `application-submit-gate.ts` over the
documents and hashes of an attempt, and the limits of `automatic-submission-guardrails.ts` for a
click nobody asked for at that moment.  A check answers with a refusal, or with nothing.
-/

namespace VacancyRadar.Desktop

open Data Workspace

/-- `PostingVerificationStatus`. -/
inductive PostingStatus where
  | notChecked
  | confirmedOpen
  | confirmedClosed
  | materiallyChanged
  | unableToVerify
deriving DecidableEq

/-- `PostingVerificationView`, as far as preparation looks into it. -/
structure PostingView where
  status : PostingStatus
  /-- Whether the reason is that there is no authority to ask. -/
  noAuthoritativeSource : Bool
  resolution : Option PostingResolution

/-- What the functions of the process compute with code that is not modelled here. -/
structure Host where
  /-- `deriveApplicationIdentity`. -/
  deriveApplicationIdentity : (company canonicalUrl : String) → Option String → ApplicationIdentity
  sha256 : String → String
  /-- `String.prototype.toLowerCase`. -/
  toLowerCase : String → String
  /-- The first text of a document that looks like a placeholder. -/
  placeholder : String → Option String
  resolvePolicyIdForCanonicalUrl : String → Option String
  resolveApplicationTargetPolicy : String → Option TargetPolicy
  /-- `resolveSubmitControl`: the one control that submits the form. -/
  resolveSubmitControl : List String → Option String
  /-- `computeFormStructureHash`. -/
  computeFormStructureHash : List SnapshotField → String
  describeBlockers : List String → String
  /-- `classifyDelayedReceipt`. -/
  classifyDelayedReceipt : String → ℤ → OutcomeReport
  /-- Whether the optional dependencies of the pipeline are there. -/
  pinsBriefs : Bool
  verifiesPostings : Bool
  fetchesDescriptions : Bool
  loadsCompanyEvidence : Bool
  hasFieldMapper : Bool
  abandonsPreparations : Bool
  /-- Whether the stored finding about a posting is young enough to be reused. -/
  reusesFinding : Attempt → List PostingRow → ℤ → Bool
  /-- The rows that a posting check leaves for the attempt. -/
  judgedRows : Attempt → List PostingRow → PostingObservation → List PostingRow
  /-- The description that a posting check fills in, if the attempt had none. -/
  fillDescription : Attempt → List PostingRow → PostingObservation → Option String
  /-- `buildPostingVerificationView`. -/
  postingView : Attempt → List PostingRow → ℤ → PostingView
  /-- Whether `postingOpenEvidence` finds something. -/
  postingOpenEvidence : List PostingRow → ℤ → Bool
  /-- The CV as it is, without tailoring. -/
  originalResume : CvDocument → Option String → Resume
  /-- Whether a stored resume still agrees with the reviewed CV. -/
  validRevision : Resume → CvDocument → Bool
  draftContentHash : DraftContent → String
  buildValueTable : CvDocument → Option String → List (String × String)
  /-- The field map in a generated text, without what the pipeline does not commit. -/
  readFieldMap : String → FormSnapshot → List (String × String) → List Artifact →
    Option SanitisedFieldMap
  /-- `mapBlindApplyAnswers`. -/
  mapBlindApplyAnswers :
    Attempt → FormSnapshot → List (String × String) → List Artifact → MapAnswers
  /-- `validateFieldMap`: why the map is refused. -/
  validateFieldMap : SanitisedFieldMap → FormSnapshot → List ℕ → Option (String × String)
  /-- `summarisePreparedFields`: the record, and what is left to the person. -/
  summarisePreparedFields :
    FormSnapshot → SanitisedFieldMap → Readiness → PreparedFields × List String
  /-- `stagedArtifactPath`. -/
  stagedArtifactPath : (attemptId : ℕ) → (contentHash fileName : String) → String

/-! ## The gate over documents and hashes -/

def Host.contains (host : Host) (haystack needle : String) : Bool :=
  trim needle = "" ||
    decide ((host.toLowerCase needle).toList <:+: (host.toLowerCase haystack).toList)

def Host.runPreSubmitGate (host : Host) (attempt : Attempt) (cvHash jdHash cvText : String)
    (letterText : Option String) : Option (SubmitRefusal × String) :=
  if cvHash ≠ attempt.sourceCvContentHash then
    some (.sourceCvChanged, "the source CV has changed since this attempt was created")
  else if jdHash ≠ attempt.jdSnapshotHash then
    some (.jdChanged, "the job description has changed since this attempt was created")
  else
    let missing := match letterText with
      | some letter =>
        if !host.contains letter attempt.company then
          some (SubmitRefusal.companyNotFoundInDocuments,
            "\"" ++ attempt.company ++ "\" does not appear in the rendered cover letter")
        else if !host.contains letter attempt.role then
          some (.roleNotFoundInDocuments,
            "\"" ++ attempt.role ++ "\" does not appear in the rendered cover letter")
        else none
      | none =>
        if !host.contains cvText attempt.role then
          some (.roleNotFoundInDocuments,
            "\"" ++ attempt.role ++ "\" does not appear in the rendered CV")
        else none
    missing.or ((host.placeholder (cvText ++ "\n" ++ letterText.getD "")).map fun text =>
      (.placeholderTextDetected, "matched placeholder-shaped text: \"" ++ text ++ "\""))

/-! ## The limits of automatic submission -/

/-- `AutomaticSubmissionRefusalReason`. -/
inductive AutomaticRefusal where
  | noOpenReview
  | alreadySubmitted
  | unresolvedPolicy
  | notEligibleForAutomation
  | noActiveGrant
  | scheduleExpired
  | dailyCapReached
  | perEmployerDailyCapReached
  | minIntervalNotElapsed
  | noPriorManualSubmissionForEmployer
  | formStructureChangedSinceLastReview

abbrev AutomaticCheck : Type := Option (AutomaticRefusal × Option String)

def oneDayMs : ℤ := 24 * 60 * 60 * 1000

def checkRateLimits (limits : RateLimits) (company : String) (now : ℤ)
    (recent : List (String × ℤ)) : AutomaticCheck :=
  let withinWindow := recent.filter fun e => now - oneDayMs < e.2
  let forEmployer := withinWindow.filter fun e => e.1 == company
  if limits.perDay ≤ withinWindow.length then
    some (.dailyCapReached, some (toString withinWindow.length ++
      " automatic submissions already sent in the last 24 hours (cap: " ++
      toString limits.perDay ++ ")"))
  else if limits.perEmployerPerDay ≤ forEmployer.length then
    some (.perEmployerDailyCapReached, some (toString forEmployer.length ++
      " automatic submissions already sent to \"" ++ company ++
      "\" in the last 24 hours (cap: " ++ toString limits.perEmployerPerDay ++ ")"))
  else
    match (recent.map Prod.snd).max? with
    | none => none
    | some mostRecent =>
      let elapsed := max 0 (now - mostRecent)
      if elapsed < limits.minIntervalMs then
        some (.minIntervalNotElapsed, some
          ("the minimum interval between automatic submissions hasn't elapsed yet (" ++
            toString ((limits.minIntervalMs - elapsed + 999) / 1000) ++ "s remaining)"))
      else none

/-- `checkAutomaticEligibility` over the companies, structures and times of what was submitted. -/
def checkAutomaticEligibility (company currentFormStructureHash : String)
    (prior : List (String × Option String × ℤ)) : AutomaticCheck :=
  let forEmployer := (prior.filter fun e => e.1 == company).insertionSort
    fun a b => b.2.2 ≤ a.2.2
  match forEmployer.head? with
  | none => some (.noPriorManualSubmissionForEmployer, some ("no prior submission for \"" ++
      company ++ "\" exists yet -- the first attempt at any employer is always manually reviewed"))
  | some mostRecent =>
    if mostRecent.2.1 ≠ some currentFormStructureHash then
      some (.formStructureChangedSinceLastReview, some
        ("this attempt's form does not match the structure of the last application a human " ++
          "reviewed for \"" ++ company ++ "\""))
    else none

end VacancyRadar.Desktop
