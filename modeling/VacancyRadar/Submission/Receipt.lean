import VacancyRadar.Data.Json
import VacancyRadar.Submission.Dom

/-!
# Receipts

`classifySubmissionOutcome` says what became of an application after the click.  Only positive evidence
makes it submitted, and an error comes before any evidence.
-/

namespace VacancyRadar.Submission

open Data Form Pattern

/-! ## Reports -/

inductive SubmissionEvidenceKind where
  | confirmationPage
  | receiptReference
  | deliveryReceipt
  | userStatement
  | none
deriving DecidableEq

structure SubmissionEvidence where
  kind : SubmissionEvidenceKind
  reference : String

inductive SubmissionRejectedReason where
  | formValidationError
  | applicationErrorPayload

inductive SubmissionUnknownReason where
  | noReceiptObserved
  | navigationLost
  | observationTimeout
  | observationFailed

inductive SubmissionOutcomeReport where
  | submitted (evidence : SubmissionEvidence) (detail observedAt : String)
  | rejected (reason : SubmissionRejectedReason) (detail observedAt : String)
  | unknown (reason : SubmissionUnknownReason) (detail observedAt : String)

structure ObservedResponse where
  status : ℕ
  body : String

structure SubmissionPageObservation where
  text : String
  baselineText : String
  formStillPresent : Bool
  errorMarkers : List String
  response : Option ObservedResponse

/-! ## Wording -/

def maxEvidenceReferenceLength : ℕ := 300

def confirmationPhrases : List Regex :=
  [.plain (phrase [litI "your application ", wordsI ["has been", "was", "is"], litI " ",
      opt (litI "successfully "), wordsI ["submitted", "received", "sent"]]),
    .plain (phrase [litI "application ", opt (litI "successfully "), wordsI ["submitted", "received"]]),
    .plain (phrase [litI "we", wordsI ["'ve", " have"], litI " received your application"]),
    .plain (phrase [litI "thank you for ", opt (litI "your "), litI "appl", wordsI ["ying", "ication"]]),
    .plain (phrase [litI "submission ", opt (litI "was "), wordsI ["successful", "complete"]])]

def gap : Pattern := upTo (fun c => c == ' ' || c == '\t') 3

/-- `[A-Za-z0-9_-]`. -/
def isReferenceChar (c : Char) : Bool := c.isAlphanum || c == '_' || c == '-'

def receiptReferencePattern : Regex :=
  .bounded (phrase [words ["application", "confirmation", "reference", "receipt"], gap,
    opt (alt [lit "id", lit "number", seq (lit "no") (opt (lit ".")), lit "#"]), gap,
    one (fun c => c == ':' || c == '#'), gap, one Char.isAlphanum, times isReferenceChar 5,
    upTo isReferenceChar 58])

def formErrorPhrases : List Regex :=
  [.bounded (phrase [opt (litI "this "), wordsI ["field", "answer", "question"], litI " is required"]),
    .bounded (litI "required field"),
    .bounded (phrase [litI "please ", wordsI
      ["complete", "fill in", "fill out", "correct", "enter", "provide", "answer"]]),
    .bounded (phrase [wordsI ["fix", "correct"], litI " the ",
      alt [seq (litI "error") (opt (litI "s")), seq (litI "problem") (opt (litI "s"))], litI " below"]),
    .bounded (phrase [litI "your application ", wordsI ["could not be", "was not"], litI " ",
      wordsI ["submitted", "sent", "received"]]),
    .bounded (litI "submission failed"),
    .bounded (phrase [litI "we could not ", wordsI ["submit", "process"], litI " your application"])]

def responseErrorPhrases : List Regex :=
  [.bounded (litI "error"), .bounded (litI "failed"), .bounded (litI "rejected"),
    .bounded (phrase [litI "not ", wordsI ["submitted", "accepted", "processed"]])]

def responseReferenceKeys : List String :=
  ["applicationId", "application_id", "confirmationId", "confirmation_id", "confirmationNumber",
    "confirmation_number", "receiptId", "receipt_id", "referenceId", "reference_id"]

def truncate (value : String) : String :=
  let short := collapsed value
  if (codeUnits short).length > maxEvidenceReferenceLength then
    sliceUnits short (maxEvidenceReferenceLength - 3) ++ "..."
  else short

/-! ## Responses -/

section

variable (parse : String → Option Json) (numberText : Number → String)

def payloadErrorSignal (payload : List (String × Json)) : Option String :=
  if Json.isFalse (Json.field payload "success") then some "payload reported success: false"
  else if Json.isFalse (Json.field payload "ok") then some "payload reported ok: false"
  else (statusError.or errorsError).or errorError
where
  /-- What the status says. -/
  statusError : Option String :=
    match Json.field payload "status" with
    | some (.str status) =>
      if status.toLower ∈ ["error", "failed", "failure", "rejected", "invalid"] then
        some ("payload reported status: " ++ status)
      else none
    | _ => none
  /-- What the list of errors says. -/
  errorsError : Option String :=
    match Json.field payload "errors" with
    | some (.arr (item :: items)) =>
      some s!"payload carried {(item :: items).length} application error(s)"
    | some (.obj (field :: fields)) =>
      some ("payload carried application errors for: " ++
        String.intercalate ", " ((field :: fields).map Prod.fst))
    | _ => none
  /-- What the error says. -/
  errorError : Option String :=
    match Json.field payload "error" with
    | some (.str error) => if trim error ≠ "" then some ("payload carried an error: " ++ error) else none
    | some (.obj _) => some "payload carried an error object"
    | _ => none

def payloadReference (payload : List (String × Json)) : Option String :=
  responseReferenceKeys.findSome? fun key =>
    match Json.field payload key with
    | some (.str value) => if trim value ≠ "" then some (key ++ ": " ++ trim value) else none
    | some (.num value) => if value.isFinite then some (key ++ ": " ++ numberText value) else none
    | _ => none

structure ResponseSignals where
  error : Option String
  reference : Option String

def readResponseSignals (response : ObservedResponse) : ResponseSignals :=
  match parse response.body with
  | some (.obj payload) =>
    { error := payloadErrorSignal payload, reference := payloadReference numberText payload }
  | _ =>
    { error := (Regex.firstMatch responseErrorPhrases response.body).map fun wording =>
        "response body carried error wording: " ++ truncate wording
      reference := none }

/-! ## The verdict -/

def markerText (observation : SubmissionPageObservation) : List String :=
  (observation.errorMarkers.map trim).filter fun marker => marker ≠ ""

def pageEvidence (observation : SubmissionPageObservation) (observedAt : String) :
    Option SubmissionOutcomeReport :=
  if observation.formStillPresent then none
  else confirmation.or pageReference
where
  /-- A confirmation that was not there before the click. -/
  confirmation : Option SubmissionOutcomeReport :=
    match Regex.firstMatch confirmationPhrases observation.text with
    | some confirmation =>
      if Regex.firstMatch confirmationPhrases observation.baselineText = none then
        some (.submitted ⟨.confirmationPage, truncate confirmation⟩
          "the page replaced the application form with a confirmation this attempt had not shown before the click"
          observedAt)
      else none
    | none => none
  /-- A receipt reference, when there was none before the click. -/
  pageReference : Option SubmissionOutcomeReport :=
    match receiptReferencePattern.exec observation.text with
    | some reference =>
      if !receiptReferencePattern.occurs observation.baselineText then
        some (.submitted ⟨.receiptReference, truncate reference⟩
          "the page printed a receipt reference this attempt had not shown before the click" observedAt)
      else none
    | none => none

def classifySubmissionOutcome (observation : SubmissionPageObservation) (observedAt : String) :
    SubmissionOutcomeReport :=
  let signals := observation.response.map (readResponseSignals parse numberText)
  let status := (observation.response.map ObservedResponse.status).getD 0
  match signals.bind ResponseSignals.error with
  | some error =>
    .rejected .applicationErrorPayload
      s!"HTTP {status} was not accepted as delivery: {truncate error}" observedAt
  | none =>
    if markerText observation ≠ [] then
      .rejected .formValidationError
        (s!"the form reported {(markerText observation).length} field error(s): " ++
          truncate (String.intercalate "; " (markerText observation))) observedAt
    else
      match Regex.firstMatch formErrorPhrases observation.text with
      | some wordedError =>
        .rejected .formValidationError
          ("the page still reports an unresolved form error: " ++ truncate wordedError) observedAt
      | none =>
        match pageEvidence observation observedAt with
        | some report => report
        | none =>
          match signals.bind ResponseSignals.reference with
          | some reference =>
            .submitted ⟨.deliveryReceipt, truncate reference⟩
              s!"the observed response carried an application identifier (HTTP {status})" observedAt
          | none =>
            .unknown .noReceiptObserved
              (if observation.formStillPresent then
                "the click completed but the application form is still standing and no receipt was observed"
              else "the click completed but no confirmation or receipt could be observed") observedAt

/-! ## When the verdict rests on the page -/

variable {parse numberText} {observation : SubmissionPageObservation} {observedAt detail at' : String}
  {evidence : SubmissionEvidence}

lemma of_pageEvidence {report : SubmissionOutcomeReport} (h : pageEvidence observation observedAt = some report) :
    observation.formStillPresent = false ∧ ∃ evidence detail, report = .submitted evidence detail observedAt ∧
      (evidence.kind = .confirmationPage ∧
          Regex.firstMatch confirmationPhrases observation.baselineText = none ∨
        evidence.kind = .receiptReference ∧
          receiptReferencePattern.occurs observation.baselineText = false) := by
  unfold pageEvidence at h
  split at h
  · exact absurd h nofun
  · next hform =>
    refine ⟨Bool.eq_false_iff.mpr hform, ?_⟩
    rcases Option.or_eq_some_iff.mp h with h | ⟨-, h⟩
    · unfold pageEvidence.confirmation at h
      split at h
      · split at h
        · next hnew =>
          exact ⟨_, _, (Option.some.inj h).symm, .inl ⟨rfl, hnew⟩⟩
        · exact absurd h nofun
      · exact absurd h nofun
    · unfold pageEvidence.pageReference at h
      split at h
      · split at h
        · next hnew =>
          exact ⟨_, _, (Option.some.inj h).symm, .inr ⟨rfl, by simpa using hnew⟩⟩
        · exact absurd h nofun
      · exact absurd h nofun

lemma of_classifySubmissionOutcome
    (h : classifySubmissionOutcome parse numberText observation observedAt = .submitted evidence detail at')
    (hpage : evidence.kind ≠ .deliveryReceipt) :
    markerText observation = [] ∧ Regex.firstMatch formErrorPhrases observation.text = none ∧
      observation.formStillPresent = false ∧
      (evidence.kind = .confirmationPage ∧
          Regex.firstMatch confirmationPhrases observation.baselineText = none ∨
        evidence.kind = .receiptReference ∧
          receiptReferencePattern.occurs observation.baselineText = false) := by
  unfold classifySubmissionOutcome at h
  dsimp only at h
  split at h
  · exact absurd h nofun
  · split at h
    · exact absurd h nofun
    · next hmarkers =>
      split at h
      · exact absurd h nofun
      · next hworded =>
        refine ⟨not_not.mp hmarkers, hworded, ?_⟩
        split at h
        · next report hreport =>
          obtain ⟨hform, evidence', detail', rfl, hnew⟩ := of_pageEvidence hreport
          obtain ⟨rfl, -, -⟩ := SubmissionOutcomeReport.submitted.inj h
          exact ⟨hform, hnew⟩
        · split at h
          · obtain ⟨rfl, -, -⟩ := SubmissionOutcomeReport.submitted.inj h
            exact absurd rfl hpage
          · exact absurd h nofun

end

end VacancyRadar.Submission
