import VacancyRadar.Submission.Observe

/-!
# Errors that a response carries

An application fails by what the body of a response says, whatever its HTTP status is.  The body is JSON that
nobody has typed, and `payloadErrorSignal` knows an error by the shape that it has.
-/

namespace VacancyRadar.Submission

open Data Form

section

variable (parse : String → Option Json) (numberText : Number → String)

def classifyDelayedReceipt (response : ObservedResponse) (observedAt : String) : SubmissionOutcomeReport :=
  let signals := readResponseSignals parse numberText response
  match signals.error with
  | some error =>
    .rejected .applicationErrorPayload
      s!"HTTP {response.status} was not accepted as delivery: {truncate error}" observedAt
  | none =>
    match signals.reference with
    | some reference =>
      .submitted ⟨.deliveryReceipt, truncate reference⟩
        s!"a delayed receipt carried an application identifier (HTTP {response.status})" observedAt
    | none =>
      .unknown .noReceiptObserved
        s!"HTTP {response.status} carried neither an application identifier nor an application error" observedAt

end

/-! ## Errors -/

def failingStatuses : List String := ["error", "failed", "failure", "rejected", "invalid"]

def isEmpty : Json → Bool
  | .str text => text = ""
  | .arr items => items.isEmpty
  | .obj fields => fields.isEmpty
  | _ => false

inductive CarriesError (payload : List (String × Json)) : Prop where
  | success (h : Json.field payload "success" = some (.bool false))
  | ok (h : Json.field payload "ok" = some (.bool false))
  | status (text : String) (h : Json.field payload "status" = some (.str text))
    (hfailing : text.toLower ∈ failingStatuses)
  | errors (value : Json) (h : Json.field payload "errors" = some value) (hnull : value ≠ .null)
    (hsome : isEmpty value = false)
  | error (value : Json) (h : Json.field payload "error" = some value) (hnull : value ≠ .null)
    (hfalse : value ≠ .bool false) (hsome : isEmpty value = false)

inductive KnownError (payload : List (String × Json)) : Prop where
  | success (h : Json.field payload "success" = some (.bool false))
  | ok (h : Json.field payload "ok" = some (.bool false))
  | status (text : String) (h : Json.field payload "status" = some (.str text))
    (hfailing : text.toLower ∈ failingStatuses)
  | errorList (item : Json) (items : List Json) (h : Json.field payload "errors" = some (.arr (item :: items)))
  | errorFields (field : String × Json) (fields : List (String × Json))
    (h : Json.field payload "errors" = some (.obj (field :: fields)))
  | errorText (text : String) (h : Json.field payload "error" = some (.str text)) (htold : trim text ≠ "")
  | errorObject (fields : List (String × Json)) (h : Json.field payload "error" = some (.obj fields))

inductive OddError (payload : List (String × Json)) : Prop where
  | flag (h : Json.field payload "error" = some (.bool true))
  | number (value : Number) (h : Json.field payload "error" = some (.num value))
  | list (item : Json) (items : List Json) (h : Json.field payload "error" = some (.arr (item :: items)))
  | blank (text : String) (h : Json.field payload "error" = some (.str text)) (hsome : text ≠ "")
    (hblank : trim text = "")
  | errorsFlag (b : Bool) (h : Json.field payload "errors" = some (.bool b))
  | errorsNumber (value : Number) (h : Json.field payload "errors" = some (.num value))
  | errorsText (text : String) (h : Json.field payload "errors" = some (.str text)) (hsome : text ≠ "")

variable {payload : List (String × Json)}

lemma CarriesError.known_or_odd (h : CarriesError payload) : KnownError payload ∨ OddError payload := by
  cases h with
  | success h => exact .inl (.success h)
  | ok h => exact .inl (.ok h)
  | status text h hfailing => exact .inl (.status text h hfailing)
  | errors value h hnull hsome =>
    rcases value with _ | b | value | text | items | fields
    · exact absurd rfl hnull
    · exact .inr (.errorsFlag b h)
    · exact .inr (.errorsNumber value h)
    · exact .inr (.errorsText text h (by simpa [isEmpty] using hsome))
    · rcases items with _ | ⟨item, items⟩
      · simp [isEmpty] at hsome
      · exact .inl (.errorList item items h)
    · rcases fields with _ | ⟨field, fields⟩
      · simp [isEmpty] at hsome
      · exact .inl (.errorFields field fields h)
  | error value h hnull hfalse hsome =>
    rcases value with _ | b | value | text | items | fields
    · exact absurd rfl hnull
    · have hb : b = true := by simpa using hfalse
      exact .inr (.flag (hb ▸ h))
    · exact .inr (.number value h)
    · by_cases htold : trim text = ""
      · exact .inr (.blank text h (by simpa [isEmpty] using hsome) htold)
      · exact .inl (.errorText text h htold)
    · rcases items with _ | ⟨item, items⟩
      · simp [isEmpty] at hsome
      · exact .inr (.list item items h)
    · exact .inl (.errorObject fields h)

lemma OddError.carriesError (h : OddError payload) : CarriesError payload := by
  cases h with
  | flag h => exact .error _ h (by simp) (by simp) rfl
  | number value h => exact .error _ h (by simp) (by simp) rfl
  | list item items h => exact .error _ h (by simp) (by simp) rfl
  | blank text h hsome hblank => exact .error _ h (by simp) (by simp) (by simpa [isEmpty] using hsome)
  | errorsFlag b h => exact .errors _ h (by simp) rfl
  | errorsNumber value h => exact .errors _ h (by simp) rfl
  | errorsText text h hsome => exact .errors _ h (by simp) (by simpa [isEmpty] using hsome)

/-! ## What is looked for -/

lemma isFalse_iff {value : Option Json} : Json.isFalse value = true ↔ value = some (.bool false) := by
  rcases value with _ | value
  · simp [Json.isFalse]
  · cases value <;> simp [Json.isFalse]

lemma statusError_isSome_iff : (payloadErrorSignal.statusError payload).isSome = true ↔
    ∃ text, Json.field payload "status" = some (.str text) ∧ text.toLower ∈ failingStatuses := by
  rw [payloadErrorSignal.statusError]
  rcases hstatus : Json.field payload "status" with _ | value
  · simp
  · cases value with
    | str text => simp [failingStatuses]
    | null | bool | num | arr | obj => simp

lemma errorsError_isSome_iff : (payloadErrorSignal.errorsError payload).isSome = true ↔
    (∃ item items, Json.field payload "errors" = some (.arr (item :: items))) ∨
      ∃ field fields, Json.field payload "errors" = some (.obj (field :: fields)) := by
  rw [payloadErrorSignal.errorsError]
  rcases herrors : Json.field payload "errors" with _ | value
  · simp
  · rcases value with _ | b | value | text | (_ | ⟨item, items⟩) | (_ | ⟨field, fields⟩) <;> simp

lemma errorError_isSome_iff : (payloadErrorSignal.errorError payload).isSome = true ↔
    (∃ text, Json.field payload "error" = some (.str text) ∧ trim text ≠ "") ∨
      ∃ fields, Json.field payload "error" = some (.obj fields) := by
  rw [payloadErrorSignal.errorError]
  rcases herror : Json.field payload "error" with _ | value
  · simp
  · cases value with
    | str text => simp
    | null | bool | num | arr | obj => simp

/-- `payloadErrorSignal` tells the errors of the shapes that it looks for. -/
lemma payloadErrorSignal_isSome_iff : (payloadErrorSignal payload).isSome = true ↔ KnownError payload := by
  have hsignal : (payloadErrorSignal payload).isSome = true ↔
      Json.isFalse (Json.field payload "success") = true ∨ Json.isFalse (Json.field payload "ok") = true ∨
        (payloadErrorSignal.statusError payload).isSome = true ∨
          (payloadErrorSignal.errorsError payload).isSome = true ∨
            (payloadErrorSignal.errorError payload).isSome = true := by
    rw [payloadErrorSignal]
    split
    · next hsuccess => simp [hsuccess]
    · next hsuccess =>
      split
      · next hok => simp [hok]
      · next hok => simp [hsuccess, hok, or_assoc]
  rw [hsignal, isFalse_iff, isFalse_iff, statusError_isSome_iff, errorsError_isSome_iff, errorError_isSome_iff]
  constructor
  · rintro (h | h | ⟨text, h, hfailing⟩ | (⟨item, items, h⟩ | ⟨field, fields, h⟩) | (⟨text, h, htold⟩ | ⟨fields, h⟩))
    · exact .success h
    · exact .ok h
    · exact .status text h hfailing
    · exact .errorList item items h
    · exact .errorFields field fields h
    · exact .errorText text h htold
    · exact .errorObject fields h
  · intro h
    cases h with
    | success h => exact .inl h
    | ok h => exact .inr (.inl h)
    | status text h hfailing => exact .inr (.inr (.inl ⟨text, h, hfailing⟩))
    | errorList item items h => exact .inr (.inr (.inr (.inl (.inl ⟨item, items, h⟩))))
    | errorFields field fields h => exact .inr (.inr (.inr (.inl (.inr ⟨field, fields, h⟩))))
    | errorText text h htold => exact .inr (.inr (.inr (.inr (.inl ⟨text, h, htold⟩))))
    | errorObject fields h => exact .inr (.inr (.inr (.inr (.inr ⟨fields, h⟩))))

/-! ## An error comes first -/

def SubmissionOutcomeReport.isSubmitted : SubmissionOutcomeReport → Bool
  | .submitted .. => true
  | _ => false

section

variable (parse : String → Option Json) (numberText : Number → String)

def ErrorWins (body : String) : Prop :=
  ∀ payload, parse body = some (.obj payload) → CarriesError payload → ∀ (status : ℕ) (observedAt : String),
    (∀ observation : SubmissionPageObservation, observation.response = some ⟨status, body⟩ →
      (classifySubmissionOutcome parse numberText observation observedAt).isSubmitted = false) ∧
    (classifyDelayedReceipt parse numberText ⟨status, body⟩ observedAt).isSubmitted = false

end

variable {parse : String → Option Json} {numberText : Number → String} {body : String}

lemma error_of_parse {status : ℕ} (h : parse body = some (.obj payload)) :
    (readResponseSignals parse numberText ⟨status, body⟩).error = payloadErrorSignal payload := by
  simp [readResponseSignals, h]

variable {observation : SubmissionPageObservation} {response : ObservedResponse}

lemma classifySubmissionOutcome_of_error {error observedAt : String}
    (hresponse : observation.response = some response)
    (h : (readResponseSignals parse numberText response).error = some error) :
    (classifySubmissionOutcome parse numberText observation observedAt).isSubmitted = false := by
  simp [classifySubmissionOutcome, hresponse, h, SubmissionOutcomeReport.isSubmitted]

lemma classifyDelayedReceipt_of_error {error observedAt : String}
    (h : (readResponseSignals parse numberText response).error = some error) :
    (classifyDelayedReceipt parse numberText response observedAt).isSubmitted = false := by
  simp [classifyDelayedReceipt, h, SubmissionOutcomeReport.isSubmitted]

def receivedPage (response : ObservedResponse) : SubmissionPageObservation where
  text := "Application received"
  baselineText := ""
  formStillPresent := false
  errorMarkers := []
  response := some response

lemma classifySubmissionOutcome_receivedPage {observedAt : String}
    (h : (readResponseSignals parse numberText response).error = none) :
    (classifySubmissionOutcome parse numberText (receivedPage response) observedAt).isSubmitted = true := by
  obtain ⟨-, -, hworded, hconfirmation, -⟩ := reads_received
  have hnew : Regex.firstMatch confirmationPhrases "" = none := not_not.mp not_showsConfirmation_empty
  simp [classifySubmissionOutcome, receivedPage, h, markerText, hworded, pageEvidence, pageEvidence.confirmation,
    hconfirmation, hnew, SubmissionOutcomeReport.isSubmitted]

/-- **An error of a response wins** over all that is evidence, just if the error has a shape that is looked
for, or another error has. -/
theorem errorWins_iff (parse : String → Option Json) (numberText : Number → String) (body : String) :
    ErrorWins parse numberText body ↔
      ∀ payload, parse body = some (.obj payload) → OddError payload → KnownError payload := by
  constructor
  · intro h payload hparse hodd
    by_contra hknown
    have herror : payloadErrorSignal payload = none :=
      Option.not_isSome_iff_eq_none.mp fun htold => hknown (payloadErrorSignal_isSome_iff.mp htold)
    have hnever := (h payload hparse hodd.carriesError 200 "").1 (receivedPage ⟨200, body⟩) rfl
    rw [classifySubmissionOutcome_receivedPage (by rw [error_of_parse hparse, herror])] at hnever
    exact absurd hnever (by simp)
  · intro h payload hparse hcarries status observedAt
    have hknown : KnownError payload := hcarries.known_or_odd.elim id (h payload hparse)
    obtain ⟨error, herror⟩ := Option.isSome_iff_exists.mp (payloadErrorSignal_isSome_iff.mpr hknown)
    have hsignal : (readResponseSignals parse numberText ⟨status, body⟩).error = some error := by
      rw [error_of_parse hparse, herror]
    exact ⟨fun observation hresponse => classifySubmissionOutcome_of_error hresponse hsignal,
      classifyDelayedReceipt_of_error hsignal⟩

def refusedPayload : List (String × Json) :=
  [("error", .arr [.str "Position closed"]), ("applicationId", .str "A-1042")]

def refusedBody : String := "\x7b\"error\":[\"Position closed\"],\"applicationId\":\"A-1042\"\x7d"

/-- That response is taken for a receipt. -/
theorem not_errorWins_refusedBody :
    ¬ ErrorWins (fun text => if text = refusedBody then some (.obj refusedPayload) else none) (fun _ => "")
      refusedBody := by
  intro h
  have hcarries : CarriesError refusedPayload := .error _ rfl (by simp) (by simp) rfl
  have hnever := (h refusedPayload (if_pos rfl) hcarries 200 "t").2
  exact absurd hnever (by decide)

end VacancyRadar.Submission
