import VacancyRadar.Submission.Receipt

/-!
# The click and what is observed after it

`submit` keeps what the page says before its one click, and `observeSubmissionOutcome` reads the page until
it is clear what became of the application.  Evidence counts only if the page did not show it before the
click.  What is kept of the page before the click is not that page: a read that fails keeps nothing, so
that whatever the page said before counts as new.
-/

namespace VacancyRadar.Submission

open Data Form Pattern

/-! ## The executor -/

inductive ExecutorAction where
  | openTarget
  | snapshot
  | fill
  | select
  | attach
  | capture
  | handoff
  | submit
deriving DecidableEq

/-- What of an `ApplicationTargetPolicy` decides about actions. -/
structure ApplicationTargetPolicy where
  id : String
  allowedActions : List ExecutorAction
  killFill : Bool
  killUpload : Bool
  killNavigate : Bool
  killSubmit : Bool

def isActionAllowed (policy : ApplicationTargetPolicy) (action : ExecutorAction) : Bool :=
  if action = .fill && policy.killFill then false
  else if action = .attach && policy.killUpload then false
  else if action = .openTarget && policy.killNavigate then false
  else if action = .submit && policy.killSubmit then false
  else decide (action ∈ policy.allowedActions)

structure SnapshotSubmitControl where
  controlRef : String
  label : String

structure SubmitSnapshot where
  challengeDetected : Bool
  pageStateFingerprint : String
  submitControls : List SnapshotSubmitControl

structure Executor where
  policy : ApplicationTargetPolicy
  currentSnapshot : Option SubmitSnapshot
  nodeIds : List (String × ℕ)
  preSubmitPageText : Option String

inductive ExecutorError where
  | policy (action reason : String)
  | failed (message : String)
deriving DecidableEq

def submitLabelPattern : Regex := .bounded (wordsI ["submit", "apply", "send"])

def nonSubmitLabelPatterns : List Regex :=
  [.bounded (wordsI ["cancel", "back", "clear", "reset"]),
    .plain (phrase [litI "save", many isSpace, opt (seq (litI "as") (many isSpace)), litI "draft"]),
    .plain (phrase [litI "save", many isSpace, litI "for", many isSpace, litI "later"])]

def resolveSubmitControl (controls : List SnapshotSubmitControl) : Option SnapshotSubmitControl :=
  match controls.filter fun control => submitLabelPattern.occurs control.label &&
      !nonSubmitLabelPatterns.any fun pattern => pattern.occurs control.label with
  | [control] => some control
  | _ => none

def Executor.clickTarget (e : Executor) (controlRef : String) (pageState : Except String String) :
    Except ExecutorError ℕ := do
  if !isActionAllowed e.policy .submit then
    throw (.policy "submit" ("not permitted by policy \"" ++ e.policy.id ++ "\""))
  let some snapshot := e.currentSnapshot |
    throw (.policy "submit" "no current snapshot to submit from")
  if snapshot.challengeDetected then
    throw (.policy "submit"
      "refusing to submit: the current snapshot has an active CAPTCHA/bot-detection challenge")
  let fingerprint ← pageState.mapError ExecutorError.failed
  if fingerprint ≠ snapshot.pageStateFingerprint then
    throw (.policy "submit"
      "refusing to submit: the page changed since the snapshot under review was taken, so nothing reviewed describes it any more")
  if (resolveSubmitControl snapshot.submitControls).map SnapshotSubmitControl.controlRef ≠ some controlRef then
    throw (.policy "submit"
      ("controlRef " ++ controlRef ++ " is not the sole resolved submit control for the current snapshot"))
  let some backendNodeId := e.nodeIds.lookup controlRef |
    throw (.policy "submit" ("unknown fieldRef " ++ controlRef))
  return backendNodeId

structure SubmitReads where
  /-- The fingerprint that the page has now. -/
  pageState : Except String String
  /-- The document, before the click. -/
  document : Except String CdpDomNode
  /-- What comes of a click on a node. -/
  click : ℕ → Except String Unit

/-- What is kept of the page before the click. -/
def preSubmitText : Except String CdpDomNode → String
  | .ok root => (extractSubmissionSignals root).text
  | .error _ => ""

def submit (controlRef : String) (reads : SubmitReads) (e : Executor) : Except ExecutorError Unit × Executor :=
  match e.clickTarget controlRef reads.pageState with
  | .error err => (.error err, e)
  | .ok backendNodeId =>
    ((reads.click backendNodeId).mapError .failed,
      { e with preSubmitPageText := some (preSubmitText reads.document) })

/-- The options of `observeSubmissionOutcome`, without the interval between reads. -/
structure ObserveOptions where
  timeoutMs : Option ℤ
  response : Option ObservedResponse

/-- One read of the page, with what the clock says. -/
structure Poll where
  document : Except String CdpDomNode
  observedAt : String
  now : ℤ
  endedAt : String

def submissionObserveTimeoutMs : ℤ := 15000

section

variable (parse : String → Option Json) (numberText : Number → String)

def reportOn (baselineText : String) (response : Option ObservedResponse) (root : CdpDomNode)
    (observedAt : String) : SubmissionOutcomeReport :=
  let signals := extractSubmissionSignals root
  classifySubmissionOutcome parse numberText
    { text := signals.text
      baselineText := baselineText
      formStillPresent := signals.formStillPresent
      errorMarkers := signals.errorMarkers
      response := response } observedAt

def observeLoop (baselineText : String) (response : Option ObservedResponse) (timeoutMs deadline : ℤ) :
    List Poll → Option SubmissionOutcomeReport
  | [] => none
  | poll :: rest =>
    match poll.document with
    | .error message =>
      some (.unknown .navigationLost
        ("the page could not be read after the submit click: " ++ message) poll.observedAt)
    | .ok root =>
      match reportOn parse numberText baselineText response root poll.observedAt with
      | .unknown _ detail _ =>
        if deadline - poll.now ≤ 0 then
          some (.unknown .observationTimeout
            (s!"no submission receipt was observed within {timeoutMs}ms: " ++ detail) poll.endedAt)
        else observeLoop baselineText response timeoutMs deadline rest
      | report => some report

/-- `observeSubmissionOutcome`, which begins at a time and reads the page so often. -/
def observeSubmissionOutcome (options : ObserveOptions) (start : ℤ) (polls : List Poll) (e : Executor) :
    Except ExecutorError (Option SubmissionOutcomeReport) :=
  match e.preSubmitPageText with
  | none =>
    .error (.policy "observeSubmissionOutcome"
      "there is nothing to observe: submit() was never called on this executor")
  | some baselineText =>
    let timeoutMs := max 0 (options.timeoutMs.getD submissionObserveTimeoutMs)
    .ok (observeLoop parse numberText baselineText options.response timeoutMs (start + timeoutMs) polls)

/-! ## Runs of the observer -/

variable {parse numberText} {baselineText : String} {response : Option ObservedResponse}
  {timeoutMs deadline : ℤ} {polls : List Poll}

lemma of_observeLoop {evidence : SubmissionEvidence} {detail observedAt : String}
    (h : observeLoop parse numberText baselineText response timeoutMs deadline polls =
      some (.submitted evidence detail observedAt)) :
    ∃ earlier poll later root, polls = earlier ++ poll :: later ∧ poll.document = .ok root ∧
      observeLoop parse numberText baselineText response timeoutMs deadline earlier = none ∧
      observeLoop parse numberText baselineText response timeoutMs deadline (earlier ++ [poll]) =
        some (.submitted evidence detail observedAt) ∧
      reportOn parse numberText baselineText response root poll.observedAt =
        .submitted evidence detail observedAt := by
  induction polls with
  | nil => exact absurd h nofun
  | cons poll rest ih =>
    unfold observeLoop at h
    split at h
    · exact absurd (Option.some.inj h) nofun
    · next root hroot =>
      split at h
      · next reason detail' at' hunknown =>
        split at h
        · exact absurd (Option.some.inj h) nofun
        · next htime =>
          -- the verdict is on a page that is read later
          obtain ⟨earlier, last, later, root', hpolls, hlast, hearlier, hupto, hreport⟩ := ih h
          have hstep : ∀ others, observeLoop parse numberText baselineText response timeoutMs deadline
              (poll :: others) =
                observeLoop parse numberText baselineText response timeoutMs deadline others := by
            intro others
            rw [observeLoop, hroot]
            dsimp only
            rw [hunknown]
            exact if_neg htime
          refine ⟨poll :: earlier, last, later, root', congrArg (poll :: ·) hpolls, hlast, ?_, ?_, hreport⟩
          · rw [hstep]
            exact hearlier
          · rw [List.cons_append, hstep]
            exact hupto
      · next report hreport =>
        have hsubmitted := Option.some.inj h
        refine ⟨[], poll, rest, root, rfl, hroot, rfl, ?_, hsubmitted⟩
        rw [List.nil_append, observeLoop, hroot]
        dsimp only
        rw [hsubmitted]

end

/-! ## New evidence -/

def ShowsConfirmation (text : String) : Prop := Regex.firstMatch confirmationPhrases text ≠ none

def ShowsReference (text : String) : Prop := receiptReferencePattern.occurs text = true

def ShowsFormError (text : String) : Prop := Regex.firstMatch formErrorPhrases text ≠ none

def Poll.ErrorsObserved (poll : Poll) : Prop :=
  ∀ root, poll.document = .ok root → ShowsFormError (pageText root) →
    ShowsFormError (extractSubmissionSignals root).text

structure NewEvidence (before root : CdpDomNode) (kind : SubmissionEvidenceKind) : Prop where
  confirmation : kind = .confirmationPage → ¬ ShowsConfirmation (pageText before)
  reference : kind = .receiptReference → ¬ ShowsReference (pageText before)
  unmarked : ∀ text, Mark.errorMarker text ∉ walk root
  unworded : ¬ ShowsFormError (pageText root)
  formGone : Mark.submitControl ∉ walk root

def readBefore (before : CdpDomNode) : (failure : Option String) → Except String CdpDomNode
  | none => .ok before
  | some message => .error message

section

variable (parse : String → Option Json) (numberText : Number → String)

/-- The observer returns a report after so many reads, and the last of them is of this page. -/
def DecidedOn (options : ObserveOptions) (start : ℤ) (polls : List Poll) (e : Executor)
    (report : SubmissionOutcomeReport) (root : CdpDomNode) : Prop :=
  ∃ earlier poll later, polls = earlier ++ poll :: later ∧ poll.document = .ok root ∧
    observeSubmissionOutcome parse numberText options start earlier e = .ok none ∧
    observeSubmissionOutcome parse numberText options start (earlier ++ [poll]) e = .ok (some report)

def EvidenceIsNew (before : CdpDomNode) (failure : Option String) : Prop :=
  ∀ (e e' : Executor) (controlRef : String) (pageState : Except String String)
    (click : ℕ → Except String Unit),
    submit controlRef ⟨pageState, readBefore before failure, click⟩ e = (.ok (), e') →
    ∀ (options : ObserveOptions) (start : ℤ) (polls : List Poll), (∀ poll ∈ polls, poll.ErrorsObserved) →
    ∀ (evidence : SubmissionEvidence) (detail observedAt : String),
      observeSubmissionOutcome parse numberText options start polls e' =
        .ok (some (.submitted evidence detail observedAt)) →
      evidence.kind = .confirmationPage ∨ evidence.kind = .receiptReference →
      ∃ root, DecidedOn parse numberText options start polls e' (.submitted evidence detail observedAt) root ∧
        NewEvidence before root evidence.kind

end

structure Discounted (before : CdpDomNode) (failure : Option String) : Prop where
  confirmation : ShowsConfirmation (pageText before) →
    ShowsConfirmation (preSubmitText (readBefore before failure))
  reference : ShowsReference (pageText before) →
    ShowsReference (preSubmitText (readBefore before failure))

variable {parse : String → Option Json} {numberText : Number → String} {before : CdpDomNode}
  {failure : Option String}

lemma not_showsConfirmation_empty : ¬ ShowsConfirmation "" := by
  intro h
  exact h (by decide)

lemma preSubmitPageText_submit {controlRef : String} {reads : SubmitReads} {e e' : Executor}
    (h : submit controlRef reads e = (.ok (), e')) :
    e'.preSubmitPageText = some (preSubmitText reads.document) := by
  unfold submit at h
  split at h
  · exact absurd (congrArg Prod.fst h) nofun
  · obtain ⟨-, rfl⟩ := Prod.mk.inj h
    rfl

lemma evidenceIsNew_of_discounted (h : Discounted before failure) :
    EvidenceIsNew parse numberText before failure := by
  intro e e' controlRef pageState click hclick options start polls hobserved evidence detail observedAt
    hverdict hkind
  have hkept := preSubmitPageText_submit hclick
  have hrun : ∀ polls, observeSubmissionOutcome parse numberText options start polls e' =
      .ok (observeLoop parse numberText (preSubmitText (readBefore before failure)) options.response
        (max 0 (options.timeoutMs.getD submissionObserveTimeoutMs))
        (start + max 0 (options.timeoutMs.getD submissionObserveTimeoutMs)) polls) := by
    intro polls
    rw [observeSubmissionOutcome, hkept]
  rw [hrun] at hverdict
  obtain ⟨earlier, poll, later, root, hpolls, hroot, hearlier, hupto, hreport⟩ :=
    of_observeLoop (Except.ok.inj hverdict)
  have hmem : poll ∈ polls := hpolls ▸ List.mem_append_right _ List.mem_cons_self
  have hpage : evidence.kind ≠ .deliveryReceipt := by
    rcases hkind with hkind | hkind <;> rw [hkind] <;> decide
  obtain ⟨hmarkers, hworded, hform, hnew⟩ := of_classifySubmissionOutcome hreport hpage
  refine ⟨root, ⟨earlier, poll, later, hpolls, hroot, ?_, ?_⟩, ?_, ?_, ?_, ?_, ?_⟩
  · rw [hrun, hearlier]
  · rw [hrun, hupto]
  · intro hkind hshows
    rcases hnew with ⟨-, hnew⟩ | ⟨hother, -⟩
    · exact h.confirmation hshows hnew
    · exact absurd (hkind.symm.trans hother) (by decide)
  · intro hkind hshows
    rcases hnew with ⟨hother, -⟩ | ⟨-, hnew⟩
    · exact absurd (hkind.symm.trans hother) (by decide)
    · exact absurd (h.reference hshows) (by
        show receiptReferencePattern.occurs _ ≠ true
        rw [hnew]
        decide)
  · -- every marker that is collected says something, so that there is none
    refine errorMarkers_eq_nil.mp (List.eq_nil_iff_forall_not_mem.mpr fun text hmem => ?_)
    refine absurd (List.filter_eq_nil_iff.mp hmarkers (trim text) (List.mem_map_of_mem hmem)) ?_
    simpa using trim_ne_empty_of_mem_errorMarkers hmem
  · intro hshows
    exact hobserved poll hmem root hroot hshows hworded
  · exact formStillPresent_eq_false.mp hform

/-! ## When evidence is new -/

def sentencePage (sentence : String) : CdpDomNode :=
  .node "#document" 9 [] [.node "#text" 3 [] [] sentence none] "" none

def pollOf (root : CdpDomNode) : Poll := ⟨.ok root, "t", 0, "t"⟩

def readyExecutor : Executor where
  policy := ⟨"p", [.submit], false, false, false, false⟩
  currentSnapshot := some ⟨false, "f", [⟨"c", "Submit"⟩]⟩
  nodeIds := [("c", 1)]
  preSubmitPageText := none

lemma submit_readyExecutor (document : Except String CdpDomNode) :
    submit "c" ⟨.ok "f", document, fun _ => .ok ()⟩ readyExecutor =
      (.ok (), { readyExecutor with preSubmitPageText := some (preSubmitText document) }) := by
  have htarget : readyExecutor.clickTarget "c" (.ok "f") = .ok 1 := by decide +kernel
  unfold submit
  rw [htarget]
  rfl

lemma sentence_is_new (h : EvidenceIsNew parse numberText before failure) {sentence : String}
    (hclean : ¬ ShowsFormError (pageText (sentencePage sentence))) {evidence : SubmissionEvidence} {detail : String}
    (hreport : reportOn parse numberText (preSubmitText (readBefore before failure)) none
      (sentencePage sentence) "t" = .submitted evidence detail "t")
    (hkind : evidence.kind = .confirmationPage ∨ evidence.kind = .receiptReference) :
    ∃ root, NewEvidence before root evidence.kind := by
  have hobserved : ∀ poll ∈ [pollOf (sentencePage sentence)], poll.ErrorsObserved := by
    intro poll hmem root hroot hshows
    rw [List.mem_singleton.mp hmem] at hroot
    exact absurd (Except.ok.inj hroot ▸ hshows) hclean
  obtain ⟨root, -, hnew⟩ := h _ _ _ _ _ (submit_readyExecutor _) ⟨none, none⟩ 0 _ hobserved evidence detail "t"
    (by
      show Except.ok (observeLoop parse numberText _ none _ _ [pollOf (sentencePage sentence)]) = _
      rw [observeLoop]
      show Except.ok (match reportOn parse numberText (preSubmitText (readBefore before failure)) none
        (sentencePage sentence) "t" with
        | .unknown _ detail _ => _
        | report => some report) = _
      rw [hreport]) hkind
  exact ⟨root, hnew⟩

variable {kept : String}

lemma reads_received :
    extractSubmissionSignals (sentencePage "Application received") = ⟨"Application received", false, []⟩ ∧
      pageText (sentencePage "Application received") = "Application received" ∧
      Regex.firstMatch formErrorPhrases "Application received" = none ∧
      Regex.firstMatch confirmationPhrases "Application received" = some "Application received" ∧
      truncate "Application received" = "Application received" := by
  decide +kernel

lemma reads_receipt :
    extractSubmissionSignals (sentencePage "receipt:A1B2C3") = ⟨"receipt:A1B2C3", false, []⟩ ∧
      pageText (sentencePage "receipt:A1B2C3") = "receipt:A1B2C3" ∧
      Regex.firstMatch formErrorPhrases "receipt:A1B2C3" = none ∧
      Regex.firstMatch confirmationPhrases "receipt:A1B2C3" = none ∧
      receiptReferencePattern.exec "receipt:A1B2C3" = some "receipt:A1B2C3" ∧
      truncate "receipt:A1B2C3" = "receipt:A1B2C3" := by
  decide +kernel

lemma reportOn_confirmation (h : ¬ ShowsConfirmation kept) :
    ∃ detail, reportOn parse numberText kept none (sentencePage "Application received") "t" =
      .submitted ⟨.confirmationPage, "Application received"⟩ detail "t" := by
  obtain ⟨hsignals, -, hclean, hconfirmation, hreference⟩ := reads_received
  have hkept : Regex.firstMatch confirmationPhrases kept = none := not_not.mp h
  refine ⟨"the page replaced the application form with a confirmation this attempt had not shown before the click",
    ?_⟩
  simp [reportOn, hsignals, classifySubmissionOutcome, markerText, hclean, pageEvidence,
    pageEvidence.confirmation, hconfirmation, hkept, hreference]

lemma reportOn_reference (h : ¬ ShowsReference kept) :
    ∃ detail, reportOn parse numberText kept none (sentencePage "receipt:A1B2C3") "t" =
      .submitted ⟨.receiptReference, "receipt:A1B2C3"⟩ detail "t" := by
  obtain ⟨hsignals, -, hclean, hconfirmation, hmatch, hreference⟩ := reads_receipt
  have hkept : receiptReferencePattern.occurs kept = false := Bool.eq_false_iff.mpr h
  refine ⟨"the page printed a receipt reference this attempt had not shown before the click", ?_⟩
  simp [reportOn, hsignals, classifySubmissionOutcome, markerText, hclean, pageEvidence,
    pageEvidence.confirmation, pageEvidence.pageReference, hconfirmation, hmatch, hkept, hreference]

lemma EvidenceIsNew.showsConfirmation (h : EvidenceIsNew parse numberText before failure)
    (hbefore : ShowsConfirmation (pageText before)) :
    ShowsConfirmation (preSubmitText (readBefore before failure)) := by
  by_contra hkept
  obtain ⟨detail, hreport⟩ := reportOn_confirmation hkept
  obtain ⟨-, htext, hclean, -, -⟩ := reads_received
  obtain ⟨root, hnew⟩ := sentence_is_new h (by rw [htext]; exact fun hshows => hshows hclean) hreport (.inl rfl)
  exact hnew.confirmation rfl hbefore

lemma EvidenceIsNew.showsReference (h : EvidenceIsNew parse numberText before failure)
    (hbefore : ShowsReference (pageText before)) :
    ShowsReference (preSubmitText (readBefore before failure)) := by
  by_contra hkept
  obtain ⟨detail, hreport⟩ := reportOn_reference hkept
  obtain ⟨-, htext, hclean, -, -, -⟩ := reads_receipt
  obtain ⟨root, hnew⟩ := sentence_is_new h (by rw [htext]; exact fun hshows => hshows hclean) hreport (.inr rfl)
  exact hnew.reference rfl hbefore

/-- **Evidence is new** just if what was kept of the page before the click discounts all that it showed. -/
theorem evidenceIsNew_iff (parse : String → Option Json) (numberText : Number → String) (before : CdpDomNode)
    (failure : Option String) :
    EvidenceIsNew parse numberText before failure ↔ Discounted before failure := by
  constructor
  · intro h
    exact ⟨h.showsConfirmation, h.showsReference⟩
  · exact evidenceIsNew_of_discounted

def thankingPage : CdpDomNode :=
  .node "#document" 9 [] [.node "H1" 1 [] [.node "#text" 3 [] [] "Thank you for applying" none] "" none,
    .node "BUTTON" 1 [] [.node "#text" 3 [] [] "Submit" none] "" none] "" none

/-- The read of that page fails before the click. -/
theorem not_evidenceIsNew_thankingPage :
    ¬ EvidenceIsNew (fun _ => none) (fun _ => "") thankingPage (some "timed out") := by
  intro h
  have hbefore : ShowsConfirmation (pageText thankingPage) := by
    unfold ShowsConfirmation
    decide +kernel
  exact not_showsConfirmation_empty (h.showsConfirmation hbefore)

end VacancyRadar.Submission
