import VacancyRadar.Coop.Alone
import VacancyRadar.Desktop.Cancel

/-!
# The cancel window and the page

An automatic submission waits for its cancel window, and `submitApplicationReview` refuses it when
the page is not the one that was reviewed.  What was reviewed is the current snapshot of the page,
and the eligibility check takes a new one right before, so that the comparison is between two
snapshots of the same firing.
-/

namespace VacancyRadar.Desktop

open Coop Data Workspace Prog

variable {x : ℕ} {control : String}

abbrev Answers : Type := (p : Port) → Except DesktopError p.wait.Rep

abbrev IsClick (o : Op) : Prop := o.isClick = true

/-! ## The documents -/

def readText (answer : Answers) (site : Site) (artifact : Artifact) : Except DesktopError String :=
  match answer ⟨site, .artifactBytes artifact.id⟩ with
  | .error e => .error e
  | .ok bytes => answer ⟨site, .pdfText bytes⟩

def readTexts (answer : Answers) (site : Site) (artifacts : List Artifact) :
    Except DesktopError (String × Option String) :=
  let cv := match artifacts.find? fun a => a.kind = .cvPdf ∨ a.kind = .combinedPdf with
    | some artifact => readText answer site artifact
    | none => .ok ""
  let letter := match artifacts.find? fun a => a.kind = .coverLetterPdf with
    | some artifact => (readText answer site artifact).map some
    | none => .ok none
  match cv with
  | .error e => .error e
  | .ok cv => letter.map fun letter => (cv, letter)

def libraryHash (host : Host) (world : World) (attempt : Attempt) : Option String :=
  match attempt.sourceCvId with
  | none => some attempt.sourceCvContentHash
  | some cvId => (world.cvDocuments.find? fun cv => cv.id = cvId).map fun cv => host.sha256 cv.text

def DocumentsPass (host : Host) (answer : Answers) (site : Site) (review : ℕ) (attempt : Attempt)
    (s : State) : Prop :=
  ∃ readiness cvHash cvText letterText,
    answer ⟨site, .readiness review⟩ = .ok readiness ∧ readiness.ready = true ∧
    libraryHash host s.world attempt = some cvHash ∧
    readTexts answer site (s.db.listApplicationArtifacts attempt.id) = .ok (cvText, letterText) ∧
    host.runPreSubmitGate attempt cvHash (host.sha256 attempt.jdSnapshot) cvText letterText = none

section Alone

variable {host : Host} {answer : Answers} {site : Site} {s t : State} {α β : Type}

lemma alone_op (a : Op) : (op a).alone Op.run answer s = Op.run a s :=
  alone_exec (S := sig) a s

lemma alone_ask (wait : Wait) : (ask site wait).alone Op.run answer s = (s, answer ⟨site, wait⟩) :=
  alone_wait (S := sig) ⟨site, wait⟩ s

lemma alone_documentText (artifact : Artifact) :
    (documentText site artifact).alone Op.run answer s = (s, readText answer site artifact) := by
  rw [documentText, alone_bind, alone_ask, readText]
  cases answer ⟨site, .artifactBytes artifact.id⟩ with
  | error e => rfl
  | ok bytes => exact alone_ask _

lemma alone_documentTexts (artifacts : List Artifact) :
    (documentTexts site artifacts).alone Op.run answer s =
      (s, readTexts answer site artifacts) := by
  unfold documentTexts readTexts
  extract_lets withCv cv letter
  have hrest : ∀ cv, (withCv cv).alone Op.run answer s =
      (s, letter.map fun letter => (cv, letter)) := by
    intro cv
    simp only [withCv, letter]
    cases artifacts.find? fun a : Artifact => a.kind = .coverLetterPdf with
    | none => rfl
    | some artifact =>
      dsimp only
      rw [alone_bind, alone_map, alone_documentText]
      cases readText answer site artifact <;> rfl
  simp only [cv]
  cases artifacts.find? fun a : Artifact => a.kind = .cvPdf ∨ a.kind = .combinedPdf with
  | none => exact hrest ""
  | some artifact =>
    dsimp only
    rw [alone_bind, alone_documentText]
    cases readText answer site artifact with
    | error e => rfl
    | ok text => exact hrest text

lemma alone_currentCvHash (attempt : Attempt) :
    ∃ refusal, (currentCvHash host attempt).alone Op.run answer s = (s, .ok
      (match libraryHash host s.world attempt with
        | some hash => .inr hash
        | none => .inl refusal)) := by
  unfold currentCvHash libraryHash
  cases attempt.sourceCvId with
  | none => exact ⟨refuse .sourceCvNotFound "", rfl⟩
  | some cvId =>
    refine ⟨refuse .sourceCvNotFound ("the source CV (" ++ cvId ++
      ") used for this attempt no longer exists in the library"), ?_⟩
    rw [alone_bind, alone_op]
    simp only [Op.run, thenAlone]
    cases s.world.cvDocuments.find? fun cv => cv.id = cvId <;> rfl

lemma alone_checkDocuments (review : Review) (attempt : Attempt) :
    ∃ r, (checkDocuments host site attempt.id false review attempt).alone Op.run answer s = (s, r) ∧
      (r = .ok none ↔ DocumentsPass host answer site review.id attempt s) := by
  unfold checkDocuments DocumentsPass
  rw [alone_bind, alone_ask]
  cases answer ⟨site, .readiness review.id⟩ with
  | error e =>
    refine ⟨.error e, rfl, by rintro ⟨⟩, ?_⟩
    rintro ⟨readiness, cvHash, cvText, letterText, ⟨⟩, -⟩
  | ok readiness =>
    dsimp only [thenAlone]
    cases hready : readiness.ready with
    | false =>
      refine ⟨_, rfl, by rintro ⟨⟩, ?_⟩
      rintro ⟨readiness', cvHash, cvText, letterText, ⟨⟩, htrue, -⟩
      rw [hready] at htrue
      cases htrue
    | true =>
      simp only [Bool.not_true, Bool.false_eq_true, if_false]
      obtain ⟨refusal, hcv⟩ := @alone_currentCvHash host answer s attempt
      rw [alone_bind, hcv]
      cases hhash : libraryHash host s.world attempt with
      | none =>
        refine ⟨_, rfl, by rintro ⟨⟩, ?_⟩
        rintro ⟨readiness', cvHash, cvText, letterText, -, -, ⟨⟩, -⟩
      | some cvHash =>
        dsimp only [thenAlone]
        rw [alone_bind, alone_op]
        simp only [Op.run, thenAlone]
        rw [alone_bind, alone_attempt, alone_documentTexts]
        dsimp only [thenAlone]
        cases htexts : readTexts answer site (s.db.listApplicationArtifacts attempt.id) with
        | error e =>
          cases e <;> (
            refine ⟨_, rfl, by rintro ⟨⟩, ?_⟩
            rintro ⟨readiness', cvHash, cvText, letterText, -, -, -, ⟨⟩, -⟩)
        | ok texts =>
          obtain ⟨cvText, letterText⟩ := texts
          dsimp only
          cases hgate : host.runPreSubmitGate attempt cvHash (host.sha256 attempt.jdSnapshot) cvText
              letterText with
          | some refusal =>
            refine ⟨_, rfl, by rintro ⟨⟩, ?_⟩
            rintro ⟨readiness', cvHash', cvText', letterText', -, -, ⟨⟩, ⟨⟩, hnone⟩
            rw [hgate] at hnone
            cases hnone
          | none =>
            refine ⟨.ok none, rfl, fun _ => ?_, fun _ => rfl⟩
            exact ⟨readiness, cvHash, cvText, letterText, rfl, hready, rfl, rfl, hgate⟩

/-! ## The page -/

abbrev snapped (s : State) (review : ℕ) (page : FormSnapshot) : State :=
  (Op.run (.setSnapshot review page) s).1

lemma alone_snapshot (review : ℕ) :
    (snapshot site review).alone Op.run answer s =
      match answer ⟨site, .snapshot review⟩ with
      | .error e => (s, .error e)
      | .ok page => (snapped s review page, .ok page) := by
  rw [snapshot, alone_call, alone_bind, alone_ask]
  cases answer ⟨site, .snapshot review⟩ <;> rfl

lemma alone_getAttempt (x : ℕ) :
    (op (.getAttempt x)).alone Op.run answer s =
      (s, match s.attempt? x with
        | some a => .ok a
        | none => .error (.workspace (.attemptNotFound x))) := by
  rw [alone_op]
  simp only [Op.run, Database.getApplicationAttempt, State.attempt?]
  cases s.db.attempts.get? x <;> rfl

structure EligiblePasses (host : Host) (answer : Answers) (site : Site) (x : ℕ) (now : ℤ)
    (s : State) (review : Review) (first : FormSnapshot) : Prop where
  opened : s.activeReview x = some review
  row : ∃ row, s.attempt? x = some row ∧
    row.checkpoint ∉ Checkpoint.submitting :: Checkpoint.completed ∧
    guardrails host row s.db.listApplicationAttempts s.world first now = none
  taken : answer ⟨site, .snapshot review.id⟩ = .ok first

lemma alone_eligibility {now : ℤ} :
    (checkAutomaticSubmissionEligibility host site x now).alone Op.run answer s = (t, .ok none) ↔
      ∃ review first, EligiblePasses host answer site x now s review first ∧
        t = snapped s review.id first := by
  unfold checkAutomaticSubmissionEligibility
  rw [alone_bind, alone_op]
  simp only [Op.run, thenAlone]
  cases hreview : s.activeReview x with
  | none =>
    refine ⟨by rintro ⟨⟩, ?_⟩
    rintro ⟨review, first, ⟨hopened, -, -⟩, -⟩
    rw [hreview] at hopened
    cases hopened
  | some review =>
    rw [alone_bind, alone_getAttempt]
    cases hrow : s.attempt? x with
    | none =>
      refine ⟨by rintro ⟨⟩, ?_⟩
      rintro ⟨review', first, ⟨-, ⟨row, hrow', -⟩, -⟩, -⟩
      rw [hrow] at hrow'
      cases hrow'
    | some row =>
      dsimp only [thenAlone]
      by_cases hcp : row.checkpoint ∈ Checkpoint.submitting :: Checkpoint.completed
      · rw [if_pos hcp]
        refine ⟨by rintro ⟨⟩, ?_⟩
        rintro ⟨review', first, ⟨-, ⟨row', hrow', hcp', -⟩, -⟩, -⟩
        rw [hrow] at hrow'
        cases hrow'
        exact absurd hcp hcp'
      · rw [if_neg hcp, alone_bind, alone_snapshot]
        cases htaken : answer ⟨site, .snapshot review.id⟩ with
        | error e =>
          refine ⟨by rintro ⟨⟩, ?_⟩
          rintro ⟨review', first, ⟨hopened, -, htaken'⟩, -⟩
          rw [hreview] at hopened
          cases hopened
          rw [htaken] at htaken'
          cases htaken'
        | ok first =>
          change (snapped s review.id first, Except.ok
            (guardrails host row s.db.listApplicationAttempts s.world first now)) = _ ↔ _
          constructor
          · intro heq
            obtain ⟨ht, hguard⟩ := Prod.mk.inj heq
            refine ⟨review, first, ⟨hreview, ⟨row, hrow, hcp, ?_⟩, htaken⟩, ht.symm⟩
            exact Except.ok.inj hguard
          · rintro ⟨review', first', ⟨hopened, ⟨row', hrow', -, hguard⟩, htaken'⟩, rfl⟩
            rw [hreview] at hopened
            cases hopened
            rw [htaken] at htaken'
            cases htaken'
            rw [hrow] at hrow'
            cases hrow'
            rw [hguard]

def reviewedOn (s : State) (review : ℕ) : Option String :=
  ((s.reviews.get? review).bind Review.currentSnapshot).map FormSnapshot.pageStateFingerprint

structure PagePasses (host : Host) (answer : Answers) (site : Site) (x : ℕ) (s : State)
    (review : ℕ) (page : FormSnapshot) (control : String) (row : Attempt) : Prop where
  taken : answer ⟨site, .snapshot review⟩ = .ok page
  human : page.challengeDetected = false
  same : ∀ f ∈ reviewedOn s review, f = page.pageStateFingerprint
  control : host.resolveSubmitControl page.submitControls = some control
  found : s.attempt? x = some row
  unsent : row.checkpoint ∉ Checkpoint.submitting :: Checkpoint.completed

lemma sent_cases (c : Checkpoint) : c ∈ Checkpoint.submitting :: Checkpoint.completed ↔
    c ∈ [Checkpoint.submitted, .submitting, .userReported] ∨ c = .submissionUnknown := by
  cases c <;> decide

variable {page : FormSnapshot} {review : Review} {row : Attempt} {firing : Option ℕ}

lemma alone_checkPage : (checkPage host site x .automatic review).alone Op.run answer s =
        (t, .ok (.inr (page, control, row))) ↔
      PagePasses host answer site x s review.id page control row ∧
        t = snapped s review.id page := by
  unfold checkPage
  rw [alone_bind, alone_op]
  simp only [Op.run, thenAlone, if_true]
  rw [alone_bind, alone_map, alone_snapshot]
  cases htaken : answer ⟨site, .snapshot review.id⟩ with
  | error e =>
    refine ⟨by rintro ⟨⟩, ?_⟩
    rintro ⟨⟨htaken', -⟩, -⟩
    rw [htaken] at htaken'
    cases htaken'
  | ok taken =>
    dsimp only [thenAlone, Except.map]
    by_cases hhuman : taken.challengeDetected = true
    · rw [if_pos hhuman]
      refine ⟨by rintro ⟨⟩, ?_⟩
      rintro ⟨⟨htaken', hhuman', -⟩, -⟩
      rw [htaken] at htaken'
      cases htaken'
      rw [hhuman] at hhuman'
      cases hhuman'
    · have hreviewed : ((s.reviews.get? review.id).bind Review.currentSnapshot).map
        FormSnapshot.pageStateFingerprint = reviewedOn s review.id := rfl
      rw [if_neg hhuman, hreviewed]
      by_cases hsame : True ∧ reviewedOn s review.id ≠ none ∧
          reviewedOn s review.id ≠ some taken.pageStateFingerprint
      · rw [if_pos hsame]
        refine ⟨by rintro ⟨⟩, ?_⟩
        rintro ⟨⟨htaken', -, hsame', -⟩, -⟩
        rw [htaken] at htaken'
        cases htaken'
        obtain ⟨f, hf⟩ := Option.ne_none_iff_exists'.mp hsame.2.1
        rw [hsame' f hf] at hf
        exact absurd hf hsame.2.2
      · rw [if_neg hsame]
        have hmatch : ∀ f ∈ reviewedOn s review.id, f = taken.pageStateFingerprint := by
          intro f hf
          by_contra hne
          refine hsame ⟨trivial, ?_, ?_⟩ <;> rw [hf]
          · rintro ⟨⟩
          · exact fun heq => hne (Option.some.inj heq)
        cases hcontrol : host.resolveSubmitControl taken.submitControls with
        | none =>
          refine ⟨by rintro ⟨⟩, ?_⟩
          rintro ⟨⟨htaken', -, -, hcontrol', -⟩, -⟩
          rw [htaken] at htaken'
          cases htaken'
          rw [hcontrol] at hcontrol'
          cases hcontrol'
        | some found =>
          rw [alone_bind, alone_getAttempt]
          have hsnapped : (snapped s review.id taken).attempt? x = s.attempt? x := rfl
          rw [hsnapped]
          cases hrow : s.attempt? x with
          | none =>
            refine ⟨by rintro ⟨⟩, ?_⟩
            rintro ⟨⟨-, -, -, -, hrow', -⟩, -⟩
            rw [hrow] at hrow'
            cases hrow'
          | some a =>
            dsimp only [thenAlone]
            have hrefused : a.checkpoint ∈ Checkpoint.submitting :: Checkpoint.completed →
                ¬(PagePasses host answer site x s review.id page control row ∧
                  t = snapped s review.id page) := by
              rintro hsent ⟨⟨-, -, -, -, hrow', hunsent⟩, -⟩
              rw [hrow] at hrow'
              cases hrow'
              exact hunsent hsent
            split
            · rename_i h₁
              exact ⟨by rintro ⟨⟩, fun h => absurd h (hrefused ((sent_cases _).mpr (.inl h₁)))⟩
            · rename_i h₁
              split
              · rename_i h₂
                exact ⟨by rintro ⟨⟩, fun h => absurd h (hrefused ((sent_cases _).mpr (.inr h₂)))⟩
              · rename_i h₂
                have hunsent := mt (sent_cases a.checkpoint).mp (not_or.mpr ⟨h₁, h₂⟩)
                constructor
                · intro heq
                  cases heq
                  exact ⟨⟨htaken, Bool.eq_false_iff.mpr hhuman, hmatch, hcontrol, hrow, hunsent⟩,
                    rfl⟩
                · rintro ⟨⟨htaken', -, -, hcontrol', hrow', -⟩, rfl⟩
                  rw [htaken] at htaken'
                  cases htaken'
                  rw [hcontrol] at hcontrol'
                  cases hcontrol'
                  rw [hrow] at hrow'
                  cases hrow'
                  rfl

/-! ## The click -/

lemma does_after {x : Run α} (hx : Idle x) (f : α → Run β) :
    (x >>= f).Does Op.run answer IsClick s ↔
      ∃ t a, x.alone Op.run answer s = (t, .ok a) ∧ (f a).Does Op.run answer IsClick t :=
  does_bind_of_uses hx (fun _ ho => Bool.eq_false_iff.mp ho) f s

lemma does_clickSubmit {mode : SubmissionMode} (hrow : s.attempt? x = some row)
    (hunsent : row.checkpoint ∉ Checkpoint.submitting :: Checkpoint.completed) :
    (clickSubmit host site x mode firing review page control).Does Op.run answer IsClick s := by
  have hpatch : Database.unexplained { checkpoint := some .submitting } row = none := by
    refine if_neg ?_
    rintro ⟨-, hdone, -⟩
    exact hunsent (List.mem_cons_of_mem _ hdone)
  have hupdate : ∃ t a, (op (.updateAttempt x { checkpoint := some .submitting })).alone Op.run
      answer s = (t, .ok a) := by
    rw [State.attempt?] at hrow
    rw [alone_op]
    simp only [Op.run, State.onDb, Database.updateApplicationAttempt, hrow, hpatch]
    exact ⟨_, _, rfl⟩
  obtain ⟨t, a, ht⟩ := hupdate
  unfold clickSubmit
  rw [does_after (idle_op rfl)]
  refine ⟨t, a, ht, ?_⟩
  rw [does_bind]
  exact .inl ((does_exec (S := sig) _ _).mpr rfl)

lemma does_submitReserved (hsite : site.isWorker = false) :
    (submitReserved host site x .automatic false firing review).Does Op.run answer IsClick s ↔
      ∃ page control row, PagePasses host answer site x s review.id page control row ∧
        DocumentsPass host answer site review.id row s := by
  have hidle : ∀ row, Idle (checkDocuments host site x false review row) := fun row =>
    idle_of_page (x := 0) hsite (uses_checkDocuments.mono (fun _ h => PageOp.of_read h)
      fun _ h => h)
  unfold submitReserved
  rw [does_after (idle_of_page hsite (uses_checkPage (x := 0)))]
  constructor
  · rintro ⟨t, found, hpage, hdoes⟩
    cases found with
    | inl refusal => exact False.elim hdoes
    | inr found =>
      obtain ⟨page, control, row⟩ := found
      obtain ⟨hpasses, rfl⟩ := alone_checkPage.mp hpage
      have hid : row.id = x := s.db.attempts.key_of_get? hpasses.found
      refine ⟨page, control, row, hpasses, ?_⟩
      rw [does_after (hidle row)] at hdoes
      obtain ⟨u, refusal, hdocuments, hdoes⟩ := hdoes
      obtain ⟨r, hr, hiff⟩ := @alone_checkDocuments host answer site (snapped s review.id page)
        review row
      rw [← hid, hr] at hdocuments
      cases hdocuments
      cases refusal with
      | some refusal => exact False.elim hdoes
      | none => exact hiff.mp rfl
  · rintro ⟨page, control, row, hpasses, hdocuments⟩
    have hid : row.id = x := s.db.attempts.key_of_get? hpasses.found
    refine ⟨_, _, alone_checkPage.mpr ⟨hpasses, rfl⟩, ?_⟩
    rw [does_after (hidle row)]
    obtain ⟨r, hr, hiff⟩ := @alone_checkDocuments host answer site (snapped s review.id page)
      review row
    rw [hiff.mpr hdocuments] at hr
    rw [hid] at hr
    exact ⟨_, none, hr, does_clickSubmit hpasses.found hpasses.unsent⟩

lemma does_submitApplicationReview (hsite : site.isWorker = false)
    (hopened : s.activeReview x = some review) :
    (submitApplicationReview host site x .automatic false firing).Does Op.run answer IsClick s ↔
      x ∉ s.submittingAttemptIds ∧ s.handoffAttemptId ≠ some x ∧
      ∃ page control row, PagePasses host answer site x s review.id page control row ∧
        DocumentsPass host answer site review.id row s := by
  unfold submitApplicationReview
  have hstep : ∀ {γ : Type} (a : Op) (ha : NoClick a) (f : a.Res → Run γ) (u : State) (r : a.Res),
      Op.run a s = (u, .ok r) → ((op a >>= f).Does Op.run answer IsClick s ↔
        (f r).Does Op.run answer IsClick u) := by
    intro γ a ha f u r hrun
    rw [does_after (idle_op ha), alone_op, hrun]
    constructor
    · rintro ⟨_, _, ⟨⟩, h⟩
      exact h
    · exact fun h => ⟨u, r, rfl, h⟩
  rw [hstep (.activeReview x) rfl _ s (some review) (by rw [← hopened]; rfl)]
  rw [hstep (.isSubmitting x) rfl _ s _ rfl]
  by_cases hbusy : x ∈ s.submittingAttemptIds
  · rw [if_pos (List.contains_iff_mem.mpr hbusy)]
    exact ⟨False.elim, fun h => absurd hbusy h.1⟩
  · rw [if_neg (mt List.contains_iff_mem.mp hbusy), hstep .handoff rfl _ s _ rfl]
    by_cases hshown : s.handoffAttemptId = some x
    · rw [if_pos hshown]
      exact ⟨False.elim, fun h => absurd hshown h.2.1⟩
    · rw [if_neg hshown, hstep (.beginSubmit x) rfl _ _ () rfl,
        does_andFinally_of_uses (S := sig) _ (idle_op rfl) fun _ ho => Bool.eq_false_iff.mp ho,
        does_submitReserved hsite]
      constructor
      · rintro ⟨page, control, row, hpage, hdocuments⟩
        refine ⟨hbusy, hshown, page, control, row, ?_, hdocuments⟩
        exact ⟨hpage.taken, hpage.human, hpage.same, hpage.control, hpage.found, hpage.unsent⟩
      · rintro ⟨-, -, page, control, row, hpage, hdocuments⟩
        refine ⟨page, control, row, ?_, hdocuments⟩
        exact ⟨hpage.taken, hpage.human, hpage.same, hpage.control, hpage.found, hpage.unsent⟩

end Alone

/-! ## The firing -/

abbrev unscheduled (s : State) (x : ℕ) : State :=
  (Op.run (.updateAttempt x { scheduledAutomaticSubmitAt := some none }) s).1

structure Sends (host : Host) (answer : Answers) (now : ℤ) (firing : Firing) (attempt : Attempt)
    (s : State) (review : Review) (first page : FormSnapshot) : Prop where
  inTime : now - attempt.scheduledAutomaticSubmitAt.getD 0 ≤ automaticSubmitCancelWindowMs
  eligible : EligiblePasses host answer (.eligible attempt.id (some firing)) attempt.id now
    (unscheduled s attempt.id) review first
  free : attempt.id ∉ s.submittingAttemptIds
  unshown : s.handoffAttemptId ≠ some attempt.id
  passes : ∃ control row,
    PagePasses host answer (.submit attempt.id (some firing)) attempt.id
      (snapped (unscheduled s attempt.id) review.id first) review.id page control row ∧
    DocumentsPass host answer (.submit attempt.id (some firing)) review.id row
      (unscheduled s attempt.id)

section Firing

variable {host : Host} {answer : Answers} {now : ℤ} {firing : Firing} {attempt : Attempt}
  {s : State} {review : Review} {first page : FormSnapshot}

lemma review_snapped (h : s.reviews.get? review.id = some review) :
    (snapped s review.id first).reviews.get? review.id =
      some { review with currentSnapshot := some first } := by
  change (s.reviews.update review.id (fun r => { r with currentSnapshot := some first })
    fun _ => rfl).get? review.id = _
  rw [Table.get?_update, if_pos rfl, h]
  rfl

lemma review_of_activeReview (h : s.activeReview x = some review) :
    s.activeReviews x = some review.id ∧ s.reviews.get? review.id = some review := by
  obtain ⟨r, hr, hget⟩ := Option.bind_eq_some_iff.mp h
  have hid : review.id = r := Table.key_of_get? hget
  rw [hid]
  exact ⟨hr, hget⟩

lemma activeReview_snapped (h : s.activeReview x = some review) :
    (snapped s review.id first).activeReview x =
      some { review with currentSnapshot := some first } := by
  obtain ⟨hactive, hget⟩ := review_of_activeReview h
  have hactive' : (snapped s review.id first).activeReviews x = some review.id := hactive
  rw [State.activeReview, hactive']
  exact review_snapped hget

lemma update_of_row (h : (unscheduled s x).attempt? x ≠ none) :
    ∃ a, Op.run (.updateAttempt x { scheduledAutomaticSubmitAt := some none }) s =
      (unscheduled s x, .ok a) := by
  unfold unscheduled State.attempt? at *
  simp only [Op.run, State.onDb, Database.updateApplicationAttempt] at h ⊢
  cases hrow : s.db.attempts.get? x with
  | none =>
    simp only [hrow] at h
    exact absurd rfl h
  | some a => exact ⟨_, rfl⟩

/-- **The firing of an attempt** clicks exactly where all its checks pass. -/
lemma does_fireAttempt :
    (fireAttempt host now firing attempt).Does Op.run answer IsClick s ↔
      ∃ review first page, Sends host answer now firing attempt s review first page := by
  have heligible : Idle (inner (.eligible attempt.id (some firing))
      (checkAutomaticSubmissionEligibility host (.eligible attempt.id (some firing)) attempt.id
        now)) :=
    idle_of_page (x := 0) rfl (uses_inner uses_checkAutomaticSubmissionEligibility)
  have hsubmit : ∀ u : State, (inner (.submit attempt.id (some firing))
      (submitApplicationReview host (.submit attempt.id (some firing)) attempt.id .automatic false
        (some firing.number)) >>= fun _ => pure ()).Does Op.run answer IsClick u ↔
      (submitApplicationReview host (.submit attempt.id (some firing)) attempt.id .automatic false
        (some firing.number)).Does Op.run answer IsClick u := by
    intro u
    rw [does_bind, inner, does_call]
    refine or_iff_left ?_
    rintro ⟨_, _, -, h⟩
    exact h
  unfold fireAttempt
  rw [does_after (idle_op rfl)]
  constructor
  · rintro ⟨t, a, hupdate, hdoes⟩
    rw [alone_op] at hupdate
    have ht : t = unscheduled s attempt.id := (congrArg Prod.fst hupdate).symm
    subst ht
    by_cases hlate : automaticSubmitCancelWindowMs <
        now - attempt.scheduledAutomaticSubmitAt.getD 0
    · rw [if_pos hlate] at hdoes
      exact False.elim hdoes
    · rw [if_neg hlate] at hdoes
      replace hdoes := (does_after heligible _).mp hdoes
      obtain ⟨u, refused, hu, hdoes⟩ := hdoes
      cases refused with
      | some refusal => exact False.elim hdoes
      | none =>
        rw [inner, alone_call] at hu
        obtain ⟨review, first, hpasses, rfl⟩ := alone_eligibility.mp hu
        replace hdoes := (hsubmit _).mp hdoes
        rw [does_submitApplicationReview rfl (activeReview_snapped hpasses.opened)] at hdoes
        obtain ⟨hfree, hunshown, page, control, row, hpage, hdocuments⟩ := hdoes
        exact ⟨review, first, page, not_lt.mp hlate, hpasses, hfree, hunshown,
          control, row, hpage, hdocuments⟩
  · rintro ⟨review, first, page, hsends⟩
    obtain ⟨row, hrow, -⟩ := hsends.eligible.row
    obtain ⟨a, hupdate⟩ := update_of_row (by rw [hrow]; exact nofun)
    refine ⟨unscheduled s attempt.id, a, (alone_op _).trans hupdate, ?_⟩
    rw [if_neg (not_lt.mpr hsends.inTime)]
    refine (does_after heligible _).mpr
      ⟨snapped (unscheduled s attempt.id) review.id first, none, ?_, ?_⟩
    · rw [inner, alone_call]
      exact alone_eligibility.mpr ⟨review, first, hsends.eligible, rfl⟩
    · refine (hsubmit _).mpr ?_
      rw [does_submitApplicationReview rfl (activeReview_snapped hsends.eligible.opened)]
      obtain ⟨control, row, hpage, hdocuments⟩ := hsends.passes
      exact ⟨hsends.free, hsends.unshown, page, control, row, hpage, hdocuments⟩

end Firing

def WindowProtects (host : Host) (answer : Answers) (now : ℤ) (firing : Firing) (attempt : Attempt)
    (s : State) : Prop :=
  ∀ review page f, s.activeReview attempt.id = some review →
    answer ⟨.submit attempt.id (some firing), .snapshot review.id⟩ = .ok page →
    s.scheduledOn attempt.id = some f → f ≠ page.pageStateFingerprint →
    ¬(fireAttempt host now firing attempt).Does Op.run answer IsClick s

/-- **The cancel window protects exactly the pages on which another check fails.**  Wherever a
firing comes to an attempt, a page that is not the one that was scheduled is refused if and only if
no such page passes all the checks of the firing. -/
theorem window_protects_iff (host : Host) (answer : Answers) (now : ℤ) (firing : Firing)
    (attempt : Attempt) (s : State) :
    WindowProtects host answer now firing attempt s ↔
      ∀ review first page, Sends host answer now firing attempt s review first page →
        ∀ f, s.scheduledOn attempt.id = some f → f = page.pageStateFingerprint := by
  constructor
  · intro hprotects review first page hsends f hf
    by_contra hne
    obtain ⟨control, row, hpage, -⟩ := hsends.passes
    exact hprotects review page f hsends.eligible.opened hpage.taken hf hne
      (does_fireAttempt.mpr ⟨review, first, page, hsends⟩)
  · intro hunchanged review page f hopened htaken hf hne hdoes
    obtain ⟨review', first, page', hsends⟩ := does_fireAttempt.mp hdoes
    obtain ⟨control, row, hpage, -⟩ := hsends.passes
    -- Both readings are of the review that is open.
    have hreview : review' = review := by
      have hopened' : s.activeReview attempt.id = some review' := hsends.eligible.opened
      exact Option.some.inj (hopened'.symm.trans hopened)
    subst hreview
    have hpage' : page' = page := Except.ok.inj (hpage.taken.symm.trans htaken)
    subst hpage'
    exact hne (hunchanged _ first _ hsends f hf)

def sampleChanged : FormSnapshot := { samplePage with pageStateFingerprint := "changed" }

def changedAnswer (p : Port) : Except DesktopError p.wait.Rep :=
  match p with
  | ⟨_, .snapshot _⟩ => .ok sampleChanged
  | p => sampleAnswer 0 p

def scheduledBefore : List (System.Move sig Call) :=
  [.event (.call (.openReview { attemptId := 1, policyId := "policy", targetUrl := "jobs/1" })),
    .serve 0 5,
    .event (.call (.cancel 2)),
    .event (.call (.schedule 1)), .serve 2 3,
    .event (.call (.setClock automaticSubmitCancelWindowMs))]

abbrev dueAttempts (s : State) : List Attempt := s.db.listApplicationAttempts.filter (isDue s.clock)

/-- The page changes while the window is open, and the firing clicks. -/
theorem window_unprotected :
    ∃ c attempt, (desktop sampleHost).Reach SurroundsOnly (started sampleDueDb sampleWorld) c ∧
      dueAttempts c.shared = [attempt] ∧
      ¬WindowProtects sampleHost changedAnswer c.shared.clock ⟨c.shared.firings, []⟩ attempt
        c.shared := by
  have hrun : ((desktop sampleHost).play SurroundsOnly (sampleAnswer 0)
      (started sampleDueDb sampleWorld) scheduledBefore).map (fun c : Cfg sig State =>
        decide (∃ attempt ∈ dueAttempts c.shared, dueAttempts c.shared = [attempt] ∧
          (c.shared.activeReview attempt.id).isSome ∧
          c.shared.scheduledOn attempt.id = some "page" ∧
          (fireAttempt sampleHost c.shared.clock ⟨c.shared.firings, []⟩ attempt).Does Op.run
            changedAnswer IsClick c.shared)) = some true := by
    decide
  obtain ⟨c, hc, hclick⟩ := Option.map_eq_some_iff.mp hrun
  obtain ⟨attempt, -, hdue, hopened, hscheduled, hdoes⟩ := of_decide_eq_true hclick
  obtain ⟨review, hreview⟩ := Option.isSome_iff_exists.mp hopened
  refine ⟨c, attempt, System.Reach.of_play hc, hdue, fun hprotects => ?_⟩
  exact hprotects review sampleChanged "page" hreview rfl hscheduled (by decide) hdoes

end VacancyRadar.Desktop
