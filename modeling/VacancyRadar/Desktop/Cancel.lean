import VacancyRadar.Desktop.Clicks

/-!
# Cancelling a scheduled submission

A firing lists the attempts that are due once, at its beginning, and then works the list off with
several awaits for each of them.  A cancel clears the schedule of its attempt, and the schedule is
read only for the list.
-/

namespace VacancyRadar.Desktop

open Coop Data Workspace Prog

/-! ## Cancelled attempts -/

/-- The attempt was not cancelled since it was scheduled, and not since the firing `n` began. -/
def Spared (s : State) (n x : ℕ) : Prop :=
  x ∉ s.revoked ∧ ∀ q ∈ s.cancels, q.2 = x → q.1 ≤ n

instance (s : State) (n x : ℕ) : Decidable (Spared s n x) := inferInstanceAs (Decidable (_ ∧ _))

/-- The click of a firing is made for an attempt that was not cancelled. -/
def ClicksSpared (o : Op) (s : State) : Prop :=
  match o with
  | .click x (some n) => Spared s n x
  | _ => True

instance (o : Op) (s : State) : Decidable (ClicksSpared o s) := by
  unfold ClicksSpared
  split <;> infer_instance

def Unscheduled (s : State) (x : ℕ) : Prop :=
  ∀ a, s.attempt? x = some a → a.scheduledAutomaticSubmitAt = none

structure CancelInv (s : State) : Prop where
  before : ∀ q ∈ s.cancels, q.1 ≤ s.firings
  unscheduled : ∀ x ∈ s.revoked, Unscheduled s x

/-! ## Operations that spare -/

def SparingOp : Op → Prop
  | .cancelled _ | .scheduled _ | .beginFiring | .click _ (some _) => False
  | .updateAttempt _ patch => ∀ t, patch.scheduledAutomaticSubmitAt ≠ some (some t)
  | _ => True

lemma Rewrites.schedule {o : Op} {x : ℕ} {a b : Attempt} (h : Rewrites o x a b)
    (ho : SparingOp o) (ha : a.scheduledAutomaticSubmitAt = none) :
    b.scheduledAutomaticSubmitAt = none := by
  cases h with
  | @update _ _ patch _ =>
    change patch.scheduledAutomaticSubmitAt.getD a.scheduledAutomaticSubmitAt = none
    cases hpatch : patch.scheduledAutomaticSubmitAt with
    | none => exact ha
    | some time =>
      cases time with
      | none => rfl
      | some t => exact absurd hpatch (ho t)
  | settle => exact ha
  | restart => exact ha
  | prepared => exact ha
  | fetched => exact ha

variable {o : Op} {s s₀ t : State} {x : ℕ}

lemma Unscheduled.run (h : Unscheduled s x) (ho : SparingOp o) : Unscheduled (Op.run o s).1 x := by
  intro b hb
  cases ha : s.attempt? x with
  | none =>
    obtain ⟨input, identity, reapply, -, -, rfl, -⟩ := new_of_run ha hb
    rfl
  | some a =>
    obtain hrow | ⟨b', hrw, hb'⟩ := @row_of_run o s x a ha
    · rw [hb] at hrow
      cases hrow
      exact h _ ha
    · rw [hb] at hb'
      cases hb'
      exact hrw.schedule ho (h a ha)

/-- What an operation that spares leaves as it is. -/
structure SameCancels (s t : State) : Prop where
  cancels : t.cancels = s.cancels
  revoked : t.revoked = s.revoked
  firings : t.firings = s.firings

lemma sameCancels_run {o : Op} {s : State} (ho : SparingOp o) : SameCancels s (Op.run o s).1 := by
  cases o with
  | cancelled x => exact False.elim ho
  | scheduled x => exact False.elim ho
  | beginFiring => exact False.elim ho
  | unregisterReview x review =>
    simp only [Op.run]
    split <;> exact ⟨rfl, rfl, rfl⟩
  | closeReview x =>
    simp only [Op.run]
    split <;> exact ⟨rfl, rfl, rfl⟩
  | endFence x g =>
    simp only [Op.run]
    split <;> exact ⟨rfl, rfl, rfl⟩
  | _ => exact ⟨rfl, rfl, rfl⟩

lemma CancelInv.run (h : CancelInv s) (ho : SparingOp o) : CancelInv (Op.run o s).1 := by
  have hsame := @sameCancels_run o s ho
  constructor
  · rw [hsame.cancels, hsame.firings]
    exact h.before
  · rw [hsame.revoked]
    exact fun x hx => (h.unscheduled x hx).run ho

lemma clicksSpared_of_sparing (h : SparingOp o) : ClicksSpared o s := by
  cases o with
  | click x firing =>
    cases firing with
    | none => trivial
    | some n => exact False.elim h
  | _ => trivial

/-! ## The contract -/

/-- The attempts that a firing which waits there has before it. -/
def Port.pending (p : Port) : List ℕ :=
  match p.site with
  | .eligible x (some due) => x :: due.rest
  | .submit x (some due) =>
    match p.wait with
    | .submit _ _ | .observe _ | .returned => due.rest
    | _ => x :: due.rest
  | _ => []

def Port.firing? (p : Port) : Option ℕ :=
  match p.site with
  | .eligible _ (some due) | .submit _ (some due) => some due.number
  | _ => none

def AllSpared (n : ℕ) (l : List ℕ) (s : State) : Prop :=
  n < s.firings ∧ ∀ a ∈ l, Spared s n a

def cancelPoint (p : Port) (s : State) : Prop :=
  ∀ n ∈ p.firing?, AllSpared n p.pending s

def CancelsAside (o : Call ⊕ sig.Port) (p : sig.Port) : Prop :=
  match o with
  | .inl (.cancel x) => x ∉ Port.pending p
  | _ => True

instance (o : Call ⊕ sig.Port) (p : sig.Port) : Decidable (CancelsAside o p) := by
  unfold CancelsAside
  split <;> infer_instance

def cancelContract : Contract sig State Call where
  inv := CancelInv
  point := cancelPoint
  guar o s _ t := CancelInv t ∧ s.firings ≤ t.firings ∧
    ∀ n x, n < s.firings → o ≠ .inl (.cancel x) → Spared s n x → Spared t n x
  pre := ClicksSpared
  enter x _ := x.Surrounds
  meet o p _ := CancelsAside o p

structure SparingTurn (s₀ s : State) : Prop where
  inv : CancelInv s
  firings : s₀.firings ≤ s.firings
  spared : ∀ n x, n < s₀.firings → Spared s₀ n x → Spared s n x

lemma SparingTurn.start (h : CancelInv s) : SparingTurn s s := ⟨h, le_rfl, fun _ _ _ => id⟩

variable {a : Op} {d : Option sig.Port} {n y : ℕ} {l : List ℕ} {mode : SubmissionMode} {review : Review}
  {askBefore : Bool}

lemma SparingTurn.guar (h : SparingTurn s₀ s) {o : Call ⊕ sig.Port} : cancelContract.guar o s₀ d s:=
  ⟨h.inv, h.firings, fun n x hn _ hs => h.spared n x hn hs⟩

lemma Spared.of_same (h : Spared s n x) (hst : SameCancels s t) : Spared t n x := by
  rw [Spared, hst.revoked, hst.cancels]
  exact h

lemma AllSpared.of_same (h : AllSpared n l s) (hst : SameCancels s t) : AllSpared n l t:= by
  refine ⟨?_, fun a ha => (h.2 a ha).of_same hst⟩
  rw [hst.firings]
  exact h.1

lemma SparingTurn.run (h : SparingTurn s₀ s) (ho : SparingOp o) :
    SparingTurn s₀ (Op.run o s).1 := by
  have hsame := @sameCancels_run o s ho
  refine ⟨h.inv.run ho, ?_, fun n x hn hs => (h.spared n x hn hs).of_same hsame⟩
  rw [hsame.firings]
  exact h.firings

section Programs

variable {host : Host} {α : Type} {o : Call ⊕ sig.Port} {s₀ s : State}

def Unfired (p : Port) : Prop := Port.firing? p = none

/-- The programs that neither cancel nor schedule nor belong to a firing. -/
abbrev Sparing (x : Run α) : Prop := Uses (S := sig) SparingOp Unfired x

/-- A program whose waits all ask for what `J` says. -/
lemma meets_sparing {V : Port → Prop} {x : Run α} (hx : Uses (S := sig) SparingOp V x)
    (hV : ∀ p, V p → ∀ s, cancelPoint p s ↔ AllSpared n l s) (h : SparingTurn s₀ s) (hl : AllSpared n l s) :
    x.Meets cancelContract Op.run (fun _ s₀ _ t => SparingTurn s₀ t ∧ AllSpared n l t) o s₀ s := by
  induction x generalizing o s₀ s with
  | ret a => exact ⟨h, hl⟩
  | raise e => exact ⟨h, hl⟩
  | act a k ih =>
    refine fun _ => ⟨clicksSpared_of_sparing hx.1, ih _ (hx.2 _) (h.run hx.1) ?_⟩
    exact hl.of_same (sameCancels_run hx.1)
  | await p k ih =>
    refine ⟨h.guar, (hV p hx.1 s).mpr hl, fun r t _ ht hp _ => ?_⟩
    exact ih r (hx.2 r) (SparingTurn.start ht) ((hV p hx.1 t).mp hp)

lemma meets_unfired {x : Run α} (hx : Sparing x) (h : SparingTurn s₀ s) :
    x.Meets cancelContract Op.run (fun _ s₀ _ t => SparingTurn s₀ t) o s₀ s := by
  induction x generalizing o s₀ s with
  | ret a => exact h
  | raise e => exact h
  | act a k ih => exact fun _ => ⟨clicksSpared_of_sparing hx.1, ih _ (hx.2 _) (h.run hx.1)⟩
  | await p k ih =>
    refine ⟨h.guar, fun n hn => ?_, fun r t _ ht _ _ => ih r (hx.2 r) (SparingTurn.start ht)⟩
    rw [Option.mem_def, show Port.firing? p = none from hx.1] at hn
    cases hn

/-! ## Programs away from firings -/

lemma sparing_op (ha : SparingOp a) : Sparing (op a):= uses_op ha

lemma sparing_update {patch : AttemptPatch} (h : patch.scheduledAutomaticSubmitAt = none) :
    SparingOp (.updateAttempt y patch):= by
  intro t ht
  rw [h] at ht
  cases ht

lemma sparing_of_page (h : PageOp y a) : SparingOp a:= by
  cases a <;> first
    | exact False.elim h
    | trivial

lemma sparing_of_read (h : ReadOp a) : SparingOp a:=
  sparing_of_page (y := 0) (PageOp.of_read h)

lemma sparing_within {site : Site} {x : Run α} (hx : Within (PageOp y) site x)
    (hsite : ∀ wait, Unfired ⟨site, wait⟩) : Sparing x:= by
  refine Uses.mono (fun _ ho => sparing_of_page ho) (fun p hp => ?_) hx
  obtain ⟨psite, wait⟩ := p
  cases hp
  exact hsite wait

lemma sparing_show {hasWindow : Bool} : Sparing (showApplicationReviewHandoff y hasWindow):= by
  unfold showApplicationReviewHandoff
  repeat' first
    | with_reducible refine Uses.bind ?_ fun _ => ?_
    | with_reducible refine Uses.attempt ?_
    | split
    | exact Uses.pure _
    | exact Uses.throw _
    | exact sparing_op trivial

lemma sparing_hide : Sparing (hideApplicationReviewHandoff y):= by
  exact Uses.bind (sparing_op trivial) fun _ => .ite (sparing_op trivial) (.pure _)

lemma sparing_receipt {input : ReceiptInput} : Sparing (recordSubmissionReceipt input) :=
  Uses.bind (Uses.attempt (sparing_op trivial)) fun _ => .pure _

lemma sparing_report {statement : String} : Sparing (recordUserReportedSubmission y statement):= by
  unfold recordUserReportedSubmission
  repeat' first
    | with_reducible refine Uses.bind ?_ fun _ => ?_
    | with_reducible refine Uses.attempt ?_
    | split
    | exact Uses.pure _
    | exact Uses.throw _
    | exact sparing_op (sparing_update rfl)
    | exact sparing_op trivial

lemma sparing_reconcile {response : String} :
    Sparing (reconcileSubmissionOutcome host y response) := by
  unfold reconcileSubmissionOutcome
  repeat' first
    | with_reducible refine Uses.bind ?_ fun _ => ?_
    | with_reducible refine Uses.attempt ?_
    | split
    | exact Uses.pure _
    | exact sparing_receipt
    | exact Uses.throw _
    | exact sparing_op (sparing_update rfl)
    | exact sparing_op trivial

lemma sparing_recoverEnqueue {site : Site} (h : ∀ wait, Unfired ⟨site, wait⟩) :
    Sparing (recoverEnqueue site y) :=
  Uses.call (Uses.bind (Uses.attempt (Uses.wait (h _))) fun _ => .pure _) (h _)

lemma sparing_recoverPreparations (ids : List ℕ) : Sparing (recoverPreparations ids) := by
  induction ids with
  | nil => exact Uses.pure _
  | cons y rest ih =>
    rw [recoverPreparations]
    refine Uses.bind (sparing_op (sparing_update rfl)) fun _ => Uses.bind (sparing_op trivial) fun _ => ?_
    have henqueue : Sparing (recoverEnqueue (.recover rest) y) :=
      sparing_recoverEnqueue fun _ => rfl
    exact henqueue.bind fun _ => ih

lemma sparing_recover : Sparing recoverInterruptedApplicationAttempts := by
  have hsubmission : ∀ attempt, Sparing (recoverSubmission attempt) := by
    intro attempt
    refine Uses.bind (sparing_op trivial) fun _ => ?_
    refine Uses.bind (Uses.attempt (sparing_op trivial)) fun _ => ?_
    exact Uses.bind (sparing_op (sparing_update rfl)) fun _ => .pure _
  have hqueued : ∀ attempt, Sparing (recoverQueued attempt) := by
    intro attempt
    refine Uses.bind (Uses.attempt (Uses.wait rfl)) fun state => ?_
    split
    · exact Uses.pure _
    · exact .ite (sparing_recoverEnqueue fun _ => rfl) (.pure _)
  refine Uses.bind (sparing_op trivial) fun attempts => ?_
  refine (sparing_recoverPreparations _).bind fun _ => ?_
  exact (Uses.forEach fun _ _ => hsubmission _).bind fun _ => Uses.forEach fun _ _ => hqueued _

/-! ## Submissions -/

variable {current : FormSnapshot} {attempt : Attempt} {now : ℤ}

lemma uses_afterClick {V : sig.Port → Prop} {report : OutcomeReport} :
    Uses (S := sig) SparingOp V (recordOutcome host y mode review current report) := by
  have hreceipt : ∀ input, Uses (S := sig) SparingOp V (recordSubmissionReceipt input) :=
    fun input => Uses.bind (Uses.attempt (uses_op trivial)) fun _ => .pure _
  unfold recordOutcome
  repeat' first
    | with_reducible refine Uses.bind ?_ fun _ => ?_
    | split
    | exact Uses.pure _
    | exact hreceipt _
    | exact uses_op (sparing_update rfl)
    | exact uses_op trivial

lemma sparing_submit :
    Sparing (submitApplicationReview host (.submit y none) y mode askBefore none) := by
  have hpage : ∀ review, Sparing (checkPage host (.submit y none) y mode review) :=
    fun review => sparing_within (y := 0) uses_checkPage fun _ => rfl
  have hdocuments : ∀ review attempt, Sparing
      (checkDocuments host (.submit y none) y askBefore review attempt) := by
    intro review attempt
    refine Uses.mono (fun _ ho => sparing_of_read ho) (fun p hp => ?_) uses_checkDocuments
    obtain ⟨psite, wait⟩ := p
    cases hp
    rfl
  have hclick : ∀ review current control, Sparing
      (clickSubmit host (.submit y none) y mode none review current control) := by
    intro review current control
    unfold clickSubmit
    repeat' first
      | with_reducible refine Uses.bind ?_ fun _ => ?_
      | with_reducible refine Uses.attempt ?_
      | split
      | exact Uses.pure _
      | exact uses_afterClick
      | exact Uses.wait rfl
      | exact sparing_op (sparing_update rfl)
      | exact sparing_op trivial
  unfold submitApplicationReview submitReserved
  repeat' first
    | with_reducible refine Uses.bind ?_ fun _ => ?_
    | with_reducible refine Uses.andFinally ?_ ?_
    | split
    | exact Uses.pure _
    | exact hpage _
    | exact hdocuments _ _
    | exact hclick _ _ _
    | exact sparing_op trivial

/-! ## Firings -/

variable {due : Firing} {x : ℕ}

lemma AllSpared.tail (h : AllSpared n (x :: l) s) : AllSpared n l s:=
  ⟨h.1, fun a ha => h.2 a (List.mem_cons_of_mem _ ha)⟩

abbrev FiredOn (due : Firing) (α : Type) : Post sig State Call α :=
  fun _ s₀ _ t => SparingTurn s₀ t ∧ AllSpared due.number due.rest t

def BeforeClick : Wait → Prop
  | .submit _ _ | .observe _ | .returned => False
  | _ => True

lemma point_beforeClick {p : Port} (hsite : p.site = .submit x (some due))
    (hwait : BeforeClick p.wait) (s : State) :
    cancelPoint p s ↔ AllSpared due.number (x :: due.rest) s := by
  obtain ⟨site, wait⟩ := p
  cases hsite
  have hpending : Port.pending ⟨.submit x (some due), wait⟩ = x :: due.rest := by
    cases wait <;> first
      | exact False.elim hwait
      | rfl
  unfold cancelPoint
  rw [hpending]
  exact ⟨fun h => h _ rfl, fun h n hn => by cases hn; exact h⟩

lemma point_afterClick {p : Port} (hsite : p.site = .submit x (some due))
    (hwait : ¬BeforeClick p.wait) (s : State) :
    cancelPoint p s ↔ AllSpared due.number due.rest s := by
  obtain ⟨site, wait⟩ := p
  cases hsite
  have hpending : Port.pending ⟨.submit x (some due), wait⟩ = due.rest := by
    cases wait <;> first
      | exact absurd trivial hwait
      | rfl
  unfold cancelPoint
  rw [hpending]
  exact ⟨fun h => h _ rfl, fun h n hn => by cases hn; exact h⟩

lemma meets_beforeClick {y : Run α} (h : SparingTurn s₀ s)
    (hl : AllSpared due.number (x :: due.rest) s)
    (hy : Uses (S := sig) SparingOp
      (fun p => p.site = .submit x (some due) ∧ BeforeClick p.wait) y) :
    y.Meets cancelContract Op.run
      (fun _ s₀ _ t => SparingTurn s₀ t ∧ AllSpared due.number (x :: due.rest) t) o s₀ s :=
  meets_sparing hy (fun _ hp s => point_beforeClick hp.1 hp.2 s) h hl

lemma uses_snapshotFired {review : ℕ} : Uses (S := sig) SparingOp
    (fun p => p.site = .submit x (some due) ∧ BeforeClick p.wait)
    (snapshot (.submit x (some due)) review) := by
  refine Uses.call (Uses.bind (Uses.wait ⟨rfl, trivial⟩) fun taken => ?_) ⟨rfl, trivial⟩
  exact Uses.bind (uses_op trivial) fun _ => .pure taken

lemma uses_checkPageFired : Uses (S := sig) SparingOp
    (fun p => p.site = .submit x (some due) ∧ BeforeClick p.wait)
    (checkPage host (.submit x (some due)) x mode review) := by
  unfold checkPage
  repeat' first
    | with_reducible refine Uses.bind ?_ fun _ => ?_
    | with_reducible refine Uses.map ?_
    | split
    | exact Uses.pure _
    | exact uses_snapshotFired
    | exact uses_op trivial
    | dsimp only

lemma uses_checkDocumentsFired : Uses (S := sig) SparingOp
      (fun p => p.site = .submit x (some due) ∧ BeforeClick p.wait)
      (checkDocuments host (.submit x (some due)) x askBefore review attempt) := by
  have htext : ∀ artifact, Uses (S := sig) SparingOp
      (fun p => p.site = .submit x (some due) ∧ BeforeClick p.wait)
      (documentText (.submit x (some due)) artifact) :=
    fun artifact => Uses.bind (Uses.wait ⟨rfl, trivial⟩) fun bytes => Uses.wait ⟨rfl, trivial⟩
  unfold checkDocuments documentTexts currentCvHash
  repeat' first
    | with_reducible refine Uses.bind ?_ fun _ => ?_
    | with_reducible refine Uses.attempt ?_
    | with_reducible refine Uses.map ?_
    | split
    | exact Uses.pure _
    | exact htext _
    | exact uses_op trivial
    | exact Uses.wait ⟨rfl, trivial⟩

lemma SparingTurn.click (h : SparingTurn s₀ s) {number : Option ℕ} :
    SparingTurn s₀ (Op.run (.click x number) s).1 :=
  ⟨⟨h.inv.before, h.inv.unscheduled⟩, h.firings, h.spared⟩

lemma meets_clickFired {control : String} (h : SparingTurn s₀ s)
    (hl : AllSpared due.number (x :: due.rest) s) :
    (clickSubmit host (.submit x (some due)) x mode (some due.number) review current control).Meets
      cancelContract Op.run (FiredOn due SubmitResult) o s₀ s := by
  refine meets_bind.mpr (meets_exec.mpr fun _ => ⟨trivial, ?_⟩)
  have hupdate : SparingOp (.updateAttempt x { checkpoint := some .submitting }) :=
    sparing_update rfl
  have hturn := h.run hupdate
  have hspared := hl.of_same (sameCancels_run hupdate)
  generalize Op.run (.updateAttempt x { checkpoint := some .submitting }) s = q at *
  obtain ⟨t, r⟩ := q
  cases r with
  | error e => exact ⟨hturn, hspared.tail⟩
  | ok a =>
    refine meets_bind.mpr (meets_exec.mpr fun _ => ⟨hspared.2 x List.mem_cons_self, ?_⟩)
    refine meets_sparing (?_ : Uses (S := sig) SparingOp
      (fun p => p.site = .submit x (some due) ∧ ¬BeforeClick p.wait) _)
      (fun _ hp s => point_afterClick hp.1 hp.2 s) hturn.click hspared.tail
    repeat' first
      | with_reducible refine Uses.bind ?_ fun _ => ?_
      | with_reducible refine Uses.attempt ?_
      | split
      | exact Uses.pure _
      | exact uses_afterClick
      | exact Uses.wait ⟨rfl, id⟩
      | exact uses_op (sparing_update rfl)
      | exact uses_op trivial

lemma meets_submitFired (h : SparingTurn s₀ s) (hl : AllSpared due.number (x :: due.rest) s) :
    (submitApplicationReview host (.submit x (some due)) x mode askBefore (some due.number)).Meets
      cancelContract Op.run (FiredOn due SubmitResult) o s₀ s := by
  refine meets_read_bind trivial trivial (fun active _ => ?_) fun _ => ⟨h, hl.tail⟩
  cases active with
  | none => exact ⟨h, hl.tail⟩
  | some review =>
    refine meets_read_bind trivial trivial (fun submitting _ => ?_) fun _ => ⟨h, hl.tail⟩
    refine meets_ite.mpr ⟨fun _ => ⟨h, hl.tail⟩, fun _ => ?_⟩
    refine meets_read_bind trivial trivial (fun handoff _ => ?_) fun _ => ⟨h, hl.tail⟩
    refine meets_ite.mpr ⟨fun _ => ⟨h, hl.tail⟩, fun _ => ?_⟩
    refine meets_bind.mpr (meets_exec.mpr fun _ => ⟨trivial, ?_⟩)
    have hbegun : SparingTurn s₀ (Op.run (.beginSubmit x) s).1 := h.run trivial
    have hspared : AllSpared due.number (x :: due.rest) (Op.run (.beginSubmit x) s).1 := hl
    have hbody : (submitReserved host (.submit x (some due)) x mode askBefore (some due.number)
        review).Meets cancelContract Op.run (FiredOn due SubmitResult) o s₀
          (Op.run (.beginSubmit x) s).1 := by
      refine meets_bind.mpr ((meets_beforeClick hbegun hspared uses_checkPageFired).mono ?_)
      intro o s₀ r t ht
      cases r with
      | error e => exact ⟨ht.1, ht.2.tail⟩
      | ok found =>
        cases found with
        | inl refusal => exact ⟨ht.1, ht.2.tail⟩
        | inr found =>
          refine meets_bind.mpr ((meets_beforeClick ht.1 ht.2 uses_checkDocumentsFired).mono ?_)
          intro o s₀ r t ht
          cases r with
          | error e => exact ⟨ht.1, ht.2.tail⟩
          | ok refusal =>
            cases refusal with
            | some refusal => exact ⟨ht.1, ht.2.tail⟩
            | none => exact meets_clickFired ht.1 ht.2
    refine meets_andFinally.mpr (hbody.mono fun o s₀ r t ht => meets_exec.mpr fun _ => ?_)
    refine ⟨trivial, ?_⟩
    have hended : SparingTurn s₀ (Op.run (.endSubmit x) t).1 := ht.1.run trivial
    cases r with
    | ok result => exact ⟨hended, ht.2⟩
    | error e => exact ⟨hended, ht.2⟩

lemma meets_fireSpared (h : SparingTurn s₀ s) (hl : AllSpared due.number (attempt.id :: due.rest) s) :
    (fireAttempt host now due attempt).Meets cancelContract Op.run (FiredOn due Unit) o s₀ s := by
  have hunschedule : SparingOp (.updateAttempt attempt.id
      { scheduledAutomaticSubmitAt := some none }) := fun t ht => by cases ht
  have heligible : Uses (S := sig) SparingOp
      (fun p => p.site = .eligible attempt.id (some due))
      (inner (.eligible attempt.id (some due)) (checkAutomaticSubmissionEligibility host
        (.eligible attempt.id (some due)) attempt.id now)) := by
    refine Uses.call (Uses.mono (fun _ ho => sparing_of_page (y := 0) ho) (fun _ hp => hp) ?_) rfl
    exact uses_checkAutomaticSubmissionEligibility
  have hpoint : ∀ p : Port, p.site = .eligible attempt.id (some due) → ∀ s, cancelPoint p s ↔
      AllSpared due.number (attempt.id :: due.rest) s := by
    rintro ⟨site, wait⟩ hsite s
    cases hsite
    exact ⟨fun h => h _ rfl, fun h n hn => by cases hn; exact h⟩
  refine meets_bind.mpr (meets_exec.mpr fun _ => ⟨trivial, ?_⟩)
  have hturn := h.run hunschedule
  have hspared := hl.of_same (sameCancels_run hunschedule)
  generalize Op.run (.updateAttempt attempt.id { scheduledAutomaticSubmitAt := some none }) s = q
    at *
  obtain ⟨t, r⟩ := q
  cases r with
  | error e => exact ⟨hturn, hspared.tail⟩
  | ok a =>
    refine meets_ite.mpr ⟨fun _ => ⟨hturn, hspared.tail⟩, fun _ => ?_⟩
    refine meets_bind.mpr ((meets_sparing heligible hpoint hturn hspared).mono ?_)
    intro o s₀ r t ht
    cases r with
    | error e => exact ⟨ht.1, ht.2.tail⟩
    | ok check =>
      refine meets_ite.mpr ⟨fun _ => ⟨ht.1, ht.2.tail⟩, fun _ => ?_⟩
      refine meets_bind.mpr (meets_call.mpr ((meets_submitFired ht.1 ht.2).mono ?_))
      intro o s₀ r t ht
      have hafter := fun s => @point_afterClick due attempt.id
        ⟨.submit attempt.id (some due), .returned⟩ rfl id s
      refine ⟨ht.1.guar, (hafter t).mpr ht.2, fun r' t' _ hinv hp _ => ?_⟩
      have hrest : AllSpared due.number due.rest t' := (hafter t').mp hp
      cases r with
      | ok result => exact ⟨SparingTurn.start hinv, hrest⟩
      | error e => exact ⟨SparingTurn.start hinv, hrest⟩

lemma meets_fireFromSpared {number : ℕ} (attempts : List Attempt) (h : SparingTurn s₀ s)
    (hl : AllSpared number (attempts.map Attempt.id) s) :
    (fireFrom host now number attempts).Meets cancelContract Op.run
      (fun _ s₀ _ t => SparingTurn s₀ t) o s₀ s := by
  induction attempts generalizing o s₀ s with
  | nil => exact h
  | cons attempt rest ih =>
    rw [fireFrom]
    have hfirst : (fireAttempt host now ⟨number, rest.map Attempt.id⟩ attempt).Meets cancelContract
        Op.run (FiredOn ⟨number, rest.map Attempt.id⟩ Unit) o s₀ s := meets_fireSpared h hl
    refine meets_bind.mpr (hfirst.mono fun o s₀ r t ht => ?_)
    cases r with
    | ok u => exact ih ht.1 ht.2
    | error e => exact ht.1

lemma allSpared_due (h : CancelInv s) {now : ℤ} :
    AllSpared s.firings ((s.db.listApplicationAttempts.filter (isDue now)).map Attempt.id)
      (Op.run .beginFiring s).1 := by
  refine ⟨Nat.lt_succ_self _, fun x hx => ⟨fun hrevoked => ?_, fun q hq _ => h.before q hq⟩⟩
  obtain ⟨a, ha, rfl⟩ := List.mem_map.mp hx
  obtain ⟨hmem, hdue⟩ := List.mem_filter.mp ha
  have hrow : s.attempt? a.id = some a := Table.get?_key (List.mem_reverse.mp hmem)
  rw [isDue, h.unscheduled a.id hrevoked a hrow] at hdue
  cases hdue

/-- **A firing** clicks only for attempts that are spared. -/
lemma meets_fire (h : SparingTurn s₀ s) :
    (fireDueAutomaticSubmissions host).Meets cancelContract Op.run
      (fun _ s₀ _ t => SparingTurn s₀ t) o s₀ s := by
  refine meets_read_bind trivial trivial (fun now _ => ?_) fun _ => h
  refine meets_bind.mpr (meets_exec.mpr fun _ => ⟨trivial, ?_⟩)
  have hbegun : SparingTurn s₀ (Op.run .beginFiring s).1 := by
    refine ⟨⟨fun q hq => ?_, h.inv.unscheduled⟩, h.firings.trans (Nat.le_succ _), h.spared⟩
    exact (h.inv.before q hq).trans (Nat.le_succ _)
  have hdue := @allSpared_due s h.inv now
  refine meets_read_bind trivial trivial (fun attempts hattempts => ?_) fun _ => hbegun
  cases hattempts
  exact meets_fireFromSpared _ hbegun hdue

/-! ## Cancelling and scheduling -/

lemma guar_cancelled (h : CancelInv s) (hx : Unscheduled s x) (hfirings : s.firings = s₀.firings)
    (hsame : ∀ n y, Spared s₀ n y → Spared s n y) :
    cancelContract.guar (.inl (.cancel x)) s₀ d (Op.run (.cancelled x) s).1 := by
  refine ⟨⟨?_, ?_⟩, hfirings.ge, fun n y _ hne hy => ⟨?_, ?_⟩⟩
  · intro q hq
    rcases List.mem_cons.mp hq with rfl | hq
    · exact le_rfl
    · exact h.before q hq
  · intro y hy
    rcases List.mem_cons.mp hy with rfl | hy
    · exact hx
    · exact h.unscheduled y hy
  · intro hmem
    rcases List.mem_cons.mp hmem with rfl | hmem
    · exact hne rfl
    · exact (hsame n y hy).1 hmem
  · intro q hq hqy
    rcases List.mem_cons.mp hq with rfl | hq
    · exact absurd (congrArg (fun z => (Sum.inl (Call.cancel z) : Call ⊕ sig.Port)) hqy) hne
    · exact (hsame n y hy).2 q hq hqy

abbrev unschedule (x : ℕ) : Op := .updateAttempt x { scheduledAutomaticSubmitAt := some none }

lemma run_unschedule (x : ℕ) (s : State) :
    (s.attempt? x = none ∧ Op.run (unschedule x) s =
      (s, .error (.workspace (.attemptNotFound x)))) ∨
    ∃ a, (Op.run (unschedule x) s).2 = .ok a ∧ Unscheduled (Op.run (unschedule x) s).1 x := by
  cases hrow : s.db.attempts.get? x with
  | none =>
    refine .inl ⟨hrow, ?_⟩
    simp only [Op.run, State.onDb, Database.updateApplicationAttempt, hrow]
    rfl
  | some a =>
    refine .inr ⟨Database.patchAttempt { scheduledAutomaticSubmitAt := some none } a, ?_⟩
    have hok : (Op.run (unschedule x) s).2 =
        .ok (Database.patchAttempt { scheduledAutomaticSubmitAt := some none } a) := by
      simp only [Op.run, State.onDb, Database.updateApplicationAttempt, hrow]
      rfl
    refine ⟨hok, fun b hb => ?_⟩
    obtain ⟨a', -, ha'⟩ := attempt?_of_update hok
    rw [hb] at ha'
    cases ha'
    rfl

lemma meets_cancel (h : CancelInv s) :
    (cancelScheduledAutomaticSubmission x).Meets cancelContract Op.run
      (fun o s₀ _ t => cancelContract.guar o s₀ none t) (.inl (.cancel x)) s s := by
  have hsparing : SparingOp (unschedule x) := fun t ht => by cases ht
  have hsame := @sameCancels_run _ s hsparing
  have hinv := h.run hsparing
  have hspared : ∀ n y, Spared s n y → Spared (Op.run (unschedule x) s).1 n y :=
    fun n y hy => hy.of_same hsame
  refine meets_bind.mpr (meets_attempt.mpr (meets_exec.mpr fun _ => ⟨trivial, ?_⟩))
  obtain ⟨hnone, hrun⟩ | ⟨a, hok, hrow⟩ := run_unschedule x s
  · rw [hrun]
    refine meets_exec.mpr fun _ => ⟨trivial, ?_⟩
    refine guar_cancelled h (fun b hb => ?_) rfl fun _ _ => id
    rw [hnone] at hb
    cases hb
  · rw [hok]
    refine meets_exec.mpr fun _ => ⟨trivial, ?_⟩
    exact guar_cancelled hinv hrow hsame.firings hspared

lemma SparingTurn.schedule (h : SparingTurn s₀ s) {patch : AttemptPatch} :
    SparingTurn s₀ (Op.run (.scheduled x) (Op.run (.updateAttempt x patch) s).1).1 := by
  refine ⟨⟨h.inv.before, fun y hy => ?_⟩, h.firings, fun n y hn hy => ?_⟩
  · obtain ⟨hy, hne⟩ := List.mem_filter.mp hy
    have hyx : y ≠ x := by simpa using hne
    have hrow := @attempt?_update_other s x patch y hyx
    intro b hb
    change (Op.run (.updateAttempt x patch) s).1.attempt? y = some b at hb
    rw [hrow] at hb
    exact h.inv.unscheduled y hy b hb
  · have hspared := h.spared n y hn hy
    exact ⟨fun hmem => hspared.1 (List.mem_filter.mp hmem).1, hspared.2⟩

lemma meets_schedule (h : SparingTurn s₀ s) :
    (evaluateAndScheduleAutomaticSubmission host x).Meets cancelContract Op.run
      (fun _ s₀ _ t => SparingTurn s₀ t) o s₀ s := by
  have heligible : ∀ now, Sparing (inner (.eligible x none)
      (checkAutomaticSubmissionEligibility host (.eligible x none) x now)) :=
    fun now => Uses.call
      (sparing_within (y := 0) uses_checkAutomaticSubmissionEligibility fun _ => rfl) rfl
  refine meets_read_bind trivial trivial (fun now _ => ?_) fun _ => h
  refine meets_bind.mpr ((meets_unfired (heligible now) h).mono fun o s₀ r t ht => ?_)
  cases r with
  | error e => exact ht
  | ok check =>
    cases check with
    | some refusal => exact ht
    | none =>
      refine meets_bind.mpr (meets_exec.mpr fun _ => ⟨trivial, ?_⟩)
      generalize some (some (now + automaticSubmitCancelWindowMs)) = time
      have hscheduled := @SparingTurn.schedule s₀ t x ht { scheduledAutomaticSubmitAt := time }
      cases hr : (Op.run (.updateAttempt x { scheduledAutomaticSubmitAt := time }) t).2 with
      | ok a => exact meets_bind.mpr (meets_exec.mpr fun _ => ⟨trivial, hscheduled⟩)
      | error e =>
        change SparingTurn s₀
          (Op.run (.updateAttempt x { scheduledAutomaticSubmitAt := time }) t).1
        rw [state_of_update_error hr]
        exact ht

end Programs

/-! ## All runs -/

section Runs

variable {host : Host}

lemma meets_cancelBody {x : Call} {s : State} (hx : x.Surrounds) (h : CancelInv s) :
    (x.body host).Meets cancelContract Op.run
      (fun o s₀ _ t => cancelContract.guar o s₀ none t) (.inl x) s s := by
  have hstart : SparingTurn s s := SparingTurn.start h
  have hsparing : ∀ {y : Run Unit}, Sparing y → y.Meets cancelContract Op.run
      (fun o s₀ _ t => cancelContract.guar o s₀ none t) (.inl x) s s :=
    fun hy => (meets_unfired hy hstart).mono fun _ _ _ _ ht => ht.guar
  cases x with
  | openReview input =>
    have hopen : Sparing (openApplicationReview host .review input) :=
      sparing_within uses_openApplicationReview fun _ => rfl
    exact hsparing (hopen.bind fun _ => .pure _)
  | closeReview y => exact hsparing (sparing_op trivial)
  | showHandoff y hasWindow => exact hsparing (sparing_show.bind fun _ => .pure _)
  | hideHandoff y => exact hsparing sparing_hide
  | submit y mode askBefore => exact hsparing (sparing_submit.bind fun _ => .pure _)
  | report y statement => exact hsparing (sparing_report.bind fun _ => .pure _)
  | reconcile y response => exact hsparing (sparing_reconcile.bind fun _ => .pure _)
  | schedule y =>
    refine meets_bind.mpr ((meets_schedule hstart).mono fun o s₀ r t ht => ?_)
    cases r with
    | ok check => exact ht.guar
    | error e => exact ht.guar
  | cancel y => exact meets_cancel h
  | fire => exact (meets_fire hstart).mono fun _ _ _ _ ht => ht.guar
  | recover => exact hsparing sparing_recover
  | setWorld w => exact hsparing (sparing_op trivial)
  | setClock t => exact hsparing (sparing_op trivial)
  | setBlind blind => exact hsparing (sparing_op trivial)
  | _ => exact False.elim hx

theorem cancelContract_sound : cancelContract.Sound (desktop host) fun _ _ => True where
  rely_refl _ := trivial
  rely_trans _ _ := trivial
  rely_of_guar _ _ := trivial
  inv_of_guar _ h := h.1
  point_of_guar := by
    intro o s d t p _ hp hbeside hguar n hn
    obtain ⟨hbegun, hspared⟩ := hp n hn
    refine ⟨hbegun.trans_le hguar.2.1, fun x hx => ?_⟩
    refine hguar.2.2 n x hbegun (fun ho => ?_) (hspared x hx)
    have haside : CancelsAside o p := hbeside.1
    rw [ho] at haside
    exact haside hx
  compat_symm _ := trivial
  compat_of_guar _ _ _ _ := trivial
  body x _ hs hx := meets_cancelBody hx hs
  restart _ h := ⟨h.before, h.unscheduled⟩

/-- The calls are those that a submission is interleaved with, and a cancel reaches no attempt that
a waiting firing has before it. -/
def CancelsInTime (c : Cfg sig State) : Event sig Call → Prop
  | .call x => x.Surrounds ∧
      ∀ y ∈ c.procs, match y with
        | .await p _ => CancelsAside (.inl x) p
        | _ => True
  | _ => True

instance (x : Call) (y : Prog sig Unit) :
    Decidable (match y with
      | .await p _ => CancelsAside (.inl x) p
      | _ => True) :=
  match y with
  | .ret _ => inferInstanceAs (Decidable True)
  | .raise _ => inferInstanceAs (Decidable True)
  | .act _ _ => inferInstanceAs (Decidable True)
  | .await p _ => inferInstanceAs (Decidable (CancelsAside (.inl x) p))

instance (c : Cfg sig State) (e : Event sig Call) : Decidable (CancelsInTime c e) :=
  match e with
  | .call _ => inferInstanceAs (Decidable (_ ∧ _))
  | .reply _ _ _ => inferInstanceAs (Decidable True)
  | .crash => inferInstanceAs (Decidable True)

lemma allowed_of_cancelsInTime {c : Cfg sig State} {e : Event sig Call} (h : CancelsInTime c e) :
    cancelContract.Allowed (desktop host) c e := by
  refine ⟨fun _ _ => trivial, ?_⟩
  cases e with
  | call x =>
    refine ⟨h.1, fun j p k hj => ?_⟩
    exact h.2 _ (List.mem_of_getElem? hj)
  | reply i p r =>
    refine ⟨trivial, fun _ _ _ _ _ => ?_⟩
    trivial
  | crash => trivial

/-- **A cancel is honoured where no firing under way has the attempt before it.**  In every run in
which no cancel reaches such an attempt, a firing clicks for an attempt that was not cancelled since
it was scheduled, nor since the firing began. -/
theorem cancel_honoured (host : Host) (db : Database) (world : World) {c : Cfg sig State}
    {e : Event sig Call} (hreach : (desktop host).Reach CancelsInTime (started db world) c)
    (hok : CancelsInTime c e) : ∀ a ∈ (desktop host).acts c e, ClicksSpared a.1 a.2 := by
  have hstart : CancelInv (State.start db world) := ⟨nofun, nofun⟩
  have hsound : cancelContract.Sound (desktop host) fun _ _ => True := cancelContract_sound
  have hgood := Contract.good_of_reach hsound (Contract.Good.start hstart)
    (hreach.mono fun _ _ => allowed_of_cancelsInTime)
  exact hgood.pre_step hsound (allowed_of_cancelsInTime hok)

def cancelledBefore : List (System.Move sig Call) :=
  [.event (.call (.openReview { attemptId := 1, policyId := "policy", targetUrl := "jobs/1" })),
    .serve 0 5,
    .event (.call (.cancel 2)),
    .event (.call .fire), .serve 2 7]

def firedDocument (i : ℕ) (rest : List ℕ) : Event sig Call :=
  .reply i ⟨.submit 1 (some ⟨0, rest⟩), .pdfText "bytes"⟩ (.ok "Engineer at acme")

/-- The firing clicks for the attempt that was not cancelled. -/
theorem cancel_honoured_before :
    ∃ c, (desktop sampleHost).Reach CancelsInTime (started sampleDueDb sampleWorld) c ∧
      (∃ a ∈ (desktop sampleHost).acts c (firedDocument 2 []), a.1.isClick = true) ∧
      ∀ a ∈ (desktop sampleHost).acts c (firedDocument 2 []), ClicksSpared a.1 a.2 := by
  have hrun : ((desktop sampleHost).play CancelsInTime (sampleAnswer 0)
      (started sampleDueDb sampleWorld) cancelledBefore).map (fun c =>
        decide (∃ a ∈ (desktop sampleHost).acts c (firedDocument 2 []), a.1.isClick = true)) =
      some true := by
    decide
  obtain ⟨c, hc, hclick⟩ := Option.map_eq_some_iff.mp hrun
  have hreach := System.Reach.of_play hc
  have hok : CancelsInTime c (firedDocument 2 []) := trivial
  exact ⟨c, hreach, of_decide_eq_true hclick, cancel_honoured sampleHost _ _ hreach hok⟩

def cancelledDuring : List (System.Move sig Call) :=
  [.event (.call (.openReview { attemptId := 1, policyId := "policy", targetUrl := "jobs/1" })),
    .serve 0 5,
    .event (.call (.cancel 2)),
    .event (.call .fire), .serve 2 1,
    .event (.call (.cancel 1)), .serve 2 6]

/-- The firing clicks for it all the same. -/
theorem cancel_not_honoured :
    ∃ c, (desktop sampleHost).Reach SurroundsOnly (started sampleDueDb sampleWorld) c ∧
      ∃ a ∈ (desktop sampleHost).acts c (firedDocument 2 []), ¬ClicksSpared a.1 a.2 := by
  have hrun : ((desktop sampleHost).play SurroundsOnly (sampleAnswer 0)
      (started sampleDueDb sampleWorld) cancelledDuring).map (fun c =>
        decide (∃ a ∈ (desktop sampleHost).acts c (firedDocument 2 []), ¬ClicksSpared a.1 a.2)) =
      some true := by
    decide
  obtain ⟨c, hc, hclick⟩ := Option.map_eq_some_iff.mp hrun
  exact ⟨c, System.Reach.of_play hc, of_decide_eq_true hclick⟩

end Runs

end VacancyRadar.Desktop
