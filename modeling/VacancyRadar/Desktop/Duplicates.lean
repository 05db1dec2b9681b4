import VacancyRadar.Desktop.Effects
import VacancyRadar.Desktop.Uses

/-!
# One application for a requisition

`createApplicationAttempt` looks for other attempts at the same requisition, and it is the only
function that does.  An attempt that failed or was skipped does not count there, and several
operations bring such an attempt back to life later.
-/

namespace VacancyRadar.Desktop

open Coop Data Workspace Database Prog

variable {x : ℕ} {o : Op} {mode : SubmissionMode} {firing : Option ℕ}
  {ok : Cfg sig State → Event sig Call → Prop} {s : State} {a b : Attempt}

/-! ## The click comes right after its checkpoint -/

def ClicksSubmitting (o : Op) (s : State) : Prop :=
  match o with
  | .click x _ => ∃ a, s.attempt? x = some a ∧ a.checkpoint = .submitting
  | _ => True

def clickContract : Contract sig State Call where
  inv _ := True
  guar _ _ _ _ := True
  pre o s := ClicksSubmitting o s

section Clicks

variable {host : Host} {α : Type}

lemma safe_of_uses {P : Op → Prop} {V : Port → Prop} {x : Run α} (h : Uses (S := sig) P V x)
    (hP : ∀ o, P o → NoClick o) : Safe clickContract Op.run x := by
  refine h.safe (fun o s ho _ => ?_) (fun _ _ _ => trivial) fun _ _ _ _ _ => trivial
  have hno := hP o ho
  cases o with
  | click x firing => cases hno
  | _ => trivial

lemma safe_of_idle {x : Run α} (h : Idle x) : Safe clickContract Op.run x :=
  safe_of_uses h fun _ ho => ho

lemma safe_op (h : NoClick o) : Safe clickContract Op.run (op o):=
  safe_of_idle (idle_op h)

variable {site : Site} {now : ℤ}

lemma safe_ask {wait : Wait} : Safe clickContract Op.run (ask site wait) := by
  intro o s₀ s
  exact meets_wait.mpr ⟨trivial, trivial, fun _ _ _ _ _ _ => trivial⟩

lemma safe_clickSubmit {review : Review} {current : FormSnapshot} {control : String} :
    Safe clickContract Op.run (clickSubmit host site x mode firing review current control) := by
  intro o s₀ s
  refine meets_bind.mpr (meets_exec.mpr fun _ => ⟨trivial, ?_⟩)
  cases hwritten : (Op.run (.updateAttempt x { checkpoint := some .submitting }) s).2 with
  | error e => trivial
  | ok a =>
    obtain ⟨b, -, hrow⟩ := attempt?_of_update hwritten
    refine meets_bind.mpr (meets_exec.mpr fun _ => ⟨⟨_, hrow, rfl⟩, ?_⟩)
    refine Safe.bind safe_ask.attempt (fun sent => ?_) _ _ _
    have houtcome : ∀ report, Safe clickContract Op.run
        (recordOutcome host x mode review current report) :=
      fun report => safe_of_uses uses_recordOutcome fun _ ho => ho
    repeat' first
      | with_reducible refine Safe.bind ?_ fun _ => ?_
      | split
      | exact Safe.pure _
      | exact houtcome _
      | exact safe_ask.attempt
      | exact safe_op rfl

lemma safe_submitApplicationReview {askBefore : Bool} : Safe clickContract Op.run
      (submitApplicationReview host site x mode askBefore firing) := by
  have hpage : ∀ review, Safe clickContract Op.run (checkPage host site x mode review) :=
    fun review => safe_of_uses (uses_checkPage (x := 0)) fun _ ho =>
      noClick_of_prepare (PrepareOp.of_page ho)
  have hdocuments : ∀ review attempt, Safe clickContract Op.run
      (checkDocuments host site x askBefore review attempt) :=
    fun review attempt => safe_of_uses uses_checkDocuments fun _ ho =>
      noClick_of_prepare (PrepareOp.of_page (PageOp.of_read (x := 0) ho))
  unfold submitApplicationReview submitReserved
  repeat' first
    | with_reducible refine Safe.bind ?_ fun _ => ?_
    | with_reducible refine Safe.andFinally ?_ ?_
    | split
    | exact Safe.pure _
    | exact hpage _
    | exact hdocuments _ _
    | exact safe_clickSubmit
    | exact safe_op rfl

lemma safe_call {x : Run α} (hx : Safe clickContract Op.run x) :
    Safe clickContract Op.run (inner site x) := by
  intro o s₀ s
  refine meets_call.mpr ((hx o s₀ s).mono fun _ _ _ _ _ => ?_)
  exact ⟨trivial, trivial, fun _ _ _ _ _ _ => trivial⟩

lemma safe_fireAttempt {firing : Firing} {attempt : Attempt} :
    Safe clickContract Op.run (fireAttempt host now firing attempt) := by
  unfold fireAttempt
  dsimp only
  repeat' first
    | with_reducible refine Safe.bind ?_ fun _ => ?_
    | split
    | exact Safe.pure _
    | exact safe_call (safe_of_idle (idle_eligibility rfl))
    | exact safe_call safe_submitApplicationReview
    | exact safe_op rfl

lemma safe_fireFrom {number : ℕ} (attempts : List Attempt) :
    Safe clickContract Op.run (fireFrom host now number attempts) := by
  induction attempts with
  | nil => exact Safe.pure _
  | cons attempt rest ih =>
    rw [fireFrom]
    exact safe_fireAttempt.bind fun _ => ih

lemma noClick_of_work (h : WorkOp o) : NoClick o:= by
  rcases h with h | ⟨x, h⟩
  · cases o with
    | click x firing => exact False.elim h
    | _ => rfl
  · exact noClick_of_prepare h

lemma safe_body (c : Call) : Safe clickContract Op.run (c.body host) := by
  by_cases hsubmit : c.Submits
  · cases c with
    | submit x mode askBefore => exact safe_submitApplicationReview.bind fun _ => Safe.pure _
    | fire =>
      refine (safe_op rfl).bind fun now => (safe_op rfl).bind fun number => ?_
      exact (safe_op rfl).bind fun attempts => safe_fireFrom _
    | _ => exact False.elim hsubmit
  · by_cases hwork : c.Works
    · exact safe_of_uses (works_body hwork) fun _ ho => noClick_of_work ho
    · exact safe_of_idle (idle_body hsubmit hwork)

lemma clickContract_sound : clickContract.Sound (desktop host) fun _ _ => True where
  rely_refl _ := trivial
  rely_trans _ _ := trivial
  rely_of_guar _ _ := trivial
  inv_of_guar _ _ := trivial
  point_of_guar _ _ _ _ := trivial
  compat_symm _ := trivial
  compat_of_guar _ _ _ _ := trivial
  body x _ _ _ := (safe_body x _ _ _).mono fun _ _ _ _ _ => trivial
  restart _ _ := trivial

/-- Whatever happened before, a click is made for an attempt that is being submitted. -/
theorem submitting_at_click {c₀ c : Cfg sig State} {e : Event sig Call}
    (hreach : (desktop host).Reach ok c₀ c) (h₀ : c₀.procs = [])
    (hclick : (Op.click x firing, s) ∈ (desktop host).acts c e) :
    ∃ a, s.attempt? x = some a ∧ a.checkpoint = .submitting := by
  have hallowed : ∀ c e, clickContract.Allowed (desktop host) c e := by
    intro c e
    refine ⟨fun _ _ => trivial, ?_⟩
    cases e with
    | call y => exact ⟨trivial, fun _ _ _ _ => trivial⟩
    | reply i p r => exact ⟨trivial, fun _ _ _ _ _ => trivial⟩
    | crash => trivial
  have hstart : clickContract.Good Op.run (fun _ _ => True) c₀ := by
    have hc : c₀ = ⟨c₀.shared, []⟩ := by rw [← h₀]
    rw [hc]
    exact Contract.Good.start trivial
  have hsound : clickContract.Sound (desktop host) fun _ _ => True := clickContract_sound
  have hgood := Contract.good_of_reach hsound hstart (hreach.mono fun c e _ => hallowed c e)
  exact hgood.pre_step hsound (hallowed c e) _ hclick

end Clicks

/-! ## Attempts at one requisition -/

def SameRequisition (a b : ApplicationIdentity) : Prop :=
  (a.employerKey = b.employerKey ∧ a.employerKey ≠ "" ∧
      a.requisitionId = b.requisitionId ∧ a.requisitionId ≠ none) ∨
    (a.canonicalUrlKey = b.canonicalUrlKey ∧ a.canonicalUrlKey ≠ "")

instance (a b : ApplicationIdentity) : Decidable (SameRequisition a b) :=
  inferInstanceAs (Decidable (_ ∨ _))

lemma SameRequisition.symm {a b : ApplicationIdentity} (h : SameRequisition a b) :
    SameRequisition b a := by
  rcases h with ⟨h₁, h₂, h₃, h₄⟩ | ⟨h₁, h₂⟩
  · exact .inl ⟨h₁.symm, h₁ ▸ h₂, h₃.symm, h₃ ▸ h₄⟩
  · exact .inr ⟨h₁.symm, h₁ ▸ h₂⟩

def Alive (a : Attempt) : Prop := a.checkpoint ≠ .failed ∧ a.checkpoint ≠ .skipped

instance : DecidablePred Alive := fun _ => inferInstanceAs (Decidable (_ ∧ _))

lemma alive_of_completed (h : a.checkpoint ∈ Checkpoint.completed) : Alive a:= by
  constructor <;> rintro heq <;> rw [heq] at h <;> revert h <;> decide

lemma nonTerminal_or_completed (h : Alive a) :
    a.checkpoint ∈ Checkpoint.nonTerminal ∨ a.checkpoint ∈ Checkpoint.completed := by
  obtain ⟨h₁, h₂⟩ := h
  cases hcp : a.checkpoint <;> first
    | exact absurd hcp h₁
    | exact absurd hcp h₂
    | decide

def AliveBeside (s : State) (x : ℕ) (identity : ApplicationIdentity) : Prop :=
  ∃ b ∈ s.db.attempts.rows, b.id ≠ x ∧ Alive b ∧ SameRequisition identity b.toApplicationIdentity

instance (s : State) (x : ℕ) (identity : ApplicationIdentity) :
    Decidable (AliveBeside s x identity) :=
  inferInstanceAs (Decidable (∃ b ∈ s.db.attempts.rows, _))

variable {identity : ApplicationIdentity}

lemma aliveBeside_of_attempt? {y : ℕ} (hb : s.attempt? y = some b) (hne : y ≠ x) (halive : Alive b)
    (hsame : SameRequisition identity b.toApplicationIdentity) : AliveBeside s x identity:= by
  have hid : b.id = y := Table.key_of_get? hb
  exact ⟨b, Table.mem_of_get? hb, hid ▸ hne, halive, hsame⟩

def OneAlive (s : State) : Prop :=
  ∀ x y a b, x ≠ y → s.attempt? x = some a → s.attempt? y = some b → Alive a → Alive b →
    ¬SameRequisition a.toApplicationIdentity b.toApplicationIdentity

/-! ## What the creation checks -/

lemma not_sameRequisition_of_identityMatches {rows : List Attempt} {vacancyKey : Option String}
    (h : identityMatches rows identity vacancyKey = []) (hb : b ∈ rows) :
    ¬SameRequisition identity b.toApplicationIdentity:= by
  intro hsame
  have htier : ∀ tier ∈ identityTiers identity vacancyKey, tier.2 b = false := by
    intro tier htier
    by_contra hhit
    rw [Bool.not_eq_false] at hhit
    have hmem : (rows.filter tier.2).map (fun r => (r, tier.1)) ∈
        (identityTiers identity vacancyKey).map fun tier =>
          (rows.filter tier.2).map fun r => (r, tier.1) :=
      List.mem_map_of_mem htier
    have hfound : b ∈ rows.filter tier.2 := List.mem_filter.mpr ⟨hb, hhit⟩
    unfold identityMatches at h
    cases hfind : ((identityTiers identity vacancyKey).map fun tier =>
        (rows.filter tier.2).map fun r => (r, tier.1)).find? fun hits => !hits.isEmpty with
    | some hits =>
      have hne := List.find?_some hfind
      rw [hfind, Option.getD_some] at h
      rw [h] at hne
      cases hne
    | none =>
      have hempty := List.find?_eq_none.mp hfind _ hmem
      have hnil : rows.filter tier.2 = [] := by simpa using hempty
      rw [hnil] at hfound
      cases hfound
  rcases hsame with ⟨h₁, h₂, h₃, h₄⟩ | ⟨h₁, h₂⟩
  · have hfalse := htier (.requisition, fun r => r.employerKey == identity.employerKey &&
      r.requisitionId == identity.requisitionId) (by simp [identityTiers, h₂, h₄])
    simp [h₁, h₃] at hfalse
  · have hfalse := htier (.canonicalUrl, fun r => r.canonicalUrlKey == identity.canonicalUrlKey)
      (by simp [identityTiers, h₂])
    simp [h₁] at hfalse

/-! ## Operations that bring an attempt to life -/

def writtenCheckpoint : Op → Option (ℕ × Checkpoint)
  | .updateAttempt x patch => patch.checkpoint.map fun c => (x, c)
  | .settle x c _ => some (x, c)
  | .restartTailoring x _ => some (x, .queued)
  | _ => none

def Reapplies : Op → Prop
  | .createAttempt input _ => input.reapply ≠ none
  | _ => False

instance : DecidablePred Reapplies := fun o =>
  decidable_of_iff ((match o with
      | .createAttempt input _ => decide (input.reapply ≠ none)
      | _ => false) = true) (by cases o <;> simp [Reapplies])

def Revives (a : Op × State) : Prop :=
  match a.1 with
  | .createAttempt input identity =>
    input.force = true ∧ AliveBeside a.2 a.2.db.attempts.next identity
  | o =>
    match writtenCheckpoint o with
    | none => False
    | some (x, c) =>
      c ≠ .failed ∧ c ≠ .skipped ∧
        ∃ b ∈ a.2.attempt? x, ¬Alive b ∧ AliveBeside a.2 x b.toApplicationIdentity

instance : DecidablePred Revives := by
  rintro ⟨o, s⟩
  unfold Revives
  cases o <;> dsimp only <;> first
    | infer_instance
    | split <;> infer_instance

inductive AliveFrom (o : Op) (s : State) (x : ℕ) (identity : ApplicationIdentity) : Prop
  | kept {a : Attempt} (row : s.attempt? x = some a) (alive : Alive a)
      (same : a.toApplicationIdentity = identity)
  | revived {a : Attempt} {c : Checkpoint} (row : s.attempt? x = some a) (dead : ¬Alive a)
      (same : a.toApplicationIdentity = identity) (written : writtenCheckpoint o = some (x, c))
      (checkpoint : c ≠ .failed ∧ c ≠ .skipped)
  | created {input : AttemptInput} (op : o = .createAttempt input identity)
      (new : x = s.db.attempts.next) (checked : Creates s.db input identity)

lemma aliveFrom (hb : (Op.run o s).1.attempt? x = some b) (halive : Alive b) :
    AliveFrom o s x b.toApplicationIdentity := by
  cases ha : s.attempt? x with
  | none =>
    obtain ⟨input, identity, reapply, rfl, hx, rfl, hcreates⟩ := new_of_run ha hb
    exact .created rfl hx hcreates
  | some a =>
    obtain h | ⟨b', hrw, hb'⟩ := @row_of_run o s x a ha
    · rw [hb] at h
      cases h
      exact .kept ha halive rfl
    · rw [hb] at hb'
      cases hb'
      have hsame := hrw.identity.symm
      by_cases hdead : Alive a
      · exact .kept ha hdead hsame
      · obtain hcp | ⟨patch, rfl, hpatch, -⟩ | ⟨detail, rfl, -⟩ | ⟨mode, rfl, hcp, -⟩ :=
          hrw.checkpoint
        · rw [Alive, hcp] at halive
          exact absurd halive hdead
        · exact .revived ha hdead hsame (by rw [writtenCheckpoint, hpatch]; rfl) halive
        · exact .revived ha hdead hsame rfl halive
        · exact .revived ha hdead hsame rfl ⟨by decide, by decide⟩

lemma AliveFrom.alone {y : ℕ} (h : AliveFrom o s x identity) (hreapply : ¬Reapplies o)
    (hrevives : ¬Revives (o, s)) (hone : OneAlive s) (hxy : x ≠ y) (hb : s.attempt? y = some b)
    (hb' : Alive b) : ¬SameRequisition identity b.toApplicationIdentity := by
  intro hsame
  cases h with
  | @kept a ha halive hid =>
    subst hid
    exact hone x y a b hxy ha hb halive hb' hsame
  | @revived a c ha hdead hid hwritten hcp =>
    subst hid
    refine hrevives ?_
    have hbeside := aliveBeside_of_attempt? hb hxy.symm hb' hsame
    cases o with
    | createAttempt input identity => cases hwritten
    | _ =>
      dsimp only [Revives]
      rw [hwritten]
      exact ⟨hcp.1, hcp.2, a, ha, hdead, hbeside⟩
  | @created input ho hx hcreates =>
    subst ho
    have hmem := Table.mem_of_get? hb
    cases hforce : input.force with
    | true => exact hrevives ⟨hforce, hx ▸ aliveBeside_of_attempt? hb hxy.symm hb' hsame⟩
    | false =>
      rcases nonTerminal_or_completed hb' with hcp | hcp
      · refine not_sameRequisition_of_identityMatches (hcreates.notInProgress hforce) ?_ hsame
        exact List.mem_filter.mpr ⟨hmem, decide_eq_true hcp⟩
      · have hnone : input.reapply = none := not_not.mp hreapply
        refine not_sameRequisition_of_identityMatches (hcreates.notCompleted hnone) ?_ hsame
        exact List.mem_filter.mpr ⟨List.mem_reverse.mpr hmem, decide_eq_true hcp⟩

/-- **One operation** keeps at most one attempt at a requisition alive. -/
lemma OneAlive.run (h : OneAlive s) (hreapply : ¬Reapplies o) (hrevives : ¬Revives (o, s)) :
    OneAlive (Op.run o s).1:= by
  intro x y a b hxy ha hb halive hblive hsame
  have hx := aliveFrom ha halive
  have hy := aliveFrom hb hblive
  cases hy with
  | @kept b₀ hrow hlive hid =>
    exact hx.alone hreapply hrevives h hxy hrow hlive (hid ▸ hsame)
  | @revived b₀ c hrow hdead hid hwritten hcp =>
    cases hx with
    | @kept a₀ harow hlive haid =>
      refine AliveFrom.alone (.revived hrow hdead hid hwritten hcp) hreapply hrevives h hxy.symm
        harow hlive ?_
      exact haid ▸ hsame.symm
    | @revived a₀ c' _ _ _ hwritten' _ =>
      rw [hwritten] at hwritten'
      exact hxy (Prod.mk.inj (Option.some.inj hwritten')).1.symm
    | @created input ho _ _ =>
      subst ho
      cases hwritten
  | @created input ho hnew hcreates =>
    cases hx with
    | @kept a₀ harow hlive haid =>
      refine AliveFrom.alone (.created ho hnew hcreates) hreapply hrevives h hxy.symm harow hlive ?_
      exact haid ▸ hsame.symm
    | @revived a₀ c' _ _ _ hwritten' _ =>
      subst ho
      cases hwritten'
    | @created input' _ hnew' _ => exact hxy (hnew'.trans hnew.symm)

/-! ## All runs -/

/-- No operation of the event asks for a reapply or brings an attempt to life beside another one at
its requisition. -/
def RevivesAlone (host : Host) (c : Cfg sig State) (e : Event sig Call) : Prop :=
  ∀ a ∈ (desktop host).acts c e, ¬Reapplies a.1 ∧ ¬Revives a

instance (host : Host) (c : Cfg sig State) (e : Event sig Call) :
    Decidable (RevivesAlone host c e) :=
  inferInstanceAs (Decidable (∀ a ∈ (desktop host).acts c e, _))

def SecondApplication (a : Op × State) : Prop :=
  match a.1 with
  | .click x _ => ∃ r ∈ a.2.attempt? x, ∃ b ∈ a.2.db.attempts.rows, b.id ≠ x ∧
      SameRequisition r.toApplicationIdentity b.toApplicationIdentity ∧
        b.checkpoint ∈ Checkpoint.completed
  | _ => False

instance : DecidablePred SecondApplication := fun a =>
  decidable_of_iff ((match a.1 with
      | .click x _ => decide (∃ r ∈ a.2.attempt? x, ∃ b ∈ a.2.db.attempts.rows, b.id ≠ x ∧
          SameRequisition r.toApplicationIdentity b.toApplicationIdentity ∧
            b.checkpoint ∈ Checkpoint.completed)
      | _ => false) = true) (by
    obtain ⟨o, s⟩ := a
    cases o <;> simp [SecondApplication])

/-- **No second application without a reapply, as long as attempts are brought to life alone.**  In
every run without a reapply in which no attempt is forced or taken out of `failed` and `skipped`
beside another one at its requisition, no click is made beside a completed attempt at the same
requisition. -/
theorem no_second_application (host : Host) (world : World) {c : Cfg sig State}
    {e : Event sig Call}
    (hreach : (desktop host).Reach (RevivesAlone host) (started Database.empty world) c)
    (hok : RevivesAlone host c e) : ∀ a ∈ (desktop host).acts c e, ¬SecondApplication a := by
  rintro ⟨o, s⟩ hclick hsecond
  cases o with
  | click x firing =>
    obtain ⟨a, ha, b, hb, hne, hsame, hcompleted⟩ := hsecond
    have halive : Alive a := by
      obtain ⟨a', ha', hcp⟩ := submitting_at_click hreach rfl hclick
      rw [Option.mem_def.mp ha] at ha'
      cases ha'
      rw [Alive, hcp]
      decide
    have hstart : OneAlive (started Database.empty world).shared := by
      intro x y a b _ ha
      cases ha
    have hone : OneAlive s := by
      refine hreach.inv_at_acts hok hstart (fun _ h => h) (fun c e _ hce a ha h => ?_) _ hclick
      exact h.run (hce a ha).1 (hce a ha).2
    have hrow : s.attempt? b.id = some b := Table.get?_key hb
    exact hone x b.id a b hne.symm ha hrow halive (alive_of_completed hcompleted) hsame
  | _ => exact hsecond

/-- What a person asks for in the concrete runs. -/
def sampleStart : StartInput where
  vacancyKey := none
  company := "acme"
  role := "Engineer"
  applyUrl := "jobs/1"
  description := some "description"
  descriptionComplete := true

/-- An application that cannot be queued and fails; a second one for the same requisition that is
prepared; and its submission up to the last document. -/
def secondStarted : List (System.Move sig Call) :=
  [.event (.call (.start sampleStart)),
    .event (.reply 0 ⟨.queueing, .enqueue 0⟩ (.error (.other "no daemon"))),
    .serve 0 1,
    .event (.reply 0 ⟨.queueing, .enqueue 0⟩ (.error (.other "no daemon"))),
    .event (.call (.start sampleStart)), .serve 1 1,
    .event (.call .runNext), .serve 2 25,
    .event (.call (.submit 1 .manual false)), .serve 3 4]

/-- The end of the submission of the concrete runs. -/
def lastDocument (i x : ℕ) : Event sig Call :=
  .reply i ⟨.submit x none, .pdfText "bytes"⟩ (.ok "Engineer at acme")

/-- The second application is sent, beside the failed one. -/
theorem no_second_application_started :
    ∃ c, (desktop sampleHost).Reach (RevivesAlone sampleHost)
        (started Database.empty sampleWorld) c ∧
      (∃ a ∈ (desktop sampleHost).acts c (lastDocument 3 1), a.1.isClick = true) ∧
      ∀ a ∈ (desktop sampleHost).acts c (lastDocument 3 1), ¬SecondApplication a := by
  have hrun : ((desktop sampleHost).play (RevivesAlone sampleHost) (sampleAnswer 1)
      (started Database.empty sampleWorld) secondStarted).map (fun c =>
        (decide (RevivesAlone sampleHost c (lastDocument 3 1)),
          decide (∃ a ∈ (desktop sampleHost).acts c (lastDocument 3 1), a.1.isClick = true))) =
      some (true, true) := by
    decide +kernel
  obtain ⟨c, hc, hpair⟩ := Option.map_eq_some_iff.mp hrun
  obtain ⟨hok, hclick⟩ := Prod.mk.inj hpair
  have hreach := System.Reach.of_play hc
  exact ⟨c, hreach, of_decide_eq_true hclick,
    no_second_application sampleHost sampleWorld hreach (of_decide_eq_true hok)⟩

def failedResumed : List (System.Move sig Call) :=
  secondStarted ++
    [.serve 3 3,
      .event (.call (.resume 0)), .serve 4 2,
      .event (.call .runNext),
      .event (.reply 5 ⟨.worker, .acquireLease⟩ (.ok (some ⟨0, 0⟩))), .serve 5 24,
      .event (.call (.submit 0 .manual false)), .serve 6 4]

/-- The employer gets a second application, and no reapply was ever asked for. -/
theorem second_application_resumed :
    ∃ c, (desktop sampleHost).Reach
        (fun c e => ∀ a ∈ (desktop sampleHost).acts c e, ¬Reapplies a.1)
        (started Database.empty sampleWorld) c ∧
      ∃ a ∈ (desktop sampleHost).acts c (lastDocument 6 0), SecondApplication a := by
  have hrun : ((desktop sampleHost).play
      (fun c e => ∀ a ∈ (desktop sampleHost).acts c e, ¬Reapplies a.1) (sampleAnswer 1)
      (started Database.empty sampleWorld) failedResumed).map (fun c =>
        decide (∃ a ∈ (desktop sampleHost).acts c (lastDocument 6 0), SecondApplication a)) =
      some true := by
    decide +kernel
  obtain ⟨c, hc, hsecond⟩ := Option.map_eq_some_iff.mp hrun
  exact ⟨c, System.Reach.of_play hc, of_decide_eq_true hsecond⟩

end VacancyRadar.Desktop
