import VacancyRadar.Desktop.Effects
import VacancyRadar.Desktop.Uses

/-!
# Preparations and completed applications

An attempt that is submitted, reported by the person, or submitted with an unknown outcome is
completed.  `updateApplicationAttempt` refuses to move a completed attempt on without an
explanation, and a preparation writes its intermediate checkpoints without one.  Where it settles
it does explain itself, so a preparation that settles late moves a completed attempt.
-/

namespace VacancyRadar.Desktop

open Coop Data Workspace Database Prog

def Completed (s : State) (x : ℕ) : Prop :=
  ∃ a ∈ s.attempt? x, a.checkpoint ∈ Checkpoint.completed

instance (s : State) (x : ℕ) : Decidable (Completed s x) :=
  inferInstanceAs (Decidable (∃ a ∈ s.attempt? x, _))

def CompletedKept (s t : State) : Prop :=
  ∀ x a, s.attempt? x = some a → a.checkpoint ∈ Checkpoint.completed →
    ∃ b, t.attempt? x = some b ∧ b.checkpoint = a.checkpoint

lemma CompletedKept.refl (s : State) : CompletedKept s s := fun _ a ha _ => ⟨a, ha, rfl⟩

lemma CompletedKept.trans {s t u : State} (h : CompletedKept s t) (h' : CompletedKept t u) :
    CompletedKept s u := by
  intro x a ha hcp
  obtain ⟨b, hb, hbcp⟩ := h x a ha hcp
  obtain ⟨c, hc, hccp⟩ := h' x b hb (hbcp ▸ hcp)
  exact ⟨c, hc, hccp.trans hbcp⟩

lemma not_completed_of_interrupted {c : Checkpoint} (hc : c ∈ Checkpoint.interrupted) :
    c ∉ Checkpoint.completed := by
  revert c
  decide

lemma unexplained_of_completed {patch : AttemptPatch} {a : Attempt} {c : Checkpoint}
    (ha : a.checkpoint ∈ Checkpoint.completed) (hc : c ∈ Checkpoint.interrupted)
    (hcp : patch.checkpoint = some c) (hdetail : patch.checkpointDetail = some "") :
    unexplained patch a = some c := by
  have hblank : trim (patch.checkpointDetail.getD "") = "" := by
    rw [hdetail]
    decide
  rw [unexplained, hcp]
  exact if_pos ⟨not_completed_of_interrupted hc, ha, hblank⟩

def LateSettle (a : Op × State) : Prop :=
  match a.1 with
  | .settle x _ _ => Completed a.2 x
  | _ => False

instance : DecidablePred LateSettle := fun a =>
  decidable_of_iff ((match a.1 with
      | .settle x _ _ => decide (Completed a.2 x)
      | _ => false) = true) (by
    obtain ⟨o, s⟩ := a
    cases o <;> simp [LateSettle])

lemma completedKept_of_work {o : Op} {s : State} (ho : WorkOp o) (hlate : ¬LateSettle (o, s)) :
    CompletedKept s (Op.run o s).1 := by
  intro x a ha hcp
  obtain h | ⟨b, hrw, hb⟩ := @row_of_run o s x a ha
  · exact ⟨a, h, rfl⟩
  · refine ⟨b, hb, ?_⟩
    obtain hsame | ⟨patch, rfl, hpatch, hex⟩ | ⟨detail, rfl, -⟩ | ⟨mode, rfl, -, -⟩ := hrw.checkpoint
    · exact hsame
    · -- an intermediate checkpoint, which a completed attempt refuses
      obtain hf | ⟨y, -, hnone | ⟨hdetail, c, hc, hpatch'⟩⟩ := ho
      · exact False.elim hf
      · rw [hnone] at hpatch
        cases hpatch
      · rw [unexplained_of_completed hcp hc hpatch' hdetail] at hex
        cases hex
    · exact absurd ⟨a, ha, hcp⟩ hlate
    · obtain hf | ⟨y, hf⟩ := ho <;> exact False.elim hf

def SettlesInTime (host : Host) (c : Cfg sig State) : Event sig Call → Prop
  | .reply i p r => p.site.isWorker = true →
      ∀ a ∈ (desktop host).acts c (.reply i p r), ¬LateSettle a
  | _ => True

instance (host : Host) (c : Cfg sig State) (e : Event sig Call) :
    Decidable (SettlesInTime host c e) :=
  match e with
  | .call _ => inferInstanceAs (Decidable True)
  | .reply _ _ _ => inferInstanceAs (Decidable (_ → _))
  | .crash => inferInstanceAs (Decidable True)

def preparedBeside : List (Event sig Call) :=
  [.call .runNext,
    .reply 0 ⟨.worker, .acquireLease⟩ (.ok (some ⟨0, 0⟩)),
    .reply 0 ⟨.prepare 0 1, .entryState 0⟩ (.ok none),
    .reply 0 ⟨.prepare 0 1, .loadProfile⟩ (.ok none),
    .reply 0 ⟨.prepare 0 1, .tailor⟩ (.error (.other "the session ended"))]

def reportedWhileTailoring : List (Event sig Call) :=
  [.call .runNext,
    .reply 0 ⟨.worker, .acquireLease⟩ (.ok (some ⟨0, 0⟩)),
    .reply 0 ⟨.prepare 0 1, .entryState 0⟩ (.ok none),
    .reply 0 ⟨.prepare 0 1, .loadProfile⟩ (.ok none),
    .call (.report 0 "sent it myself"),
    .reply 0 ⟨.prepare 0 1, .tailor⟩ (.error (.other "the session ended"))]

/-- A write that gives a reason for the checkpoint of `x`. -/
def Op.explains (x : ℕ) : Op → Bool
  | .updateAttempt y patch => y == x && trim (patch.checkpointDetail.getD "") != ""
  | .settle y _ detail => y == x && trim detail != ""
  | _ => false

def Kept (x : ℕ) (silent : Prop) (s t : State) : Prop :=
  ∀ a, s.attempt? x = some a → ∃ b, t.attempt? x = some b ∧
    b.toApplicationIdentity = a.toApplicationIdentity ∧
    (silent → a.checkpoint ∈ Checkpoint.completed → b.checkpoint ∈ Checkpoint.completed)

lemma completed_of_blank {patch : AttemptPatch} {a : Attempt} {next : Checkpoint}
    (h : unexplained patch a = none) (hnext : patch.checkpoint = some next)
    (ha : a.checkpoint ∈ Checkpoint.completed)
    (hblank : trim (patch.checkpointDetail.getD "") = "") : next ∈ Checkpoint.completed := by
  by_contra hne
  simp [unexplained, hnext, hne, ha, hblank] at h

lemma kept_of_run {o : Op} {s : State} {x : ℕ} {silent : Prop}
    (h : silent → o.explains x = false) : Kept x silent s (Op.run o s).1 := by
  intro a ha
  obtain hrow | ⟨b, hrw, hb⟩ := @row_of_run o s x a ha
  · exact ⟨a, hrow, rfl, fun _ => id⟩
  refine ⟨b, hb, hrw.identity, fun hs hcp => ?_⟩
  have hsilent := h hs
  obtain hsame | ⟨patch, rfl, hpatch, hex⟩ | ⟨detail, rfl, hex⟩ | ⟨mode, rfl, -, hold⟩ :=
    hrw.checkpoint
  · rwa [hsame]
  · exact completed_of_blank hex hpatch hcp (by simpa [Op.explains] using hsilent)
  · exact completed_of_blank hex rfl hcp (by simpa [Op.explains] using hsilent)
  · -- only an attempt that is not completed starts again
    rcases hold with hold | hold <;> simp [hold, Checkpoint.completed] at hcp

/-- What is being submitted or completed was so before. -/
def NothingSent (s t : State) : Prop :=
  ∀ x b, t.attempt? x = some b → b.checkpoint ∈ Checkpoint.submitting :: Checkpoint.completed →
    ∃ a, s.attempt? x = some a ∧ a.checkpoint = b.checkpoint

lemma nothingSent_of_work {o : Op} {s : State} (ho : WorkOp o) : NothingSent s (Op.run o s).1 := by
  intro x b hb hcp
  cases ha : s.attempt? x with
  | none =>
    obtain ⟨input, identity, reapply, rfl, -⟩ := new_of_run ha hb
    obtain hf | ⟨y, hf⟩ := ho <;> exact False.elim hf
  | some a =>
    refine ⟨a, rfl, ?_⟩
    obtain hrow | ⟨b', hrw, hb'⟩ := @row_of_run o s x a ha
    · rw [Option.some.inj (hrow.symm.trans hb)]
    obtain rfl := Option.some.inj (hb'.symm.trans hb)
    obtain hsame | ⟨patch, rfl, hpatch, -⟩ | ⟨detail, rfl, -⟩ | ⟨mode, rfl, -⟩ := hrw.checkpoint
    · exact hsame.symm
    · obtain hf | ⟨y, -, hnone | ⟨-, next, hnext, hpatch'⟩⟩ := ho
      · exact False.elim hf
      · simp [hnone] at hpatch
      · obtain rfl := Option.some.inj (hpatch'.symm.trans hpatch)
        rcases List.mem_cons.mp hcp with hsub | hcompleted
        · exact absurd (hsub ▸ hnext) (by decide)
        · exact absurd hcompleted (not_completed_of_interrupted hnext)
    · obtain hf | ⟨y, -, hsettle⟩ := ho
      · exact False.elim hf
      · exact absurd hcp hsettle
    · obtain hf | ⟨y, hf⟩ := ho <;> exact False.elim hf

/-- **A turn of the worker submits nothing.**  In every run it executes no click, and no attempt
comes to `submitting` or to a completed checkpoint by it. -/
theorem worker_submits_nothing {host : Host} {ok : Cfg sig State → Event sig Call → Prop}
    {db : Database} {world : World} {c c' : Cfg sig State} {i : ℕ} {p : Port}
    {r : Except DesktopError p.wait.Rep} (h : (desktop host).Reach ok (started db world) c)
    (hp : p.site.isWorker = true) (hstep : (desktop host).step c (.reply i p r) = some c') :
    (∀ o ∈ (desktop host).acts c (.reply i p r), o.1.isClick = false) ∧
      NothingSent c.shared c'.shared := by
  have hwork : ∀ o ∈ (desktop host).acts c (.reply i p r), WorkOp o.1 := workOp_of_acts h hp
  refine ⟨fun o ho => ?_, ?_⟩
  · obtain hf | ⟨x, hx⟩ := hwork o ho
    · revert hf
      cases o.1 <;> first | exact False.elim | exact fun _ => rfl
    · exact noClick_of_prepare hx
  · refine System.step_rel (fun _ _ b hb _ => ⟨b, hb, rfl⟩) ?_ (fun _ _ b hb _ => ⟨b, hb, rfl⟩)
      hstep fun o ho => nothingSent_of_work (hwork o ho)
    intro s t u hst htu x b hb hcp
    obtain ⟨a, ha, hab⟩ := htu x b hb hcp
    obtain ⟨d, hd, hda⟩ := hst x a ha (hab ▸ hcp)
    exact ⟨d, hd, hda.trans hab⟩

theorem worker_submits_nothing_beside :
    ∃ c c', (desktop sampleHost).run (started (sampleDb [.queued, .userReported]) sampleWorld)
        preparedBeside = some c ∧
      (desktop sampleHost).step c (.reply 0 ⟨.prepare 0 1, .returned⟩ (.ok ())) = some c' ∧
      NothingSent c.shared c'.shared := by
  have hrun : ((desktop sampleHost).run
      (started (sampleDb [.queued, .userReported]) sampleWorld) preparedBeside).map (fun c =>
        ((desktop sampleHost).step c (.reply 0 ⟨.prepare 0 1, .returned⟩ (.ok ()))).isSome) =
      some true := by
    decide
  obtain ⟨c, hc, hsome⟩ := Option.map_eq_some_iff.mp hrun
  obtain ⟨c', hc'⟩ := Option.isSome_iff_exists.mp hsome
  exact ⟨c, c', hc, hc', (worker_submits_nothing (System.Reach.of_run hc) rfl hc').2⟩

end VacancyRadar.Desktop
