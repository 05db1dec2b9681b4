import VacancyRadar.Application.Checkpoint
import VacancyRadar.BlindApply.Gate
import VacancyRadar.Coop.Contract

/-!
# The state and the ports of the Blind Apply runner

What the functions of `blind-apply-runner.ts` share: the Blind Apply record, the memory of the
running process, and the attempt side of the workspace, which the runner only reads and which
changes under its feet.  Everything the runner awaits is a port.

An awaited call of the pipeline that hands an attempt to the preparation queue is awaited twice:
once until the attempt is handed over, and once until the call returns.
-/

namespace VacancyRadar.BlindApply

open Coop Data

/-! ## The world of the runner -/

structure AttemptView where
  id : ℕ
  /-- The item it was started for, which is only recorded. -/
  itemId : ℕ
  checkpoint : Checkpoint
  checkpointDetail : String

instance : Keyed AttemptView := ⟨AttemptView.id⟩

inductive ArtifactKind where
  | cvPdf
  | combinedPdf
  | coverLetterPdf
  | other
deriving DecidableEq

/-- What the runner reads of a prepared document. -/
structure ArtifactView where
  attemptId : ℕ
  kind : ArtifactKind
  contentHash : String

structure ReceiptView where
  id : ℕ
  attemptId : ℕ
  /-- Whether its outcome is `submitted`. -/
  submitted : Bool

/-- The answers of the synchronous dependencies of the runner, which can change at any time. -/
structure World where
  listCandidates : List Candidate
  /-- Whether `resolveVacancy` still finds the vacancy. -/
  resolveVacancy : String → Bool
  resolvePolicy : String → Option TargetPolicy
  minIntervalMs : String → ℤ
  /-- `hasActiveApplicationReview`. -/
  hasLive : ℕ → Bool
  /-- Whether `findInFlightOrCompletedApplication` finds an attempt. -/
  inFlightOrCompleted : Candidate → Bool
  /-- Whether `findManualApplicationDuplicate` finds a tracker row. -/
  manualDuplicate : Candidate → Bool

/-- What is recorded about the calls of the runner. -/
inductive Note where
  /-- An attempt was handed to the preparation queue. -/
  | handed (attemptId : ℕ)
  /-- Stop cancels the queue entry of an attempt. -/
  | stopCancels (attemptId : ℕ)
  /-- `beforeClick` returned true for an item. -/
  | clickAllowed (itemId : ℕ)
  /-- A `tick` returned and none of its ports failed. -/
  | tickCompleted
deriving DecidableEq

structure State where
  db : Store
  attempts : Table AttemptView
  artifacts : List ArtifactView
  receipts : List ReceiptView
  world : World
  clock : ℤ
  /-- `stopRequested`, in memory. -/
  stopRequested : List ℕ
  /-- `submitsInFlight`, in memory. -/
  submitsInFlight : List ℕ
  /-- `lastClickAt`, in memory. -/
  lastClickAt : List (String × ℤ)
  /-- The authorizations whose stop `stop()` has recorded. -/
  stops : List ℕ
  /-- The attempts of the items that `stop()` took out of preparation. -/
  taken : List ℕ
  /-- The record of the calls. -/
  notes : List Note
  /-- How many ports of a `tick` have failed. -/
  failures : ℕ
  /-- How many had failed when the last `tick` began. -/
  tickStart : ℕ
  /-- Whether a `tick` is under way. -/
  ticking : Bool

def State.restart (s : State) : State :=
  { s with stopRequested := [], submitsInFlight := [], lastClickAt := [], ticking := false }

/-! ## Ports -/

/-- Where a program waits: in which call, and for a turn of `tick` in which part of it. -/
inductive Site where
  | facts (authorizationId : ℕ)
  | select (authorizationId : ℕ)
  /-- The loop over the items that are being prepared, with the items still to come. -/
  | reconcile (authorizationId : ℕ) (rest : List Item)
  | start (authorizationId : ℕ)
  | send (authorizationId : ℕ)
  | stop
  | answer
  | recover
deriving DecidableEq

/-- Whether a program waits in a turn of `tick`. -/
def Site.ofTick : Site → Bool
  | facts _ | select _ | reconcile _ _ | start _ | send _ => true
  | stop | answer | recover => false

inductive Wait where
  | loadCurrentFacts
  | checkLiveness (vacancyKey : String)
  | start (itemId : ℕ)
  | started (attemptId : ℕ)
  | resume (attemptId : ℕ)
  | resumed (attemptId : ℕ)
  | requeue (attemptId : ℕ)
  | requeued (attemptId : ℕ)
  | cancelQueue (attemptId : ℕ)
  | close (attemptId : ℕ)
  | submit (itemId attemptId : ℕ)
  /-- The callback of the submission has answered. -/
  | submitAnswered (itemId attemptId : ℕ) (answer : Bool)
  /-- An inner call has settled and the caller is about to continue. -/
  | turn
deriving DecidableEq

/-- A point at which a program gives up the thread. -/
structure Port where
  site : Site
  wait : Wait
deriving DecidableEq

/-- `StartApplicationAttemptRefusal`, with the texts the runner records. -/
inductive StartRefusal where
  | noApplyUrl
  | noCvAvailable
  | attemptAlreadyInProgress

def StartRefusal.text : StartRefusal → String
  | noApplyUrl => "no_apply_url"
  | noCvAvailable => "no_cv_available"
  | attemptAlreadyInProgress => "attempt_already_in_progress"

/-- What `pipeline.start` does before it returns. -/
inductive StartReply where
  /-- A new attempt was created and handed to the queue. -/
  | created
  | refused (reason : StartRefusal) (detail : Option String)
  /-- It threw `ApplicationAlreadyCompletedError`. -/
  | alreadyCompleted

/-- What `pipeline.resume` does before it returns. -/
inductive ResumeReply where
  | handed
  | refused (detail : Option String)

/-- What `reviews.submit` does next. -/
inductive SubmitReply where
  /-- It asks its `beforeClick` callback. -/
  | beforeClick
  | settled (result : SubmitResult)

/-- The replies of a port. -/
abbrev Wait.Rep : Wait → Type
  | loadCurrentFacts => CurrentFacts
  | checkLiveness _ => Liveness
  | start _ => StartReply
  | resume _ => ResumeReply
  | submit _ _ => SubmitReply
  | submitAnswered _ _ _ => SubmitResult
  | started _ | resumed _ | requeue _ | requeued _ | cancelQueue _ | close _ | turn => Unit

inductive RunnerError where
  | store (error : StoreError)
  /-- `getApplicationAttempt` finds no row. -/
  | attemptNotFound (attemptId : ℕ)
  | port (message : String)

/-- `describeError`. -/
def RunnerError.describe : RunnerError → String
  | store (.duplicateItem id) =>
    "another Blind Apply item (" ++ toString id ++ ") already covers this role"
  | store .foreignKey => "FOREIGN KEY constraint failed"
  | attemptNotFound id => "no application attempt with id \"" ++ toString id ++ "\""
  | port message => message

/-! ## Operations -/

/-- Everything the programs do without giving up the thread.  The last group is what happens
outside the runner. -/
inductive Op where
  | now
  | world
  | activeAuthorization
  | getAuthorization (id : ℕ)
  | isStoreActive (id : ℕ)
  | isActive (id : ℕ)
  | createAuthorization (input : AuthorizationInput)
  | stopAuthorization (id : ℕ) (reason : String)
  | requestStop (id : ℕ)
  | recordStop (id : ℕ) (taken : List ℕ)
  | stopRequested (id : ℕ)
  | listItems (authorizationId : Option ℕ) (states : Option (List ItemState))
  | getItem (id : ℕ)
  | getItemByAttempt (attemptId : ℕ)
  | identityBlocked (identityKey : String)
  | insertItem (input : ItemInput)
  | move (itemId : ℕ) (expected : List ItemState) (target : ItemState) (patch : ItemPatch)
      (event : EventInput)
  | appendEvent (itemId : ℕ) (state : ItemState) (event : EventInput)
  | savedAnswers (itemId : ℕ)
  | saveAnswer (matchKey label : String) (controlType : ControlType) (answer : String)
      (optionSetHash : Option String)
  | answerUsed (id : ℕ)
  | getAttempt (id : ℕ)
  | listArtifacts (attemptId : ℕ)
  | listReceipts (attemptId : ℕ)
  | submitInFlight (itemId : ℕ)
  | beginSubmit (itemId : ℕ)
  | endSubmit (itemId : ℕ)
  | lastClick (policyId : String)
  | clicked (policyId : String)
  | note (entry : Note)
  | beginTick
  | endTick (returned : Bool) (before : ℕ)
  | failed (p : Port)
  | createAttempt (itemId : ℕ)
  | setAttempt (id : ℕ) (checkpoint : Checkpoint) (detail : String)
  | setWorld (w : World)
  | setClock (t : ℤ)
  | addArtifact (a : ArtifactView)
  | addReceipt (r : ReceiptView)

abbrev Op.Res : Op → Type
  | now => ℤ
  | world => World
  | activeAuthorization => Option Authorization
  | getAuthorization _ => Option Authorization
  | isStoreActive _ | isActive _ | stopRequested _ | stopAuthorization _ _
  | identityBlocked _ | submitInFlight _ => Bool
  | listItems _ _ => List Item
  | getItem _ | getItemByAttempt _ | move _ _ _ _ _ => Option Item
  | insertItem _ => Item × Bool
  | savedAnswers _ => String → Option (ℕ × String)
  | getAttempt _ => AttemptView
  | listArtifacts _ => List ArtifactView
  | listReceipts _ => List ReceiptView
  | lastClick _ => Option ℤ
  | beginTick | createAttempt _ => ℕ
  | createAuthorization _ => Authorization
  | requestStop _ | recordStop _ _ | appendEvent _ _ _ | saveAnswer _ _ _ _ _ | answerUsed _
  | beginSubmit _ | endSubmit _ | clicked _ | note _ | endTick _ _ | failed _ | setAttempt _ _ _
  | setWorld _ | setClock _ | addArtifact _ | addReceipt _ => Unit

abbrev sig : Sig where
  Op := Op
  Res := Op.Res
  Port := Port
  Rep p := p.wait.Rep
  Err := RunnerError

instance : DecidableEq sig.Port := inferInstanceAs (DecidableEq Port)

abbrev Run (α : Type) : Type := Prog sig α

/-- `isActive`: neither requested to stop nor stopped in the database. -/
def State.isActive (s : State) (id : ℕ) : Bool :=
  !s.stopRequested.contains id && s.db.isBlindApplyAuthorizationActive id

/-- The meaning of the operations. -/
def Op.run : Prog.Exec sig State := fun o s =>
  match o with
  | .now => (s, .ok s.clock)
  | .world => (s, .ok s.world)
  | .activeAuthorization => (s, .ok s.db.getActiveBlindApplyAuthorization)
  | .getAuthorization id => (s, .ok (s.db.getBlindApplyAuthorization id))
  | .isStoreActive id => (s, .ok (s.db.isBlindApplyAuthorizationActive id))
  | .isActive id => (s, .ok (s.isActive id))
  | .createAuthorization input =>
    let q := s.db.createBlindApplyAuthorization input s.clock
    ({ s with db := q.1 }, .ok q.2)
  | .stopAuthorization id reason =>
    let q := s.db.stopBlindApplyAuthorization id reason s.clock
    ({ s with db := q.1 }, .ok q.2)
  | .requestStop id => ({ s with stopRequested := id :: s.stopRequested }, .ok ())
  | .recordStop id taken =>
    ({ s with stops := id :: s.stops, taken := taken ++ s.taken }, .ok ())
  | .stopRequested id => (s, .ok (s.stopRequested.contains id))
  | .listItems authorizationId states =>
    (s, .ok (s.db.listBlindApplyItems authorizationId states))
  | .getItem id => (s, .ok (s.db.getBlindApplyItem id))
  | .getItemByAttempt attemptId => (s, .ok (s.db.getBlindApplyItemByAttempt attemptId))
  | .identityBlocked key => (s, .ok (s.db.findIdentityBlockingBlindApplyItem key).isSome)
  | .insertItem input =>
    let q := s.db.insertBlindApplyItem input s.clock
    ({ s with db := q.1 }, q.2.mapError .store)
  | .move itemId expected target patch event =>
    let q := s.db.transitionBlindApplyItem itemId expected target patch event s.clock
    ({ s with db := q.1 }, .ok q.2)
  | .appendEvent itemId state event =>
    let q := s.db.appendBlindApplyEvent itemId state event s.clock
    ({ s with db := q.1 }, (q.2.map fun _ => ()).mapError .store)
  | .savedAnswers itemId => (s, .ok (s.db.findSavedAnswer itemId))
  | .saveAnswer key label controlType answer optionSetHash =>
    ({ s with
        db := s.db.saveBlindApplyAnswer key label controlType answer optionSetHash s.clock },
      .ok ())
  | .answerUsed id => ({ s with db := s.db.recordBlindApplyAnswerUsed id s.clock }, .ok ())
  | .getAttempt id =>
    (s, match s.attempts.get? id with
      | some attempt => .ok attempt
      | none => .error (.attemptNotFound id))
  | .listArtifacts id => (s, .ok (s.artifacts.filter fun a => a.attemptId == id))
  | .listReceipts id => (s, .ok (s.receipts.filter fun r => r.attemptId == id))
  | .submitInFlight id => (s, .ok (s.submitsInFlight.contains id))
  | .beginSubmit id => ({ s with submitsInFlight := id :: s.submitsInFlight }, .ok ())
  | .endSubmit id =>
    ({ s with submitsInFlight := s.submitsInFlight.filter (· != id) }, .ok ())
  | .lastClick policyId =>
    (s, .ok ((s.lastClickAt.find? fun e => e.1 == policyId).map Prod.snd))
  | .clicked policyId => ({ s with lastClickAt := (policyId, s.clock) :: s.lastClickAt }, .ok ())
  | .note entry => ({ s with notes := s.notes ++ [entry] }, .ok ())
  | .beginTick => ({ s with ticking := true, tickStart := s.failures }, .ok s.failures)
  | .endTick returned before =>
    ({ s with
        ticking := false
        notes := s.notes ++
          if returned ∧ s.failures = before then [.tickCompleted] else [] }, .ok ())
  | .failed p => ({ s with failures := s.failures + if p.site.ofTick then 1 else 0 }, .ok ())
  | .createAttempt itemId =>
    ({ s with attempts := s.attempts.insert (fun id => ⟨id, itemId, .queued, ""⟩) fun _ => rfl },
      .ok s.attempts.next)
  | .setAttempt id checkpoint detail =>
    ({ s with
        attempts := s.attempts.update id
          (fun a => { a with checkpoint, checkpointDetail := detail }) fun _ => rfl }, .ok ())
  | .setWorld w => ({ s with world := w }, .ok ())
  | .setClock t => ({ s with clock := t }, .ok ())
  | .addArtifact a => ({ s with artifacts := s.artifacts ++ [a] }, .ok ())
  | .addReceipt r => ({ s with receipts := s.receipts ++ [r] }, .ok ())

def Op.reads : Op → Bool
  | now | world | activeAuthorization | getAuthorization _ | isStoreActive _ | isActive _
  | stopRequested _ | listItems _ _ | getItem _ | getItemByAttempt _ | identityBlocked _
  | savedAnswers _ | getAttempt _ | listArtifacts _ | listReceipts _ | submitInFlight _
  | lastClick _ => true
  | _ => false

lemma Op.run_of_reads {a : Op} (h : a.reads = true) (s : State) : (Op.run a s).1 = s := by
  cases a <;> first | rfl | cases h

/-! ## Basic programs -/

/-- Execute an operation. -/
def op (o : Op) : Run o.Res := Prog.exec (S := sig) o

def ask (site : Site) (wait : Wait) : Run wait.Rep :=
  Prog.await (S := sig) ⟨site, wait⟩ fun r =>
    match r with
    | .ok a => pure a
    | .error e => do
      op (.failed ⟨site, wait⟩)
      throw e

def inner {α : Type} (site : Site) (x : Run α) : Run α := Prog.call (S := sig) ⟨site, .turn⟩ x

/-! ## Contracts of the basic programs -/

section Contracts

variable {ι : Type} {K : Contract sig State ι} {o : ι ⊕ sig.Port} {s₀ s : State}

variable {a : Op} {site : Site} {wait : Wait}

@[simp] lemma meets_op {Q : Post sig State ι a.Res} : (op a).Meets K Op.run Q o s₀ s ↔
      (K.allow a s → K.pre a s ∧ Q o s₀ (Op.run a s).2 (Op.run a s).1) :=
  Prog.meets_exec

lemma meets_op_bind {α : Type} {f : a.Res → Run α} {Q : Post sig State ι α} {s' : State} {r : a.Res}
    (h : Op.run a s = (s', .ok r)) (hpre : K.allow a s → K.pre a s)
    (hf : K.allow a s → (f r).Meets K Op.run Q o s₀ s') : (op a >>= f).Meets K Op.run Q o s₀ s := by
  rw [Prog.meets_bind, meets_op, h]
  exact fun ha => ⟨hpre ha, hf ha⟩

lemma meets_getAttempt_bind {α : Type} {id : ℕ} {f : AttemptView → Run α}
    {Q : Post sig State ι α} (hpre : K.allow (.getAttempt id) s → K.pre (.getAttempt id) s)
    (hok : ∀ attempt, s.attempts.get? id = some attempt → (f attempt).Meets K Op.run Q o s₀ s)
    (herror : s.attempts.get? id = none → Q o s₀ (.error (.attemptNotFound id)) s) :
    (op (.getAttempt id) >>= f).Meets K Op.run Q o s₀ s := by
  rw [Prog.meets_bind, meets_op]
  refine fun ha => ⟨hpre ha, ?_⟩
  cases hget : s.attempts.get? id with
  | none =>
    have hrun : Op.run (.getAttempt id) s = (s, .error (.attemptNotFound id)) := by
      simp only [Op.run, hget]
    rw [hrun]
    exact herror hget
  | some attempt =>
    have hrun : Op.run (.getAttempt id) s = (s, .ok attempt) := by
      simp only [Op.run, hget]
    rw [hrun]
    exact hok attempt hget

lemma Safe.op (h : ∀ s, K.allow a s → K.pre a s) : Prog.Safe K Op.run (op a) := by
  intro o s₀ s
  rw [meets_op]
  exact fun ha => ⟨h s ha, trivial⟩

lemma meets_ask {Q : Post sig State ι wait.Rep} (hfailed : ∀ s, K.pre (.failed ⟨site, wait⟩) s)
    (hguar : K.guar o s₀ (some ⟨site, wait⟩) s) (hpoint : K.point ⟨site, wait⟩ s)
    (hok : ∀ a s', K.rely s s' → K.inv s' → K.point ⟨site, wait⟩ s' →
      K.reply ⟨site, wait⟩ (.ok a) s' → Q (.inr ⟨site, wait⟩) s' (.ok a) s')
    (herror : ∀ e s', K.rely s s' → K.inv s' → K.point ⟨site, wait⟩ s' →
      K.reply ⟨site, wait⟩ (.error e) s' →
        Q (.inr ⟨site, wait⟩) s' (.error e) (Op.run (.failed ⟨site, wait⟩) s').1) :
    (ask site wait).Meets K Op.run Q o s₀ s := by
  refine ⟨hguar, hpoint, fun r s' h₁ h₂ h₃ h₄ => ?_⟩
  cases r with
  | ok a => exact hok a s' h₁ h₂ h₃ h₄
  | error e => exact fun _ => ⟨hfailed s', herror e s' h₁ h₂ h₃ h₄⟩

lemma Safe.ask {V : sig.Port → Prop} (hfailed : ∀ s, K.pre (.failed ⟨site, wait⟩) s)
    (hV : V ⟨site, wait⟩) (hpoint : ∀ s, K.point ⟨site, wait⟩ s) :
    Prog.Safe (K.along V) Op.run (ask site wait) :=
  fun _ _ s => meets_ask hfailed trivial ⟨hV, hpoint s⟩ (fun _ _ _ _ _ _ => trivial)
    fun _ _ _ _ _ _ => trivial

end Contracts

end VacancyRadar.BlindApply
