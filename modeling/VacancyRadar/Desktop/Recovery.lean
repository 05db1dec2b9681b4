import VacancyRadar.Coop.Alone
import VacancyRadar.Daemon.QueueStore
import VacancyRadar.Desktop.Effects

/-!
# The recovery and the queue

`recoverInterruptedApplicationAttempts` beside the daemon whose queue it asks.  Some of its calls
may not reach the daemon.
-/

namespace VacancyRadar.Desktop

open Coop Data Workspace Prog Daemon

/-- The daemon behind the ports of the recovery.  The calls in `down` do not reach it. -/
def daemon (down : Wait → Bool) (now : ℤ) (p : Port) (queue : Queue) :
    Queue × Except DesktopError p.wait.Rep :=
  match p with
  | ⟨_, .enqueue x⟩ =>
    if down (.enqueue x) then (queue, .error (.other "unreachable"))
    else (queue.enqueue now x, .ok ())
  | ⟨_, .entryState x⟩ =>
    if down (.entryState x) then (queue, .error (.other "unreachable"))
    else (queue, .ok (queue.entryState x))
  | ⟨_, .returned⟩ => (queue, .ok ())
  | _ => (queue, .error (.other "not asked"))

def recoverBeside (down : Wait → Bool) (now : ℤ) (w : State × Queue) :
    (State × Queue) × Except DesktopError Unit :=
  recoverInterruptedApplicationAttempts.beside Op.run (daemon down now) w

section Parts

variable {down : Wait → Bool} {now : ℤ} {s : State} {queue : Queue} {x y : ℕ}

/-! ## The queue -/

def requeued (down : Wait → Bool) (now : ℤ) (queue : Queue) (x : ℕ) : Queue :=
  if down (.enqueue x) then queue else queue.enqueue now x

lemma beside_recoverEnqueue (site : Site) :
    (recoverEnqueue site x).beside Op.run (daemon down now) (s, queue) =
      ((s, requeued down now queue x), .ok ()) := by
  unfold recoverEnqueue inner requeued
  rw [beside_call fun _ => rfl, beside_bind, beside_attempt, ask, beside_wait]
  cases hdown : down (.enqueue x) <;> simp only [daemon, hdown] <;> rfl

lemma entryState_requeued : (requeued down now queue x).entryState y =
    if x = y ∧ down (.enqueue x) = false then some (Queue.queuedFrom (queue.entryState y))
    else queue.entryState y := by
  unfold requeued
  cases hdown : down (.enqueue x) with
  | true => simp
  | false =>
    simp only [Bool.false_eq_true, if_false, Queue.entryState_enqueue, and_true]
    by_cases hxy : x = y
    · rw [if_pos hxy, if_pos hxy, hxy]
    · rw [if_neg hxy, if_neg hxy]

lemma queuedFrom_queuedFrom (state : Option QueueState) :
    Queue.queuedFrom (some (Queue.queuedFrom state)) = Queue.queuedFrom state := by
  rcases state with _ | state
  · rfl
  · cases state <;> rfl

lemma entryState_requeuedAll (l : List ℕ) :
    (l.foldl (requeued down now) queue).entryState y =
      if y ∈ l ∧ down (.enqueue y) = false then some (Queue.queuedFrom (queue.entryState y))
      else queue.entryState y := by
  induction l generalizing queue with
  | nil => simp
  | cons x rest ih =>
    rw [List.foldl_cons, ih, entryState_requeued]
    by_cases hdown : down (.enqueue y) = false
    · by_cases hxy : x = y
      · subst hxy
        simp [hdown, queuedFrom_queuedFrom]
      · have hyx : y ≠ x := Ne.symm hxy
        simp [hxy, hyx]
    · have hnot : ¬(x = y ∧ down (.enqueue x) = false) := by
        rintro ⟨rfl, h⟩
        exact hdown h
      rw [if_neg hnot, if_neg fun h => hdown h.2, if_neg fun h => hdown h.2]

def lookedAt (down : Wait → Bool) (now : ℤ) (queue : Queue) (x : ℕ) : Queue :=
  if down (.entryState x) = false ∧ recoveryMayReQueue (queue.entryState x) then
    requeued down now queue x
  else queue

lemma beside_recoverQueued (attempt : Attempt) :
    (recoverQueued attempt).beside Op.run (daemon down now) (s, queue) =
      ((s, lookedAt down now queue attempt.id), .ok ()) := by
  unfold recoverQueued lookedAt
  rw [beside_bind, beside_attempt, ask, beside_wait]
  cases hdown : down (.entryState attempt.id) with
  | true =>
    simp only [daemon, hdown]
    rfl
  | false =>
    simp only [daemon, hdown, Bool.false_eq_true, if_false, thenAlone, true_and]
    split
    · exact beside_recoverEnqueue _
    · rfl

def lookedState (down : Wait → Bool) (x : ℕ) (state : Option QueueState) : Option QueueState :=
  if down (.entryState x) = false ∧ recoveryMayReQueue state ∧ down (.enqueue x) = false then
    some .queued
  else state

lemma entryState_lookedAt : (lookedAt down now queue x).entryState y =
    if x = y then lookedState down x (queue.entryState x) else queue.entryState y := by
  unfold lookedAt lookedState
  by_cases hlook : down (.entryState x) = false ∧ recoveryMayReQueue (queue.entryState x) = true
  · have hfrom : Queue.queuedFrom (queue.entryState x) = .queued := by
      cases hstate : queue.entryState x with
      | none => rfl
      | some state =>
        rw [hstate] at hlook
        cases state <;> first | rfl | exact absurd hlook.2 (by decide)
    rw [if_pos hlook, entryState_requeued]
    by_cases hxy : x = y
    · subst hxy
      simp [hlook, hfrom]
    · simp [hxy]
  · rw [if_neg hlook]
    have hnot : ¬(down (.entryState x) = false ∧ recoveryMayReQueue (queue.entryState x) = true ∧
        down (.enqueue x) = false) := fun h => hlook ⟨h.1, h.2.1⟩
    rw [if_neg hnot]
    split
    · rename_i hxy
      rw [hxy]
    · rfl

lemma lookedState_lookedState (state : Option QueueState) :
    lookedState down x (lookedState down x state) = lookedState down x state := by
  by_cases h : down (.entryState x) = false ∧ recoveryMayReQueue state = true ∧
      down (.enqueue x) = false
  · have hlooked : lookedState down x state = some .queued := if_pos h
    rw [hlooked]
    exact if_neg fun h => Bool.false_ne_true h.2.1
  · have hlooked : lookedState down x state = state := if_neg h
    rw [hlooked, hlooked]

lemma lookedAt_eq (h : lookedState down x (queue.entryState x) = queue.entryState x) :
    lookedAt down now queue x = queue := by
  unfold lookedAt requeued
  split
  · rename_i hlook
    split
    · rfl
    · rename_i hup
      -- An attempt that is handed over is queued, from where nothing is handed over.
      have hqueued : queue.entryState x = some .queued := by
        rw [← h]
        exact if_pos ⟨hlook.1, hlook.2, Bool.eq_false_iff.mpr hup⟩
      rw [hqueued] at hlook
      exact absurd hlook.2 (by decide)
  · rfl

lemma entryState_lookedAll (l : List ℕ) :
    (l.foldl (lookedAt down now) queue).entryState y =
      if y ∈ l then lookedState down y (queue.entryState y) else queue.entryState y := by
  induction l generalizing queue with
  | nil => simp
  | cons x rest ih =>
    rw [List.foldl_cons, ih, entryState_lookedAt]
    by_cases hxy : x = y
    · subst hxy
      simp [lookedState_lookedState]
    · have hyx : y ≠ x := Ne.symm hxy
      simp [hxy, hyx]

lemma foldl_lookedAt_eq {l : List ℕ}
    (h : ∀ x ∈ l, lookedState down x (queue.entryState x) = queue.entryState x) :
    l.foldl (lookedAt down now) queue = queue := by
  induction l with
  | nil => rfl
  | cons x rest ih =>
    rw [List.foldl_cons, lookedAt_eq (h x List.mem_cons_self)]
    exact ih fun y hy => h y (List.mem_cons_of_mem _ hy)

/-! ## The attempts -/

lemma beside_op_bind {α : Type} {o : Op} {r : o.Res} {t : State} {f : o.Res → Run α}
    (h : Op.run o s = (t, .ok r)) :
    (op o >>= f).beside Op.run (daemon down now) (s, queue) =
      (f r).beside Op.run (daemon down now) (t, queue) := by
  refine beside_bind_ok ?_
  rw [op, beside_exec, h]

abbrev Present (s : State) (x : ℕ) : Prop := ∃ row, s.attempt? x = some row

abbrev RowAt (s : State) (x : ℕ) (checkpoint : Checkpoint) : Prop :=
  ∃ row, s.attempt? x = some row ∧ row.checkpoint = checkpoint

structure Moved (s s' : State) (x : ℕ) (checkpoint : Checkpoint) : Prop where
  row : RowAt s' x checkpoint
  others : ∀ y, y ≠ x → s'.attempt? y = s.attempt? y

lemma update_moves {patch : AttemptPatch} {checkpoint : Checkpoint} {detail : String}
    (hpresent : Present s x) (hcp : patch.checkpoint = some checkpoint)
    (hdetail : patch.checkpointDetail = some detail) (htrim : trim detail ≠ "") :
    ∃ t a, Op.run (.updateAttempt x patch) s = (t, .ok a) ∧ Moved s t x checkpoint := by
  obtain ⟨row, hrow⟩ := hpresent
  have hex : Database.unexplained patch row = none := by
    unfold Database.unexplained
    rw [hcp, hdetail]
    refine if_neg ?_
    rintro ⟨-, -, hempty⟩
    exact htrim hempty
  obtain ⟨hok, hrow'⟩ := run_update_of_explained hrow hex
  refine ⟨_, _, Prod.ext rfl hok, ⟨_, hrow', ?_⟩, fun y hy => attempt?_update_other hy⟩
  rw [Database.patchAttempt, hcp]
  rfl

lemma recordPrepared_moves {checkpoint : Checkpoint} (h : RowAt s x checkpoint) :
    ∃ t, Op.run (.recordPrepared x none) s = (t, .ok ()) ∧ Moved s t x checkpoint := by
  obtain ⟨row, hrow, hcp⟩ := h
  unfold State.attempt? at hrow
  simp only [Op.run, State.onDb, Database.recordPreparedApplicationFields, hrow]
  refine ⟨_, rfl, ⟨{ row with preparedFields := none }, ?_, hcp⟩, fun y hy => ?_⟩
  · unfold State.attempt?
    rw [row_update hrow, if_pos rfl]
  · unfold State.attempt?
    rw [Table.get?_update, if_neg (Ne.symm hy)]

lemma receipt_keeps (input : ReceiptInput) :
    (Op.run (.createReceipt input) s).1.attempt? y = s.attempt? y := by
  simp only [State.attempt?, Op.run, State.onDb, attempts_createReceipt]

lemma beside_recoverPreparations (l : List ℕ) (hl : ∀ x ∈ l, Present s x) :
    ∃ s', (recoverPreparations l).beside Op.run (daemon down now) (s, queue) =
        ((s', l.foldl (requeued down now) queue), .ok ()) ∧
      (∀ x ∈ l, RowAt s' x .queued) ∧ ∀ x ∉ l, s'.attempt? x = s.attempt? x := by
  induction l generalizing s queue with
  | nil => exact ⟨s, rfl, nofun, fun _ _ => rfl⟩
  | cons x rest ih =>
    obtain ⟨s₁, a, hupdate, hmoved⟩ := @update_moves s x
      { checkpoint := some .queued, checkpointDetail := some interruptedRestartDetail } .queued
      interruptedRestartDetail (hl x List.mem_cons_self) rfl rfl (by decide)
    obtain ⟨s₂, hprepared, hmoved'⟩ := recordPrepared_moves hmoved.row
    have hothers : ∀ y, y ≠ x → s₂.attempt? y = s.attempt? y := fun y hy =>
      (hmoved'.others y hy).trans (hmoved.others y hy)
    have hpresent : ∀ y ∈ rest, Present s₂ y := by
      intro y hy
      by_cases hyx : y = x
      · obtain ⟨row, hrow, -⟩ := hmoved'.row
        exact ⟨row, hyx ▸ hrow⟩
      · obtain ⟨row, hrow⟩ := hl y (List.mem_cons_of_mem _ hy)
        exact ⟨row, (hothers y hyx).trans hrow⟩
    obtain ⟨s', hrun, hrows, hrest⟩ := @ih s₂ (requeued down now queue x) hpresent
    refine ⟨s', ?_, ?_, ?_⟩
    · unfold recoverPreparations
      rw [beside_op_bind hupdate, beside_op_bind hprepared,
        beside_bind_ok (beside_recoverEnqueue _)]
      exact hrun
    · intro y hy
      by_cases hyrest : y ∈ rest
      · exact hrows y hyrest
      · have hyx : y = x := (List.mem_cons.mp hy).resolve_right hyrest
        subst hyx
        obtain ⟨row, hrow, hcp⟩ := hmoved'.row
        exact ⟨row, (hrest y hyrest).trans hrow, hcp⟩
    · intro y hy
      obtain ⟨hyx, hyrest⟩ := not_or.mp (mt List.mem_cons.mpr hy)
      exact (hrest y hyrest).trans (hothers y hyx)

lemma beside_recoverSubmission {attempt : Attempt} (hpresent : Present s attempt.id) :
    ∃ s', (recoverSubmission attempt).beside Op.run (daemon down now) (s, queue) =
        ((s', queue), .ok ()) ∧ Moved s s' attempt.id .submissionUnknown := by
  unfold recoverSubmission
  rw [beside_op_bind (o := .now) rfl]
  generalize hinput : ({
    attemptId := attempt.id, outcome := .unknown, source := .pageObservation
    destination := attempt.canonicalUrl, evidenceKind := .none
    detail := interruptedSubmissionDetail, observedAt := s.clock } : ReceiptInput) = input
  have hreceipt : (op (.createReceipt input)).attempt.beside Op.run (daemon down now) (s, queue) =
      (((Op.run (.createReceipt input) s).1, queue), .ok (Op.run (.createReceipt input) s).2) := by
    rw [beside_attempt, op, beside_exec]
  rw [beside_bind_ok hreceipt]
  have hkeeps : ∀ y, (Op.run (.createReceipt input) s).1.attempt? y = s.attempt? y := fun y =>
    receipt_keeps input
  generalize (Op.run (.createReceipt input) s).1 = s₁ at *
  have hpresent' : Present s₁ attempt.id := by
    obtain ⟨row, hrow⟩ := hpresent
    exact ⟨row, (hkeeps _).trans hrow⟩
  obtain ⟨t, a, hupdate, hmoved⟩ := @update_moves s₁ attempt.id
    { checkpoint := some .submissionUnknown, checkpointDetail := some interruptedSubmissionDetail
      submittedAt := some (some s.clock) } .submissionUnknown interruptedSubmissionDetail hpresent'
    rfl rfl (by decide +kernel)
  refine ⟨t, ?_, hmoved.row, fun y hy => (hmoved.others y hy).trans (hkeeps y)⟩
  rw [beside_op_bind hupdate]
  rfl

lemma beside_recoverSubmissions (l : List Attempt) (hl : ∀ a ∈ l, Present s a.id) :
    ∃ s', (forEach l recoverSubmission).beside Op.run (daemon down now) (s, queue) =
        ((s', queue), .ok ()) ∧
      (∀ x ∈ l.map Attempt.id, RowAt s' x .submissionUnknown) ∧
      ∀ x ∉ l.map Attempt.id, s'.attempt? x = s.attempt? x := by
  induction l generalizing s with
  | nil => exact ⟨s, rfl, nofun, fun _ _ => rfl⟩
  | cons a rest ih =>
    obtain ⟨s₁, hhead, hmoved⟩ := @beside_recoverSubmission down now s queue a
      (hl a List.mem_cons_self)
    have hpresent : ∀ b ∈ rest, Present s₁ b.id := by
      intro b hb
      by_cases hba : b.id = a.id
      · obtain ⟨row, hrow, -⟩ := hmoved.row
        exact ⟨row, hba ▸ hrow⟩
      · obtain ⟨row, hrow⟩ := hl b (List.mem_cons_of_mem _ hb)
        exact ⟨row, (hmoved.others _ hba).trans hrow⟩
    obtain ⟨s', hrun, hrows, hrest⟩ := ih hpresent
    refine ⟨s', ?_, ?_, ?_⟩
    · rw [forEach, beside_bind_ok hhead]
      exact hrun
    · intro y hy
      by_cases hyrest : y ∈ rest.map Attempt.id
      · exact hrows y hyrest
      · have hya : y = a.id := (List.mem_cons.mp hy).resolve_right hyrest
        subst hya
        obtain ⟨row, hrow, hcp⟩ := hmoved.row
        exact ⟨row, (hrest _ hyrest).trans hrow, hcp⟩
    · intro y hy
      obtain ⟨hya, hyrest⟩ := not_or.mp (mt List.mem_cons.mpr hy)
      exact (hrest y hyrest).trans (hmoved.others y hya)

lemma beside_recoverQueuedAll (l : List Attempt) :
    (forEach l recoverQueued).beside Op.run (daemon down now) (s, queue) =
      ((s, (l.map Attempt.id).foldl (lookedAt down now) queue), .ok ()) := by
  induction l generalizing queue with
  | nil => rfl
  | cons a rest ih =>
    rw [forEach, beside_bind_ok (beside_recoverQueued a)]
    exact ih

/-! ## The whole recovery -/

def idsWhere (s : State) (p : Attempt → Bool) : List ℕ :=
  (s.db.listApplicationAttempts.filter p).map Attempt.id

lemma mem_idsWhere {p : Attempt → Bool} :
    x ∈ idsWhere s p ↔ ∃ row, s.attempt? x = some row ∧ p row = true := by
  simp only [idsWhere, Database.listApplicationAttempts, List.mem_map, List.mem_filter,
    List.mem_reverse]
  constructor
  · rintro ⟨row, ⟨hrow, hp⟩, rfl⟩
    exact ⟨row, Table.get?_key hrow, hp⟩
  · rintro ⟨row, hrow, hp⟩
    exact ⟨row, ⟨Table.mem_of_get? hrow, hp⟩, Table.key_of_get? hrow⟩

abbrev interruptedIds (s : State) : List ℕ :=
  idsWhere s fun a => a.checkpoint ∈ Checkpoint.interrupted

abbrev queuedIds (s : State) : List ℕ := idsWhere s fun a => a.checkpoint = .queued

def recoveredQueue (down : Wait → Bool) (now : ℤ) (s : State) (queue : Queue) : Queue :=
  (queuedIds s).foldl (lookedAt down now) ((interruptedIds s).foldl (requeued down now) queue)

def recoveredCheckpoint (checkpoint : Checkpoint) : Checkpoint :=
  if checkpoint ∈ Checkpoint.interrupted then .queued
  else if checkpoint = .submitting then .submissionUnknown
  else checkpoint

/-- **A recovery** ends, and this is what it leaves. -/
lemma recoverBeside_eq (down : Wait → Bool) (now : ℤ) (s : State) (queue : Queue) :
    ∃ s', recoverBeside down now (s, queue) =
        ((s', recoveredQueue down now s queue), .ok ()) ∧
      (∀ x, s.attempt? x = none → s'.attempt? x = none) ∧
      ∀ x row, s.attempt? x = some row → RowAt s' x (recoveredCheckpoint row.checkpoint) ∧
        (recoveredCheckpoint row.checkpoint = row.checkpoint → s'.attempt? x = some row) := by
  have hlisted : ∀ (p : Attempt → Bool), ∀ x ∈ idsWhere s p, Present s x := by
    intro p x hx
    obtain ⟨row, hrow, -⟩ := mem_idsWhere.mp hx
    exact ⟨row, hrow⟩
  obtain ⟨s₁, hfirst, hrows₁, hrest₁⟩ := @beside_recoverPreparations down now s queue
    (interruptedIds s) (hlisted _)
  have hpresent : ∀ a ∈ s.db.listApplicationAttempts.filter fun a => a.checkpoint = .submitting,
      Present s₁ a.id := by
    intro a ha
    have ha' := List.mem_map_of_mem (f := Attempt.id) ha
    by_cases hx : a.id ∈ interruptedIds s
    · obtain ⟨row, hrow, -⟩ := hrows₁ _ hx
      exact ⟨row, hrow⟩
    · obtain ⟨row, hrow⟩ := hlisted _ _ ha'
      exact ⟨row, (hrest₁ _ hx).trans hrow⟩
  obtain ⟨s₂, hsecond, hrows₂, hrest₂⟩ := @beside_recoverSubmissions down now s₁
    ((interruptedIds s).foldl (requeued down now) queue) _ hpresent
  have hsubmitting : ∀ x, x ∈ (s.db.listApplicationAttempts.filter fun a =>
      a.checkpoint = .submitting).map Attempt.id ↔
        ∃ row, s.attempt? x = some row ∧ decide (row.checkpoint = .submitting) = true := fun x =>
    mem_idsWhere
  refine ⟨s₂, ?_, ?_, ?_⟩
  · unfold recoverBeside recoverInterruptedApplicationAttempts
    rw [beside_op_bind (o := .listAttempts) rfl]
    refine (beside_bind_ok hfirst).trans ?_
    refine (beside_bind_ok hsecond).trans ?_
    exact beside_recoverQueuedAll _
  · intro x hx
    have hnot : ∀ p, x ∉ idsWhere s p := by
      intro p hmem
      obtain ⟨row, hrow, -⟩ := mem_idsWhere.mp hmem
      rw [hx] at hrow
      cases hrow
    exact (hrest₂ x (hnot _)).trans ((hrest₁ x (hnot _)).trans hx)
  · intro x row hrow
    have hin : x ∈ interruptedIds s ↔ row.checkpoint ∈ Checkpoint.interrupted := by
      rw [mem_idsWhere]
      simp [hrow]
    have hsub : x ∈ (s.db.listApplicationAttempts.filter fun a =>
        a.checkpoint = .submitting).map Attempt.id ↔ row.checkpoint = .submitting := by
      rw [hsubmitting]
      simp [hrow]
    unfold recoveredCheckpoint
    by_cases hint : row.checkpoint ∈ Checkpoint.interrupted
    · have hne : row.checkpoint ≠ .submitting := by
        rintro heq
        rw [heq] at hint
        exact absurd hint (by decide)
      rw [if_pos hint]
      obtain ⟨row', hrow', hcp⟩ := hrows₁ x (hin.mpr hint)
      refine ⟨⟨row', (hrest₂ x (mt hsub.mp hne)).trans hrow', hcp⟩, fun heq => ?_⟩
      rw [← heq] at hint
      exact absurd hint (by decide)
    · rw [if_neg hint]
      by_cases hs : row.checkpoint = .submitting
      · rw [if_pos hs]
        refine ⟨hrows₂ x (hsub.mpr hs), fun heq => ?_⟩
        rw [hs] at heq
        cases heq
      · rw [if_neg hs]
        have hsame := (hrest₂ x (mt hsub.mp hs)).trans ((hrest₁ x (mt hin.mp hint)).trans hrow)
        exact ⟨⟨row, hsame, rfl⟩, fun _ => hsame⟩

lemma entryState_recoveredQueue {row : Attempt} (hrow : s.attempt? x = some row) :
    (recoveredQueue down now s queue).entryState x =
      if row.checkpoint ∈ Checkpoint.interrupted then
        if down (.enqueue x) = false then some (Queue.queuedFrom (queue.entryState x))
        else queue.entryState x
      else if row.checkpoint = .queued then lookedState down x (queue.entryState x)
      else queue.entryState x := by
  have hin : x ∈ interruptedIds s ↔ row.checkpoint ∈ Checkpoint.interrupted := by
    rw [mem_idsWhere]
    simp [hrow]
  have hqueued : x ∈ queuedIds s ↔ row.checkpoint = .queued := by
    rw [mem_idsWhere]
    simp [hrow]
  rw [recoveredQueue, entryState_lookedAll, entryState_requeuedAll]
  simp only [hin, hqueued]
  by_cases hint : row.checkpoint ∈ Checkpoint.interrupted
  · have hne : row.checkpoint ≠ .queued := by
      intro heq
      rw [heq] at hint
      exact absurd hint (by decide)
    by_cases hdown : down (.enqueue x) = false <;> simp [hint, hne, hdown]
  · simp [hint]

lemma entryState_recoveredQueue_none (hrow : s.attempt? x = none) :
    (recoveredQueue down now s queue).entryState x = queue.entryState x := by
  have hnot : ∀ p, x ∉ idsWhere s p := by
    intro p hmem
    obtain ⟨row, hrow', -⟩ := mem_idsWhere.mp hmem
    rw [hrow] at hrow'
    cases hrow'
  rw [recoveredQueue, entryState_lookedAll, if_neg (hnot _), entryState_requeuedAll,
    if_neg fun h => hnot _ h.1]

end Parts

def leftAlone : List Checkpoint :=
  [.ready, .needsUser, .submitted, .userReported, .submissionUnknown, .skipped, .failed]

structure RespectsDecisions (down : Wait → Bool) (s : State) (queue : Queue) (s' : State)
    (queue' : Queue) : Prop where
  /-- What was cancelled or put on hold is not scheduled. -/
  decisions : ∀ x, queue.entryState x = some .cancelled ∨ queue.entryState x = some .paused →
    queue'.entryState x ≠ some .queued
  /-- Nothing is left where only a running preparation or submission may be. -/
  settled : ∀ x row, s'.attempt? x = some row →
    row.checkpoint ∉ Checkpoint.submitting :: Checkpoint.interrupted
  kept : ∀ x row, s.attempt? x = some row → row.checkpoint ∈ leftAlone → s'.attempt? x = some row
  /-- Another recovery changes nothing more. -/
  again : ∀ now, recoverBeside down now (s', queue') = ((s', queue'), .ok ())

section Respects

variable {down : Wait → Bool} {now : ℤ} {s s' : State} {queue : Queue}

lemma recoverBeside_settled (hsettled : ∀ x row, s.attempt? x = some row →
    row.checkpoint ∉ Checkpoint.submitting :: Checkpoint.interrupted)
    (hlooked : ∀ x ∈ queuedIds s,
      lookedState down x (queue.entryState x) = queue.entryState x) :
    recoverBeside down now (s, queue) = ((s, queue), .ok ()) := by
  have hnone : ∀ p : Attempt → Bool, (∀ row, p row = true →
      row.checkpoint ∈ Checkpoint.submitting :: Checkpoint.interrupted) →
      s.db.listApplicationAttempts.filter p = [] := by
    intro p hp
    refine List.filter_eq_nil_iff.mpr fun row hrow hpass => ?_
    have hget : s.attempt? row.id = some row := Table.get?_key (List.mem_reverse.mp hrow)
    exact hsettled _ _ hget (hp row hpass)
  have hinterrupted := hnone (fun a => a.checkpoint ∈ Checkpoint.interrupted) fun row hp =>
    List.mem_cons_of_mem _ (of_decide_eq_true hp)
  have hsubmitting := hnone (fun a => a.checkpoint = .submitting) fun row hp =>
    List.mem_cons.mpr (.inl (of_decide_eq_true hp))
  unfold recoverBeside recoverInterruptedApplicationAttempts
  rw [beside_op_bind (o := .listAttempts) rfl]
  rw [hinterrupted, hsubmitting]
  refine (beside_recoverQueuedAll _).trans ?_
  exact congrArg (fun q => ((s, q), Except.ok ())) (foldl_lookedAt_eq hlooked)

end Respects

/-- **A recovery respects every decision but one.**  A recovery always ends, and it respects what
was decided if and only if no attempt that was being prepared has a cancelled entry in the queue and
a call that reaches the daemon. -/
theorem recovery_respects_iff (down : Wait → Bool) (now : ℤ) (s : State) (queue : Queue) :
    ∃ s' queue', recoverBeside down now (s, queue) = ((s', queue'), .ok ()) ∧
      (RespectsDecisions down s queue s' queue' ↔
        ∀ x row, s.attempt? x = some row → row.checkpoint ∈ Checkpoint.interrupted →
          queue.entryState x = some .cancelled → down (.enqueue x) = true) := by
  obtain ⟨s', hrun, hnone, hrows⟩ := recoverBeside_eq down now s queue
  refine ⟨s', _, hrun, ?_⟩
  constructor
  · intro hrespects x row hrow hint hcancelled
    by_contra hup
    refine hrespects.decisions x (.inl hcancelled) ?_
    rw [entryState_recoveredQueue hrow, if_pos hint, if_pos (Bool.eq_false_iff.mpr hup), hcancelled]
    rfl
  · intro hcond
    have hsettled : ∀ x row, s'.attempt? x = some row →
        row.checkpoint ∉ Checkpoint.submitting :: Checkpoint.interrupted := by
      intro x row' hrow'
      cases hrow : s.attempt? x with
      | none =>
        rw [hnone x hrow] at hrow'
        cases hrow'
      | some row =>
        obtain ⟨⟨row₂, hrow₂, hcp⟩, -⟩ := hrows x row hrow
        rw [hrow'] at hrow₂
        cases hrow₂
        rw [hcp]
        cases row.checkpoint <;> decide
    refine ⟨?_, hsettled, ?_, ?_⟩
    · intro x hdecided
      cases hrow : s.attempt? x with
      | none =>
        rw [entryState_recoveredQueue_none hrow]
        rcases hdecided with h | h <;> rw [h] <;> decide
      | some row =>
        rw [entryState_recoveredQueue hrow]
        split
        · rename_i hint
          split
          · rename_i hup
            rcases hdecided with h | h
            · rw [hcond x row hrow hint h] at hup
              cases hup
            · rw [h]
              decide
          · rcases hdecided with h | h <;> rw [h] <;> decide
        · split
          · have hleft : recoveryMayReQueue (queue.entryState x) = false := by
              rcases hdecided with h | h <;> rw [h] <;> rfl
            rw [lookedState, hleft, if_neg fun h => Bool.false_ne_true h.2.1]
            rcases hdecided with h | h <;> rw [h] <;> decide
          · rcases hdecided with h | h <;> rw [h] <;> decide
    · intro x row hrow hleft
      refine (hrows x row hrow).2 ?_
      cases hcp : row.checkpoint <;> rw [hcp] at hleft <;>
        first | rfl | exact absurd hleft (by decide)
    · intro now'
      refine recoverBeside_settled hsettled fun x hx => ?_
      obtain ⟨row', hrow', hq⟩ := mem_idsWhere.mp hx
      cases hrow : s.attempt? x with
      | none =>
        rw [hnone x hrow] at hrow'
        cases hrow'
      | some row =>
        obtain ⟨⟨row₂, hrow₂, hcp⟩, -⟩ := hrows x row hrow
        rw [hrow'] at hrow₂
        cases hrow₂
        have hqueued : recoveredCheckpoint row.checkpoint = .queued :=
          hcp.symm.trans (of_decide_eq_true hq)
        rw [entryState_recoveredQueue hrow]
        split
        · split
          · refine if_neg ?_
            rintro ⟨-, hmay, -⟩
            revert hmay
            rcases queue.entryState x with _ | state
            · decide
            · cases state <;> decide
          · rename_i hdown
            exact if_neg fun h => hdown h.2.2
        · rename_i hint
          have hstill : row.checkpoint = .queued := by
            revert hqueued hint
            cases row.checkpoint <;> decide
          rw [if_pos hstill]
          exact lookedState_lookedState _

def sampleCancelled : State × Queue :=
  (State.start (sampleDb [.tailoring]) sampleWorld, [⟨0, .cancelled, 0, 0⟩])

/-- The recovery queues it again. -/
theorem recovery_revives_cancelled :
    ∃ s' queue', recoverBeside (fun _ => false) 1 sampleCancelled = ((s', queue'), .ok ()) ∧
      ¬RespectsDecisions (fun _ => false) sampleCancelled.1 sampleCancelled.2 s' queue' := by
  have hqueued : (recoverBeside (fun _ => false) 1 sampleCancelled).1.2.entryState 0 =
      some .queued := by
    decide
  obtain ⟨s', hrun, -⟩ := recoverBeside_eq (fun _ => false) 1 sampleCancelled.1 sampleCancelled.2
  refine ⟨s', _, hrun, fun hrespects => ?_⟩
  change recoverBeside (fun _ => false) 1 sampleCancelled = _ at hrun
  rw [hrun] at hqueued
  exact hrespects.decisions 0 (.inl rfl) hqueued

end VacancyRadar.Desktop
