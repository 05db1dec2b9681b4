import VacancyRadar.Crawler.SchedulerRuns

/-!
# Every task is started

A task that waits has a number of tasks ahead of it in the queue, which never grows.  It falls
whenever a task ends while the domain of the waiting one has room, or that is of this domain; and
unless no task is under way, such an end comes, if every task that is under way ends at some time.
-/

namespace VacancyRadar.Crawler

open Data

/-! ## Tasks that wait -/

def Ahead (task : PendingTask) (n : ℕ) (queue : List PendingTask) : Prop :=
  ∃ before after, queue = before ++ task :: after ∧ before.length ≤ n

section

variable {task pending : PendingTask} {n : ℕ} {s next : RequestScheduler}

lemma Ahead.mem {queue : List PendingTask} (h : Ahead task n queue) : task ∈ queue := by
  obtain ⟨before, after, rfl, -⟩ := h
  simp

lemma ahead_of_mem {queue : List PendingTask} (h : task ∈ queue) : ∃ n, Ahead task n queue := by
  obtain ⟨before, after, rfl⟩ := List.append_of_mem h
  exact ⟨_, before, after, rfl, le_rfl⟩

lemma ahead_takeNext (hnext : s.takeNext = some (pending, next)) (h : Ahead task n s.queue) :
    task = pending ∨ Ahead task n next.queue ∧
      (s.HasRoom task.domain → ∃ k < n, Ahead task k next.queue) := by
  obtain ⟨-, -, before, after, hqueue, hbefore, rfl⟩ := takeNext_eq_some hnext
  obtain ⟨left, right, hsplit, hleft⟩ := h
  rw [hqueue] at hsplit
  show _ ∨ Ahead task n (before ++ after) ∧ (_ → ∃ k < n, Ahead task k (before ++ after))
  rcases List.append_eq_append_iff.mp hsplit with ⟨middle, rfl, hrest⟩ | ⟨middle, rfl, hrest⟩
  · cases middle with
    | nil => exact .inl (List.cons.inj hrest).1.symm
    | cons first middle =>
      obtain ⟨rfl, rfl⟩ := List.cons.inj hrest
      have hless : Ahead task (n - 1) (before ++ (middle ++ task :: right)) := by
        refine ⟨before ++ middle, right, (List.append_assoc ..).symm, ?_⟩
        simp only [List.length_append, List.length_cons] at hleft ⊢
        omega
      have hpos : 0 < n := by
        simp only [List.length_append, List.length_cons] at hleft
        omega
      refine .inr ⟨?_, fun _ => ⟨n - 1, by omega, hless⟩⟩
      obtain ⟨l, r, heq, hl⟩ := hless
      exact ⟨l, r, heq, by omega⟩
  · cases middle with
    | nil => exact .inl (List.cons.inj hrest).1
    | cons first middle =>
      obtain ⟨rfl, rfl⟩ := List.cons.inj hrest
      refine .inr ⟨⟨left, middle ++ after, by simp, hleft⟩, fun hroom => ?_⟩
      exact absurd hroom (hbefore task (by simp))

lemma ahead_drainRounds (rounds : ℕ) (h : Ahead task n s.queue) :
    task ∈ (s.drainRounds rounds).1 ∨ Ahead task n (s.drainRounds rounds).2.queue := by
  induction rounds generalizing s with
  | zero => exact .inr h
  | succ rounds ih =>
    rw [RequestScheduler.drainRounds]
    split
    · exact .inr h
    · next pending next hnext =>
      rcases ahead_takeNext hnext h with rfl | ⟨h, -⟩
      · exact .inl (List.mem_cons_self ..)
      · exact (ih h).imp_left (List.mem_cons_of_mem _)

lemma ahead_drain (hroom : s.activeGlobal < s.globalLimit) (hdomain : s.HasRoom task.domain)
    (h : Ahead task n s.queue) :
    task ∈ s.drain.1 ∨ ∃ k < n, Ahead task k s.drain.2.queue := by
  obtain ⟨rounds, hrounds⟩ : ∃ rounds, s.queue.length = rounds + 1 :=
    Nat.exists_eq_add_one.mpr (List.length_pos_of_mem h.mem)
  rw [RequestScheduler.drain, hrounds, RequestScheduler.drainRounds]
  cases hnext : s.takeNext with
  | none => exact absurd hdomain (takeNext_eq_none hnext hroom h.mem)
  | some r =>
    rcases ahead_takeNext hnext h with rfl | ⟨-, hless⟩
    · exact .inl (List.mem_cons_self ..)
    · obtain ⟨k, hk, hless⟩ := hless hdomain
      rcases ahead_drainRounds rounds hless with hmem | hless
      · exact .inl (List.mem_cons_of_mem _ hmem)
      · exact .inr ⟨k, hk, hless⟩

lemma mem_queue_of_drain (h : task ∈ s.drain.2.queue) : task ∈ s.queue := by
  have hmem : task ∈ ofDomain task.domain s.drain.2.queue :=
    List.mem_filter.mpr ⟨h, by simp⟩
  have hsplit := (drained_drainRounds s.queue.length s).order task.domain
  have : task ∈ ofDomain task.domain s.queue := by
    rw [hsplit]
    exact List.mem_append_right _ hmem
  exact List.mem_of_mem_filter this

end

namespace SchedulerSys

variable {s s' : SchedulerSys} {task : PendingTask} {n globalLimit perDomainLimit : ℕ}

lemma mem_waiting_drain (h : task ∈ s.scheduler.drain.1) : task ∈ s.drain.waiting := by
  rw [waiting_drain]
  exact List.mem_append_right _ h

lemma ahead_stepped (hstep : Stepped s s') (h : Ahead task n s.scheduler.queue) :
    task ∈ s'.waiting ∨ Ahead task n s'.scheduler.queue := by
  cases hstep with
  | refused => exact .inr h
  | submitted domain =>
    refine (ahead_drainRounds _ ?_).imp_left mem_waiting_drain
    obtain ⟨before, after, heq, hlength⟩ := h
    rw [heq]
    exact ⟨before, after ++ [⟨s.calls, domain⟩], by simp, hlength⟩
  | started => exact .inr h
  | moved => exact .inr h
  | @finished before after finished hactive =>
    have hqueue : Ahead task n (s.scheduler.giveBack finished.domain).queue := h
    exact (ahead_drainRounds _ hqueue).imp_left mem_waiting_drain

lemma ahead_ended {ended : PendingTask} (hinv : Inv globalLimit perDomainLimit s)
    (hstep : Stepped s s') (hended : ended ∈ s.tasks) (hgone : ended ∉ s'.tasks)
    (hroom : ended.domain = task.domain ∨ s.scheduler.HasRoom task.domain)
    (h : Ahead task n s.scheduler.queue) :
    task ∈ s'.waiting ∨ ∃ k < n, Ahead task k s'.scheduler.queue := by
  cases hstep with
  | refused => exact absurd hended hgone
  | submitted =>
    rw [tasks_drain] at hgone
    exact absurd (List.mem_append_left _ hended) hgone
  | started hactive =>
    rw [tasks_split hactive] at hended
    refine absurd ?_ hgone
    show ended ∈ (_ ++ _ :: _).map _
    simpa using hended
  | moved stage' hactive =>
    rw [tasks_split hactive] at hended
    refine absurd ?_ hgone
    show ended ∈ (_ ++ _ :: _).map _
    simpa using hended
  | @finished before after finished hactive =>
    have hcounts := hinv.counts
    rw [tasks_split hactive] at hended hcounts
    rw [tasks_drain] at hgone
    have hgone : ended ∉ (before ++ after).map ActiveTask.task := fun hmem =>
      hgone (List.mem_append_left _ hmem)
    obtain rfl : ended = finished := by
      rw [List.map_append, List.mem_append, not_or] at hgone
      rcases List.mem_append.mp hended with hmem | hmem
      · exact absurd hmem hgone.1
      · exact (List.mem_cons.mp hmem).resolve_right hgone.2
    have hafter := hcounts.giveBack
    have hqueue : Ahead task n (s.scheduler.giveBack ended.domain).queue := h
    refine (ahead_drain ?_ ?_ hqueue).imp_left mem_waiting_drain
    · -- the place of the task that ended is free
      show (s.scheduler.giveBack ended.domain).activeGlobal < s.scheduler.globalLimit
      rw [hafter.total]
      have := hcounts.total_le
      simp only [List.length_append, List.length_cons] at this ⊢
      omega
    · show (s.scheduler.giveBack ended.domain).domainActive task.domain <
        s.scheduler.perDomainLimit
      have hle := hcounts.domain_le task.domain
      rw [hafter.domainActive]
      rw [ofDomain_append] at hle ⊢
      rcases hroom with heq | hroom
      · rw [← heq, ofDomain_cons_self] at hle
        rw [← heq]
        simp only [List.length_append, List.length_cons] at hle ⊢
        omega
      · have hroom : s.scheduler.domainActive task.domain < s.scheduler.perDomainLimit := hroom
        rw [hcounts.domainActive, ofDomain_append] at hroom
        refine Nat.lt_of_le_of_lt (List.Sublist.length_le ?_) hroom
        exact List.Sublist.append_left (List.Sublist.filter _ (List.sublist_cons_self ..)) _

lemma exists_ahead_lt {toLowerCase : String → String} {states : ℕ → SchedulerSys}
    (hrun : Execution (step toLowerCase) states)
    (hinv : ∀ m, Inv globalLimit perDomainLimit (states m))
    (hidle : ∀ m, (states m).scheduler.takeNext = none) (hglobal : 0 < globalLimit)
    (hdomain : 0 < perDomainLimit)
    (hends : ∀ m, ∀ task ∈ (states m).tasks, ∃ l, m ≤ l ∧ task ∉ (states l).tasks) {m : ℕ}
    (h : Ahead task n (states m).scheduler.queue) :
    ∃ l, m ≤ l ∧ (task ∈ (states l).waiting ∨ ∃ k < n, Ahead task k (states l).scheduler.queue) := by
  by_contra hnever
  push Not at hnever
  -- so the task stays where it is
  have hstays : ∀ l, m ≤ l → Ahead task n (states l).scheduler.queue := by
    intro l hl
    induction hl with
    | refl => exact h
    | @step l hl ih =>
      rcases hrun l with heq | ⟨move, hmove⟩
      · rw [heq]
        exact ih
      · exact (ahead_stepped (stepped hmove) ih).resolve_left
          (hnever (l + 1) (Nat.le_succ_of_le hl)).1
  -- once a task is under way whose end makes room, that end comes
  have hcontra : ∀ l, m ≤ l → ∀ ended ∈ (states l).tasks,
      (∀ j, l ≤ j → ended.domain = task.domain ∨ (states j).scheduler.HasRoom task.domain) →
      False := by
    intro l hl ended hended hroom
    obtain ⟨last, hlast, hgone⟩ := hends l ended hended
    obtain ⟨j, hj, -, hbefore, hafter⟩ :=
      exists_step_of_not (p := fun j => ended ∈ (states j).tasks) hlast hended hgone
    rcases hrun j with heq | ⟨move, hmove⟩
    · exact hafter (heq ▸ hbefore)
    · rcases ahead_ended (hinv j) (stepped hmove) hbefore hafter (hroom j hj)
        (hstays j (Nat.le_trans hl hj)) with hwaiting | ⟨k, hk, hless⟩
      · exact (hnever (j + 1) (by omega)).1 hwaiting
      · exact (hnever (j + 1) (by omega)).2 k hk hless
  by_cases hfull : ∃ l, m ≤ l ∧ ¬ (states l).scheduler.HasRoom task.domain
  · obtain ⟨l, hl, hfull⟩ := hfull
    have hle : perDomainLimit ≤ (ofDomain task.domain (states l).tasks).length := by
      rw [RequestScheduler.HasRoom, (hinv l).counts.domainActive, (hinv l).perDomainLimit] at hfull
      omega
    obtain ⟨ended, hended⟩ := List.exists_mem_of_length_pos (Nat.lt_of_lt_of_le hdomain hle)
    obtain ⟨hmem, hof⟩ := List.mem_filter.mp hended
    exact hcontra l hl ended hmem fun _ _ => .inl (by simpa using hof)
  · push Not at hfull
    have hle : globalLimit ≤ (states m).tasks.length := by
      by_contra hlt
      refine takeNext_eq_none (hidle m) ?_ h.mem (hfull m le_rfl)
      rw [(hinv m).counts.total, (hinv m).globalLimit]
      omega
    obtain ⟨ended, hended⟩ := List.exists_mem_of_length_pos (Nat.lt_of_lt_of_le hglobal hle)
    exact hcontra m le_rfl ended hended fun j hj => .inr (hfull j hj)

/-! ## What the scheduler promises -/

/-- The states between two steps.  A task runs from the moment at which it is taken from the queue
until its place is given back. -/
structure Scheduled (globalLimit perDomainLimit : ℕ) (s : SchedulerSys) : Prop where
  pool : s.tasks.length ≤ globalLimit
  domains : ∀ domain, (ofDomain domain s.tasks).length ≤ perDomainLimit
  activeGlobal : s.scheduler.activeGlobal = s.tasks.length
  activeByDomain : ∀ domain, s.scheduler.domainActive domain = (ofDomain domain s.tasks).length
  once : (s.started.map PendingTask.id).Nodup
  known : ∀ task,
    task ∈ s.submitted ↔ task ∈ s.started ∨ task ∈ s.waiting ∨ task ∈ s.scheduler.queue
  inOrder : ∀ domain, ofDomain domain s.started <+: ofDomain domain s.submitted
  conserving : ∀ task ∈ s.scheduler.queue,
    ¬ (s.scheduler.activeGlobal < globalLimit ∧
      s.scheduler.domainActive task.domain < perDomainLimit)

/-- Every task that is taken from the queue ends and gives its place back. -/
def TasksEnd (states : ℕ → SchedulerSys) : Prop :=
  ∀ n, ∀ task ∈ (states n).tasks, ∃ m, n ≤ m ∧ task ∉ (states m).tasks

lemma Inv.mem_submitted (h : Inv globalLimit perDomainLimit s) :
    task ∈ s.submitted ↔ task ∈ s.started ∨ task ∈ s.waiting ∨ task ∈ s.scheduler.queue := by
  have hmem : ∀ tasks, task ∈ tasks ↔ task ∈ ofDomain task.domain tasks := fun tasks => by
    simp [ofDomain]
  rw [hmem, h.order, List.mem_append, List.mem_append, ← hmem, ← hmem, ← hmem, or_assoc]

lemma Inv.nodup_ids (h : Inv globalLimit perDomainLimit s) :
    (s.submitted.map PendingTask.id).Nodup :=
  List.pairwise_map.mpr (h.ascending.imp Nat.ne_of_lt)

lemma Inv.nodup (h : Inv globalLimit perDomainLimit s) (domain : String) :
    (ofDomain domain s.submitted).Nodup :=
  (List.Nodup.of_map _ h.nodup_ids).filter _

lemma Inv.notMem_queue (h : Inv globalLimit perDomainLimit s) (hwaiting : task ∈ s.waiting) :
    task ∉ s.scheduler.queue := by
  intro hqueue
  have hnodup := h.nodup task.domain
  rw [h.order] at hnodup
  refine (List.nodup_append.mp hnodup).2.2 task ?_ task ?_ rfl
  · exact List.mem_append_right _ (List.mem_filter.mpr ⟨hwaiting, by simp⟩)
  · exact List.mem_filter.mpr ⟨hqueue, by simp⟩

lemma Inv.once (h : Inv globalLimit perDomainLimit s) : (s.started.map PendingTask.id).Nodup := by
  have hnodup : s.started.Nodup := by
    rw [List.nodup_iff_count_le_one]
    intro task
    by_cases hmem : task ∈ s.started
    · have hfilter : (ofDomain task.domain s.started).Nodup := by
        have hall := h.nodup task.domain
        rw [h.order, List.append_assoc] at hall
        exact (List.nodup_append.mp hall).1
      calc s.started.count task = (ofDomain task.domain s.started).count task :=
            (List.count_filter (by simp)).symm
        _ ≤ 1 := List.nodup_iff_count_le_one.mp hfilter task
    · rw [List.count_eq_zero_of_not_mem hmem]
      exact Nat.zero_le _
  refine List.Nodup.map_on ?_ hnodup
  intro a ha b hb heq
  exact List.inj_on_of_nodup_map h.nodup_ids (h.mem_submitted.mpr (.inl ha))
    (h.mem_submitted.mpr (.inl hb)) heq

lemma Inv.scheduled (h : Inv globalLimit perDomainLimit s) (hidle : s.scheduler.takeNext = none) :
    Scheduled globalLimit perDomainLimit s where
  pool := h.globalLimit ▸ h.counts.total_le
  domains domain := h.perDomainLimit ▸ h.counts.domain_le domain
  activeGlobal := h.counts.total
  activeByDomain := h.counts.domainActive
  once := h.once
  known _ := h.mem_submitted
  inOrder domain := by
    rw [h.order, List.append_assoc]
    exact List.prefix_append ..
  conserving task htask := by
    rintro ⟨hroom, hdomain⟩
    rw [← h.globalLimit] at hroom
    rw [← h.perDomainLimit] at hdomain
    exact takeNext_eq_none hidle hroom htask hdomain

lemma notMem_queue_stepped (hstep : Stepped s s')
    (h : task.id < s.calls ∧ task ∉ s.scheduler.queue) :
    task.id < s'.calls ∧ task ∉ s'.scheduler.queue := by
  cases hstep with
  | refused => exact ⟨Nat.lt_succ_of_lt h.1, h.2⟩
  | submitted domain =>
    refine ⟨Nat.lt_succ_of_lt h.1, fun hmem => ?_⟩
    rcases List.mem_append.mp (mem_queue_of_drain hmem) with hmem | hmem
    · exact h.2 hmem
    · obtain rfl := List.mem_singleton.mp hmem
      exact lt_irrefl _ h.1
  | started => exact h
  | moved => exact h
  | @finished before after finished =>
    have hqueue : task ∉ (s.scheduler.giveBack finished.domain).queue := h.2
    exact ⟨h.1, fun hmem => hqueue (mem_queue_of_drain hmem)⟩

lemma submitted_stepped (hstep : Stepped s s') (h : task ∈ s.submitted) : task ∈ s'.submitted := by
  cases hstep with
  | submitted => exact List.mem_append_left _ h
  | _ => exact h

lemma inv_construct {global perDomain : ℤ} {scheduler : RequestScheduler}
    (h : RequestScheduler.construct global perDomain = .ok scheduler) :
    Inv global.toNat perDomain.toNat { scheduler } ∧ 0 < global.toNat ∧ 0 < perDomain.toNat ∧
      scheduler.takeNext = none := by
  rw [RequestScheduler.construct] at h
  split at h
  · cases h
  · split at h
    · cases h
    · cases h
      have hempty : Counts { globalLimit := global.toNat, perDomainLimit := perDomain.toNat } [] :=
        ⟨rfl, fun _ => rfl, Nat.zero_le _, fun _ => Nat.zero_le _⟩
      refine ⟨⟨rfl, rfl, hempty, fun _ => rfl, .nil, nofun⟩, by omega, by omega, ?_⟩
      show (RequestScheduler.drainRounds 0 _).2.takeNext = none
      exact takeNext_drainRounds le_rfl

lemma takeNext_stepped (hstep : Stepped s s') (h : s.scheduler.takeNext = none) :
    s'.scheduler.takeNext = none := by
  cases hstep with
  | refused => exact h
  | submitted => exact takeNext_drain _
  | started => exact h
  | moved => exact h
  | finished => exact takeNext_drain _

/-- In every state between two steps the limits hold, the counters are those of the tasks that run, no
task was started twice, the tasks of a domain were started in order, and no task waits in vain; and
if all tasks end, every submitted task is started. -/
theorem scheduler_promises (toLowerCase : String → String) {global perDomain : ℤ}
    {scheduler : RequestScheduler}
    (hnew : RequestScheduler.construct global perDomain = .ok scheduler) :
    (∀ moves s, runSteps (step toLowerCase) moves { scheduler } = some s →
      Scheduled global.toNat perDomain.toNat s) ∧
    ∀ states, Execution (step toLowerCase) states → states 0 = { scheduler } → TasksEnd states →
      ∀ n, ∀ task ∈ (states n).submitted, ∃ m, n ≤ m ∧ (states m).started.count task = 1 := by
  obtain ⟨hinv, hglobal, hdomain, hidle⟩ := inv_construct hnew
  constructor
  · intro moves s hrun
    have hboth : Inv global.toNat perDomain.toNat s ∧ s.scheduler.takeNext = none :=
      runSteps_induction (P := fun s => Inv global.toNat perDomain.toNat s ∧
          s.scheduler.takeNext = none)
        (fun s s' move h hstep => ⟨h.1.stepped (stepped hstep), takeNext_stepped (stepped hstep) h.2⟩)
        ⟨hinv, hidle⟩ hrun
    exact hboth.1.scheduled hboth.2
  · intro states hexec hzero hends n task hsubmitted
    have hall : ∀ m, Inv global.toNat perDomain.toNat (states m) ∧
        (states m).scheduler.takeNext = none := by
      intro m
      refine hexec.induction (P := fun s => Inv global.toNat perDomain.toNat s ∧
          s.scheduler.takeNext = none)
        (fun s s' move h hstep => ⟨h.1.stepped (stepped hstep), takeNext_stepped (stepped hstep) h.2⟩)
        ?_ (Nat.zero_le m)
      rw [hzero]
      exact ⟨hinv, hidle⟩
    -- it leaves the queue
    have hleaves : ∀ k m, n ≤ m → Ahead task k (states m).scheduler.queue →
        ∃ l, n ≤ l ∧ task ∈ (states l).waiting := by
      intro k
      induction k using Nat.strong_induction_on with
      | _ k ih =>
        intro m hm h
        obtain ⟨l, hl, hwaiting | ⟨j, hj, hless⟩⟩ := exists_ahead_lt hexec (fun m => (hall m).1)
          (fun m => (hall m).2) hglobal hdomain hends h
        · exact ⟨l, Nat.le_trans hm hl, hwaiting⟩
        · exact ih j hj l (Nat.le_trans hm hl) hless
    -- and what waits for its start is started
    have hstarts : ∀ l, n ≤ l → task ∈ (states l).waiting →
        ∃ m, n ≤ m ∧ task ∈ (states m).started := by
      intro l hl hwaiting
      have htask : task ∈ (states l).tasks := by
        obtain ⟨slot, hslot, rfl⟩ := List.mem_map.mp hwaiting
        exact List.mem_map_of_mem (List.mem_of_mem_filter hslot)
      obtain ⟨m, hm, hgone⟩ := hends l task htask
      have hleft := hexec.induction
        (P := fun s => task.id < s.calls ∧ task ∉ s.scheduler.queue)
        (fun s s' move h hstep => notMem_queue_stepped (stepped hstep) h)
        ⟨(hall l).1.numbered task ((hall l).1.mem_submitted.mpr (.inr (.inl hwaiting))),
          (hall l).1.notMem_queue hwaiting⟩ hm
      have hstill := hexec.induction (P := fun s => task ∈ s.submitted)
        (fun s s' move h hstep => submitted_stepped (stepped hstep) h) hsubmitted (Nat.le_trans hl hm)
      rcases (hall m).1.mem_submitted.mp hstill with hstarted | hwaiting | hqueue
      · exact ⟨m, Nat.le_trans hl hm, hstarted⟩
      · obtain ⟨slot, hslot, rfl⟩ := List.mem_map.mp hwaiting
        exact absurd (List.mem_map_of_mem (List.mem_of_mem_filter hslot)) hgone
      · exact absurd hqueue hleft.2
    have hstarted : ∃ m, n ≤ m ∧ task ∈ (states m).started := by
      rcases (hall n).1.mem_submitted.mp hsubmitted with hstarted | hwaiting | hqueue
      · exact ⟨n, le_rfl, hstarted⟩
      · exact hstarts n le_rfl hwaiting
      · obtain ⟨k, hk⟩ := ahead_of_mem hqueue
        obtain ⟨l, hl, hwaiting⟩ := hleaves k n le_rfl hk
        exact hstarts l hl hwaiting
    obtain ⟨m, hm, hmem⟩ := hstarted
    refine ⟨m, hm, List.count_eq_one_of_mem ?_ hmem⟩
    exact List.Nodup.of_map _ (hall m).1.once

/-- Three tasks of two domains with room for one each. -/
def sampleMoves : List SchedulerMove :=
  [.run "a", .run " a.", .run "b", .start, .start, .settle 0 true, .answer 0,
    .finish 0, .start, .settle 1 false, .answer 1, .settle 2 true, .finish 1, .answer 2, .finish 2]

def sampleScheduler : SchedulerSys :=
  { scheduler := { globalLimit := 2, perDomainLimit := 1 } }

def sampleEnd : SchedulerSys :=
  (runSteps (step id) sampleMoves sampleScheduler).getD sampleScheduler

lemma run_sample : runSteps (step id) sampleMoves sampleScheduler = some sampleEnd :=
  (Option.getD_of_ne_none (by decide) _).symm

lemma tasks_sampleEnd : sampleEnd.tasks = [] := by
  decide

theorem scheduler_promises_sample :
    Scheduled 2 1 sampleEnd ∧
      ∀ n, ∀ task ∈ (thenStay (step id) sampleMoves sampleScheduler n).submitted,
        ∃ m, n ≤ m ∧
          (thenStay (step id) sampleMoves sampleScheduler m).started.count task = 1 := by
  have hnew : RequestScheduler.construct 2 1 = .ok sampleScheduler.scheduler := rfl
  have hpromises := scheduler_promises id hnew
  refine ⟨hpromises.1 sampleMoves _ run_sample, hpromises.2 _ (execution_thenStay run_sample) rfl ?_⟩
  intro n task _
  refine ⟨max n sampleMoves.length, Nat.le_max_left .., ?_⟩
  rw [thenStay_of_le run_sample (Nat.le_max_right ..), tasks_sampleEnd]
  exact List.not_mem_nil

end SchedulerSys

end VacancyRadar.Crawler
