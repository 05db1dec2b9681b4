import VacancyRadar.Crawler.Scheduler

/-!
# Runs of the request scheduler

In every state between two steps the counters are those of the tasks under way, the tasks of a domain
were started in the order in which they were submitted, and none waits whose domain and the pool have
room.
-/

namespace VacancyRadar.Crawler

open Data

/-! ## The counters -/

def ofDomain (domain : String) (tasks : List PendingTask) : List PendingTask :=
  tasks.filter fun task => task.domain = domain

lemma ofDomain_append (domain : String) (l r : List PendingTask) :
    ofDomain domain (l ++ r) = ofDomain domain l ++ ofDomain domain r :=
  List.filter_append ..

lemma ofDomain_cons_self (task : PendingTask) (tasks : List PendingTask) :
    ofDomain task.domain (task :: tasks) = task :: ofDomain task.domain tasks :=
  List.filter_cons_of_pos (by simp)

variable {domain : String} {task : PendingTask} {f : ActiveTask → List ActiveTask} {slot : ActiveTask}

lemma ofDomain_cons_of_ne (h : task.domain ≠ domain) (tasks : List PendingTask) :
    ofDomain domain (task :: tasks) = ofDomain domain tasks:=
  List.filter_cons_of_neg (by simpa using h)

lemma ofDomain_eq_nil {tasks : List PendingTask} (h : ∀ task ∈ tasks, task.domain ≠ domain) :
    ofDomain domain tasks = []:= by
  rw [ofDomain, List.filter_eq_nil_iff]
  intro task htask
  simpa using h task htask

structure Counts (s : RequestScheduler) (tasks : List PendingTask) : Prop where
  total : s.activeGlobal = tasks.length
  domains : ∀ domain, s.activeByDomain.lookup domain =
    if ofDomain domain tasks = [] then none else some (ofDomain domain tasks).length
  total_le : tasks.length ≤ s.globalLimit
  domain_le : ∀ domain, (ofDomain domain tasks).length ≤ s.perDomainLimit

section

variable {s next : RequestScheduler} {pending : PendingTask} {tasks : List PendingTask}

lemma Counts.domainActive (h : Counts s tasks) (domain : String) :
    s.domainActive domain = (ofDomain domain tasks).length := by
  rw [RequestScheduler.domainActive, h.domains]
  split
  · next hnil => rw [hnil]; rfl
  · rfl

def RequestScheduler.occupy (s : RequestScheduler) (pending : PendingTask)
    (queue : List PendingTask) : RequestScheduler :=
  { s with
    queue
    activeGlobal := s.activeGlobal + 1
    activeByDomain := s.activeByDomain.insert pending.domain (s.domainActive pending.domain + 1) }

lemma takeNext_eq_some (h : s.takeNext = some (pending, next)) :
    s.activeGlobal < s.globalLimit ∧ s.HasRoom pending.domain ∧
      ∃ before after, s.queue = before ++ pending :: after ∧
        (∀ task ∈ before, ¬ s.HasRoom task.domain) ∧ next = s.occupy pending (before ++ after) := by
  rw [RequestScheduler.takeNext] at h
  split at h
  · next hroom =>
    split at h
    · cases h
    · next index hindex =>
      obtain ⟨hlt, hpending, hbefore⟩ := List.findIdx?_eq_some_iff_getElem.mp hindex
      rw [List.getElem?_eq_getElem hlt] at h
      obtain ⟨rfl, rfl⟩ := h
      refine ⟨hroom, by simpa using hpending, s.queue.take index, s.queue.drop (index + 1), ?_, ?_,
        ?_⟩
      · rw [← List.drop_eq_getElem_cons hlt, List.take_append_drop]
      · intro task htask
        obtain ⟨i, hi, rfl⟩ := List.getElem_of_mem htask
        rw [List.length_take] at hi
        simpa using hbefore i (by omega)
      · rw [RequestScheduler.occupy, List.eraseIdx_eq_take_drop_succ]
  · cases h

lemma takeNext_eq_none (h : s.takeNext = none) (hroom : s.activeGlobal < s.globalLimit)
    (htask : task ∈ s.queue) : ¬ s.HasRoom task.domain:= by
  rw [RequestScheduler.takeNext, if_pos hroom] at h
  split at h
  · next hnone =>
    rw [List.findIdx?_eq_none_iff] at hnone
    simpa using hnone task htask
  · next index hindex =>
    obtain ⟨hlt, -⟩ := List.findIdx?_eq_some_iff_getElem.mp hindex
    rw [List.getElem?_eq_getElem hlt] at h
    cases h

lemma Counts.occupy (h : Counts s tasks) (hroom : s.activeGlobal < s.globalLimit)
    (hdomain : s.HasRoom pending.domain) (queue : List PendingTask) :
    Counts (s.occupy pending queue) (tasks ++ [pending]) where
  total := by
    rw [List.length_append]
    exact congrArg (· + 1) h.total
  domains domain := by
    show (s.activeByDomain.insert _ _).lookup domain = _
    rw [ofDomain_append]
    by_cases heq : pending.domain = domain
    · subst heq
      rw [AList.lookup_insert, h.domainActive, ofDomain_cons_self]
      simp [ofDomain]
    · rw [AList.lookup_insert_ne (Ne.symm heq), h.domains, ofDomain_cons_of_ne heq]
      simp [ofDomain]
  total_le := by
    have := h.total
    show (tasks ++ [pending]).length ≤ s.globalLimit
    rw [List.length_append, List.length_singleton]
    omega
  domain_le domain := by
    show _ ≤ s.perDomainLimit
    rw [ofDomain_append, List.length_append]
    by_cases heq : pending.domain = domain
    · subst heq
      have : s.domainActive pending.domain < s.perDomainLimit := hdomain
      rw [h.domainActive] at this
      rw [ofDomain_cons_self]
      show _ + 1 ≤ _
      omega
    · rw [ofDomain_cons_of_ne heq]
      exact h.domain_le domain

lemma Counts.giveBack {before after : List PendingTask} (h : Counts s (before ++ task :: after)) :
    Counts (s.giveBack task.domain) (before ++ after) where
  total := by
    have := h.total
    rw [List.length_append, List.length_cons] at this
    rw [List.length_append]
    show s.activeGlobal - 1 = _
    omega
  domains domain := by
    have hself := h.domains task.domain
    rw [ofDomain_append, ofDomain_cons_self, if_neg (by simp)] at hself
    have hleft : (s.activeByDomain.lookup task.domain).getD 1 - 1 =
        (ofDomain task.domain (before ++ after)).length := by
      rw [hself, ofDomain_append]
      simp only [Option.getD_some, List.length_append, List.length_cons]
      omega
    show (if (s.activeByDomain.lookup task.domain).getD 1 - 1 = 0 then _ else _ : AList _).lookup
      domain = _
    rw [hleft]
    by_cases heq : task.domain = domain
    · subst heq
      by_cases hnil : ofDomain task.domain (before ++ after) = []
      · rw [hnil, if_pos List.length_nil, AList.lookup_erase]
        rfl
      · rw [if_neg (by simpa using hnil), if_neg hnil, AList.lookup_insert]
    · have hother := h.domains domain
      rw [ofDomain_append, ofDomain_cons_of_ne heq, ← ofDomain_append] at hother
      rw [← hother]
      split
      · exact AList.lookup_erase_ne (Ne.symm heq)
      · exact AList.lookup_insert_ne (Ne.symm heq)
  total_le := by
    have := h.total_le
    rw [List.length_append, List.length_cons] at this
    rw [List.length_append]
    show _ ≤ s.globalLimit
    omega
  domain_le domain := by
    refine Nat.le_trans (List.Sublist.length_le ?_) (h.domain_le domain)
    exact List.Sublist.filter _ (List.Sublist.append_left (List.sublist_cons_self ..) _)

/-! ## Draining -/

structure Drained (s : RequestScheduler) (taken : List PendingTask) (next : RequestScheduler) :
    Prop where
  globalLimit : next.globalLimit = s.globalLimit
  perDomainLimit : next.perDomainLimit = s.perDomainLimit
  counts : ∀ tasks, Counts s tasks → Counts next (tasks ++ taken)
  order : ∀ domain, ofDomain domain s.queue = ofDomain domain taken ++ ofDomain domain next.queue

lemma Drained.refl (s : RequestScheduler) : Drained s [] s :=
  ⟨rfl, rfl, fun tasks h => by rwa [List.append_nil], fun _ => rfl⟩

lemma drained_takeNext (h : s.takeNext = some (pending, next)) : Drained s [pending] next := by
  obtain ⟨hroom, hdomain, before, after, hqueue, hbefore, rfl⟩ := takeNext_eq_some h
  refine ⟨rfl, rfl, fun tasks hcounts => hcounts.occupy hroom hdomain _, fun domain => ?_⟩
  show _ = _ ++ ofDomain domain (before ++ after)
  rw [hqueue, ofDomain_append, ofDomain_append]
  by_cases heq : pending.domain = domain
  · subst heq
    -- no task before it is of its domain, which has room
    have hnil : ofDomain pending.domain before = [] := by
      refine ofDomain_eq_nil fun task htask heq => hbefore task htask ?_
      rwa [heq]
    rw [hnil, ofDomain_cons_self, ofDomain_cons_self]
    rfl
  · rw [ofDomain_cons_of_ne heq, ofDomain_cons_of_ne heq]
    rfl

lemma Drained.trans {last : RequestScheduler} {taken taken' : List PendingTask}
    (h : Drained s taken next) (h' : Drained next taken' last) :
    Drained s (taken ++ taken') last where
  globalLimit := h'.globalLimit.trans h.globalLimit
  perDomainLimit := h'.perDomainLimit.trans h.perDomainLimit
  counts tasks hcounts := by
    rw [← List.append_assoc]
    exact h'.counts _ (h.counts tasks hcounts)
  order domain := by
    rw [h.order, h'.order, ofDomain_append, List.append_assoc]

lemma drained_drainRounds (rounds : ℕ) (s : RequestScheduler) :
    Drained s (s.drainRounds rounds).1 (s.drainRounds rounds).2 := by
  induction rounds generalizing s with
  | zero => exact .refl s
  | succ rounds ih =>
    rw [RequestScheduler.drainRounds]
    split
    · exact .refl s
    · next pending next hnext => exact (drained_takeNext hnext).trans (ih next)

lemma takeNext_drainRounds {rounds : ℕ} (h : s.queue.length ≤ rounds) :
    (s.drainRounds rounds).2.takeNext = none := by
  induction rounds generalizing s with
  | zero =>
    cases hnext : s.takeNext with
    | none => exact hnext
    | some r =>
      obtain ⟨-, -, before, after, hqueue, -⟩ := takeNext_eq_some hnext
      rw [hqueue, List.length_append, List.length_cons] at h
      omega
  | succ rounds ih =>
    rw [RequestScheduler.drainRounds]
    split
    · next hnext => exact hnext
    · next pending next hnext =>
      obtain ⟨-, -, before, after, hqueue, -, rfl⟩ := takeNext_eq_some hnext
      refine ih ?_
      show (before ++ after).length ≤ rounds
      rw [hqueue] at h
      simp only [List.length_append, List.length_cons] at h ⊢
      omega

end

/-! ## Steps -/

lemma replaceFirst_eq_some {p : ActiveTask → Bool} {active active' : List ActiveTask}
    (h : SchedulerSys.replaceFirst p f active = some (slot, active')) :
    ∃ before after, active = before ++ slot :: after ∧ p slot = true ∧
      (∀ other ∈ before, p other = false) ∧ active' = before ++ f slot ++ after := by
  induction active generalizing active' with
  | nil => cases h
  | cons first rest ih =>
    rw [SchedulerSys.replaceFirst] at h
    split at h
    · next hp =>
      obtain ⟨rfl, rfl⟩ := h
      exact ⟨[], rest, rfl, hp, by simp, rfl⟩
    · next hp =>
      obtain ⟨⟨found, rest'⟩, hfound, heq⟩ := Option.map_eq_some_iff.mp h
      obtain ⟨rfl, rfl⟩ := heq
      obtain ⟨before, after, rfl, hslot, hbefore, rfl⟩ := ih hfound
      refine ⟨first :: before, after, rfl, hslot, ?_, rfl⟩
      intro other hother
      rcases List.mem_cons.mp hother with rfl | hother
      · simpa using hp
      · exact hbefore other hother

namespace SchedulerSys

/-- The tasks that run: those that were taken from the queue and have not given their place back. -/
def tasks (s : SchedulerSys) : List PendingTask :=
  s.active.map ActiveTask.task

def waiting (s : SchedulerSys) : List PendingTask :=
  (s.active.filter fun slot => slot.stage = .scheduled).map ActiveTask.task

inductive Stepped (s : SchedulerSys) : SchedulerSys → Prop
  | refused (answers : List (ℕ × Bool)) : Stepped s { s with calls := s.calls + 1, answers }
  | submitted (domain : String) :
    Stepped s (drain { s with
      calls := s.calls + 1
      submitted := s.submitted ++ [⟨s.calls, domain⟩]
      scheduler := { s.scheduler with queue := s.scheduler.queue ++ [⟨s.calls, domain⟩] } })
  | started {before after : List ActiveTask} {task : PendingTask}
    (hactive : s.active = before ++ ⟨task, .scheduled⟩ :: after)
    (hbefore : ∀ slot ∈ before, slot.stage ≠ .scheduled) :
    Stepped s { s with
      active := before ++ ⟨task, .running⟩ :: after
      started := s.started ++ [task] }
  | moved {before after : List ActiveTask} {task : PendingTask} {stage : Stage} (stage' : Stage)
    (hactive : s.active = before ++ ⟨task, stage⟩ :: after) (hstage : stage ≠ .scheduled)
    (hstage' : stage' ≠ .scheduled) (answers : List (ℕ × Bool)) :
    Stepped s { s with active := before ++ ⟨task, stage'⟩ :: after, answers }
  | finished {before after : List ActiveTask} {task : PendingTask}
    (hactive : s.active = before ++ ⟨task, .answered⟩ :: after) :
    Stepped s (drain { s with
      active := before ++ after
      scheduler := s.scheduler.giveBack task.domain })

variable {toLowerCase : String → String} {s s' : SchedulerSys} {move : SchedulerMove}

lemma stepped (h : step toLowerCase s move = some s') : Stepped s s' := by
  cases move with
  | run domain =>
    rw [step] at h
    split at h
    · cases h
      exact .refused _
    · cases h
      exact .submitted _
  | start =>
    obtain ⟨⟨⟨task, stage⟩, active'⟩, hfound, rfl⟩ := Option.map_eq_some_iff.mp h
    obtain ⟨before, after, hactive, hslot, hbefore, rfl⟩ := replaceFirst_eq_some hfound
    obtain rfl : stage = .scheduled := by simpa using hslot
    have := Stepped.started hactive fun slot hslot => by simpa using hbefore slot hslot
    simpa using this
  | settle id ok =>
    obtain ⟨⟨⟨task, stage⟩, active'⟩, hfound, rfl⟩ := Option.map_eq_some_iff.mp h
    obtain ⟨before, after, hactive, hslot, -, rfl⟩ := replaceFirst_eq_some hfound
    obtain ⟨-, rfl⟩ : task.id = id ∧ stage = .running := by simpa using hslot
    simpa using Stepped.moved (.settled ok) hactive (by simp) (by simp) s.answers
  | answer id =>
    obtain ⟨⟨⟨task, stage⟩, active'⟩, hfound, rfl⟩ := Option.map_eq_some_iff.mp h
    obtain ⟨before, after, hactive, hslot, -, rfl⟩ := replaceFirst_eq_some hfound
    have hstage : stage ≠ .scheduled := by
      rintro rfl
      simp [Stage.outcome] at hslot
    simpa using Stepped.moved .answered hactive hstage (by simp) _
  | finish id =>
    obtain ⟨⟨⟨task, stage⟩, active'⟩, hfound, rfl⟩ := Option.map_eq_some_iff.mp h
    obtain ⟨before, after, hactive, hslot, -, rfl⟩ := replaceFirst_eq_some hfound
    obtain ⟨-, rfl⟩ : task.id = id ∧ stage = .answered := by simpa using hslot
    simpa using Stepped.finished hactive

/-- The counters and the history of the tasks. -/
structure Inv (globalLimit perDomainLimit : ℕ) (s : SchedulerSys) : Prop where
  globalLimit : s.scheduler.globalLimit = globalLimit
  perDomainLimit : s.scheduler.perDomainLimit = perDomainLimit
  counts : Counts s.scheduler s.tasks
  order : ∀ domain, ofDomain domain s.submitted =
    ofDomain domain s.started ++ ofDomain domain s.waiting ++ ofDomain domain s.scheduler.queue
  ascending : s.submitted.Pairwise (·.id < ·.id)
  numbered : ∀ task ∈ s.submitted, task.id < s.calls

variable {globalLimit perDomainLimit : ℕ}

lemma tasks_split {before after : List ActiveTask} (hactive : s.active = before ++ slot :: after) :
    s.tasks = before.map ActiveTask.task ++ slot.task :: after.map ActiveTask.task := by
  rw [tasks, hactive, List.map_append, List.map_cons]

lemma waiting_drain (s : SchedulerSys) :
    s.drain.waiting = s.waiting ++ s.scheduler.drain.1 := by
  have hfresh : ∀ taken : List PendingTask,
      (((taken.map (⟨·, .scheduled⟩ : PendingTask → ActiveTask)).filter
        fun slot => slot.stage = .scheduled).map ActiveTask.task) = taken := by
    intro taken
    rw [List.filter_eq_self.mpr (by simp), List.map_map]
    exact List.map_id taken
  show ((s.active ++ _).filter _).map _ = _
  rw [List.filter_append, List.map_append, hfresh]
  rfl

lemma tasks_drain (s : SchedulerSys) : s.drain.tasks = s.tasks ++ s.scheduler.drain.1 := by
  show (s.active ++ _).map _ = _
  rw [List.map_append, List.map_map]
  exact congrArg (_ ++ ·) (List.map_id _)

lemma Inv.drain (h : Inv globalLimit perDomainLimit s) :
    Inv globalLimit perDomainLimit s.drain where
  globalLimit := (drained_drainRounds ..).globalLimit.trans h.globalLimit
  perDomainLimit := (drained_drainRounds ..).perDomainLimit.trans h.perDomainLimit
  counts := by
    rw [tasks_drain]
    exact (drained_drainRounds ..).counts _ h.counts
  order domain := by
    rw [waiting_drain, ofDomain_append, ← List.append_assoc, List.append_assoc]
    refine (h.order domain).trans ?_
    exact congrArg (_ ++ ·) ((drained_drainRounds ..).order domain)
  ascending := h.ascending
  numbered := h.numbered

lemma takeNext_drain (s : SchedulerSys) : s.drain.scheduler.takeNext = none :=
  takeNext_drainRounds le_rfl

lemma Inv.stepped (h : Inv globalLimit perDomainLimit s) (hstep : Stepped s s') :
    Inv globalLimit perDomainLimit s' := by
  cases hstep with
  | refused =>
    exact { h with numbered := fun task htask => Nat.lt_succ_of_lt (h.numbered task htask) }
  | submitted domain =>
    have hcounts := h.counts
    refine Inv.drain ⟨h.globalLimit, h.perDomainLimit,
      ⟨hcounts.total, hcounts.domains, hcounts.total_le, hcounts.domain_le⟩, fun d => ?_, ?_, ?_⟩
    · show ofDomain d (s.submitted ++ _) = _ ++ _ ++ ofDomain d (s.scheduler.queue ++ _)
      rw [ofDomain_append, ofDomain_append, h.order, List.append_assoc]
      rfl
    · show (s.submitted ++ [_]).Pairwise _
      rw [List.pairwise_append]
      exact ⟨h.ascending, List.pairwise_singleton .., fun task htask other hother => by
        rw [List.mem_singleton.mp hother]
        exact h.numbered task htask⟩
    · intro task htask
      rcases List.mem_append.mp htask with htask | htask
      · exact Nat.lt_succ_of_lt (h.numbered task htask)
      · rw [List.mem_singleton.mp htask]
        exact Nat.lt_succ_self _
  | @started before after task hactive hbefore =>
    have hbegin : before.filter (fun slot => slot.stage = .scheduled) = [] := by
      rw [List.filter_eq_nil_iff]
      intro slot hslot
      simpa using hbefore slot hslot
    refine { h with counts := ?_, order := fun d => ?_ }
    · have := h.counts
      rw [tasks_split hactive] at this
      show Counts _ ((before ++ ⟨task, .running⟩ :: after).map _)
      rwa [List.map_append]
    · have := h.order d
      rw [waiting, hactive, List.filter_append, hbegin, List.nil_append,
        List.filter_cons_of_pos (by simp), List.map_cons] at this
      show _ = ofDomain d (s.started ++ [task]) ++
        ofDomain d (((before ++ _ :: after).filter _).map _) ++ _
      rw [List.filter_append, hbegin, List.nil_append, List.filter_cons_of_neg (by simp), this,
        ofDomain_append, ← List.singleton_append, ofDomain_append]
      simp only [List.append_assoc]
  | @moved before after task stage stage' hactive hstage hstage' answers =>
    refine { h with counts := ?_, order := fun d => ?_ }
    · have := h.counts
      rw [tasks_split hactive] at this
      show Counts _ ((before ++ ⟨task, stage'⟩ :: after).map _)
      rwa [List.map_append]
    · have := h.order d
      rw [waiting, hactive, List.filter_append, List.filter_cons_of_neg (by simpa using hstage)]
        at this
      show _ = _ ++ ofDomain d (((before ++ _ :: after).filter _).map _) ++ _
      rw [List.filter_append, List.filter_cons_of_neg (by simpa using hstage')]
      exact this
  | @finished before after task hactive =>
    refine Inv.drain { h with counts := ?_, order := fun d => ?_ }
    · have := h.counts
      rw [tasks_split hactive] at this
      show Counts _ ((before ++ after).map _)
      rw [List.map_append]
      exact this.giveBack
    · have := h.order d
      rw [waiting, hactive, List.filter_append, List.filter_cons_of_neg (by simp)] at this
      show _ = _ ++ ofDomain d (((before ++ after).filter _).map _) ++ _
      rw [List.filter_append]
      exact this

end SchedulerSys

end VacancyRadar.Crawler
