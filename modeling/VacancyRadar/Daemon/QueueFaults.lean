import VacancyRadar.Daemon.QueueRuns

/-!
# Writes of the queue that throw

An operation of `ApplicationQueueStore` changes the snapshot in memory before it writes it, and writes it
a second time when it emits its event.  Here each write may throw, and what was changed before stays.
-/

namespace VacancyRadar.Daemon

open Data

/-! ## The store, write by write -/

inductive QueueThrow where
  | refused (error : QueueError)
  | writing

/-- How `atomicWriteJson` throws: before the file is replaced, or when the directory is synced after
that. -/
inductive WriteFault where
  | kept
  | replaced

structure WriteFaults where
  snapshot : List (Option WriteFault) := []
  log : Option ℕ := none

structure QueueCall where
  store : QueueStore := {}
  disk : QueueDisk := {}
  faults : WriteFaults := {}
  threw : Bool := false

abbrev StoreM : Type → Type := EStateM QueueThrow QueueCall

namespace StoreM

def snapshot : StoreM QueueSnapshot := do return (← get).store.snapshot

lemma snapshot_apply (c : QueueCall) : snapshot c = .ok c.store.snapshot c := rfl

/-- Assign to `this.#snapshot`. -/
def setSnapshot (snapshot : QueueSnapshot) : StoreM Unit :=
  modify fun c => { c with store := { c.store with snapshot } }

def setQueue (entries : Queue) (lease : Option QueueLease) : StoreM Unit := do
  setSnapshot { (← snapshot) with entries, lease }

/-- Assign to `this.#recentEvents`. -/
def setRecentEvents (recentEvents : List QueueEvent) : StoreM Unit :=
  modify fun c => { c with store := { c.store with recentEvents } }

def persist : StoreM Unit := fun c =>
  let written := { c.disk with snapshot := some c.store.snapshot }
  let faults := { c.faults with snapshot := c.faults.snapshot.tail }
  match c.faults.snapshot.head?.join with
  | none => .ok () { c with disk := written, faults }
  | some .kept => .error .writing { c with faults, threw := true }
  | some .replaced => .error .writing { c with disk := written, faults, threw := true }

variable (code : LineCode UInt8 QueueEvent) (now : ℕ)

/-- `appendDurably`. -/
def appendLog (event : QueueEvent) : StoreM Unit := fun c =>
  match c.faults.log with
  | none => .ok () { c with disk := c.disk.write code (.append event) }
  | some bytes =>
    .error .writing { c with disk := { c.disk with log := c.disk.log ++ (code.line event).take bytes } }

/-- `writeFileSync` of the empty log. -/
def truncateLog : StoreM Unit := fun c =>
  match c.faults.log with
  | none => .ok () { c with disk := c.disk.write code .truncate }
  | some _ => .error .writing c

def record (event : QueueEvent) : StoreM Unit := do
  appendLog code event
  let recentEvents := (← get).store.recentEvents ++ [event]
  setRecentEvents (if maxReplayEvents < recentEvents.length then recentEvents.tail else recentEvents)

def emit (type : QueueEventType) (attemptId : ℕ) : StoreM Unit := do
  let s ← snapshot
  let event : QueueEvent := { seq := s.nextEventSeq, time := now, type, attemptId }
  setSnapshot { s with nextEventSeq := s.nextEventSeq + 1 }
  persist
  record code event

def find (attemptId : ℕ) : StoreM QueueEntry := do
  match (← snapshot).entries.get attemptId with
  | none => throw (.refused (.notFound attemptId))
  | some entry => return entry

def clear : StoreM ℕ := do
  let s ← snapshot
  setSnapshot (emptySnapshot s.nextEventSeq)
  setRecentEvents []
  persist
  truncateLog code
  return s.entries.length

def enqueue (attemptId : ℕ) : StoreM QueueEntry := do
  let s ← snapshot
  match (s.entries.get attemptId).filter fun existing => existing.state ∉ terminalStates with
  | some existing => return existing
  | none =>
    setQueue (s.entries.enqueue now attemptId) s.lease
    persist
    emit code now .enqueued attemptId
    return { attemptId, state := .queued, queuedAt := now, updatedAt := now }

def acquireNextLease (leaseId : ℕ) : StoreM (Option QueueLease) := do
  let s ← snapshot
  if s.lease.isSome then return none
  match s.entries.find? fun e => e.state = .queued with
  | none => return none
  | some next =>
    let lease : QueueLease := { leaseId, attemptId := next.attemptId, acquiredAt := now }
    setQueue (s.entries.mark (fun e => e.state = .queued) .active now) (some lease)
    persist
    emit code now .leaseAcquired next.attemptId
    return some lease

def release (leaseId : ℕ) (outcome : QueueStore.Outcome) : StoreM Unit := do
  let s ← snapshot
  match s.lease.filter fun lease => lease.leaseId = leaseId with
  | none => return ()
  | some lease =>
    setQueue (s.entries.mark (fun e => e.attemptId = lease.attemptId) outcome.state now) none
    persist
    emit code now .released lease.attemptId

def transition (attemptId : ℕ) (origins : List QueueState) (action : String) (frees : Bool)
    (state : QueueState) (type : QueueEventType) : StoreM QueueEntry := do
  let entry ← find attemptId
  if entry.state ∉ origins then throw (.refused (.invalidTransition attemptId entry.state action))
  let s ← snapshot
  let lease := if frees then s.lease.filter fun lease => lease.attemptId ≠ attemptId else s.lease
  setQueue (s.entries.mark (fun e => e.attemptId = attemptId) state now) lease
  persist
  emit code now type attemptId
  return { entry with state, updatedAt := now }

def pause (attemptId : ℕ) : StoreM QueueEntry :=
  transition code now attemptId [.queued, .active] "pause" true .paused .paused

def resume (attemptId : ℕ) : StoreM QueueEntry :=
  transition code now attemptId [.paused] "resume" false .queued .resumed

def skip (attemptId : ℕ) : StoreM QueueEntry :=
  transition code now attemptId QueueStore.openStates "skip" true .cancelled .skipped

def cancel (attemptId : ℕ) : StoreM QueueEntry :=
  transition code now attemptId QueueStore.openStates "cancel" true .cancelled .cancelled

def call : QueueOp → StoreM QueueAnswer
  | .enqueue x => do return .entry (← enqueue code now x)
  | .acquireNextLease leaseId => do return .lease (← acquireNextLease code now leaseId)
  | .release leaseId outcome => do
    release code now leaseId outcome
    return .nothing
  | .pause x => do return .entry (← pause code now x)
  | .resume x => do return .entry (← resume code now x)
  | .skip x => do return .entry (← skip code now x)
  | .cancel x => do return .entry (← cancel code now x)
  | .clear => do return .count (← clear code)

def commit {α : Type} (entries : Queue) (lease : Option QueueLease) (type : QueueEventType)
    (attemptId : ℕ) (answer : α) : StoreM α := do
  setQueue entries lease
  persist
  emit code now type attemptId
  return answer

end StoreM

/-! ## What a call does -/

def QueueSnapshot.writes (s : QueueSnapshot) : QueueOp → ℕ
  | .enqueue x => if (s.entries.get x).any fun e => e.state ∉ terminalStates then 0 else 2
  | .acquireNextLease _ => if s.lease = none ∧ ∃ e ∈ s.entries, e.state = .queued then 2 else 0
  | .release leaseId _ => if s.lease.any fun lease => lease.leaseId = leaseId then 2 else 0
  | .pause x => if (s.entries.get x).any fun e => e.state ∈ [.queued, .active] then 2 else 0
  | .resume x => if (s.entries.get x).any fun e => e.state = .paused then 2 else 0
  | .skip x | .cancel x => if (s.entries.get x).any fun e => e.state ∉ terminalStates then 2 else 0
  | .clear => 1

variable {code : LineCode UInt8 QueueEvent} {now : ℕ} {c : QueueCall}

inductive Course (code : LineCode UInt8 QueueEvent) (now : ℕ) (op : QueueOp) (c : QueueCall) : Prop
  | refuse (e : QueueError) : c.store.snapshot.writes op = 0 →
      StoreM.call code now op c = .error (.refused e) c → c.store.perform now op = .error e →
      Course code now op c
  | idle (answer : QueueAnswer) : c.store.snapshot.writes op = 0 →
      StoreM.call code now op c = .ok answer c → c.store.perform now op = .ok (answer, c.store, []) →
      QueueSys.given answer = [] → Course code now op c
  | save (entries : Queue) (lease : Option QueueLease) (type : QueueEventType) (x : ℕ)
      (answer : QueueAnswer) : c.store.snapshot.writes op = 2 →
      ¬ (entries = c.store.snapshot.entries ∧ lease = c.store.snapshot.lease) →
      StoreM.call code now op c = StoreM.commit code now entries lease type x answer c →
      c.store.perform now op = .ok (answer, c.store.commit entries lease now type x) →
      Course code now op c

variable {queue : Queue} {state : QueueState} {x : ℕ} {type : QueueEventType}

lemma Queue.mark_ne {p : QueueEntry → Bool} {e : QueueEntry} (h : queue.find? p = some e)
    (hstate : e.state ≠ state) : queue.mark p state now ≠ queue := by
  obtain ⟨l, r, hqueue, -, -, hmark⟩ := Queue.exists_mark h
  rw [hmark, hqueue]
  intro heq
  have hentry := (List.cons.inj (List.append_cancel_left heq)).1
  exact hstate (congrArg QueueEntry.state hentry).symm

lemma Queue.enqueue_ne
    (h : (queue.get x).filter (fun existing => existing.state ∉ terminalStates) = none) :
    queue.enqueue now x ≠ queue := by
  intro heq
  cases hget : queue.get x with
  | none =>
    rw [Queue.enqueue_of_get_eq_none hget] at heq
    have hlength := congrArg List.length heq
    rw [List.length_append] at hlength
    exact absurd hlength (Nat.succ_ne_self _)
  | some e =>
    have hterminal : e.state ∈ terminalStates := by
      by_contra hnot
      rw [hget, Option.filter_some, if_pos (decide_eq_true hnot)] at h
      cases h
    obtain ⟨l, r, hqueue, -, -, henqueue⟩ := Queue.exists_enqueue hget hterminal
    rw [henqueue, hqueue] at heq
    have hentry := (List.cons.inj (List.append_cancel_left heq)).1
    have hqueued : e.state = .queued := by rw [← hentry]
    rw [hqueued] at hterminal
    exact absurd hterminal (by decide)

lemma StoreM.bind_commit {α β : Type} {entries : Queue} {lease : Option QueueLease} {a : α}
    (f : α → β) :
    EStateM.bind (StoreM.commit code now entries lease type x a) (fun a => pure (f a)) =
      StoreM.commit code now entries lease type x (f a) := by
  show (StoreM.commit code now entries lease type x a >>= fun a => pure (f a)) = _
  simp only [StoreM.commit, bind_assoc, pure_bind]

lemma StoreM.bind_of_eq {α β : Type} {m m' : StoreM α} {f : α → StoreM β} (h : m c = m' c) :
    EStateM.bind m f c = EStateM.bind m' f c := by
  unfold EStateM.bind
  rw [h]

lemma StoreM.bind_of_ok {α β : Type} {m : StoreM α} {f : α → StoreM β} {a : α} (h : m c = .ok a c) :
    EStateM.bind m f c = f a c := by
  unfold EStateM.bind
  rw [h]

lemma filter_terminal
    (h : (queue.get x).filter (fun existing => existing.state ∉ terminalStates) = none) :
    ((queue.get x).any fun e => e.state ∉ terminalStates) = false := by
  rw [Option.filter_eq_none_iff] at h
  rw [Option.any_eq_false]
  intro e he
  have hnot := h e he
  rwa [Bool.not_eq_true] at hnot

lemma enqueue_course (x : ℕ) : Course code now (.enqueue x) c := by
  cases hfilter : (c.store.snapshot.entries.get x).filter
      fun existing => existing.state ∉ terminalStates with
  | some existing =>
    obtain ⟨hget, hopen⟩ := Option.filter_eq_some_iff.mp hfilter
    have hrun : StoreM.enqueue code now x c = .ok existing c := by
      simp only [StoreM.enqueue, StoreM.snapshot_apply, bind, EStateM.bind, pure,
        EStateM.pure, hfilter]
    refine .idle (.entry existing) ?_ ?_ ?_ rfl
    · show (if _ then 0 else 2) = 0
      rw [hget]
      exact if_pos hopen
    · exact StoreM.bind_of_ok hrun
    · show Except.ok _ = _
      unfold QueueStore.enqueue
      rw [hget]
      dsimp only
      rw [if_pos (of_decide_eq_true hopen)]
      rfl
  | none =>
    have hany := filter_terminal hfilter
    have hrun : StoreM.enqueue code now x c = StoreM.commit code now
        (c.store.snapshot.entries.enqueue now x) c.store.snapshot.lease .enqueued x
        { attemptId := x, state := .queued, queuedAt := now, updatedAt := now } c := by
      simp only [StoreM.enqueue, StoreM.snapshot_apply, bind, EStateM.bind, pure,
        EStateM.pure, hfilter]
      rfl
    refine .save (c.store.snapshot.entries.enqueue now x) c.store.snapshot.lease .enqueued x
      (.entry { attemptId := x, state := .queued, queuedAt := now, updatedAt := now }) ?_
      (fun h => Queue.enqueue_ne hfilter h.1) ?_ ?_
    · show (if _ then 0 else 2) = 2
      rw [hany]
      rfl
    · show EStateM.bind (StoreM.enqueue code now x) _ c = _
      rw [StoreM.bind_of_eq hrun, StoreM.bind_commit]
    · show Except.ok _ = _
      unfold QueueStore.enqueue
      cases hget : c.store.snapshot.entries.get x with
      | none => rfl
      | some existing =>
        rw [hget, Option.any_some] at hany
        dsimp only
        rw [if_neg (of_decide_eq_false hany)]
        rfl

lemma acquireNextLease_course (leaseId : ℕ) : Course code now (.acquireNextLease leaseId) c := by
  cases hlease : c.store.snapshot.lease with
  | some lease =>
    have hrun : StoreM.acquireNextLease code now leaseId c = .ok none c := by
      simp only [StoreM.acquireNextLease, StoreM.snapshot_apply, bind, EStateM.bind, pure,
        EStateM.pure, hlease, Option.isSome_some, if_true]
    refine .idle (.lease none) ?_ ?_ ?_ rfl
    · show (if _ ∧ _ then 2 else 0) = 0
      rw [hlease]
      exact if_neg fun h => by cases h.1
    · exact StoreM.bind_of_ok hrun
    · show Except.ok _ = _
      unfold QueueStore.acquireNextLease
      rw [hlease]
      rfl
  | none =>
    cases hfind : c.store.snapshot.entries.find? fun e => e.state = .queued with
    | none =>
      have hrun : StoreM.acquireNextLease code now leaseId c = .ok none c := by
        simp only [StoreM.acquireNextLease, StoreM.snapshot_apply, bind, EStateM.bind, pure,
        EStateM.pure, hlease, Option.isSome_none, hfind]
        rfl
      refine .idle (.lease none) ?_ ?_ ?_ rfl
      · show (if _ ∧ _ then 2 else 0) = 0
        refine if_neg ?_
        rintro ⟨-, e, he, hqueued⟩
        have hnot := List.find?_eq_none.mp hfind e he
        rw [decide_eq_true_eq] at hnot
        exact hnot hqueued
      · exact StoreM.bind_of_ok hrun
      · show Except.ok _ = _
        unfold QueueStore.acquireNextLease
        rw [hlease, hfind]
        rfl
    | some next =>
      have hrun : StoreM.acquireNextLease code now leaseId c = StoreM.commit code now
          (c.store.snapshot.entries.mark (fun e => e.state = .queued) .active now)
          (some { leaseId, attemptId := next.attemptId, acquiredAt := now }) .leaseAcquired
          next.attemptId (some { leaseId, attemptId := next.attemptId, acquiredAt := now }) c := by
        simp only [StoreM.acquireNextLease, StoreM.snapshot_apply, bind, EStateM.bind, pure,
        EStateM.pure, hlease, Option.isSome_none, hfind]
        rfl
      refine .save (c.store.snapshot.entries.mark (fun e => e.state = .queued) .active now)
        (some { leaseId, attemptId := next.attemptId, acquiredAt := now }) .leaseAcquired next.attemptId
        (.lease (some { leaseId, attemptId := next.attemptId, acquiredAt := now })) ?_ ?_ ?_ ?_
      · show (if _ ∧ _ then 2 else 0) = 2
        exact if_pos ⟨hlease, next, List.mem_of_find?_eq_some hfind,
          by simpa only [decide_eq_true_eq] using List.find?_some hfind⟩
      · rw [hlease]
        exact fun h => by cases h.2
      · show EStateM.bind (StoreM.acquireNextLease code now leaseId) _ c = _
        rw [StoreM.bind_of_eq hrun, StoreM.bind_commit]
      · show Except.ok _ = _
        unfold QueueStore.acquireNextLease
        rw [hlease, hfind]
        rfl

lemma release_course (leaseId : ℕ) (outcome : QueueStore.Outcome) :
    Course code now (.release leaseId outcome) c := by
  cases hfilter : c.store.snapshot.lease.filter fun lease => lease.leaseId = leaseId with
  | none =>
    have hother : ∀ lease, c.store.snapshot.lease = some lease → lease.leaseId ≠ leaseId := by
      intro lease hlease
      have hnot := Option.filter_eq_none_iff.mp hfilter lease hlease
      rwa [decide_eq_true_eq] at hnot
    have hrun : StoreM.release code now leaseId outcome c = .ok () c := by
      simp only [StoreM.release, StoreM.snapshot_apply, bind, EStateM.bind, pure,
        EStateM.pure, hfilter]
    refine .idle .nothing ?_ ?_ ?_ rfl
    · show (if _ then 2 else 0) = 0
      refine if_neg fun hany => ?_
      obtain ⟨lease, hlease, hid⟩ := (Option.any_eq_true ..).mp hany
      exact hother lease hlease (of_decide_eq_true hid)
    · exact StoreM.bind_of_ok hrun
    · show Except.ok _ = _
      unfold QueueStore.release
      cases hlease : c.store.snapshot.lease with
      | none => rfl
      | some lease =>
        dsimp only
        rw [if_pos (hother lease hlease)]
  | some lease =>
    obtain ⟨hlease, hid⟩ := Option.filter_eq_some_iff.mp hfilter
    have hrun : StoreM.release code now leaseId outcome c = StoreM.commit code now
        (c.store.snapshot.entries.mark (fun e => e.attemptId = lease.attemptId) outcome.state now) none
        .released lease.attemptId () c := by
      simp only [StoreM.commit, bind_pure_unit]
      simp only [StoreM.release, StoreM.snapshot_apply, bind, EStateM.bind, pure,
        EStateM.pure, hfilter]
    refine .save
      (c.store.snapshot.entries.mark (fun e => e.attemptId = lease.attemptId) outcome.state now) none
      .released lease.attemptId .nothing ?_ ?_ ?_ ?_
    · show (if _ then 2 else 0) = 2
      rw [hlease]
      exact if_pos hid
    · rw [hlease]
      exact fun h => by cases h.2
    · show EStateM.bind (StoreM.release code now leaseId outcome) (fun _ => pure QueueAnswer.nothing) c = _
      rw [StoreM.bind_of_eq hrun, StoreM.bind_commit fun _ => QueueAnswer.nothing]
    · show Except.ok _ = _
      unfold QueueStore.release
      rw [hlease]
      dsimp only
      rw [if_neg (not_not.mpr (of_decide_eq_true hid))]

lemma transition_course {op : QueueOp} {origins : List QueueState} {action : String} {frees : Bool}
    (horigins : state ∉ origins)
    (hcall : StoreM.call code now op =
      (do return .entry (← StoreM.transition code now x origins action frees state type)))
    (hperform : c.store.perform now op =
      (c.store.transition now x origins action
        (if frees then c.store.otherLease x else c.store.snapshot.lease) state type).map
          fun r => r.map .entry id)
    (hwrites : c.store.snapshot.writes op =
      if (c.store.snapshot.entries.get x).any fun e => e.state ∈ origins then 2 else 0) :
    Course code now op c := by
  rw [QueueStore.transition] at hperform
  cases hget : c.store.snapshot.entries.get x with
  | none =>
    rw [hget] at hperform hwrites
    refine .refuse _ hwrites ?_ hperform
    rw [hcall]
    simp only [StoreM.transition, StoreM.find, StoreM.snapshot_apply, bind, EStateM.bind, pure,
        EStateM.pure, hget]
    rfl
  | some entry =>
    rw [hget, Option.any_some] at hwrites
    rw [hget] at hperform
    dsimp only at hperform
    by_cases horigin : entry.state ∈ origins
    · rw [if_neg (not_not.mpr horigin)] at hperform
      rw [if_pos (decide_eq_true horigin)] at hwrites
      have hrun : StoreM.transition code now x origins action frees state type c =
          StoreM.commit code now
            (c.store.snapshot.entries.mark (fun e => e.attemptId = x) state now)
            (if frees then c.store.otherLease x else c.store.snapshot.lease) type x
            { entry with state, updatedAt := now } c := by
        simp only [StoreM.transition, StoreM.find, StoreM.snapshot_apply, bind, EStateM.bind, pure,
        EStateM.pure, hget]
        rw [if_neg (not_not.mpr horigin)]
        rfl
      have hne : entry.state ≠ state := fun heq => horigins (heq ▸ horigin)
      refine .save _ _ type x _ hwrites (fun h => Queue.mark_ne hget hne h.1) ?_ hperform
      rw [hcall]
      show EStateM.bind _ _ c = _
      rw [StoreM.bind_of_eq hrun]
      exact congrFun (StoreM.bind_commit QueueAnswer.entry) c
    · rw [if_pos horigin] at hperform
      rw [if_neg (by rwa [decide_eq_true_eq])] at hwrites
      refine .refuse _ hwrites ?_ hperform
      rw [hcall]
      simp only [StoreM.transition, StoreM.find, StoreM.snapshot_apply, bind, EStateM.bind, pure,
        EStateM.pure, hget]
      rw [if_pos horigin]
      rfl

lemma notMem_terminalStates_iff : state ∉ terminalStates ↔ state ∈ QueueStore.openStates := by
  cases state <;> decide

variable (code now) in
lemma call_course {op : QueueOp} (hclear : op ≠ .clear) : Course code now op c := by
  cases op with
  | enqueue x => exact enqueue_course x
  | acquireNextLease leaseId => exact acquireNextLease_course leaseId
  | release leaseId outcome => exact release_course leaseId outcome
  | pause x => exact transition_course (by decide) rfl rfl rfl
  | resume x =>
    refine transition_course (by decide : .queued ∉ [QueueState.paused]) rfl rfl ?_
    simp only [List.mem_singleton]
    rfl
  | skip x =>
    refine transition_course (by decide : .cancelled ∉ QueueStore.openStates) rfl rfl ?_
    simp only [← notMem_terminalStates_iff]
    rfl
  | cancel x =>
    refine transition_course (by decide : .cancelled ∉ QueueStore.openStates) rfl rfl ?_
    simp only [← notMem_terminalStates_iff]
    rfl
  | clear => exact absurd rfl hclear

/-! ## Saving -/

def stateOf {α : Type} : EStateM.Result QueueThrow QueueCall α → QueueCall
  | .ok _ c => c
  | .error _ c => c

def throws {α : Type} : EStateM.Result QueueThrow QueueCall α → Bool
  | .ok _ _ => false
  | .error _ _ => true

def Unhurt (faults : List (Option WriteFault)) : Prop := ∀ fault ∈ faults, fault = none

instance (faults : List (Option WriteFault)) : Decidable (Unhurt faults) :=
  inferInstanceAs (Decidable (∀ fault ∈ faults, fault = none))

lemma unhurt_take_succ {faults : List (Option WriteFault)} {n : ℕ} :
    Unhurt (faults.take (n + 1)) ↔ faults.head?.join = none ∧ Unhurt (faults.tail.take n) := by
  cases faults with
  | nil => simp [Unhurt]
  | cons fault faults => simp [Unhurt]

lemma unhurt_zero {faults : List (Option WriteFault)} : Unhurt (faults.take 0) := nofun

def QueueCall.written (c : QueueCall) : QueueCall :=
  { c with
    disk := { c.disk with snapshot := some c.store.snapshot }
    faults := { c.faults with snapshot := c.faults.snapshot.tail } }

def QueueCall.assigned (c : QueueCall) (entries : Queue) (lease : Option QueueLease) : QueueCall :=
  { c with store := { c.store with snapshot := { c.store.snapshot with entries, lease } } }

def QueueCall.numbered (c : QueueCall) : QueueCall :=
  let s := c.store.snapshot
  { c with store := { c.store with snapshot := { s with nextEventSeq := s.nextEventSeq + 1 } } }

lemma persist_cases (c : QueueCall) :
    c.faults.snapshot.head?.join = none ∧ StoreM.persist c = .ok () c.written ∨
      c.faults.snapshot.head?.join ≠ none ∧
        ∃ c', StoreM.persist c = .error .writing c' ∧ c'.threw = true ∧ c'.store = c.store ∧
          (c'.disk = c.disk ∨ c'.disk.snapshot = some c.store.snapshot) := by
  unfold StoreM.persist
  rcases c.faults.snapshot.head?.join with _ | _ | _
  · exact .inl ⟨rfl, rfl⟩
  · exact .inr ⟨nofun, _, rfl, rfl, rfl, .inl rfl⟩
  · exact .inr ⟨nofun, _, rfl, rfl, rfl, .inr rfl⟩

section Commit

variable {α : Type} (entries : Queue) (lease : Option QueueLease) (type : QueueEventType) (x : ℕ)
  (answer : α)

lemma commit_eq : StoreM.commit code now entries lease type x answer c =
    EStateM.bind StoreM.persist (fun _ => do
      StoreM.emit code now type x
      return answer) (c.assigned entries lease) := rfl

lemma emit_eq : StoreM.emit code now type x c =
    EStateM.bind StoreM.persist (fun _ =>
      StoreM.record code { seq := c.store.snapshot.nextEventSeq, time := now, type, attemptId := x })
      c.numbered := rfl

def QueueCall.recorded (code : LineCode UInt8 QueueEvent) (event : QueueEvent) (c : QueueCall) :
    QueueCall :=
  let recentEvents := c.store.recentEvents ++ [event]
  { c with
    store :=
      { c.store with
        recentEvents :=
          if maxReplayEvents < recentEvents.length then recentEvents.tail else recentEvents }
    disk := c.disk.write code (.append event) }

lemma record_cases (event : QueueEvent) (c : QueueCall) :
    c.faults.log = none ∧ StoreM.record code event c = .ok () (c.recorded code event) ∨
      c.faults.log ≠ none ∧
        ∃ log, StoreM.record code event c = .error .writing { c with disk := { c.disk with log } } := by
  cases hlog : c.faults.log with
  | none =>
    have happend : StoreM.appendLog code event c = .ok ()
        { c with disk := c.disk.write code (.append event) } := by
      unfold StoreM.appendLog
      rw [hlog]
    refine .inl ⟨rfl, ?_⟩
    show EStateM.bind (StoreM.appendLog code event) _ c = _
    unfold EStateM.bind
    rw [happend]
    rfl
  | some bytes =>
    have happend : StoreM.appendLog code event c = .error .writing
        { c with disk := { c.disk with log := c.disk.log ++ (code.line event).take bytes } } := by
      unfold StoreM.appendLog
      rw [hlog]
    refine .inr ⟨nofun, c.disk.log ++ (code.line event).take bytes, ?_⟩
    show EStateM.bind (StoreM.appendLog code event) _ c = _
    unfold EStateM.bind
    rw [happend]

/-- The state when the snapshot was written twice. -/
def QueueCall.saved (c : QueueCall) (entries : Queue) (lease : Option QueueLease) : QueueCall :=
  (c.assigned entries lease).written.numbered.written

lemma commit_of_written (h : Unhurt (c.faults.snapshot.take 2)) :
    StoreM.commit code now entries lease type x answer c =
      EStateM.bind
        (StoreM.record code { seq := c.store.snapshot.nextEventSeq, time := now, type, attemptId := x })
        (fun _ => pure answer) (c.saved entries lease) := by
  obtain ⟨hfirst, hrest⟩ := unhurt_take_succ.mp h
  obtain ⟨hsecond, -⟩ := unhurt_take_succ.mp hrest
  rw [commit_eq]
  unfold EStateM.bind
  rcases persist_cases (c.assigned entries lease) with ⟨-, hpersist⟩ | ⟨hnot, -⟩
  · rw [hpersist]
    show EStateM.bind (StoreM.emit code now type x) _ _ = _
    unfold EStateM.bind
    rw [emit_eq]
    unfold EStateM.bind
    rcases persist_cases (c.assigned entries lease).written.numbered with ⟨-, hpersist⟩ | ⟨hnot, -⟩
    · rw [hpersist]
      rfl
    · exact absurd hsecond hnot
  · exact absurd hfirst hnot

variable (code now) in
lemma commit_of_hurt (h : ¬ Unhurt (c.faults.snapshot.take 2)) :
    ∃ c', StoreM.commit code now entries lease type x answer c = .error .writing c' ∧ c'.threw = true ∧
      c'.store.snapshot.entries = entries ∧ c'.store.snapshot.lease = lease := by
  rw [commit_eq]
  unfold EStateM.bind
  rcases persist_cases (c.assigned entries lease) with
    ⟨hfirst, hpersist⟩ | ⟨-, c', hpersist, hthrew, hstore, -⟩
  · rw [hpersist]
    show ∃ c', EStateM.bind (StoreM.emit code now type x) _ _ = _ ∧ _
    unfold EStateM.bind
    rw [emit_eq]
    unfold EStateM.bind
    rcases persist_cases (c.assigned entries lease).written.numbered with
      ⟨hsecond, -⟩ | ⟨-, c', hpersist, hthrew, hstore, -⟩
    · exact absurd (unhurt_take_succ.mpr ⟨hfirst, unhurt_take_succ.mpr ⟨hsecond, unhurt_zero⟩⟩) h
    · rw [hpersist]
      exact ⟨c', rfl, hthrew, by rw [hstore]; rfl, by rw [hstore]; rfl⟩
  · rw [hpersist]
    exact ⟨c', rfl, hthrew, by rw [hstore]; rfl, by rw [hstore]; rfl⟩

variable (code now) in
lemma commit_of_unhurt (h : Unhurt (c.faults.snapshot.take 2)) :
    ∃ c', (c.faults.log = none ∧
          StoreM.commit code now entries lease type x answer c = .ok answer c' ∧
          c'.store = (c.store.commit entries lease now type x).1 ∧
          c'.disk = (c.store.commit entries lease now type x).2.foldl (QueueDisk.write code) c.disk ∨
        c.faults.log ≠ none ∧
          StoreM.commit code now entries lease type x answer c = .error .writing c') ∧
      c'.threw = c.threw ∧ c'.store.snapshot.entries = entries ∧ c'.store.snapshot.lease = lease ∧
        c'.disk.snapshot = some c'.store.snapshot := by
  rw [commit_of_written entries lease type x answer h]
  unfold EStateM.bind
  rcases record_cases { seq := c.store.snapshot.nextEventSeq, time := now, type, attemptId := x }
      (c.saved entries lease) with ⟨hlog, hrecord⟩ | ⟨hlog, log, hrecord⟩
  · rw [hrecord]
    exact ⟨_, .inl ⟨hlog, rfl, rfl, rfl⟩, rfl, rfl, rfl, rfl⟩
  · rw [hrecord]
    exact ⟨_, .inr ⟨hlog, rfl⟩, rfl, rfl, rfl, rfl⟩

end Commit

/-! ## Clearing -/

/-- `clear` writes the snapshot once. -/
lemma clear_eq : StoreM.call code now .clear c =
    EStateM.bind StoreM.persist (fun _ => do
      StoreM.truncateLog code
      return .count c.store.snapshot.entries.length)
      { c with store := { snapshot := emptySnapshot c.store.snapshot.nextEventSeq } } := by
  simp only [StoreM.call, StoreM.clear, bind_assoc, pure_bind]
  rfl

variable (code now) in
lemma clear_of_hurt (h : ¬ Unhurt (c.faults.snapshot.take 1)) :
    ∃ c', StoreM.call code now .clear c = .error .writing c' ∧ c'.threw = true ∧
      c'.store.snapshot.entries = [] ∧ c'.store.snapshot.lease = none ∧
      (c'.disk = c.disk ∨ c'.disk.snapshot = some c'.store.snapshot) := by
  rw [clear_eq]
  unfold EStateM.bind
  rcases persist_cases { c with store := { snapshot := emptySnapshot c.store.snapshot.nextEventSeq } } with
    ⟨hfirst, -⟩ | ⟨-, c', hpersist, hthrew, hstore, hdisk⟩
  · exact absurd (unhurt_take_succ.mpr ⟨hfirst, unhurt_zero⟩) h
  · rw [hpersist]
    refine ⟨c', rfl, hthrew, by rw [hstore]; rfl, by rw [hstore]; rfl, ?_⟩
    rw [hstore]
    exact hdisk

variable (code now) in
lemma clear_of_unhurt (h : Unhurt (c.faults.snapshot.take 1)) :
    ∃ c', (c.faults.log = none ∧
          StoreM.call code now .clear c = .ok (.count c.store.snapshot.entries.length) c' ∧
          c'.store = c.store.clear.2.1 ∧
          c'.disk = c.store.clear.2.2.foldl (QueueDisk.write code) c.disk ∨
        c.faults.log ≠ none ∧ StoreM.call code now .clear c = .error .writing c') ∧
      c'.threw = c.threw ∧ c'.store.snapshot.lease = none ∧
        c'.disk.snapshot = some c'.store.snapshot := by
  rw [clear_eq]
  unfold EStateM.bind
  rcases persist_cases { c with store := { snapshot := emptySnapshot c.store.snapshot.nextEventSeq } } with
    ⟨-, hpersist⟩ | ⟨hnot, -⟩
  · rw [hpersist]
    show ∃ c', (_ ∧ EStateM.bind (StoreM.truncateLog code) _ _ = _ ∧ _ ∨
      _ ∧ EStateM.bind (StoreM.truncateLog code) _ _ = _) ∧ _
    cases hlog : c.faults.log with
    | none =>
      dsimp only [QueueCall.written]
      rw [hlog]
      exact ⟨_, .inl ⟨rfl, rfl, rfl, rfl⟩, rfl, rfl, rfl⟩
    | some bytes =>
      dsimp only [QueueCall.written]
      rw [hlog]
      exact ⟨_, .inr ⟨nofun, rfl⟩, rfl, rfl, rfl⟩
  · exact absurd (unhurt_take_succ.mp h).1 hnot

/-! ## Atomic calls -/

def Atomic (code : LineCode UInt8 QueueEvent) (now : ℕ) (op : QueueOp) (s : QueueStore)
    (disk : QueueDisk) (faults : WriteFaults) : Prop :=
  let r := StoreM.call code now op { store := s, disk, faults }
  (stateOf r).threw = true → throws r = true ∧
    (stateOf r).store.snapshot.entries = s.snapshot.entries ∧
    (stateOf r).store.snapshot.lease = s.snapshot.lease

/-- The writes that a call makes succeed, or everything is cleared where there is nothing. -/
def Spared (s : QueueSnapshot) (op : QueueOp) (faults : WriteFaults) : Prop :=
  Unhurt (faults.snapshot.take (s.writes op)) ∨ op = .clear ∧ s.entries = [] ∧ s.lease = none

instance (s : QueueSnapshot) (op : QueueOp) (faults : WriteFaults) : Decidable (Spared s op faults) :=
  inferInstanceAs (Decidable (_ ∨ _))

variable {op : QueueOp} {s : QueueStore} {disk : QueueDisk} {faults : WriteFaults}

lemma atomic_of_threw_eq_false
    (h : (stateOf (StoreM.call code now op { store := s, disk, faults })).threw = false) :
    Atomic code now op s disk faults := by
  intro hthrew
  rw [h] at hthrew
  cases hthrew

lemma atomic_iff_of_threw {c' : QueueCall}
    (hrun : StoreM.call code now op { store := s, disk, faults } = .error .writing c')
    (hthrew : c'.threw = true) :
    Atomic code now op s disk faults ↔
      c'.store.snapshot.entries = s.snapshot.entries ∧ c'.store.snapshot.lease = s.snapshot.lease := by
  unfold Atomic
  rw [hrun]
  exact ⟨fun h => (h hthrew).2, fun h _ => ⟨rfl, h⟩⟩

lemma atomic_clear_iff : Atomic code now .clear s disk faults ↔ Spared s.snapshot .clear faults := by
  by_cases hhurt : Unhurt (faults.snapshot.take 1)
  · obtain ⟨c', hrun, hthrew, -⟩ := clear_of_unhurt code now
      (c := { store := s, disk, faults }) hhurt
    refine ⟨fun _ => .inl hhurt, fun _ => atomic_of_threw_eq_false ?_⟩
    rcases hrun with ⟨-, hrun, -⟩ | ⟨-, hrun⟩ <;> rw [hrun] <;> exact hthrew
  · obtain ⟨c', hrun, hthrew, hentries, hlease, -⟩ := clear_of_hurt code now
      (c := { store := s, disk, faults }) hhurt
    rw [atomic_iff_of_threw hrun hthrew, hentries, hlease]
    constructor
    · exact fun h => .inr ⟨rfl, h.1.symm, h.2.symm⟩
    · rintro (h | ⟨-, h⟩)
      · exact absurd h hhurt
      · exact ⟨h.1.symm, h.2.symm⟩

lemma atomic_iff_spared : Atomic code now op s disk faults ↔ Spared s.snapshot op faults := by
  by_cases hclear : op = .clear
  · subst hclear
    exact atomic_clear_iff
  · cases call_course code now (c := { store := s, disk, faults }) hclear with
    | refuse e hwrites hrun =>
      have hspared : Spared s.snapshot op faults := .inl (by rw [hwrites]; exact unhurt_zero)
      exact ⟨fun _ => hspared, fun _ => atomic_of_threw_eq_false (by rw [hrun]; rfl)⟩
    | idle answer hwrites hrun =>
      have hspared : Spared s.snapshot op faults := .inl (by rw [hwrites]; exact unhurt_zero)
      exact ⟨fun _ => hspared, fun _ => atomic_of_threw_eq_false (by rw [hrun]; rfl)⟩
    | save entries lease type x answer hwrites hne hrun =>
      by_cases hhurt : Unhurt (faults.snapshot.take 2)
      · obtain ⟨c', hcommit, hthrew, -⟩ := commit_of_unhurt code now
          (c := { store := s, disk, faults }) entries lease type x answer hhurt
        have hspared : Spared s.snapshot op faults := .inl (by rw [hwrites]; exact hhurt)
        refine ⟨fun _ => hspared, fun _ => atomic_of_threw_eq_false ?_⟩
        rw [hrun]
        rcases hcommit with ⟨-, hcommit, -⟩ | ⟨-, hcommit⟩ <;> rw [hcommit] <;> exact hthrew
      · -- what was assigned to is in memory, and it is not what was there
        obtain ⟨c', hcommit, hthrew, hentries, hlease⟩ := commit_of_hurt code now
          (c := { store := s, disk, faults }) entries lease type x answer hhurt
        rw [atomic_iff_of_threw (hrun.trans hcommit) hthrew, hentries, hlease]
        refine ⟨fun h => absurd h hne, ?_⟩
        rintro (h | ⟨h, -⟩)
        · rw [hwrites] at h
          exact absurd h hhurt
        · exact absurd h hclear

/-! ## Runs -/

variable (code now) in
lemma call_eq_perform (hwrites : Unhurt (c.faults.snapshot.take (c.store.snapshot.writes op)))
    (hlog : c.faults.log = none) :
    (∃ e, c.store.perform now op = .error e ∧ StoreM.call code now op c = .error (.refused e) c) ∨
      ∃ answer r c', c.store.perform now op = .ok (answer, r) ∧
        StoreM.call code now op c = .ok answer c' ∧ c'.store = r.1 ∧
        c'.disk = r.2.foldl (QueueDisk.write code) c.disk := by
  by_cases hclear : op = .clear
  · subst hclear
    obtain ⟨c', ⟨-, hrun, hstore, hdisk⟩ | ⟨hnot, -⟩, -⟩ := clear_of_unhurt code now hwrites
    · exact .inr ⟨_, _, c', rfl, hrun, hstore, hdisk⟩
    · exact absurd hlog hnot
  · cases call_course code now (c := c) hclear with
    | refuse e _ hrun hperform => exact .inl ⟨e, hperform, hrun⟩
    | idle answer _ hrun hperform => exact .inr ⟨answer, _, c, hperform, hrun, rfl, rfl⟩
    | save entries lease type x answer htwo _ hrun hperform =>
      rw [htwo] at hwrites
      obtain ⟨c', ⟨-, hcommit, hstore, hdisk⟩ | ⟨hnot, -⟩, -⟩ :=
        commit_of_unhurt code now entries lease type x answer hwrites
      · exact .inr ⟨answer, _, c', hperform, hrun.trans hcommit, hstore, hdisk⟩
      · exact absurd hlog hnot

structure FaultyCall where
  now : ℕ
  op : QueueOp
  faults : WriteFaults := {}

structure QueueProcess where
  store : QueueStore := {}
  disk : QueueDisk := {}
  returned : List QueueLease := []

namespace QueueProcess

def start (code : LineCode UInt8 QueueEvent) (disk : QueueDisk) (now : ℕ) : QueueProcess :=
  let (store, writes) := QueueStore.construct code disk now
  { store, disk := writes.foldl (QueueDisk.write code) disk }

def step (code : LineCode UInt8 QueueEvent) (p : QueueProcess) (call : FaultyCall) :
    Option QueueProcess :=
  match StoreM.call code call.now call.op { store := p.store, disk := p.disk, faults := call.faults } with
  | .ok answer c =>
    some { store := c.store, disk := c.disk, returned := p.returned ++ QueueSys.given answer }
  | .error _ c => some { p with store := c.store, disk := c.disk }

def Persisted (p : QueueProcess) : Prop :=
  p.store.snapshot.entries = p.disk.loadSnapshot.entries ∧
    p.store.snapshot.lease = p.disk.loadSnapshot.lease

/-- The lease, if there is one, was returned to a caller. -/
def Returned (p : QueueProcess) : Prop :=
  ∀ lease, p.store.snapshot.lease = some lease → lease ∈ p.returned

variable {p p' : QueueProcess} {call : FaultyCall}

lemma persisted_of_eq {store : QueueStore} {returned : List QueueLease}
    (h : disk.snapshot = some store.snapshot) : Persisted { store, disk, returned } := by
  have hload : disk.loadSnapshot = store.snapshot := by
    unfold QueueDisk.loadSnapshot
    rw [h]
    rfl
  exact ⟨congrArg _ hload.symm, congrArg _ hload.symm⟩

lemma reconcile_written (code : LineCode UInt8 QueueEvent) (s : QueueStore) (now : ℕ) (disk : QueueDisk) :
    s.reconcileStaleLeaseOnStartup now = (s, []) ∨
      ((s.reconcileStaleLeaseOnStartup now).2.foldl (QueueDisk.write code) disk).snapshot =
        some (s.reconcileStaleLeaseOnStartup now).1.snapshot := by
  unfold QueueStore.reconcileStaleLeaseOnStartup
  split
  · exact .inl rfl
  · exact .inr rfl

lemma start_persisted (disk : QueueDisk) (now : ℕ) :
    (start code disk now).Persisted ∧ (start code disk now).Returned := by
  have hnone {s : QueueStore} {returned : List QueueLease} :
      Returned { store := (s.reconcileStaleLeaseOnStartup now).1, disk, returned } := by
    intro lease hlease
    rw [QueueStore.lease_reconcile] at hlease
    cases hlease
  unfold start QueueStore.construct
  dsimp only
  split
  · refine ⟨?_, fun lease hlease => hnone lease hlease⟩
    refine persisted_of_eq ?_
    rw [List.foldl_cons]
    rcases reconcile_written code _ now _ with hsame | hwritten
    · rw [hsame]
      rfl
    · exact hwritten
  · refine ⟨?_, fun lease hlease => hnone lease hlease⟩
    rcases reconcile_written code _ now disk with hsame | hwritten
    · rw [hsame]
      exact ⟨rfl, rfl⟩
    · exact persisted_of_eq hwritten

lemma Persisted.step (h : p.Persisted) (hspared : Spared p.store.snapshot call.op call.faults)
    (hstep : QueueProcess.step code p call = some p') : p'.Persisted := by
  unfold QueueProcess.step at hstep
  by_cases hclear : call.op = .clear
  · rw [hclear] at hspared hstep
    by_cases hhurt : Unhurt (call.faults.snapshot.take 1)
    · obtain ⟨c', hrun, -, -, hdisk⟩ := clear_of_unhurt code call.now
        (c := { store := p.store, disk := p.disk, faults := call.faults }) hhurt
      rcases hrun with ⟨-, hrun, -⟩ | ⟨-, hrun⟩ <;> rw [hrun] at hstep <;> cases hstep <;>
        exact persisted_of_eq hdisk
    · obtain ⟨c', hrun, -, hentries, hlease, hdisk⟩ := clear_of_hurt code call.now
        (c := { store := p.store, disk := p.disk, faults := call.faults }) hhurt
      rw [hrun] at hstep
      cases hstep
      obtain ⟨-, hnil, hnone⟩ := hspared.resolve_left hhurt
      rcases hdisk with hsame | hdisk
      · rw [Persisted, hentries, hlease, hsame]
        rw [Persisted, hnil, hnone] at h
        exact h
      · exact persisted_of_eq hdisk
  · cases call_course code call.now
      (c := { store := p.store, disk := p.disk, faults := call.faults }) hclear with
    | refuse e _ hrun =>
      rw [hrun] at hstep
      cases hstep
      exact h
    | idle answer _ hrun =>
      rw [hrun] at hstep
      cases hstep
      exact h
    | save entries lease type x answer hwrites _ hrun =>
      have hunhurt := hspared.resolve_right fun hnot => hclear hnot.1
      rw [hwrites] at hunhurt
      obtain ⟨c', hcommit, -, -, -, hdisk⟩ := commit_of_unhurt code call.now
        (c := { store := p.store, disk := p.disk, faults := call.faults }) entries lease type x answer
        hunhurt
      rw [hrun] at hstep
      rcases hcommit with ⟨-, hcommit, -⟩ | ⟨-, hcommit⟩ <;> rw [hcommit] at hstep <;> cases hstep <;>
        exact persisted_of_eq hdisk

lemma Returned.step (h : p.Returned)
    (hcall : Spared p.store.snapshot call.op call.faults ∧ call.faults.log = none)
    (hstep : QueueProcess.step code p call = some p') : p'.Returned := by
  unfold QueueProcess.step at hstep
  obtain ⟨hunhurt | ⟨hclear, hnil, hnone⟩, hlog⟩ := hcall
  · rcases call_eq_perform code call.now
      (c := { store := p.store, disk := p.disk, faults := call.faults }) hunhurt hlog with
      ⟨e, -, hrun⟩ | ⟨answer, r, c', hperform, hrun, hstore, -⟩
    · rw [hrun] at hstep
      cases hstep
      exact h
    · rw [hrun] at hstep
      cases hstep
      intro lease hlease
      rw [hstore] at hlease
      rcases QueueStore.lease_of_perform hperform hlease with hold | hnew
      · exact List.mem_append_left _ (h lease hold)
      · exact List.mem_append_right _ hnew
  · by_cases hhurt : Unhurt (call.faults.snapshot.take 1)
    · obtain ⟨c', hrun, -, hlease, -⟩ := clear_of_unhurt code call.now
        (c := { store := p.store, disk := p.disk, faults := call.faults }) hhurt
      rw [hclear] at hstep
      rcases hrun with ⟨-, hrun, -⟩ | ⟨-, hrun⟩ <;> rw [hrun] at hstep <;> cases hstep <;>
        exact fun lease hsome => nomatch hlease.symm.trans hsome
    · obtain ⟨c', hrun, -, -, hlease, -⟩ := clear_of_hurt code call.now
        (c := { store := p.store, disk := p.disk, faults := call.faults }) hhurt
      rw [hclear, hrun] at hstep
      cases hstep
      exact fun lease hsome => nomatch hlease.symm.trans hsome

end QueueProcess

/-- A call is atomic when a write of the snapshot throws exactly where it makes no such write, or
clears what is empty.  While all calls are such, entries and lease in memory are those on the disk,
and if the log can be written too, the lease was returned to a caller. -/
theorem atomic_iff (code : LineCode UInt8 QueueEvent) :
    (∀ now op s disk faults, Atomic code now op s disk faults ↔ Spared s.snapshot op faults) ∧
    ∀ disk now calls p,
      runSteps (QueueProcess.step code) calls (QueueProcess.start code disk now) = some p →
      (AlongRun (QueueProcess.step code) (fun p call => Spared p.store.snapshot call.op call.faults) calls
        (QueueProcess.start code disk now) → p.Persisted) ∧
      (AlongRun (QueueProcess.step code)
        (fun p call => Spared p.store.snapshot call.op call.faults ∧ call.faults.log = none) calls
        (QueueProcess.start code disk now) → p.Returned) := by
  refine ⟨fun now op s disk faults => atomic_iff_spared, fun disk now calls p hrun => ⟨fun hall => ?_,
    fun hall => ?_⟩⟩
  · exact runSteps_induction_of_along (fun _ _ _ h hspared hstep => h.step hspared hstep)
      (QueueProcess.start_persisted disk now).1 hall hrun
  · exact runSteps_induction_of_along (fun _ _ _ h hspared hstep => h.step hspared hstep)
      (QueueProcess.start_persisted disk now).2 hall hrun

def leaseCalls (faults : WriteFaults) : List FaultyCall :=
  [{ now := 1, op := .enqueue 7 }, { now := 2, op := .acquireNextLease 100, faults },
    { now := 3, op := .acquireNextLease 101 }]

/-- The write of the lease throws before the file is replaced.  The lease stays in memory without a
holder, and no lease is given out after that. -/
theorem not_atomic_leaseCalls :
    ¬ Atomic queueCode 2 (.acquireNextLease 100)
        { snapshot := { entries := [{ attemptId := 7, state := .queued, queuedAt := 1, updatedAt := 1 }] } }
        {} { snapshot := [some .kept] } ∧
      ∃ p, runSteps (QueueProcess.step queueCode) (leaseCalls { snapshot := [some .kept] })
          (QueueProcess.start queueCode {} 0) = some p ∧
        p.store.snapshot.lease = some { leaseId := 100, attemptId := 7, acquiredAt := 2 } ∧
        p.disk.loadSnapshot.lease = none ∧ p.returned = [] := by
  constructor
  · intro h
    exact absurd (h (by decide)).2.2 (by decide)
  · obtain ⟨p, hrun, hp⟩ := Option.map_eq_some_iff.mp
      (by decide : (runSteps (QueueProcess.step queueCode) (leaseCalls { snapshot := [some .kept] })
        (QueueProcess.start queueCode {} 0)).map
          (fun p => (p.store.snapshot.lease, p.disk.loadSnapshot.lease, p.returned)) =
            some (some { leaseId := 100, attemptId := 7, acquiredAt := 2 }, none, []))
    obtain ⟨hlease, hdisk⟩ := Prod.mk.inj hp
    exact ⟨p, hrun, hlease, (Prod.mk.inj hdisk).1, (Prod.mk.inj hdisk).2⟩

theorem atomic_iff_leaseCalls :
    ∃ p, runSteps (QueueProcess.step queueCode) (leaseCalls {}) (QueueProcess.start queueCode {} 0) = some p ∧
      p.returned = [{ leaseId := 100, attemptId := 7, acquiredAt := 2 }] ∧ p.Persisted ∧ p.Returned := by
  obtain ⟨p, hrun, hp⟩ := Option.map_eq_some_iff.mp
    (by decide : (runSteps (QueueProcess.step queueCode) (leaseCalls {})
      (QueueProcess.start queueCode {} 0)).map QueueProcess.returned =
        some [{ leaseId := 100, attemptId := 7, acquiredAt := 2 }])
  have hall := (atomic_iff queueCode).2 {} 0 (leaseCalls {}) p hrun
  exact ⟨p, hrun, hp, hall.1 (by decide), hall.2 (by decide)⟩

end VacancyRadar.Daemon
