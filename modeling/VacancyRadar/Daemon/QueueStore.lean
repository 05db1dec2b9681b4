import VacancyRadar.Application.Checkpoint
import Mathlib.Data.Int.Notation
import VacancyRadar.Data.Lines

/-!
# The queue store

`ApplicationQueueStore` keeps the entries, the lease of the one worker and the number of the next event
in a snapshot, which is replaced as a whole by each operation.  The events are appended to a log.
-/

namespace VacancyRadar.Daemon

open Data

def terminalStates : List QueueState := [.cancelled, .done, .failed]

/-- `ApplicationQueueEntry`. -/
structure QueueEntry where
  attemptId : ℕ
  state : QueueState
  queuedAt : ℤ
  updatedAt : ℤ
deriving DecidableEq

/-- The entries, in the order in which their attempts were queued first. -/
abbrev Queue : Type := List QueueEntry

namespace Queue

def get (queue : Queue) (attemptId : ℕ) : Option QueueEntry :=
  queue.find? fun e => e.attemptId = attemptId

def entryState (queue : Queue) (attemptId : ℕ) : Option QueueState :=
  (queue.get attemptId).map QueueEntry.state

def enqueue (queue : Queue) (now : ℤ) (attemptId : ℕ) : Queue :=
  let entry : QueueEntry := { attemptId, state := .queued, queuedAt := now, updatedAt := now }
  match queue.get attemptId with
  | none => queue ++ [entry]
  | some existing =>
    if existing.state ∉ terminalStates then queue
    else queue.set (queue.findIdx fun e => e.attemptId = attemptId) entry

def queuedFrom : Option QueueState → QueueState
  | none | some .cancelled | some .done | some .failed => .queued
  | some state => state

variable {queue : Queue} {now : ℤ} {x y : ℕ}

lemma get_set (y : ℕ) (entry : QueueEntry) (hentry : entry.attemptId = x)
    (h : queue.get x ≠ none) :
    Queue.get (queue.set (queue.findIdx fun e => e.attemptId = x) entry) y =
      if x = y then some entry else queue.get y := by
  induction queue with
  | nil => exact absurd rfl h
  | cons head rest ih =>
    by_cases hhead : head.attemptId = x
    · simp only [get, List.findIdx_cons, hhead, decide_true, cond_true, List.set_cons_zero,
        List.find?_cons, hentry]
      by_cases hxy : x = y <;> simp [hxy]
    · have hrest : Queue.get rest x ≠ none := by
        simpa [get, List.find?_cons, hhead] using h
      have hih := ih hrest
      simp only [get] at hih ⊢
      simp only [List.findIdx_cons, hhead, decide_false, cond_false, List.set_cons_succ,
        List.find?_cons]
      by_cases hy : head.attemptId = y
      · have hxy : x ≠ y := fun heq => hhead (hy.trans heq.symm)
        simp [hy, hxy]
      · simp only [hy, decide_false]
        exact hih

/-- What `enqueue` makes of the state of an attempt. -/
lemma entryState_enqueue : (queue.enqueue now x).entryState y =
    if x = y then some (queuedFrom (queue.entryState x)) else queue.entryState y := by
  unfold enqueue
  cases hget : queue.get x with
  | none =>
    simp only [entryState, get, List.find?_append] at hget ⊢
    rw [hget]
    by_cases hxy : x = y
    · subst hxy
      simp [hget, queuedFrom]
    · simp [hxy]
  | some existing =>
    have hsome : queue.entryState x = some existing.state := by rw [entryState, hget]; rfl
    dsimp only
    by_cases hterminal : existing.state ∈ terminalStates
    · have hset := get_set (x := x) y ⟨x, .queued, now, now⟩ rfl (by rw [hget]; nofun)
      rw [if_neg (not_not.mpr hterminal), entryState, hset]
      have hfrom : queuedFrom (queue.entryState x) = .queued := by
        rw [hsome]
        cases hstate : existing.state <;> rw [hstate] at hterminal <;>
          first | rfl | exact absurd hterminal (by decide)
      rw [hfrom]
      by_cases hxy : x = y
      · rw [if_pos hxy, if_pos hxy]
        rfl
      · rw [if_neg hxy, if_neg hxy]
        rfl
    · rw [if_pos hterminal]
      by_cases hxy : x = y
      · subst hxy
        rw [if_pos rfl, hsome]
        cases hstate : existing.state <;> rw [hstate] at hterminal <;>
          first | rfl | exact absurd (by decide) hterminal
      · rw [if_neg hxy]

end Queue

/-! ## The snapshot -/

/-- `ApplicationQueueLease`. -/
structure QueueLease where
  leaseId : ℕ
  attemptId : ℕ
  acquiredAt : ℕ
deriving DecidableEq

structure QueueSnapshot where
  entries : Queue := []
  lease : Option QueueLease := none
  nextEventSeq : ℕ := 0
  eventReplayFloor : ℕ := 0

def emptySnapshot (nextEventSeq : ℕ) : QueueSnapshot :=
  { nextEventSeq, eventReplayFloor := nextEventSeq }

/-- `ApplicationQueueEventType`. -/
inductive QueueEventType where
  | enqueued
  | leaseAcquired
  | paused
  | resumed
  | skipped
  | cancelled
  | released
deriving DecidableEq

/-- `ApplicationQueueEvent`. -/
structure QueueEvent where
  seq : ℕ
  time : ℕ
  type : QueueEventType
  attemptId : ℕ
deriving DecidableEq

def maxReplayEvents : ℕ := 500

inductive QueueError where
  | notFound (attemptId : ℕ)
  | invalidTransition (attemptId : ℕ) (origin : QueueState) (action : String)

def Queue.mark (queue : Queue) (p : QueueEntry → Bool) (state : QueueState) (now : ℕ) : Queue :=
  queue.modify (queue.findIdx p) fun e => { e with state, updatedAt := now }

/-! ## The files -/

/-- What is written to the directory of the store. -/
inductive QueueWrite where
  | persist (snapshot : QueueSnapshot)
  | append (event : QueueEvent)
  | truncate

def QueueWrite.event? : QueueWrite → Option QueueEvent
  | .append event => some event
  | _ => none

/-- `queue.json` and `events.jsonl`. -/
structure QueueDisk where
  snapshot : Option QueueSnapshot := none
  log : List UInt8 := []

def QueueDisk.write (code : LineCode UInt8 QueueEvent) (disk : QueueDisk) : QueueWrite → QueueDisk
  | .persist snapshot => { disk with snapshot := some snapshot }
  | .append event => { disk with log := disk.log ++ code.line event }
  | .truncate => { disk with log := [] }

def QueueDisk.loadSnapshot (disk : QueueDisk) : QueueSnapshot := disk.snapshot.getD (emptySnapshot 0)

/-- `#loadRecentEvents`: no events if there is a line that cannot be read. -/
def QueueDisk.loadRecentEvents (code : LineCode UInt8 QueueEvent) (disk : QueueDisk) (floor : ℕ) :
    List QueueEvent :=
  let lines := (disk.log.splitOn code.newline).filter fun line => line ≠ []
  let parsed := ((lines.mapM code.decode).getD []).filter fun event => floor ≤ event.seq
  parsed.drop (parsed.length - maxReplayEvents)

/-! ## The operations -/

/-- The fields of an `ApplicationQueueStore`. -/
structure QueueStore where
  snapshot : QueueSnapshot := emptySnapshot 0
  recentEvents : List QueueEvent := []

namespace QueueStore

def emit (s : QueueStore) (now : ℕ) (type : QueueEventType) (attemptId : ℕ) :
    QueueStore × List QueueWrite :=
  let event : QueueEvent := { seq := s.snapshot.nextEventSeq, time := now, type, attemptId }
  let snapshot := { s.snapshot with nextEventSeq := s.snapshot.nextEventSeq + 1 }
  let recentEvents := s.recentEvents ++ [event]
  ({ snapshot
     recentEvents := if maxReplayEvents < recentEvents.length then recentEvents.tail else recentEvents },
    [.persist snapshot, .append event])

def commit (s : QueueStore) (entries : Queue) (lease : Option QueueLease) (now : ℕ)
    (type : QueueEventType) (attemptId : ℕ) : QueueStore × List QueueWrite :=
  let s := { s with snapshot := { s.snapshot with entries, lease } }
  let (s', writes) := s.emit now type attemptId
  (s', .persist s.snapshot :: writes)

def clear (s : QueueStore) : ℕ × QueueStore × List QueueWrite :=
  let snapshot := emptySnapshot s.snapshot.nextEventSeq
  (s.snapshot.entries.length, { snapshot, recentEvents := [] }, [.persist snapshot, .truncate])

def enqueue (s : QueueStore) (now : ℕ) (attemptId : ℕ) :
    QueueEntry × QueueStore × List QueueWrite :=
  let entry : QueueEntry := { attemptId, state := .queued, queuedAt := now, updatedAt := now }
  let entries := s.snapshot.entries.enqueue now attemptId
  match s.snapshot.entries.get attemptId with
  | some existing =>
    if existing.state ∉ terminalStates then (existing, s, [])
    else (entry, s.commit entries s.snapshot.lease now .enqueued attemptId)
  | none => (entry, s.commit entries s.snapshot.lease now .enqueued attemptId)

def acquireNextLease (s : QueueStore) (now : ℕ) (leaseId : ℕ) :
    Option QueueLease × QueueStore × List QueueWrite :=
  match s.snapshot.lease with
  | some _ => (none, s, [])
  | none =>
    match s.snapshot.entries.find? fun e => e.state = .queued with
    | none => (none, s, [])
    | some next =>
      let entries := s.snapshot.entries.mark (fun e => e.state = .queued) .active now
      let lease : QueueLease := { leaseId, attemptId := next.attemptId, acquiredAt := now }
      (some lease, s.commit entries (some lease) now .leaseAcquired next.attemptId)

/-- The outcomes of a lease that `release` knows. -/
inductive Outcome where
  | completed
  | failed
  | requeue
deriving DecidableEq

def Outcome.state : Outcome → QueueState
  | .requeue => .queued
  | .completed => .done
  | .failed => .failed

def release (s : QueueStore) (now : ℕ) (leaseId : ℕ) (outcome : Outcome) :
    QueueStore × List QueueWrite :=
  match s.snapshot.lease with
  | none => (s, [])
  | some lease =>
    if lease.leaseId ≠ leaseId then (s, [])
    else
      let entries :=
        s.snapshot.entries.mark (fun e => e.attemptId = lease.attemptId) outcome.state now
      s.commit entries none now .released lease.attemptId

def otherLease (s : QueueStore) (attemptId : ℕ) : Option QueueLease :=
  s.snapshot.lease.filter fun lease => lease.attemptId ≠ attemptId

def transition (s : QueueStore) (now : ℕ) (attemptId : ℕ) (origins : List QueueState)
    (action : String) (lease : Option QueueLease) (state : QueueState) (type : QueueEventType) :
    Except QueueError (QueueEntry × QueueStore × List QueueWrite) :=
  match s.snapshot.entries.get attemptId with
  | none => .error (.notFound attemptId)
  | some entry =>
    if entry.state ∉ origins then .error (.invalidTransition attemptId entry.state action)
    else
      let entries := s.snapshot.entries.mark (fun e => e.attemptId = attemptId) state now
      .ok ({ entry with state, updatedAt := now }, s.commit entries lease now type attemptId)

def openStates : List QueueState := [.queued, .active, .paused]

def pause (s : QueueStore) (now : ℕ) (attemptId : ℕ) :
    Except QueueError (QueueEntry × QueueStore × List QueueWrite) :=
  s.transition now attemptId [.queued, .active] "pause" (s.otherLease attemptId) .paused .paused

def resume (s : QueueStore) (now : ℕ) (attemptId : ℕ) :
    Except QueueError (QueueEntry × QueueStore × List QueueWrite) :=
  s.transition now attemptId [.paused] "resume" s.snapshot.lease .queued .resumed

def skip (s : QueueStore) (now : ℕ) (attemptId : ℕ) :
    Except QueueError (QueueEntry × QueueStore × List QueueWrite) :=
  s.transition now attemptId openStates "skip" (s.otherLease attemptId) .cancelled .skipped

def cancel (s : QueueStore) (now : ℕ) (attemptId : ℕ) :
    Except QueueError (QueueEntry × QueueStore × List QueueWrite) :=
  s.transition now attemptId openStates "cancel" (s.otherLease attemptId) .cancelled .cancelled

def reconcileStaleLeaseOnStartup (s : QueueStore) (now : ℕ) : QueueStore × List QueueWrite :=
  match s.snapshot.lease with
  | none => (s, [])
  | some lease =>
    let entries :=
      match s.snapshot.entries.get lease.attemptId with
      | none => s.snapshot.entries
      | some entry =>
        if entry.state ∈ terminalStates then s.snapshot.entries
        else s.snapshot.entries.mark (fun e => e.attemptId = lease.attemptId) .queued now
    s.commit entries none now .released lease.attemptId

/-- The constructor. -/
def construct (code : LineCode UInt8 QueueEvent) (disk : QueueDisk) (now : ℕ) :
    QueueStore × List QueueWrite :=
  let snapshot := disk.loadSnapshot
  let recentEvents := disk.loadRecentEvents code snapshot.eventReplayFloor
  let nextEventSeq := (recentEvents.getLast?.map fun event => event.seq + 1).getD 0
  if snapshot.nextEventSeq < nextEventSeq then
    let s : QueueStore := { snapshot := { snapshot with nextEventSeq }, recentEvents }
    let (s', writes) := s.reconcileStaleLeaseOnStartup now
    (s', .persist s.snapshot :: writes)
  else ({ snapshot, recentEvents } : QueueStore).reconcileStaleLeaseOnStartup now

end QueueStore

end VacancyRadar.Daemon
