import Mathlib.Algebra.Group.Int.Defs
import Mathlib.Data.List.AList
import VacancyRadar.Data.Runs
import VacancyRadar.Data.Text

/-!
# The request scheduler

`crawler/scheduler.ts`: tasks wait in one queue and are started when neither the number of running
tasks nor the number of those of their domain is at its limit.  A task that is taken from the queue
is started in a microtask of its own; when it has settled, the promise of its caller is settled, and
after that its place is given back and the queue is drained again.
-/

namespace VacancyRadar.Crawler

open Data

/-- `PendingTask`.  A task is told apart by the number of the call of `run` that it comes from. -/
structure PendingTask where
  id : ℕ
  domain : String
deriving DecidableEq

structure RequestScheduler where
  globalLimit : ℕ
  perDomainLimit : ℕ
  queue : List PendingTask := []
  activeByDomain : AList fun _ : String => ℕ := ∅
  activeGlobal : ℕ := 0

def maxSafeInteger : ℤ := 2 ^ 53 - 1

namespace RequestScheduler

def construct (globalLimit perDomainLimit : ℤ) : Except String RequestScheduler :=
  if maxSafeInteger < globalLimit ∨ globalLimit < 1 then
    .error "globalLimit must be a positive integer"
  else if maxSafeInteger < perDomainLimit ∨ perDomainLimit < 1 then
    .error "perDomainLimit must be a positive integer"
  else .ok { globalLimit := globalLimit.toNat, perDomainLimit := perDomainLimit.toNat }

variable (s : RequestScheduler)

def domainActive (domain : String) : ℕ :=
  (s.activeByDomain.lookup domain).getD 0

def HasRoom (domain : String) : Prop :=
  s.domainActive domain < s.perDomainLimit

instance (domain : String) : Decidable (s.HasRoom domain) :=
  inferInstanceAs (Decidable (_ < _))

/-- One round of the loop of `#drain`: the task that is taken, and the scheduler without it. -/
def takeNext : Option (PendingTask × RequestScheduler) :=
  if s.activeGlobal < s.globalLimit then
    match s.queue.findIdx? fun pending => s.HasRoom pending.domain with
    | none => none
    | some runnableIndex =>
      match s.queue[runnableIndex]? with
      | none => none
      | some pending =>
        some (pending,
          { s with
            queue := s.queue.eraseIdx runnableIndex
            activeGlobal := s.activeGlobal + 1
            activeByDomain :=
              s.activeByDomain.insert pending.domain (s.domainActive pending.domain + 1) })
  else none

def drainRounds : ℕ → RequestScheduler → List PendingTask × RequestScheduler
  | 0, s => ([], s)
  | rounds + 1, s =>
    match s.takeNext with
    | none => ([], s)
    | some (pending, next) =>
      let (taken, last) := drainRounds rounds next
      (pending :: taken, last)

def drain : List PendingTask × RequestScheduler :=
  drainRounds s.queue.length s

/-- What the handler of `finally` does to the counters. -/
def giveBack (domain : String) : RequestScheduler :=
  let domainActive := (s.activeByDomain.lookup domain).getD 1 - 1
  { s with
    activeGlobal := s.activeGlobal - 1
    activeByDomain :=
      if domainActive = 0 then s.activeByDomain.erase domain
      else s.activeByDomain.insert domain domainActive }

end RequestScheduler

/-- `domain.trim().toLowerCase().replace(/\.$/u, '')`. -/
def normalizedDomain (toLowerCase : String → String) (domain : String) : String :=
  let chars := (toLowerCase (trim domain)).toList
  String.ofList (if chars.getLast? = some '.' then chars.dropLast else chars)

/-! ## Runs -/

/-- How far a task is that was taken from the queue. -/
inductive Stage where
  /-- The microtask that starts it has not run. -/
  | scheduled
  | running
  /-- It returned or threw. -/
  | settled (ok : Bool)
  /-- The promise of the caller is settled. -/
  | answered
deriving DecidableEq

/-- How a task ended of which the caller was not told yet. -/
def Stage.outcome : Stage → Option Bool
  | .settled ok => some ok
  | _ => none

structure ActiveTask where
  task : PendingTask
  stage : Stage

/-- The scheduler with the tasks under way in the order in which they were taken, the number of calls
of `run`, the tasks that were put into the queue and the tasks that were started, both in order, and
what the callers were answered. -/
structure SchedulerSys where
  scheduler : RequestScheduler
  active : List ActiveTask := []
  calls : ℕ := 0
  submitted : List PendingTask := []
  started : List PendingTask := []
  answers : List (ℕ × Bool) := []

/-- What happens: a call of `run`, or something about a task that was taken from the queue. -/
inductive SchedulerMove where
  | run (domain : String)
  /-- The next microtask that starts a task. -/
  | start
  | settle (id : ℕ) (ok : Bool)
  /-- `.then(pending.resolve, pending.reject)`. -/
  | answer (id : ℕ)
  /-- `.finally(…)`. -/
  | finish (id : ℕ)

namespace SchedulerSys

def replaceFirst (p : ActiveTask → Bool) (f : ActiveTask → List ActiveTask) :
    List ActiveTask → Option (ActiveTask × List ActiveTask)
  | [] => none
  | slot :: rest =>
    if p slot then some (slot, f slot ++ rest)
    else (replaceFirst p f rest).map fun (found, rest) => (found, slot :: rest)

def drain (s : SchedulerSys) : SchedulerSys :=
  let (taken, scheduler) := s.scheduler.drain
  { s with scheduler, active := s.active ++ taken.map (⟨·, .scheduled⟩) }

/-- One step.  Microtasks run in the order of their creation, and so do those that start tasks. -/
def step (toLowerCase : String → String) (s : SchedulerSys) : SchedulerMove → Option SchedulerSys
  | .run domain =>
    let normalized := normalizedDomain toLowerCase domain
    if normalized = "" then
      some { s with calls := s.calls + 1, answers := s.answers ++ [(s.calls, false)] }
    else
      let pending : PendingTask := ⟨s.calls, normalized⟩
      some (drain { s with
        calls := s.calls + 1
        submitted := s.submitted ++ [pending]
        scheduler := { s.scheduler with queue := s.scheduler.queue ++ [pending] } })
  | .start =>
    (replaceFirst (fun slot => slot.stage = .scheduled) (fun slot => [⟨slot.task, .running⟩])
      s.active).map fun (slot, active) => { s with active, started := s.started ++ [slot.task] }
  | .settle id ok =>
    (replaceFirst (fun slot => slot.task.id = id ∧ slot.stage = .running)
      (fun slot => [⟨slot.task, .settled ok⟩]) s.active).map fun (_, active) => { s with active }
  | .answer id =>
    (replaceFirst (fun slot => slot.task.id = id ∧ slot.stage.outcome.isSome)
      (fun slot => [⟨slot.task, .answered⟩]) s.active).map fun (slot, active) =>
      { s with active, answers := s.answers ++ slot.stage.outcome.toList.map ((id, ·)) }
  | .finish id =>
    (replaceFirst (fun slot => slot.task.id = id ∧ slot.stage = .answered) (fun _ => [])
      s.active).map fun (slot, active) =>
      drain { s with active, scheduler := s.scheduler.giveBack slot.task.domain }

end SchedulerSys

end VacancyRadar.Crawler
