import VacancyRadar.Daemon.Lease
import VacancyRadar.Daemon.Limiter
import VacancyRadar.Data.Runs

/-!
# The capacity of the session manager

A session holds a reservation of the limiter and, if it came with one, a lease on its workspace.
`create` takes the reservation and is handed the lease, and both are given back at one of two places:
the `catch` of `create`, for a session that never went live, and the `finally` of `consume`.

The reservation is given back exactly where it was taken.  The lease is looked up by the id of the
session, and this is not the same: a lease of another session, which `create` refuses, is not the one
that its `catch` releases, and a `create` that is refused since its session is live releases the lease
of that live session.
-/

namespace VacancyRadar.Daemon.Capacity

open Data Lease

/-! ## The state -/

inductive Status where
  | starting
  | running
  | completed
  | failed
  | cancelled
deriving DecidableEq

/-- The statuses that `cancel` and `remove` treat as under way. -/
def Status.isActive (status : Status) : Bool := status = .starting ∨ status = .running

def maxRetainedCompletedSessions : ℕ := 50

/-- A call of `consume` that has not finished, for a session that `create` admitted. -/
structure Live (π : Type) where
  id : String
  provider : π
  lease : Option WorkspaceLease

variable {π : Type}

structure State (π : Type) where
  limiter : ActiveSessionLimiter π := {}
  leases : Manager := .empty
  blockedWorkspaces : List String := []
  workspaceRevocationEpochs : Assoc String ℕ := []
  store : Assoc String Status := []
  runtime : List String := []
  consuming : List (Live π) := []
  completedOrder : List String := []
  /-- The calls of `remove` that wait for the provider. -/
  removing : List String := []
  /-- Every lease that `create` was handed. -/
  handed : List WorkspaceLease := []
  /-- The sessions whose release ran into an underflow. -/
  underflows : List String := []

/-- The arguments of `create` that decide what it takes. -/
structure CreateCall (π : Type) where
  sessionId : String
  provider : π
  workspaceId : Option String := none
  lease : Option WorkspaceLease := none
  expectedWorkspaceEpoch : Option ℕ := none

/-- How the steps of `create` end that are not its own. -/
structure Outcomes where
  registered : Bool := true
  /-- `durable.create`, where there is a durable store. -/
  durableCreate : Option (Except String Unit) := none
  startSession : Except String Unit := .ok ()
  /-- `durable.finalize`, in the `catch`. -/
  finalize : Except String Unit := .ok ()

inductive CreateError (π : Type) where
  | noProvider (provider : π)
  | foreignLease
  | revokedWorkspace (workspaceId : String)
  | staleWorkspaceGrant (workspaceId : String)
  | reserve (error : ReserveError π)
  | durable (message : String)
  | launch (message : String)

namespace State

variable [DecidableEq π]

def workspaceEpoch (s : State π) (workspaceId : String) : ℕ :=
  (s.workspaceRevocationEpochs.get? workspaceId).getD 0

def bumpWorkspaceEpoch (s : State π) (workspaceId : String) : State π :=
  { s with
    workspaceRevocationEpochs :=
      s.workspaceRevocationEpochs.set workspaceId (s.workspaceEpoch workspaceId + 1) }

def blockWorkspace (s : State π) (workspaceId : String) : State π :=
  { s with blockedWorkspaces := workspaceId :: s.blockedWorkspaces }.bumpWorkspaceEpoch workspaceId

def allowWorkspace (s : State π) (workspaceId : String) : State π :=
  { s with
    blockedWorkspaces := s.blockedWorkspaces.filter fun w => w ≠ workspaceId }.bumpWorkspaceEpoch
      workspaceId

/-- `mutateSession`: a session that is not stored any more is left alone. -/
def mutateSession (s : State π) (id : String) (status : Status) : State π :=
  match s.store.get? id with
  | none => s
  | some _ => { s with store := s.store.set id status }

/-- `leases.releaseForSession`, which does not wait. -/
def releaseForSession (s : State π) (id : String) : State π :=
  { s with
    leases := (s.leases.byLeaseId.filter fun l => l.sessionId = id).foldl
      (fun leases l => leases.release l.leaseId) s.leases }

def releaseThen (s : State π) (id : String) (rest : State π → State π) : State π :=
  match s.limiter.release id with
  | (limiter, .ok _) => rest { s with limiter }
  | (limiter, .error _) => { s with limiter, underflows := s.underflows ++ [id] }

def evictOldestCompletedIfOverCap (s : State π) : State π :=
  let excess := s.completedOrder.length - maxRetainedCompletedSessions
  let stale := s.completedOrder.take excess
  { s with
    completedOrder := s.completedOrder.drop excess
    runtime := s.runtime.filter fun id => id ∉ stale
    store := s.store.filter fun entry => entry.1 ∉ stale }

/-! ## Creating a session -/

def guards (s : State π) (call : CreateCall π) (outcomes : Outcomes) :
    Except (CreateError π) Unit :=
  if outcomes.registered = false then .error (.noProvider call.provider)
  else if call.lease.any fun l => l.sessionId ≠ call.sessionId then .error .foreignLease
  else
    match call.workspaceId with
    | none => .ok ()
    | some w =>
      if w ∈ s.blockedWorkspaces then .error (.revokedWorkspace w)
      else if call.expectedWorkspaceEpoch.any fun epoch => s.workspaceEpoch w ≠ epoch then
        .error (.staleWorkspaceGrant w)
      else .ok ()

structure Tried (π : Type) where
  state : State π
  reserved : Bool := false
  recorded : Bool := false
  thrown : Option (CreateError π) := none

def attempt (s : State π) (call : CreateCall π) (outcomes : Outcomes) : Tried π :=
  match s.guards call outcomes with
  | .error error => { state := s, thrown := some error }
  | .ok () =>
    match s.limiter.reserve call.provider call.sessionId with
    | .error error => { state := s, thrown := some (.reserve error) }
    | .ok limiter =>
      let reserved := { s with limiter }
      match outcomes.durableCreate with
      | some (.error message) =>
        { state := reserved, reserved := true, thrown := some (.durable message) }
      | durable =>
        let stored := { reserved with store := s.store.set call.sessionId .starting }
        let thrown := match outcomes.startSession with
          | .ok () => none
          | .error message => some (.launch message)
        { state := stored, reserved := true, recorded := durable.isSome, thrown }

/-- The `catch` of `create` after the reservation.  A `finalize` that throws leaves the entry of the
store behind. -/
def closeOut (s : State π) (id : String) (recorded : Bool) (outcomes : Outcomes) : State π :=
  let given := s.releaseForSession id
  match recorded, outcomes.finalize with
  | true, .error _ => given
  | _, _ => { given with store := given.store.erase id }

/-- The `catch` of `create`. -/
def giveBack (tried : Tried π) (id : String) (outcomes : Outcomes) : State π :=
  if tried.reserved then
    tried.state.releaseThen id fun s => s.closeOut id tried.recorded outcomes
  else tried.state.closeOut id tried.recorded outcomes

def goLive (s : State π) (call : CreateCall π) : State π :=
  let live : Live π := ⟨call.sessionId, call.provider, call.lease⟩
  let started :=
    { s with
      runtime := call.sessionId :: s.runtime.filter fun id => id ≠ call.sessionId
      consuming := s.consuming ++ [live] }
  started.mutateSession call.sessionId .running

def create (s : State π) (call : CreateCall π) (outcomes : Outcomes) :
    State π × Except (CreateError π) Unit :=
  let handed := { s with handed := s.handed ++ call.lease.toList }
  let tried := handed.attempt call outcomes
  match tried.thrown with
  | some error => (giveBack tried call.sessionId outcomes, .error error)
  | none => (tried.state.goLive call, .ok ())

/-! ## The end of a session -/

def consumed (s : State π) (id : String) : State π :=
  let ended := { s with consuming := s.consuming.filter fun live => live.id ≠ id }
  ended.releaseThen id fun s =>
    let given := s.releaseForSession id
    { given with completedOrder := given.completedOrder ++ [id] }.evictOldestCompletedIfOverCap

/-- `cancel`: whether the provider is told. -/
def cancel (s : State π) (id : String) : Bool :=
  match s.store.get? id with
  | none => false
  | some status => status.isActive && s.runtime.contains id

/-- The part of `remove` that does not wait. -/
def forget (s : State π) (id : String) : State π :=
  { s with
    runtime := s.runtime.filter fun other => other ≠ id
    store := s.store.erase id
    completedOrder := s.completedOrder.erase id }

/-- `remove`, up to its `await`. -/
def remove (s : State π) (id : String) : State π :=
  match s.store.get? id with
  | none => s
  | some status =>
    if status.isActive && s.runtime.contains id then { s with removing := s.removing ++ [id] }
    else s.forget id

/-- The manager after its construction, with the sessions that were recovered. -/
def constructed (recovered : Assoc String Status) : State π :=
  { ({} : State π) with
    store := recovered
    completedOrder := recovered.map Prod.fst }.evictOldestCompletedIfOverCap

end State

/-! ## Runs -/

/-- What happens to the manager, one turn after the other. -/
inductive Step (π : Type) where
  /-- A step of `leases.acquire`. -/
  | acquire (op : Lease.Op)
  | blockWorkspace (workspaceId : String)
  | allowWorkspace (workspaceId : String)
  | create (call : CreateCall π) (outcomes : Outcomes)
  /-- `consume` takes an event, which may end the session. -/
  | event (id : String) (status : Option Status)
  /-- The loop of `consume` is over, however it ended. -/
  | consumed (id : String)
  | cancel (id : String)
  | remove (id : String)
  /-- The `await` of `remove` is over. -/
  | removed (id : String)

namespace State

/-- The step of the manager.  Whoever hands over a lease has one that is out, a session that is not
live consumes nothing, and a `remove` that does not wait does not go on. -/
def step [DecidableEq π] (s : State π) : Step π → Option (State π)
  | .acquire (.release _) => none
  | .acquire op => some { s with leases := (op.run s.leases).1 }
  | .blockWorkspace workspaceId => some (s.blockWorkspace workspaceId)
  | .allowWorkspace workspaceId => some (s.allowWorkspace workspaceId)
  | .create call outcomes =>
    if ∀ lease ∈ call.lease, lease ∈ s.leases.byLeaseId then some (s.create call outcomes).1
    else none
  | .event id status =>
    if s.consuming.any fun live => live.id = id then
      some (match status with
        | none => s
        | some status => s.mutateSession id status)
    else none
  | .consumed id =>
    if s.consuming.any fun live => live.id = id then some (s.consumed id) else none
  | .cancel _ => some s
  | .remove id => some (s.remove id)
  | .removed id =>
    if id ∈ s.removing then
      some ({ s with removing := s.removing.erase id }.forget id)
    else none

end State

/-! ## What is accounted for -/

structure Accounted [DecidableEq π] (s : State π) : Prop where
  /-- The counter of a provider is the number of its reservations. -/
  counts : ∀ provider, s.limiter.active provider = (s.limiter.heldBy provider).length
  global : s.limiter.held.length ≤ globalLimit
  perProvider : ∀ provider, s.limiter.active provider ≤ perProviderLimit
  noUnderflow : s.underflows = []
  /-- The sessions with a reservation are those that are live. -/
  live : ∀ id provider, s.limiter.held.get? id = some provider ↔
    ∃ live ∈ s.consuming, live.id = id ∧ live.provider = provider

/-- The leases that were handed over and are out are those of the sessions that are live. -/
structure LeasesFollow (s : State π) : Prop where
  held : ∀ live ∈ s.consuming, ∀ lease ∈ live.lease, lease ∈ s.leases.byLeaseId
  free : ∀ lease ∈ s.handed, lease ∈ s.leases.byLeaseId → ∃ live ∈ s.consuming, live.lease = some lease

def Proper (s : State π) : Step π → Prop
  | .create call _ =>
    (∀ lease ∈ call.lease, lease.sessionId = call.sessionId ∨
      ∃ live ∈ s.consuming, live.lease = some lease) ∧
    ∀ live ∈ s.consuming, live.id = call.sessionId → live.lease = none
  | _ => True

/-! ## The leases of a session -/

section Leases

variable {m : Manager} {l : WorkspaceLease}

structure LeaseIds (m : Manager) : Prop where
  fresh : ∀ l ∈ m.byLeaseId, l.leaseId < m.nextId
  unique : ∀ l ∈ m.byLeaseId, ∀ l' ∈ m.byLeaseId, l.leaseId = l'.leaseId → l = l'

lemma pruneIfEmpty_out (m : Manager) (workspaceId : String) (set : ℕ) :
    (m.pruneIfEmpty workspaceId set).byLeaseId = m.byLeaseId ∧
      (m.pruneIfEmpty workspaceId set).nextId = m.nextId := by
  unfold Manager.pruneIfEmpty
  split
  · exact ⟨rfl, rfl⟩
  · exact ⟨rfl, rfl⟩

lemma release_out (m : Manager) (leaseId : ℕ) :
    (m.release leaseId).byLeaseId = m.byLeaseId.filter (fun l => l.leaseId != leaseId) ∧
      (m.release leaseId).nextId = m.nextId := by
  unfold Manager.release
  split
  · next hnone =>
    refine ⟨(List.filter_eq_self.mpr fun l hl => ?_).symm, rfl⟩
    have hne := List.find?_eq_none.mp hnone l hl
    simpa using hne
  · dsimp only
    split
    · exact ⟨rfl, rfl⟩
    · exact pruneIfEmpty_out _ _ _

lemma mem_foldl_release (gone : List WorkspaceLease) (m : Manager) (l : WorkspaceLease) :
    l ∈ (gone.foldl (fun leases l => leases.release l.leaseId) m).byLeaseId ↔
      l ∈ m.byLeaseId ∧ ∀ l' ∈ gone, l.leaseId ≠ l'.leaseId := by
  induction gone generalizing m with
  | nil => simp
  | cons first rest ih =>
    rw [List.foldl_cons, ih, (release_out m first.leaseId).1, List.mem_filter]
    simp [and_assoc]

lemma nextId_foldl_release (gone : List WorkspaceLease) (m : Manager) :
    (gone.foldl (fun leases l => leases.release l.leaseId) m).nextId = m.nextId := by
  induction gone generalizing m with
  | nil => rfl
  | cons first rest ih => rw [List.foldl_cons, ih, (release_out m first.leaseId).2]

/-- What `releaseForSession` leaves are the leases of the other sessions. -/
lemma mem_releaseForSession {s : State π} (h : LeaseIds s.leases) (id : String) :
    l ∈ (s.releaseForSession id).leases.byLeaseId ↔
      l ∈ s.leases.byLeaseId ∧ l.sessionId ≠ id := by
  simp only [State.releaseForSession, mem_foldl_release]
  refine and_congr_right fun hl => ⟨fun hgone hid => ?_, fun hid l' hl' heq => ?_⟩
  · exact hgone l (List.mem_filter.mpr ⟨hl, decide_eq_true hid⟩) rfl
  · obtain ⟨hmem, hsession⟩ := List.mem_filter.mp hl'
    rw [h.unique l hl l' hmem heq] at hid
    exact hid (of_decide_eq_true hsession)

lemma LeaseIds.releaseForSession {s : State π} (h : LeaseIds s.leases) (id : String) :
    LeaseIds (s.releaseForSession id).leases := by
  have hmem : ∀ l ∈ (s.releaseForSession id).leases.byLeaseId, l ∈ s.leases.byLeaseId :=
    fun l hl => ((mem_releaseForSession h id).mp hl).1
  refine ⟨fun l hl => ?_, fun l hl l' hl' => h.unique l (hmem l hl) l' (hmem l' hl')⟩
  exact Nat.lt_of_lt_of_eq (h.fresh l (hmem l hl)) (nextId_foldl_release _ _).symm

inductive Acquired (m : Manager) : Manager → Prop where
  | same {m' : Manager} (out : m'.byLeaseId = m.byLeaseId) (next : m.nextId ≤ m'.nextId) :
      Acquired m m'
  | given {m' : Manager} (lease : WorkspaceLease) (id : lease.leaseId = m.nextId)
      (out : m'.byLeaseId = m.byLeaseId ++ [lease]) (next : m'.nextId = m.nextId + 1) :
      Acquired m m'

lemma acquired_run {op : Lease.Op} (h : ∀ leaseId, op ≠ .release leaseId) :
    Acquired m (op.run m).1 := by
  cases op with
  | openSet workspaceId =>
    show Acquired m (m.openSet workspaceId).1
    unfold Manager.openSet
    split
    · exact .same rfl (Nat.le_refl _)
    · exact .same rfl (Nat.le_refl _)
  | readSet set => exact .same rfl (Nat.le_refl _)
  | mark set mode =>
    cases mode with
    | read => exact .same rfl (Nat.le_succ _)
    | write => exact .same rfl (Nat.le_succ _)
  | admitLease set request => exact .given (m.newLease request) rfl rfl rfl
  | finish set marker workspaceId =>
    obtain ⟨hout, hnext⟩ := pruneIfEmpty_out (m.modifySet set fun s =>
      { s with pendingWriter := s.pendingWriter.filter fun id => id != marker }) workspaceId set
    exact .same hout (Nat.le_of_eq hnext.symm)
  | leases => exact .same rfl (Nat.le_refl _)
  | release leaseId => exact absurd rfl (h leaseId)

lemma LeaseIds.acquired {m' : Manager} (h : LeaseIds m) (hacquired : Acquired m m') :
    LeaseIds m' := by
  cases hacquired with
  | same out next =>
    refine ⟨fun l hl => ?_, out ▸ h.unique⟩
    exact Nat.lt_of_lt_of_le (h.fresh l (out ▸ hl)) next
  | given lease id out next =>
    have hne : ∀ l ∈ m.byLeaseId, l.leaseId ≠ lease.leaseId := fun l hl heq => by
      have := h.fresh l hl
      omega
    refine ⟨fun l hl => ?_, fun l hl l' hl' heq => ?_⟩
    · rw [out, List.mem_append, List.mem_singleton] at hl
      rcases hl with hl | rfl
      · have := h.fresh l hl
        omega
      · omega
    · rw [out, List.mem_append, List.mem_singleton] at hl hl'
      rcases hl with hl | rfl
      · rcases hl' with hl' | rfl
        · exact h.unique l hl l' hl' heq
        · exact absurd heq (hne l hl)
      · rcases hl' with hl' | rfl
        · exact absurd heq.symm (hne l' hl')
        · rfl

end Leases

/-! ## The invariant -/

/-- The invariant of the manager: the reservations are those of the sessions that are live, in the
order in which they were created. -/
structure Inv [DecidableEq π] (s : State π) : Prop where
  wf : s.limiter.Wf
  noUnderflow : s.underflows = []
  held : s.limiter.held = s.consuming.map fun live => (live.id, live.provider)
  ids : LeaseIds s.leases
  handed : ∀ l ∈ s.handed, l.leaseId < s.leases.nextId
  own : ∀ live ∈ s.consuming, ∀ lease ∈ live.lease, lease.sessionId = live.id

variable {s s' : State π} {call : CreateCall π} {outcomes : Outcomes} {id : String}

structure SameAccounts (s s' : State π) : Prop where
  limiter : s'.limiter = s.limiter
  leases : s'.leases = s.leases
  consuming : s'.consuming = s.consuming
  handed : s'.handed = s.handed
  underflows : s'.underflows = s.underflows

lemma SameAccounts.refl (s : State π) : SameAccounts s s := ⟨rfl, rfl, rfl, rfl, rfl⟩

lemma sameAccounts_mutateSession (s : State π) (id : String) (status : Status) :
    SameAccounts s (s.mutateSession id status) := by
  unfold State.mutateSession
  split
  · exact .refl s
  · exact ⟨rfl, rfl, rfl, rfl, rfl⟩

lemma SameAccounts.inv [DecidableEq π] (h : SameAccounts s s') (hinv : Inv s) : Inv s' := by
  refine ⟨h.limiter ▸ hinv.wf, h.underflows.trans hinv.noUnderflow, ?_, h.leases ▸ hinv.ids, ?_,
    h.consuming ▸ hinv.own⟩
  · rw [h.limiter, h.consuming]
    exact hinv.held
  · rw [h.handed, h.leases]
    exact hinv.handed

lemma SameAccounts.follow (h : SameAccounts s s') (hfollow : LeasesFollow s) : LeasesFollow s' := by
  refine ⟨?_, ?_⟩
  · rw [h.consuming, h.leases]
    exact hfollow.held
  · rw [h.handed, h.leases, h.consuming]
    exact hfollow.free

/-- What `create` does to the accounts. -/
inductive Created [DecidableEq π] (s : State π) (call : CreateCall π) (s' : State π) : Prop where
  /-- What it reserved is given back, and so are the leases of the session. -/
  | refused (wf : s'.limiter.Wf) (held : s'.limiter.held = s.limiter.held)
      (leases : s'.leases = (s.releaseForSession call.sessionId).leases)
      (consuming : s'.consuming = s.consuming)
      (handed : s'.handed = s.handed ++ call.lease.toList)
      (underflows : s'.underflows = s.underflows)
  /-- The session is live, with the reservation and with the lease. -/
  | admitted (wf : s'.limiter.Wf) (free : s.limiter.held.get? call.sessionId = none)
      (own : ∀ lease ∈ call.lease, lease.sessionId = call.sessionId)
      (held : s'.limiter.held = s.limiter.held ++ [(call.sessionId, call.provider)])
      (leases : s'.leases = s.leases)
      (consuming : s'.consuming = s.consuming ++ [⟨call.sessionId, call.provider, call.lease⟩])
      (handed : s'.handed = s.handed ++ call.lease.toList)
      (underflows : s'.underflows = s.underflows)

lemma sameAccounts_closeOut (s : State π) (id : String) (recorded : Bool) (outcomes : Outcomes) :
    SameAccounts (s.releaseForSession id) (s.closeOut id recorded outcomes) := by
  unfold State.closeOut
  split
  · exact .refl _
  · exact ⟨rfl, rfl, rfl, rfl, rfl⟩

lemma own_of_guards (h : s.guards call outcomes = .ok ()) :
    ∀ lease ∈ call.lease, lease.sessionId = call.sessionId := by
  rintro lease hlease
  by_contra hne
  unfold State.guards at h
  split at h
  · cases h
  · rw [if_pos (by rw [Option.mem_def.mp hlease]; simpa using hne)] at h
    cases h

variable [DecidableEq π]

lemma created_giveBack {limiter : ActiveSessionLimiter π} {store : Assoc String Status}
    (h : s.limiter.Wf) (hreserve : s.limiter.reserve call.provider call.sessionId = .ok limiter)
    (recorded : Bool) (thrown : Option (CreateError π)) :
    Created s call (State.giveBack
      { state := { s with limiter, store, handed := s.handed ++ call.lease.toList }
        reserved := true, recorded, thrown } call.sessionId outcomes) := by
  obtain ⟨next, released, hrelease, hwf, hheld⟩ := (h.reserve hreserve).release call.sessionId
  obtain ⟨hfree, -, -, hlimiter⟩ := ActiveSessionLimiter.reserve_eq_ok hreserve
  have hback : next.held = s.limiter.held := by
    rw [hheld, hlimiter]
    exact Assoc.erase_append_singleton hfree
  simp only [State.giveBack, if_true, State.releaseThen, hrelease]
  have hsame := sameAccounts_closeOut
    { s with limiter := next, store, handed := s.handed ++ call.lease.toList } call.sessionId recorded
    outcomes
  exact .refused (hsame.limiter ▸ hwf) (hsame.limiter ▸ hback) hsame.leases hsame.consuming
    hsame.handed hsame.underflows

lemma created_create (h : s.limiter.Wf) (call : CreateCall π) (outcomes : Outcomes) :
    Created s call (s.create call outcomes).1 := by
  have hrefused : ∀ error, Created s call (State.giveBack
      { state := { s with handed := s.handed ++ call.lease.toList }, thrown := some error }
      call.sessionId outcomes) := by
    intro error
    have hsame := sameAccounts_closeOut { s with handed := s.handed ++ call.lease.toList }
      call.sessionId false outcomes
    exact .refused (hsame.limiter ▸ h) (congrArg _ hsame.limiter) hsame.leases hsame.consuming
      hsame.handed hsame.underflows
  simp only [State.create]
  cases hguards : State.guards { s with handed := s.handed ++ call.lease.toList } call outcomes with
  | error error =>
    simp only [State.attempt, hguards]
    exact hrefused error
  | ok _ =>
    cases hreserve : s.limiter.reserve call.provider call.sessionId with
    | error error =>
      simp only [State.attempt, hguards, hreserve]
      exact hrefused (.reserve error)
    | ok limiter =>
      simp only [State.attempt, hguards, hreserve]
      split
      · next error hthrown =>
        split at hthrown
        · exact created_giveBack h hreserve false _
        · exact created_giveBack h hreserve _ _
      · next hthrown =>
        split at hthrown
        · cases hthrown
        · next durable _ =>
          split at hthrown
          · next hstart =>
            have hsame := sameAccounts_mutateSession { s with
              limiter
              store := s.store.set call.sessionId .starting
              runtime := call.sessionId :: s.runtime.filter fun id => id ≠ call.sessionId
              consuming := s.consuming ++ [⟨call.sessionId, call.provider, call.lease⟩]
              handed := s.handed ++ call.lease.toList } call.sessionId .running
            obtain ⟨hfree, -, -, hlimiter⟩ := ActiveSessionLimiter.reserve_eq_ok hreserve
            have hheld : limiter.held = s.limiter.held ++ [(call.sessionId, call.provider)] :=
              congrArg _ hlimiter
            exact .admitted (hsame.limiter ▸ h.reserve hreserve) hfree (own_of_guards hguards)
              (hsame.limiter ▸ hheld) hsame.leases hsame.consuming hsame.handed hsame.underflows
          · cases hthrown

/-- What the end of `consume` does to the accounts. -/
structure Consumed (s : State π) (id : String) (s' : State π) : Prop where
  wf : s'.limiter.Wf
  held : s'.limiter.held = s.limiter.held.erase id
  leases : s'.leases = (s.releaseForSession id).leases
  consuming : s'.consuming = s.consuming.filter fun live => live.id ≠ id
  handed : s'.handed = s.handed
  underflows : s'.underflows = s.underflows

lemma consumed_consumed (h : s.limiter.Wf) (id : String) : Consumed s id (s.consumed id) := by
  obtain ⟨next, released, hrelease, hwf, hheld⟩ := h.release id
  simp only [State.consumed, State.releaseThen, hrelease]
  exact ⟨hwf, hheld, rfl, rfl, rfl, rfl⟩

lemma Inv.release (h : Inv s) (id : String) :
    LeaseIds (s.releaseForSession id).leases ∧
      (s.releaseForSession id).leases.nextId = s.leases.nextId :=
  ⟨h.ids.releaseForSession id, nextId_foldl_release _ _⟩

lemma Inv.created (h : Inv s) (hlease : ∀ lease ∈ call.lease, lease ∈ s.leases.byLeaseId)
    (hcreated : Created s call s') : Inv s' := by
  have hhanded : ∀ l ∈ s.handed ++ call.lease.toList, l.leaseId < s.leases.nextId := by
    intro l hl
    rw [List.mem_append, Option.mem_toList] at hl
    rcases hl with hl | hl
    · exact h.handed l hl
    · exact h.ids.fresh l (hlease l hl)
  cases hcreated with
  | refused wf held leases consuming handed underflows =>
    obtain ⟨hids, hnext⟩ := h.release call.sessionId
    refine ⟨wf, underflows.trans h.noUnderflow, ?_, leases ▸ hids, ?_, consuming ▸ h.own⟩
    · rw [held, consuming]
      exact h.held
    · rw [handed, leases, hnext]
      exact hhanded
  | admitted wf free own held leases consuming handed underflows =>
    refine ⟨wf, underflows.trans h.noUnderflow, ?_, leases ▸ h.ids, ?_, ?_⟩
    · rw [held, consuming, h.held, List.map_append, List.map_singleton]
    · rw [handed, leases]
      exact hhanded
    · intro live hlive
      rw [consuming, List.mem_append, List.mem_singleton] at hlive
      rcases hlive with hlive | rfl
      · exact h.own live hlive
      · exact own

lemma Inv.consumed (h : Inv s) (hconsumed : Consumed s id s') : Inv s' := by
  obtain ⟨hids, hnext⟩ := h.release id
  refine ⟨hconsumed.wf, hconsumed.underflows.trans h.noUnderflow, ?_, hconsumed.leases ▸ hids, ?_, ?_⟩
  · rw [hconsumed.held, hconsumed.consuming, h.held, Assoc.erase, List.filter_map]
    rfl
  · rw [hconsumed.handed, hconsumed.leases, hnext]
    exact h.handed
  · intro live hlive
    rw [hconsumed.consuming] at hlive
    exact h.own live (List.mem_of_mem_filter hlive)

lemma Inv.acquired (h : Inv s) {leases : Manager} (hacquired : Acquired s.leases leases) :
    Inv { s with leases } := by
  refine ⟨h.wf, h.noUnderflow, h.held, h.ids.acquired hacquired, fun l hl => ?_, h.own⟩
  have hfresh := h.handed l hl
  show l.leaseId < leases.nextId
  cases hacquired with
  | same out next => omega
  | given lease id out next => omega

inductive Stepped (s : State π) : Step π → State π → Prop where
  | acquired {op : Lease.Op} {leases : Manager} (acquired : Acquired s.leases leases) :
      Stepped s (.acquire op) { s with leases }
  | created {call : CreateCall π} {outcomes : Outcomes} {s' : State π}
      (out : ∀ lease ∈ call.lease, lease ∈ s.leases.byLeaseId) (created : Created s call s') :
      Stepped s (.create call outcomes) s'
  | consumed {id : String} {s' : State π} (live : ∃ live ∈ s.consuming, live.id = id)
      (consumed : Consumed s id s') : Stepped s (.consumed id) s'
  | same {step : Step π} {s' : State π} (proper : Proper s step) (same : SameAccounts s s') :
      Stepped s step s'

lemma stepped {step : Step π} (h : s.limiter.Wf) (hstep : s.step step = some s') :
    Stepped s step s' := by
  cases step with
  | acquire op =>
    have hop : ∀ leaseId, op ≠ .release leaseId := by
      rintro leaseId rfl
      cases hstep
    have hrun : s' = { s with leases := (op.run s.leases).1 } := by
      cases op with
      | release leaseId => exact absurd rfl (hop leaseId)
      | _ => exact (Option.some.inj hstep).symm
    rw [hrun]
    exact .acquired (acquired_run hop)
  | blockWorkspace workspaceId =>
    cases hstep
    exact .same trivial ⟨rfl, rfl, rfl, rfl, rfl⟩
  | allowWorkspace workspaceId =>
    cases hstep
    exact .same trivial ⟨rfl, rfl, rfl, rfl, rfl⟩
  | create call outcomes =>
    obtain ⟨hout, hnext⟩ := Option.ite_none_right_eq_some.mp hstep
    cases hnext
    exact .created hout (created_create h call outcomes)
  | event id status =>
    obtain ⟨-, hnext⟩ := Option.ite_none_right_eq_some.mp hstep
    cases hnext
    cases status with
    | none => exact .same trivial (.refl s)
    | some status => exact .same trivial (sameAccounts_mutateSession s id status)
  | consumed id =>
    obtain ⟨hlive, hnext⟩ := Option.ite_none_right_eq_some.mp hstep
    cases hnext
    obtain ⟨live, hmem, hid⟩ := List.any_eq_true.mp hlive
    exact .consumed ⟨live, hmem, of_decide_eq_true hid⟩ (consumed_consumed h id)
  | cancel id =>
    cases hstep
    exact .same trivial (.refl s)
  | remove id =>
    cases hstep
    refine .same trivial ?_
    unfold State.remove
    split
    · exact .refl s
    · split
      · exact ⟨rfl, rfl, rfl, rfl, rfl⟩
      · exact ⟨rfl, rfl, rfl, rfl, rfl⟩
  | removed id =>
    obtain ⟨-, hnext⟩ := Option.ite_none_right_eq_some.mp hstep
    cases hnext
    exact .same trivial ⟨rfl, rfl, rfl, rfl, rfl⟩

lemma Inv.step {step : Step π} (h : Inv s) (hstep : s.step step = some s') : Inv s' := by
  cases stepped h.wf hstep with
  | acquired acquired => exact h.acquired acquired
  | created out created => exact h.created out created
  | consumed _ consumed => exact h.consumed consumed
  | same _ same => exact same.inv h

lemma inv_constructed (recovered : Assoc String Status) :
    Inv (State.constructed recovered : State π) :=
  ⟨ActiveSessionLimiter.wf_empty, rfl, rfl, ⟨nofun, nofun⟩, nofun, nofun⟩

lemma Inv.accounted (h : Inv s) : Accounted s := by
  refine ⟨h.wf.counts, h.wf.global, h.wf.perProvider, h.noUnderflow, fun id provider => ?_⟩
  constructor
  · intro hget
    have hmem := Assoc.mem_of_get? hget
    rw [h.held, List.mem_map] at hmem
    obtain ⟨live, hlive, heq⟩ := hmem
    exact ⟨live, hlive, congrArg Prod.fst heq, congrArg Prod.snd heq⟩
  · rintro ⟨live, hlive, rfl, rfl⟩
    refine Assoc.get?_of_mem h.wf.keys ?_
    rw [h.held]
    exact List.mem_map_of_mem hlive

/-! ## The leases -/

lemma not_mem_handed {lease : WorkspaceLease} (h : Inv s) (hid : lease.leaseId = s.leases.nextId) :
    lease ∉ s.handed := fun hmem => by
  have hfresh := h.handed lease hmem
  omega

lemma follow_acquired (h : Inv s) (hfollow : LeasesFollow s) {leases : Manager}
    (hacquired : Acquired s.leases leases) : LeasesFollow { s with leases } := by
  cases hacquired with
  | same out next =>
    refine ⟨?_, ?_⟩
    · show ∀ live ∈ s.consuming, ∀ lease ∈ live.lease, lease ∈ leases.byLeaseId
      rw [out]
      exact hfollow.held
    · show ∀ lease ∈ s.handed, lease ∈ leases.byLeaseId → _
      rw [out]
      exact hfollow.free
  | given fresh id out next =>
    refine ⟨fun live hlive lease hlease => ?_, fun lease hhanded hout => ?_⟩
    · show lease ∈ leases.byLeaseId
      rw [out]
      exact List.mem_append_left _ (hfollow.held live hlive lease hlease)
    · change lease ∈ leases.byLeaseId at hout
      rw [out, List.mem_append, List.mem_singleton] at hout
      rcases hout with hout | rfl
      · exact hfollow.free lease hhanded hout
      · exact absurd (show lease ∈ s.handed from hhanded) (not_mem_handed h id)

/-- A refused `create` keeps the leases where they belong if and only if the call is a proper one. -/
lemma follow_refused (h : Inv s) (hfollow : LeasesFollow s)
    (hout : ∀ lease ∈ call.lease, lease ∈ s.leases.byLeaseId)
    (hleases : s'.leases = (s.releaseForSession call.sessionId).leases)
    (hconsuming : s'.consuming = s.consuming)
    (hhanded : s'.handed = s.handed ++ call.lease.toList) :
    LeasesFollow s' ↔ Proper s (.create call outcomes) := by
  have hleft : ∀ lease, lease ∈ s'.leases.byLeaseId ↔
      lease ∈ s.leases.byLeaseId ∧ lease.sessionId ≠ call.sessionId := by
    intro lease
    rw [hleases]
    exact mem_releaseForSession h.ids call.sessionId
  constructor
  · rintro ⟨hheld, hfree⟩
    rw [hconsuming] at hheld hfree
    refine ⟨fun lease hlease => ?_, fun live hlive hid => ?_⟩
    · by_cases hsession : lease.sessionId = call.sessionId
      · exact .inl hsession
      · have hmem : lease ∈ s'.handed := by simp [hhanded, Option.mem_def.mp hlease]
        exact .inr (hfree lease hmem ((hleft lease).mpr ⟨hout lease hlease, hsession⟩))
    · by_contra hsome
      obtain ⟨lease, hlease⟩ := Option.ne_none_iff_exists'.mp hsome
      have hkept := (hleft lease).mp (hheld live hlive lease hlease)
      exact hkept.2 ((h.own live hlive lease hlease).trans hid)
  · rintro ⟨hown, hfresh⟩
    refine ⟨fun live hlive lease hlease => ?_, fun lease hmem hkept => ?_⟩
    · rw [hconsuming] at hlive
      refine (hleft lease).mpr ⟨hfollow.held live hlive lease hlease, fun hsession => ?_⟩
      have hid : live.id = call.sessionId := (h.own live hlive lease hlease).symm.trans hsession
      have hnone := hfresh live hlive hid
      rw [Option.mem_def.mp hlease] at hnone
      cases hnone
    · obtain ⟨hbefore, hsession⟩ := (hleft lease).mp hkept
      rw [hhanded, List.mem_append, Option.mem_toList] at hmem
      rw [hconsuming]
      rcases hmem with hmem | hmem
      · exact hfollow.free lease hmem hbefore
      · exact (hown lease hmem).resolve_left hsession

omit [DecidableEq π] in
lemma follow_admitted (hfollow : LeasesFollow s)
    (hout : ∀ lease ∈ call.lease, lease ∈ s.leases.byLeaseId)
    (hleases : s'.leases = s.leases)
    (hconsuming : s'.consuming = s.consuming ++ [⟨call.sessionId, call.provider, call.lease⟩])
    (hhanded : s'.handed = s.handed ++ call.lease.toList) : LeasesFollow s' := by
  refine ⟨fun live hlive lease hlease => ?_, fun lease hmem hkept => ?_⟩
  · rw [hleases]
    rw [hconsuming, List.mem_append, List.mem_singleton] at hlive
    rcases hlive with hlive | rfl
    · exact hfollow.held live hlive lease hlease
    · exact hout lease hlease
  · rw [hleases] at hkept
    rw [hhanded, List.mem_append, Option.mem_toList] at hmem
    rw [hconsuming]
    rcases hmem with hmem | hmem
    · obtain ⟨live, hlive, heq⟩ := hfollow.free lease hmem hkept
      exact ⟨live, List.mem_append_left _ hlive, heq⟩
    · exact ⟨_, List.mem_append_right _ (List.mem_singleton.mpr rfl), hmem⟩

lemma proper_of_free (h : Inv s) (hfree : s.limiter.held.get? call.sessionId = none)
    (hown : ∀ lease ∈ call.lease, lease.sessionId = call.sessionId) :
    Proper s (.create call outcomes) := by
  refine ⟨fun lease hlease => .inl (hown lease hlease), fun live hlive hid => ?_⟩
  have hheld := (h.accounted.live call.sessionId live.provider).mpr ⟨live, hlive, hid, rfl⟩
  rw [hfree] at hheld
  cases hheld

lemma follow_consumed (h : Inv s) (hfollow : LeasesFollow s) (hconsumed : Consumed s id s') :
    LeasesFollow s' := by
  have hleft : ∀ lease, lease ∈ s'.leases.byLeaseId ↔
      lease ∈ s.leases.byLeaseId ∧ lease.sessionId ≠ id := by
    intro lease
    rw [hconsumed.leases]
    exact mem_releaseForSession h.ids id
  have hlive : ∀ live, live ∈ s'.consuming ↔ live ∈ s.consuming ∧ live.id ≠ id := by
    intro live
    rw [hconsumed.consuming, List.mem_filter, decide_eq_true_eq]
  refine ⟨fun live hmem lease hlease => ?_, fun lease hmem hkept => ?_⟩
  · obtain ⟨hbefore, hid⟩ := (hlive live).mp hmem
    have hsession := h.own live hbefore lease hlease
    exact (hleft lease).mpr ⟨hfollow.held live hbefore lease hlease, hsession ▸ hid⟩
  · obtain ⟨hbefore, hsession⟩ := (hleft lease).mp hkept
    obtain ⟨live, hmem', heq⟩ := hfollow.free lease (hconsumed.handed ▸ hmem) hbefore
    have hown := h.own live hmem' lease heq
    exact ⟨live, (hlive live).mpr ⟨hmem', hown ▸ hsession⟩, heq⟩

lemma follow_step {step : Step π} (h : Inv s) (hfollow : LeasesFollow s)
    (hstep : s.step step = some s') : LeasesFollow s' ↔ Proper s step := by
  cases stepped h.wf hstep with
  | acquired acquired => exact iff_of_true (follow_acquired h hfollow acquired) trivial
  | created out created =>
    cases created with
    | refused wf held leases consuming handed underflows =>
      exact follow_refused h hfollow out leases consuming handed
    | admitted wf free own held leases consuming handed underflows =>
      exact iff_of_true (follow_admitted hfollow out leases consuming handed)
        (proper_of_free h free own)
  | consumed _ consumed => exact iff_of_true (follow_consumed h hfollow consumed) trivial
  | same proper same => exact iff_of_true (same.follow hfollow) proper

/-- In every state the limiter counts exactly the live sessions, within its limits and without an
underflow; and the leases are out exactly as long as their sessions are live, in every state, if and
only if all calls of `create` are proper. -/
theorem capacity_accounted (recovered : Assoc String Status) (steps : List (Step π))
    (hrun : runSteps State.step steps (.constructed recovered) = some s) :
    Accounted s ∧
      (EveryState State.step LeasesFollow steps (.constructed recovered : State π) ↔
        AlongRun State.step Proper steps (.constructed recovered)) := by
  have hinv : ∀ s s' (step : Step π), Inv s → s.step step = some s' → Inv s' :=
    fun s s' step h hstep => h.step hstep
  have hfollow : LeasesFollow (State.constructed recovered : State π) := ⟨nofun, nofun⟩
  have hreached : Inv s := runSteps_induction hinv (inv_constructed recovered) hrun
  exact ⟨hreached.accounted, everyState_iff_alongRun hinv (fun s s' step => follow_step)
    (inv_constructed recovered) hfollow hrun⟩

/-! ## A session with a lease, and a lease of another session -/

def sampleAcquire (sessionId : String) : List (Step String) :=
  let request : AcquireRequest :=
    { workspaceId := "w", sessionId, mode := .write, canonicalPath := "/w" }
  [.acquire (.openSet "w"), .acquire (.mark 0 .write), .acquire (.admitLease 0 request),
    .acquire (.finish 0 0 "w")]

def sampleLease (sessionId : String) : WorkspaceLease := ⟨1, "w", sessionId, .write⟩

def sampleCreate (sessionId : String) : Step String :=
  .create { sessionId := "a", provider := "claude", lease := some (sampleLease sessionId) } {}

def sampleEnd (steps : List (Step String)) : State String :=
  (runSteps State.step steps (.constructed [])).getD {}

theorem capacity_accounted_sample :
    runSteps State.step (sampleAcquire "a" ++ [sampleCreate "a", .consumed "a"]) (.constructed []) =
        some (sampleEnd (sampleAcquire "a" ++ [sampleCreate "a", .consumed "a"])) ∧
      Accounted (sampleEnd (sampleAcquire "a" ++ [sampleCreate "a", .consumed "a"])) :=
  have hrun := (Option.getD_of_ne_none (by decide) _).symm
  ⟨hrun, (capacity_accounted [] _ hrun).1⟩

/-- The lease of the session `b`, handed over with the session `a`: it is out, and no session is
live. -/
theorem capacity_leaked :
    runSteps State.step (sampleAcquire "b" ++ [sampleCreate "b"]) (.constructed []) =
        some (sampleEnd (sampleAcquire "b" ++ [sampleCreate "b"])) ∧
      ¬ LeasesFollow (sampleEnd (sampleAcquire "b" ++ [sampleCreate "b"])) := by
  refine ⟨(Option.getD_of_ne_none (by decide) _).symm, fun h => ?_⟩
  have hout : sampleLease "b" ∈
      (sampleEnd (sampleAcquire "b" ++ [sampleCreate "b"])).leases.byLeaseId := by decide
  have hnone : (sampleEnd (sampleAcquire "b" ++ [sampleCreate "b"])).consuming.length = 0 := by
    decide
  obtain ⟨live, hlive, -⟩ := h.free (sampleLease "b") (by decide) hout
  rw [List.length_eq_zero_iff.mp hnone] at hlive
  cases hlive

end VacancyRadar.Daemon.Capacity
