import VacancyRadar.Daemon.QueueLease
import VacancyRadar.Daemon.QueueText
import VacancyRadar.Data.Runs

/-!
# Runs of the queue store

The store is started, operations are called, and the process ends between any two writes or within
one.  In every state that is reached the lease is the one of the active entry, and the events that
were emitted have ascending numbers.
-/

namespace VacancyRadar.Daemon

open Data

variable {r r' : QueueStore × List QueueWrite} {lease : QueueLease} {event : QueueEvent}
  {emitted : List QueueEvent} {sys : QueueSys}

/-! ## Steps -/

inductive QueueOp where
  | enqueue (attemptId : ℕ)
  | acquireNextLease (leaseId : ℕ)
  | release (leaseId : ℕ) (outcome : QueueStore.Outcome)
  | pause (attemptId : ℕ)
  | resume (attemptId : ℕ)
  | skip (attemptId : ℕ)
  | cancel (attemptId : ℕ)
  | clear
deriving DecidableEq

inductive QueueAnswer where
  | entry (entry : QueueEntry)
  | lease (lease : Option QueueLease)
  | count (n : ℕ)
  | nothing

def QueueStore.perform (s : QueueStore) (now : ℕ) :
    QueueOp → Except QueueError (QueueAnswer × QueueStore × List QueueWrite)
  | .enqueue x => .ok ((s.enqueue now x).map .entry id)
  | .acquireNextLease leaseId => .ok ((s.acquireNextLease now leaseId).map .lease id)
  | .release leaseId outcome => .ok (.nothing, s.release now leaseId outcome)
  | .pause x => (s.pause now x).map fun r => r.map .entry id
  | .resume x => (s.resume now x).map fun r => r.map .entry id
  | .skip x => (s.skip now x).map fun r => r.map .entry id
  | .cancel x => (s.cancel now x).map fun r => r.map .entry id
  | .clear => .ok (s.clear.map .count id)

structure Cut where
  writes : ℕ
  bytes : ℕ

/-- The directory when only a part was written. -/
def QueueDisk.writeUntil (code : LineCode UInt8 QueueEvent) (disk : QueueDisk)
    (writes : List QueueWrite) (cut : Cut) : QueueDisk :=
  let disk := (writes.take cut.writes).foldl (QueueDisk.write code) disk
  match writes[cut.writes]? with
  | some (.append event) => { disk with log := disk.log ++ (code.line event).take cut.bytes }
  | _ => disk

def eventsUntil (writes : List QueueWrite) (cut : Cut) : List QueueEvent :=
  (writes.take (cut.writes + 1)).filterMap QueueWrite.event?

def QueueOp.enqueued : QueueOp → Option ℕ
  | .enqueue attemptId => some attemptId
  | _ => none

/-- What happens: a call, or a start of the process.  The process may end while it writes. -/
inductive QueueMove where
  | call (now : ℕ) (op : QueueOp) (cut : Option Cut)
  | start (now : ℕ) (cut : Option Cut)

/-- The store, if there is a process, its directory, the emitted events, the leases given out, the
time of the last step, and the times at which attempts were enqueued. -/
structure QueueSys where
  store : Option QueueStore := none
  disk : QueueDisk := {}
  emitted : List QueueEvent := []
  leases : List QueueLease := []
  clock : ℕ := 0
  enqueueTimes : List ℕ := []

namespace QueueSys

def finish (code : LineCode UInt8 QueueEvent) (sys : QueueSys) (now : ℕ)
    (r : QueueStore × List QueueWrite) (cut : Option Cut) : QueueSys :=
  let last := cut.getD ⟨r.2.length, 0⟩
  { sys with
    clock := now
    store := if cut.isNone then some r.1 else none
    disk := sys.disk.writeUntil code r.2 last
    emitted := sys.emitted ++ eventsUntil r.2 last }

def given : QueueAnswer → List QueueLease
  | .lease lease => lease.toList
  | _ => []

def step (code : LineCode UInt8 QueueEvent) (sys : QueueSys) : QueueMove → Option QueueSys
  | .call now op cut =>
    match sys.store with
    | none => none
    | some s =>
      if ∃ lease ∈ sys.leases, op = .acquireNextLease lease.leaseId then none
      else
        match s.perform now op with
        | .error _ => some (sys.finish code now (s, []) cut)
        | .ok (answer, r) =>
          some
            { sys.finish code now r cut with
              leases := sys.leases ++ given answer
              enqueueTimes := sys.enqueueTimes ++ op.enqueued.toList.map fun _ => now }
  | .start now cut =>
    match sys.store with
    | none => some (sys.finish code now (QueueStore.construct code sys.disk now) cut)
    | some _ => none

abbrev run (code : LineCode UInt8 QueueEvent) : List QueueMove → QueueSys → Option QueueSys :=
  runSteps (step code)

end QueueSys

/-! ## Each operation is a change -/

namespace QueueStore

variable {s : QueueStore} {now : ℕ}

lemma notMem_terminalStates {origin : QueueState} (h : origin ∈ openStates) : origin ∉ terminalStates := by
  cases origin <;> first | decide | exact absurd h (by decide)

variable {answer : QueueAnswer} {op : QueueOp}

lemma exists_of_map {r : Except QueueError (QueueEntry × QueueStore × List QueueWrite)}
    (h : (r.map fun r => r.map QueueAnswer.entry id) = .ok (answer, r')) :
    ∃ entry, r = .ok (entry, r') := by
  cases r with
  | error e => cases h
  | ok r =>
    obtain ⟨entry, r⟩ := r
    cases h
    exact ⟨entry, rfl⟩

lemma perform_change (hleased : Leased s.snapshot.entries s.snapshot.lease)
    (h : s.perform now op = .ok (answer, r)) : Change s now op.enqueued r := by
  cases op with
  | enqueue x =>
    cases h
    exact s.enqueue_change now x
  | acquireNextLease leaseId =>
    cases h
    exact s.acquireNextLease_change now leaseId
  | release leaseId outcome =>
    cases h
    exact release_change hleased now leaseId outcome
  | pause x =>
    obtain ⟨entry, hr⟩ := exists_of_map h
    refine transition_change (fun origin horigin => ?_) (by decide) (fun _ _ _ _ => rfl) hr
    rcases List.mem_pair.mp horigin with rfl | rfl <;> decide
  | resume x =>
    obtain ⟨entry, hr⟩ := exists_of_map h
    refine transition_change (fun origin horigin => ?_) (by decide)
      (fun e he hid hstate => ?_) hr
    · rw [List.mem_singleton.mp horigin]
      decide
    · obtain ⟨l, r, hqueue⟩ := List.append_of_mem he
      rw [hqueue] at hleased
      have hne : e.state ≠ .active := by
        rw [List.mem_singleton.mp hstate]
        decide
      rw [← hid]
      exact (hleased.filter_eq hne).symm
  | skip x =>
    obtain ⟨entry, hr⟩ := exists_of_map h
    exact transition_change (fun origin => notMem_terminalStates) (by decide) (fun _ _ _ _ => rfl) hr
  | cancel x =>
    obtain ⟨entry, hr⟩ := exists_of_map h
    exact transition_change (fun origin => notMem_terminalStates) (by decide) (fun _ _ _ _ => rfl) hr
  | clear =>
    cases h
    exact .clear

lemma reconcile_change (hleased : Leased s.snapshot.entries s.snapshot.lease) (now : ℕ) :
    Change s now none (s.reconcileStaleLeaseOnStartup now) := by
  unfold reconcileStaleLeaseOnStartup
  cases hlease : s.snapshot.lease with
  | none => exact .none
  | some lease =>
    obtain ⟨e, hget, hactive⟩ := exists_leased hleased hlease
    dsimp only
    rw [hget]
    dsimp only
    rw [if_neg (by rw [hactive]; decide)]
    exact release_lease_change hleased hlease (by decide) _

lemma lease_enqueue (x : ℕ) : (s.enqueue now x).2.1.snapshot.lease = s.snapshot.lease := by
  unfold enqueue
  split
  · split <;> rfl
  · rfl

lemma acquireNextLease_cases (leaseId : ℕ) :
    (s.acquireNextLease now leaseId).1 = none ∧
        (s.acquireNextLease now leaseId).2.1.snapshot.lease = s.snapshot.lease ∨
      ∃ lease, (s.acquireNextLease now leaseId).1 = some lease ∧ lease.leaseId = leaseId ∧
        (s.acquireNextLease now leaseId).2.1.snapshot.lease = some lease := by
  unfold acquireNextLease
  split
  · exact .inl ⟨rfl, rfl⟩
  · split
    · exact .inl ⟨rfl, rfl⟩
    · exact .inr ⟨_, rfl, rfl, rfl⟩

lemma lease_of_release {leaseId : ℕ} {outcome : Outcome}
    (h : (s.release now leaseId outcome).1.snapshot.lease = some lease) :
    s.snapshot.lease = some lease := by
  unfold release at h
  split at h
  · exact h
  · split at h
    · exact h
    · cases h

lemma lease_of_transition {x : ℕ} {origins : List QueueState} {action : String}
    {kept : Option QueueLease} {state : QueueState} {type : QueueEventType}
    {r : QueueEntry × QueueStore × List QueueWrite}
    (h : s.transition now x origins action kept state type = .ok r) :
    r.2.1.snapshot.lease = kept := by
  unfold transition at h
  split at h
  · cases h
  · split at h
    · cases h
    · cases h
      rfl

lemma lease_of_perform (h : s.perform now op = .ok (answer, r))
    (hlease : r.1.snapshot.lease = some lease) :
    s.snapshot.lease = some lease ∨ lease ∈ QueueSys.given answer := by
  have hother {x : ℕ} (hx : s.otherLease x = some lease) : s.snapshot.lease = some lease :=
    (Option.filter_eq_some_iff.mp hx).1
  cases op with
  | enqueue x =>
    cases h
    exact .inl ((lease_enqueue x).symm.trans hlease)
  | acquireNextLease leaseId =>
    cases h
    rcases acquireNextLease_cases (s := s) leaseId with
      ⟨-, hsame⟩ | ⟨given, hgiven, -, hnew⟩
    · exact .inl (hsame.symm.trans hlease)
    · obtain rfl : given = lease := Option.some.inj (hnew.symm.trans hlease)
      right
      change given ∈ ((s.acquireNextLease now leaseId).1).toList
      rw [hgiven]
      exact List.mem_cons_self
  | release leaseId outcome =>
    cases h
    exact .inl (lease_of_release hlease)
  | pause x =>
    obtain ⟨entry, hr⟩ := exists_of_map h
    exact .inl (hother ((lease_of_transition hr).symm.trans hlease))
  | resume x =>
    obtain ⟨entry, hr⟩ := exists_of_map h
    exact .inl ((lease_of_transition hr).symm.trans hlease)
  | skip x =>
    obtain ⟨entry, hr⟩ := exists_of_map h
    exact .inl (hother ((lease_of_transition hr).symm.trans hlease))
  | cancel x =>
    obtain ⟨entry, hr⟩ := exists_of_map h
    exact .inl (hother ((lease_of_transition hr).symm.trans hlease))
  | clear =>
    cases h
    cases hlease

lemma given_of_perform (h : s.perform now op = .ok (answer, r)) : QueueSys.given answer = [] ∨
      ∃ lease, QueueSys.given answer = [lease] ∧ op = .acquireNextLease lease.leaseId := by
  have hentry {f : Except QueueError (QueueEntry × QueueStore × List QueueWrite)}
      (hmap : (f.map fun r => r.map QueueAnswer.entry id) = .ok (answer, r)) :
      QueueSys.given answer = [] := by
    cases f with
    | error e => cases hmap
    | ok r =>
      cases hmap
      rfl
  cases op with
  | acquireNextLease leaseId =>
    cases h
    rcases acquireNextLease_cases (s := s) leaseId with
      ⟨hnone, -⟩ | ⟨lease, hgiven, hid, -⟩
    · exact .inl (congrArg Option.toList hnone)
    · exact .inr ⟨lease, congrArg Option.toList hgiven, by rw [hid]⟩
  | pause x => exact .inl (hentry h)
  | resume x => exact .inl (hentry h)
  | skip x => exact .inl (hentry h)
  | cancel x => exact .inl (hentry h)
  | enqueue x =>
    cases h
    exact .inl rfl
  | release leaseId outcome =>
    cases h
    exact .inl rfl
  | clear =>
    cases h
    exact .inl rfl

lemma lease_reconcile : (s.reconcileStaleLeaseOnStartup now).1.snapshot.lease = none := by
  unfold reconcileStaleLeaseOnStartup
  split
  · next hlease => exact hlease
  · rfl

end QueueStore

/-! ## What is kept -/

variable {code : LineCode UInt8 QueueEvent}

def Before (n : ℕ) (event : QueueEvent) : Prop := event.seq < n

structure Kept (code : LineCode UInt8 QueueEvent) (disk : QueueDisk) (emitted : List QueueEvent) :
    Prop where
  leased : Leased disk.loadSnapshot.entries disk.loadSnapshot.lease
  log : code.WrittenBy (Before disk.loadSnapshot.nextEventSeq) disk.log
  before : ∀ event ∈ emitted, Before disk.loadSnapshot.nextEventSeq event
  ascending : emitted.Pairwise fun event event' => event.seq < event'.seq

lemma Kept.nil : Kept code {} [] :=
  ⟨Leased.empty, LineCode.WrittenBy.nil, by simp, List.Pairwise.nil⟩

lemma exists_of_mapM_eq_some {lines : List (List UInt8)} {events : List QueueEvent}
    (h : lines.mapM code.decode = some events) (hevent : event ∈ events) :
    ∃ line ∈ lines, code.decode line = some event := by
  induction lines generalizing events with
  | nil =>
    cases h
    cases hevent
  | cons line lines ih =>
    rw [List.mapM_cons] at h
    obtain ⟨first, hfirst, hrest⟩ := Option.bind_eq_some_iff.mp h
    obtain ⟨rest, hlines, heq⟩ := Option.bind_eq_some_iff.mp hrest
    cases heq
    rcases List.mem_cons.mp hevent with rfl | hin
    · exact ⟨line, List.mem_cons_self, hfirst⟩
    · obtain ⟨line', hline', hdecode⟩ := ih hlines hin
      exact ⟨line', List.mem_cons_of_mem _ hline', hdecode⟩

variable {disk : QueueDisk} {snapshot : QueueSnapshot} {writes : List QueueWrite} {cut : Cut}
  {now : ℕ} {s : QueueStore}

lemma before_of_mem_loadRecentEvents {n floor : ℕ} (h : code.WrittenBy (Before n) disk.log)
    (hevent : event ∈ disk.loadRecentEvents code floor) : Before n event := by
  have hparsed := List.mem_of_mem_filter (List.mem_of_mem_drop hevent)
  generalize hlines : (disk.log.splitOn code.newline).filter (fun line => line ≠ []) = lines at hparsed
  cases hmap : lines.mapM code.decode with
  | none =>
    rw [hmap] at hparsed
    cases hparsed
  | some events =>
    rw [hmap] at hparsed
    obtain ⟨line, hline, hevent⟩ := exists_of_mapM_eq_some hmap hparsed
    rw [← hlines] at hline
    exact h.of_decode (List.mem_of_mem_filter hline) hevent

lemma Kept.construct_eq (h : Kept code disk emitted) (now : ℕ) :
    QueueStore.construct code disk now =
      QueueStore.reconcileStaleLeaseOnStartup
        { snapshot := disk.loadSnapshot
          recentEvents := disk.loadRecentEvents code disk.loadSnapshot.eventReplayFloor } now := by
  unfold QueueStore.construct
  rw [if_neg]
  rw [Nat.not_lt]
  cases hlast : (disk.loadRecentEvents code disk.loadSnapshot.eventReplayFloor).getLast? with
  | none => exact Nat.zero_le _
  | some event => exact before_of_mem_loadRecentEvents h.log (List.mem_of_getLast? hlast)

lemma Kept.persist (h : Kept code disk emitted) (hleased : Leased snapshot.entries snapshot.lease)
    (hnext : snapshot.nextEventSeq = disk.loadSnapshot.nextEventSeq) :
    Kept code { disk with snapshot := some snapshot } emitted := by
  have hlog := h.log
  have hbefore := h.before
  rw [← hnext] at hlog hbefore
  exact ⟨hleased, hlog, hbefore, h.ascending⟩

lemma Kept.append (h : Kept code { disk with snapshot := some snapshot } emitted)
    (event : QueueEvent) (hevent : event.seq = snapshot.nextEventSeq) (bytes : ℕ) : Kept code
      { snapshot := some { snapshot with nextEventSeq := snapshot.nextEventSeq + 1 }
        log := disk.log ++ (code.line event).take bytes }
      (emitted ++ [event]) := by
  have himp : ∀ e, Before snapshot.nextEventSeq e → Before (snapshot.nextEventSeq + 1) e :=
    fun e he => Nat.lt_succ_of_lt he
  have hself : Before (snapshot.nextEventSeq + 1) event := Nat.lt_succ_of_le hevent.le
  refine ⟨h.leased, (h.log.imp himp).append_take hself bytes, fun e he => ?_, ?_⟩
  · rcases List.mem_append.mp he with hold | hnew
    · exact himp e (h.before e hold)
    · rw [List.mem_singleton.mp hnew]
      exact hself
  · rw [List.pairwise_append]
    refine ⟨h.ascending, List.pairwise_singleton _ _, fun e he e' he' => ?_⟩
    rw [List.mem_singleton.mp he', hevent]
    exact h.before e he

lemma QueueDisk.writeUntil_of_length_le (h : writes.length ≤ cut.writes) :
    disk.writeUntil code writes cut = writes.foldl (QueueDisk.write code) disk := by
  unfold writeUntil
  rw [List.take_of_length_le h, List.getElem?_eq_none h]

lemma eventsUntil_of_length_le (h : writes.length ≤ cut.writes) :
    eventsUntil writes cut = writes.filterMap QueueWrite.event? := by
  unfold eventsUntil
  rw [List.take_of_length_le (h.trans (Nat.le_succ _))]

lemma Kept.change {enqueued : Option ℕ} (h : Kept code disk emitted)
    (hs : s.snapshot = disk.loadSnapshot) (hchange : Change s now enqueued r) (cut : Cut) :
    Kept code (disk.writeUntil code r.2 cut) (emitted ++ eventsUntil r.2 cut):= by
  obtain ⟨writes, bytes⟩ := cut
  cases hchange with
  | none =>
    have hwrite : disk.writeUntil code [] ⟨writes, bytes⟩ = disk := by
      unfold QueueDisk.writeUntil
      rw [List.take_nil]
      rfl
    have hevents : eventsUntil [] ⟨writes, bytes⟩ = [] := by
      unfold eventsUntil
      rw [List.take_nil]
      rfl
    rw [hwrite, hevents, List.append_nil]
    exact h
  | commit entries lease type x hedit =>
    have hleased : Leased entries lease := by
      have hold := h.leased
      rw [← hs] at hold
      exact hedit.leased hold
    have hpersist : Kept code
        { disk with snapshot := some { s.snapshot with entries, lease } } emitted := by
      refine h.persist hleased ?_
      rw [hs]
    match writes with
    | 0 =>
      rw [← List.append_nil emitted] at h
      exact h
    | 1 =>
      rw [← List.append_nil emitted] at hpersist
      exact hpersist
    | 2 => exact hpersist.append ⟨s.snapshot.nextEventSeq, now, type, x⟩ rfl bytes
    | n + 3 =>
      have hline := hpersist.append ⟨s.snapshot.nextEventSeq, now, type, x⟩ rfl
        (code.line ⟨s.snapshot.nextEventSeq, now, type, x⟩).length
      rw [List.take_length] at hline
      have hlength : (s.commit entries lease now type x).2.length ≤ n + 3 := Nat.le_add_left 3 n
      rw [QueueDisk.writeUntil_of_length_le hlength, eventsUntil_of_length_le hlength]
      exact hline
  | clear =>
    have hpersist : Kept code
        { disk with snapshot := some (emptySnapshot s.snapshot.nextEventSeq) } (emitted ++ []) := by
      rw [List.append_nil]
      refine h.persist Leased.empty ?_
      rw [← hs]
      rfl
    match writes with
    | 0 =>
      rw [← List.append_nil emitted] at h
      exact h
    | 1 => exact hpersist
    | n + 2 =>
      have hlength : s.clear.2.2.length ≤ n + 2 := Nat.le_add_left 2 n
      rw [QueueDisk.writeUntil_of_length_le hlength, eventsUntil_of_length_le hlength]
      exact ⟨hpersist.leased, LineCode.WrittenBy.nil, hpersist.before, hpersist.ascending⟩

variable (code) in
lemma Change.loadSnapshot {enqueued : Option ℕ} (hs : s.snapshot = disk.loadSnapshot)
    (hchange : Change s now enqueued r) :
    (disk.writeUntil code r.2 ⟨r.2.length, 0⟩).loadSnapshot = r.1.snapshot := by
  cases hchange with
  | none => exact hs.symm
  | commit => rfl
  | clear => rfl

/-! ## Runs -/

/-- The directory is as it should be and holds the snapshot in memory, and no id of a lease was
given out twice. -/
structure QueueSys.Inv (code : LineCode UInt8 QueueEvent) (sys : QueueSys) : Prop where
  kept : Kept code sys.disk sys.emitted
  snapshot : ∀ s, sys.store = some s → s.snapshot = sys.disk.loadSnapshot
  leaseIds : (sys.leases.map QueueLease.leaseId).Nodup
  lease : ∀ s, sys.store = some s → ∀ lease, s.snapshot.lease = some lease → lease ∈ sys.leases

lemma QueueSys.Inv.init : Inv code {} := by
  refine ⟨Kept.nil, fun s hs => ?_, List.nodup_nil, fun s hs => ?_⟩ <;> cases hs

lemma QueueSys.Inv.finish {enqueued : Option ℕ} (h : sys.Inv code)
    (hs : s.snapshot = sys.disk.loadSnapshot) (hchange : Change s now enqueued r) (cut : Option Cut) :
    Kept code (sys.finish code now r cut).disk (sys.finish code now r cut).emitted ∧
      ∀ s', (sys.finish code now r cut).store = some s' →
        s' = r.1 ∧ s'.snapshot = (sys.finish code now r cut).disk.loadSnapshot := by
  refine ⟨h.kept.change hs hchange _, fun s' hs' => ?_⟩
  cases cut with
  | some cut => cases hs'
  | none =>
    cases hs'
    exact ⟨rfl, (hchange.loadSnapshot code hs).symm⟩

inductive QueueSys.Stepped (code : LineCode UInt8 QueueEvent) (sys : QueueSys) :
    QueueMove → QueueSys → Prop
  | failed (s : QueueStore) (now : ℕ) (op : QueueOp) (cut : Option Cut) : sys.store = some s →
      Stepped code sys (.call now op cut) (sys.finish code now (s, []) cut)
  | call (s : QueueStore) (now : ℕ) (op : QueueOp) (cut : Option Cut) (answer : QueueAnswer)
      (r : QueueStore × List QueueWrite) : sys.store = some s →
      (∀ lease ∈ sys.leases, op ≠ .acquireNextLease lease.leaseId) →
      s.perform now op = .ok (answer, r) → Change s now op.enqueued r →
      Stepped code sys (.call now op cut)
        { sys.finish code now r cut with
          leases := sys.leases ++ given answer
          enqueueTimes := sys.enqueueTimes ++ op.enqueued.toList.map fun _ => now }
  | start (s : QueueStore) (now : ℕ) (cut : Option Cut) (r : QueueStore × List QueueWrite) :
      s.snapshot = sys.disk.loadSnapshot → Change s now none r → r.1.snapshot.lease = none →
      Stepped code sys (.start now cut) (sys.finish code now r cut)

lemma QueueSys.Inv.stepped {sys' : QueueSys} {move : QueueMove} (h : sys.Inv code)
    (hstep : sys.step code move = some sys') : sys.Stepped code move sys' := by
  cases move with
  | call now op cut =>
    unfold QueueSys.step at hstep
    dsimp only at hstep
    split at hstep
    · cases hstep
    · next s hstore =>
      split at hstep
      · cases hstep
      · next hfresh =>
        split at hstep
        · cases hstep
          exact .failed s now op cut hstore
        · next answer r hperform =>
          cases hstep
          have hleased := h.kept.leased
          rw [← h.snapshot s hstore] at hleased
          refine .call s now op cut answer r hstore (fun lease hlease hop => ?_) hperform
            (QueueStore.perform_change hleased hperform)
          exact hfresh ⟨lease, hlease, hop⟩
  | start now cut =>
    unfold QueueSys.step at hstep
    dsimp only at hstep
    split at hstep
    · cases hstep
      rw [h.kept.construct_eq]
      exact .start ⟨sys.disk.loadSnapshot, _⟩ now cut _ rfl
        (QueueStore.reconcile_change h.kept.leased now) QueueStore.lease_reconcile
    · cases hstep

lemma QueueSys.Inv.step {sys sys' : QueueSys} {move : QueueMove} (h : sys.Inv code)
    (hstep : sys.step code move = some sys') : sys'.Inv code := by
  cases h.stepped hstep with
  | failed s now op cut hstore =>
    obtain ⟨hkept, hstore'⟩ :=
      h.finish (h.snapshot s hstore) (.none : Change s now none (s, [])) cut
    refine ⟨hkept, fun s' hs' => (hstore' s' hs').2, h.leaseIds, fun s' hs' => ?_⟩
    rw [(hstore' s' hs').1]
    exact h.lease s hstore
  | call s now op cut answer r hstore hfresh hperform hchange =>
    obtain ⟨hkept, hstore'⟩ := h.finish (h.snapshot s hstore) hchange cut
    refine ⟨hkept, fun s' hs' => (hstore' s' hs').2, ?_, fun s' hs' lease hlease => ?_⟩
    · rcases QueueStore.given_of_perform hperform with hnone | ⟨lease, hone, rfl⟩
      · dsimp only
        rw [hnone, List.append_nil]
        exact h.leaseIds
      · dsimp only
        rw [hone, List.map_append, List.nodup_append']
        refine ⟨h.leaseIds, List.nodup_singleton _, fun id hid hid' => ?_⟩
        obtain ⟨lease', hmem, rfl⟩ := List.mem_map.mp hid
        exact hfresh lease' hmem (congrArg _ (List.mem_singleton.mp hid').symm)
    · rw [(hstore' s' hs').1] at hlease
      rcases QueueStore.lease_of_perform hperform hlease with hold | hnew
      · exact List.mem_append_left _ (h.lease s hstore lease hold)
      · exact List.mem_append_right _ hnew
  | start s now cut r hs hchange hnone =>
    obtain ⟨hkept, hstore'⟩ := h.finish hs hchange cut
    refine ⟨hkept, fun s' hs' => (hstore' s' hs').2, h.leaseIds, fun s' hs' lease hlease => ?_⟩
    rw [(hstore' s' hs').1, hnone] at hlease
    cases hlease

lemma QueueSys.Inv.run {moves : List QueueMove} (hrun : QueueSys.run code moves {} = some sys) : sys.Inv code:=
  runSteps_induction (fun _ _ _ h hstep => h.step hstep) QueueSys.Inv.init hrun

lemma QueueSys.Inv.release_eq (h : sys.Inv code) (hs : sys.store = some s)
    (hlease : lease ∈ sys.leases) (hover : s.snapshot.lease ≠ some lease) (now : ℕ)
    (outcome : QueueStore.Outcome) : s.release now lease.leaseId outcome = (s, []):= by
  unfold QueueStore.release
  cases hcurrent : s.snapshot.lease with
  | none => rfl
  | some current =>
    dsimp only
    rw [if_pos]
    intro hid
    have heq : current = lease :=
      List.inj_on_of_nodup_map h.leaseIds (h.lease s hs current hcurrent) hlease hid
    rw [heq] at hcurrent
    exact hover hcurrent

lemma Leased.filter_active {queue : Queue} {lease : Option QueueLease} (h : Leased queue lease) :
    (lease ≠ none ↔ ∃ e, (queue.filter fun e => e.state = .active) = [e]) ∧
      ∀ l, lease = some l →
        ∃ e, (queue.filter fun e => e.state = .active) = [e] ∧ e.attemptId = l.attemptId := by
  have hactive := h.active
  cases lease with
  | none =>
    have hnil := List.map_eq_nil_iff.mp hactive
    refine ⟨⟨fun hne => absurd rfl hne, fun ⟨e, he⟩ => ?_⟩, fun l hl => nomatch hl⟩
    rw [hnil] at he
    cases he
  | some l =>
    obtain ⟨e, he, hid⟩ := List.map_eq_singleton_iff.mp hactive
    refine ⟨⟨fun _ => ⟨e, he⟩, fun _ => nofun⟩, fun l' hl => ?_⟩
    cases hl
    exact ⟨e, he, hid⟩

/-- In every run no attempt has two entries, there is a lease exactly if one entry is active, the
leased one, a lease that is over releases nothing, and the events' numbers ascend. -/
theorem single_worker (code : LineCode UInt8 QueueEvent) {moves : List QueueMove} {sys : QueueSys}
    (hrun : QueueSys.run code moves {} = some sys) :
    (∀ s, sys.store = some s →
      (s.snapshot.entries.map QueueEntry.attemptId).Nodup ∧
      (s.snapshot.lease ≠ none ↔ ∃ e, (s.snapshot.entries.filter fun e => e.state = .active) = [e]) ∧
      (∀ lease, s.snapshot.lease = some lease →
        ∃ e, (s.snapshot.entries.filter fun e => e.state = .active) = [e] ∧
          e.attemptId = lease.attemptId) ∧
      ∀ lease ∈ sys.leases, s.snapshot.lease ≠ some lease →
        ∀ now outcome, s.release now lease.leaseId outcome = (s, [])) ∧
    sys.emitted.Pairwise fun event event' => event.seq < event'.seq := by
  have hinv := QueueSys.Inv.run hrun
  refine ⟨fun s hs => ?_, hinv.kept.ascending⟩
  have hleased := hinv.kept.leased
  rw [← hinv.snapshot s hs] at hleased
  exact ⟨hleased.nodup, hleased.filter_active.1, hleased.filter_active.2,
    fun lease hlease hover => hinv.release_eq hs hlease hover⟩

def crashMoves : List QueueMove :=
  [.start 0 none, .call 1 (.enqueue 7) none, .call 2 (.acquireNextLease 100) none,
    .call 3 (.release 100 .completed) (some ⟨1, 0⟩), .start 4 none, .call 5 .clear none,
    .call 6 (.enqueue 8) none, .call 7 (.acquireNextLease 101) (some ⟨2, 9⟩), .start 8 none,
    .call 9 (.acquireNextLease 102) none]

theorem single_worker_crashMoves :
    ∃ sys s, QueueSys.run queueCode crashMoves {} = some sys ∧ sys.store = some s ∧
      sys.emitted.map QueueEvent.seq = [0, 1, 2, 3, 4, 5] ∧
      (s.snapshot.lease ≠ none ↔
        ∃ e, (s.snapshot.entries.filter fun e => e.state = .active) = [e]) ∧
      sys.emitted.Pairwise fun event event' => event.seq < event'.seq := by
  obtain ⟨sys, hrun, hsys⟩ := Option.map_eq_some_iff.mp
    (by decide : (QueueSys.run queueCode crashMoves {}).map
      (fun sys => (sys.store.isSome, sys.emitted.map QueueEvent.seq)) =
        some (true, [0, 1, 2, 3, 4, 5]))
  obtain ⟨hstore, hseq⟩ := Prod.mk.inj hsys
  obtain ⟨s, hs⟩ := Option.isSome_iff_exists.mp hstore
  have hworker := single_worker queueCode hrun
  exact ⟨sys, s, hrun, hs, hseq, (hworker.1 s hs).2.1, hworker.2⟩

end VacancyRadar.Daemon
