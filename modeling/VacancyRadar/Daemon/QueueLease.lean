import VacancyRadar.Daemon.QueueStore
import Mathlib.Data.List.Nodup

/-!
# The lease and the active entry

In each snapshot that the store makes no two entries have the same attempt, and the entry that is
active is the one that is leased.
-/

namespace VacancyRadar.Daemon

open Data

/-! ## Replacing an entry -/

namespace Queue

variable {queue : Queue} {p : QueueEntry → Bool} {e : QueueEntry} {state : QueueState} {now x : ℕ}

lemma exists_of_find? (h : queue.find? p = some e) :
    ∃ l r, queue = l ++ e :: r ∧ p e = true ∧ (∀ a ∈ l, p a = false) ∧ queue.findIdx p = l.length := by
  obtain ⟨he, l, r, rfl, hl⟩ := List.find?_eq_some_iff_append.mp h
  have hleft : ∀ a ∈ l, p a = false := fun a ha => by
    have hnot := hl a ha
    rwa [Bool.not_eq_true'] at hnot
  refine ⟨l, r, rfl, he, hleft, ?_⟩
  rw [List.findIdx_append, List.findIdx_eq_length_of_false hleft, if_neg (Nat.lt_irrefl _),
    List.findIdx_cons, he, cond_true, Nat.zero_add]

lemma modify_append_length (f : QueueEntry → QueueEntry) (l r : Queue) :
    List.modify (l ++ e :: r) l.length f = l ++ f e :: r := by
  induction l with
  | nil => rfl
  | cons a l ih => rw [List.cons_append, List.length_cons, List.modify_succ_cons, ih, List.cons_append]

/-- `mark` replaces the entry that is found. -/
lemma exists_mark (h : queue.find? p = some e) :
    ∃ l r, queue = l ++ e :: r ∧ p e = true ∧ (∀ a ∈ l, p a = false) ∧
      queue.mark p state now = l ++ { e with state, updatedAt := now } :: r := by
  obtain ⟨l, r, rfl, he, hleft, hidx⟩ := exists_of_find? h
  refine ⟨l, r, rfl, he, hleft, ?_⟩
  rw [mark, hidx, modify_append_length]

lemma enqueue_of_get_eq_none {now : ℤ} (h : queue.get x = none) :
    queue.enqueue now x =
      queue ++ [{ attemptId := x, state := .queued, queuedAt := now, updatedAt := now }] := by
  unfold enqueue
  rw [h]

/-- `enqueue` replaces a terminal entry. -/
lemma exists_enqueue {now : ℤ} (h : queue.get x = some e) (hstate : e.state ∈ terminalStates) :
    ∃ l r, queue = l ++ e :: r ∧ (queue.findIdx fun e => e.attemptId = x) = l.length ∧
      e.attemptId = x ∧
      queue.enqueue now x =
        l ++ { attemptId := x, state := .queued, queuedAt := now, updatedAt := now } :: r := by
  obtain ⟨l, r, rfl, he, -, hidx⟩ := exists_of_find? h
  refine ⟨l, r, rfl, hidx, of_decide_eq_true he, ?_⟩
  unfold enqueue
  rw [h]
  dsimp only
  rw [if_neg (not_not.mpr hstate), hidx, List.set_append_right _ _ (le_refl _), Nat.sub_self,
    List.set_cons_zero]

end Queue

/-! ## The invariant -/

def activeAttempts (queue : Queue) : List ℕ :=
  (queue.filter fun e => e.state = .active).map QueueEntry.attemptId

structure Leased (queue : Queue) (lease : Option QueueLease) : Prop where
  nodup : (queue.map QueueEntry.attemptId).Nodup
  active : activeAttempts queue = (lease.map QueueLease.attemptId).toList

lemma activeAttempts_append (l r : Queue) : activeAttempts (l ++ r) = activeAttempts l ++ activeAttempts r := by
  rw [activeAttempts, List.filter_append, List.map_append]
  rfl

variable {e : QueueEntry} {queue r : Queue}

lemma activeAttempts_cons_of_ne (h : e.state ≠ .active) :
    activeAttempts (e :: r) = activeAttempts r := by
  rw [activeAttempts, List.filter_cons_of_neg (by rwa [decide_eq_true_eq])]
  rfl

lemma activeAttempts_cons_of_eq (h : e.state = .active) :
    activeAttempts (e :: r) = e.attemptId :: activeAttempts r := by
  rw [activeAttempts, List.filter_cons_of_pos (by rwa [decide_eq_true_eq]), List.map_cons]
  rfl

lemma exists_of_mem_activeAttempts {x : ℕ} (h : x ∈ activeAttempts queue) :
    ∃ e ∈ queue, e.state = .active ∧ e.attemptId = x := by
  obtain ⟨e, he, hx⟩ := List.mem_map.mp h
  obtain ⟨hmem, hstate⟩ := List.mem_filter.mp he
  exact ⟨e, hmem, of_decide_eq_true hstate, hx⟩

namespace Leased

variable {queue l r : Queue} {e e' : QueueEntry} {lease : Option QueueLease}

lemma empty : Leased [] none := ⟨List.nodup_nil, rfl⟩

lemma eq_of_attemptId_eq (h : Leased queue lease) (he : e ∈ queue) (he' : e' ∈ queue)
    (hid : e.attemptId = e'.attemptId) : e = e' :=
  List.inj_on_of_nodup_map h.nodup he he' hid

lemma nodup_replace (h : Leased (l ++ e :: r) lease) (hid : e'.attemptId = e.attemptId) :
    ((l ++ e' :: r).map QueueEntry.attemptId).Nodup := by
  have hnodup := h.nodup
  rw [List.map_append, List.map_cons] at hnodup ⊢
  rwa [hid]

lemma filter_eq (h : Leased (l ++ e :: r) lease) (he : e.state ≠ .active) :
    (lease.filter fun lease => lease.attemptId ≠ e.attemptId) = lease := by
  cases lease with
  | none => rfl
  | some lease =>
    rw [Option.filter_some, if_pos]
    rw [decide_eq_true_eq]
    intro hid
    obtain ⟨a, ha, hstate, hattempt⟩ :=
      exists_of_mem_activeAttempts (x := lease.attemptId)
        (by rw [h.active]; exact List.mem_cons_self)
    have heq : a = e :=
      h.eq_of_attemptId_eq ha (List.mem_append_right _ List.mem_cons_self) (hattempt.trans hid)
    rw [heq] at hstate
    exact he hstate

lemma replace (h : Leased (l ++ e :: r) lease) (hid : e'.attemptId = e.attemptId)
    (hstate : e'.state ≠ .active) :
    Leased (l ++ e' :: r) (lease.filter fun lease => lease.attemptId ≠ e.attemptId) := by
  refine ⟨h.nodup_replace hid, ?_⟩
  have hactive := h.active
  rw [activeAttempts_append] at hactive
  rw [activeAttempts_append, activeAttempts_cons_of_ne hstate]
  by_cases he : e.state = .active
  · rw [activeAttempts_cons_of_eq he] at hactive
    cases lease with
    | none =>
      have hlength := congrArg List.length hactive
      rw [List.length_append, List.length_cons] at hlength
      exact absurd hlength (Nat.succ_ne_zero _)
    | some lease =>
      -- The leased entry is the only one that is active.
      obtain ⟨hl, hid', hr⟩ : activeAttempts l = [] ∧ lease.attemptId = e.attemptId ∧ activeAttempts r = [] := by
        have hlength := congrArg List.length hactive
        rw [List.length_append, List.length_cons] at hlength
        change _ = 1 at hlength
        have hl : activeAttempts l = [] := List.eq_nil_of_length_eq_zero (by omega)
        have hr : activeAttempts r = [] := List.eq_nil_of_length_eq_zero (by omega)
        rw [hl, hr] at hactive
        exact ⟨hl, (List.cons.inj hactive).1.symm, hr⟩
      have hfilter : (some lease).filter (fun lease => lease.attemptId ≠ e.attemptId) = none := by
        rw [Option.filter_some, if_neg (by simpa using hid')]
      rw [hl, hr, hfilter]
      rfl
  · rw [activeAttempts_cons_of_ne he] at hactive
    rw [h.filter_eq he, hactive]

lemma activate {lease : QueueLease} (h : Leased (l ++ e :: r) none)
    (hid : e'.attemptId = e.attemptId) (hstate : e'.state = .active)
    (hlease : lease.attemptId = e.attemptId) : Leased (l ++ e' :: r) (some lease) := by
  refine ⟨h.nodup_replace hid, ?_⟩
  have hactive := h.active
  rw [activeAttempts_append] at hactive
  obtain ⟨hl, hr⟩ := List.append_eq_nil_iff.mp hactive
  have hr' : activeAttempts r = [] := by
    by_cases he : e.state = .active
    · rw [activeAttempts_cons_of_eq he] at hr
      cases hr
    · rwa [activeAttempts_cons_of_ne he] at hr
  rw [activeAttempts_append, activeAttempts_cons_of_eq hstate, hl, hr', hid, ← hlease]
  rfl

lemma append {now : ℤ} {x : ℕ} (h : Leased queue lease) (hx : queue.get x = none) :
    Leased (queue ++ [{ attemptId := x, state := .queued, queuedAt := now, updatedAt := now }]) lease := by
  constructor
  · rw [List.map_append, List.nodup_append']
    refine ⟨h.nodup, List.nodup_singleton _, ?_⟩
    intro y hy hx'
    rw [List.map_singleton, List.mem_singleton] at hx'
    obtain ⟨e, he, rfl⟩ := List.mem_map.mp hy
    have hne := List.find?_eq_none.mp hx e he
    rw [decide_eq_true_eq] at hne
    exact hne hx'
  · have hqueued : (.queued : QueueState) ≠ .active := by decide
    rw [activeAttempts_append, activeAttempts_cons_of_ne hqueued, ← h.active]
    exact List.append_nil _

end Leased

/-! ## The operations -/

/-- How an operation changes the entries and the lease: the attempt that it enqueues is queued for the
first time or again, the first entry that is queued is leased, or an entry that is not terminal is put
into a state in which it is not active. -/
inductive Edit (queue : Queue) (lease : Option QueueLease) (now : ℕ) (enqueued : Option ℕ) :
    Queue → Option QueueLease → Prop
  | append (x : ℕ) : enqueued = some x → queue.get x = none →
      Edit queue lease now enqueued
        (queue ++ [{ attemptId := x, state := .queued, queuedAt := now, updatedAt := now }]) lease
  | requeue (x : ℕ) (l : Queue) (e : QueueEntry) (r : Queue) : enqueued = some x →
      queue = l ++ e :: r → queue.get x = some e →
      (queue.findIdx fun e => e.attemptId = x) = l.length → e.attemptId = x →
      e.state ∈ terminalStates →
      Edit queue lease now enqueued
        (l ++ { attemptId := x, state := .queued, queuedAt := now, updatedAt := now } :: r) lease
  | lease (leaseId : ℕ) (l : Queue) (e : QueueEntry) (r : Queue) : queue = l ++ e :: r →
      lease = none → e.state = .queued → (∀ a ∈ l, a.state ≠ .queued) →
      Edit queue lease now enqueued (l ++ { e with state := .active, updatedAt := now } :: r)
        (some { leaseId, attemptId := e.attemptId, acquiredAt := now })
  | free (l : Queue) (e : QueueEntry) (r : Queue) (state : QueueState) : queue = l ++ e :: r →
      e.state ∉ terminalStates → state ≠ .active →
      Edit queue lease now enqueued (l ++ { e with state, updatedAt := now } :: r)
        (lease.filter fun lease => lease.attemptId ≠ e.attemptId)

lemma Edit.leased {queue' : Queue} {lease lease' : Option QueueLease} {now : ℕ}
    {enqueued : Option ℕ} (hedit : Edit queue lease now enqueued queue' lease')
    (h : Leased queue lease) : Leased queue' lease' := by
  cases hedit with
  | append x _ hx => exact h.append hx
  | requeue x l e r _ hqueue _ _ hid hstate =>
    subst hqueue
    have hne : e.state ≠ .active := by
      intro heq
      rw [heq] at hstate
      exact absurd hstate (by decide)
    have hqueued : (.queued : QueueState) ≠ .active := by decide
    have hreplace : Leased (l ++ ⟨x, .queued, now, now⟩ :: r) _ := h.replace hid.symm hqueued
    rwa [h.filter_eq hne] at hreplace
  | lease leaseId l e r hqueue hlease _ _ =>
    subst hqueue hlease
    exact h.activate rfl rfl rfl
  | free l e r state hqueue _ hstate =>
    subst hqueue
    exact h.replace rfl hstate

inductive Change (s : QueueStore) (now : ℕ) (enqueued : Option ℕ) :
    QueueStore × List QueueWrite → Prop
  | none : Change s now enqueued (s, [])
  | commit (entries : Queue) (lease : Option QueueLease) (type : QueueEventType) (x : ℕ) :
      Edit s.snapshot.entries s.snapshot.lease now enqueued entries lease →
      Change s now enqueued (s.commit entries lease now type x)
  | clear : Change s now enqueued s.clear.2

namespace QueueStore

variable {s : QueueStore} {now x leaseId : ℕ}

lemma enqueue_change (s : QueueStore) (now x : ℕ) : Change s now (some x) (s.enqueue now x).2 := by
  unfold enqueue
  cases hget : s.snapshot.entries.get x with
  | none =>
    rw [Queue.enqueue_of_get_eq_none hget]
    exact .commit _ _ _ _ (.append x rfl hget)
  | some e =>
    dsimp only
    split
    · exact .none
    · next hterminal =>
      rw [not_not] at hterminal
      obtain ⟨l, r, hqueue, hidx, hid, hentries⟩ := Queue.exists_enqueue hget hterminal
      rw [hentries]
      exact .commit _ _ _ _ (.requeue x l e r rfl hqueue hget hidx hid hterminal)

lemma acquireNextLease_change (s : QueueStore) (now leaseId : ℕ) :
    Change s now none (s.acquireNextLease now leaseId).2 := by
  unfold acquireNextLease
  cases hlease : s.snapshot.lease with
  | some lease => exact .none
  | none =>
    cases hfind : s.snapshot.entries.find? fun e => e.state = .queued with
    | none => exact .none
    | some e =>
      obtain ⟨l, r, hqueue, he, hl, hmark⟩ :=
        Queue.exists_mark hfind
      rw [hmark]
      refine .commit _ _ _ _ ?_
      rw [hlease]
      exact .lease leaseId l e r hqueue rfl (of_decide_eq_true he)
        fun a ha => of_decide_eq_false (hl a ha)

variable {lease : QueueLease} {state : QueueState}

lemma exists_leased (h : Leased s.snapshot.entries s.snapshot.lease)
    (hlease : s.snapshot.lease = some lease) :
    ∃ e, s.snapshot.entries.get lease.attemptId = some e ∧ e.state = .active := by
  rw [hlease] at h
  obtain ⟨e, he, hstate, hid⟩ := exists_of_mem_activeAttempts (x := lease.attemptId) (by rw [h.active]; exact List.mem_cons_self)
  cases hget : s.snapshot.entries.get lease.attemptId with
  | none =>
    have hne := List.find?_eq_none.mp hget e he
    rw [decide_eq_true_eq] at hne
    exact absurd hid hne
  | some e' =>
    have hid' : e'.attemptId = lease.attemptId := by
      have hfound := List.find?_some hget
      rwa [decide_eq_true_eq] at hfound
    obtain rfl : e' = e := h.eq_of_attemptId_eq (List.mem_of_find?_eq_some hget) he (hid'.trans hid.symm)
    exact ⟨e', rfl, hstate⟩

lemma release_lease_change (h : Leased s.snapshot.entries s.snapshot.lease)
    (hlease : s.snapshot.lease = some lease) (hstate : state ≠ .active) (type : QueueEventType) :
    Change s now none
      (s.commit (s.snapshot.entries.mark (fun e => e.attemptId = lease.attemptId) state now) none now
        type lease.attemptId) := by
  obtain ⟨e, hget, hactive⟩ := exists_leased h hlease
  obtain ⟨l, r, hqueue, hid, -, hmark⟩ := Queue.exists_mark hget
  rw [hmark]
  have hedit : Edit s.snapshot.entries s.snapshot.lease now none _ _ :=
    .free l e r state hqueue (by rw [hactive]; decide) hstate
  rw [hlease, Option.filter_some, if_neg] at hedit
  · rw [← hlease] at hedit
    exact .commit _ _ _ _ hedit
  · rw [decide_eq_true_eq, not_not]
    exact (of_decide_eq_true hid).symm

lemma release_change (h : Leased s.snapshot.entries s.snapshot.lease) (now leaseId : ℕ)
    (outcome : Outcome) : Change s now none (s.release now leaseId outcome) := by
  unfold release
  cases hlease : s.snapshot.lease with
  | none => exact .none
  | some lease =>
    dsimp only
    split
    · exact .none
    · exact release_lease_change h hlease (by cases outcome <;> decide) _

lemma transition_change {origins : List QueueState} {action : String} {lease : Option QueueLease}
    {type : QueueEventType} {r : QueueEntry × QueueStore × List QueueWrite}
    (horigins : ∀ origin ∈ origins, origin ∉ terminalStates) (hstate : state ≠ .active)
    (hlease : ∀ e ∈ s.snapshot.entries, e.attemptId = x → e.state ∈ origins →
      lease = s.snapshot.lease.filter fun lease => lease.attemptId ≠ x)
    (hr : s.transition now x origins action lease state type = .ok r) : Change s now none r.2 := by
  unfold transition at hr
  cases hget : s.snapshot.entries.get x with
  | none =>
    rw [hget] at hr
    cases hr
  | some e =>
    rw [hget] at hr
    dsimp only at hr
    split at hr
    · cases hr
    · next horigin =>
      rw [not_not] at horigin
      cases hr
      obtain ⟨l, r, hqueue, he, -, hmark⟩ := Queue.exists_mark hget
      have hid : e.attemptId = x := of_decide_eq_true he
      rw [hmark, hlease e (List.mem_of_find?_eq_some hget) hid horigin]
      refine .commit _ _ _ _ ?_
      rw [← hid]
      exact .free l e r state hqueue (horigins _ horigin) hstate

end QueueStore

end VacancyRadar.Daemon
