import VacancyRadar.Daemon.QueueRuns

/-!
# The order of the queue

The first entry that is queued is leased.  It is the one that waits longest as long as an attempt that
is queued again has its old entry behind all those that are not terminal.
-/

namespace VacancyRadar.Daemon

open Data

variable {s : QueueStore}

/-! ## Ordered entries -/

def openEntries (queue : Queue) : Queue := queue.filter fun e => e.state ∉ terminalStates

lemma openEntries_append (l r : Queue) : openEntries (l ++ r) = openEntries l ++ openEntries r :=
  List.filter_append ..

variable {e : QueueEntry} {queue : Queue} {enqueued : Option ℕ} {now : ℕ} {times : List ℕ}
  {r : QueueStore × List QueueWrite}

lemma openEntries_cons_of_mem {r : Queue} (h : e.state ∈ terminalStates) :
    openEntries (e :: r) = openEntries r :=
  List.filter_cons_of_neg (by rw [decide_eq_true_eq, not_not]; exact h)

lemma openEntries_cons_of_notMem {r : Queue} (h : e.state ∉ terminalStates) :
    openEntries (e :: r) = e :: openEntries r :=
  List.filter_cons_of_pos (by rwa [decide_eq_true_eq])

lemma mem_of_mem_openEntries (h : e ∈ openEntries queue) : e ∈ queue := List.mem_of_mem_filter h

structure Ordered (queue : Queue) (times : List ℕ) : Prop where
  mem : ∀ e ∈ queue, ∃ t ∈ times, e.queuedAt = t
  sorted : (openEntries queue).Pairwise fun e e' => e.queuedAt < e'.queuedAt

def Behind (queue : Queue) (x : ℕ) : Prop :=
  ∀ e ∈ queue.get x, e.state ∈ terminalStates →
    ∀ e' ∈ queue.drop ((queue.findIdx fun e => e.attemptId = x) + 1), e'.state ∈ terminalStates
deriving Decidable

namespace Ordered

variable {queue l r : Queue} {e e' : QueueEntry} {times times' : List ℕ}

lemma nil : Ordered [] times := ⟨by simp, List.Pairwise.nil⟩

lemma mono (h : Ordered queue times) (htimes : ∀ t ∈ times, t ∈ times') : Ordered queue times' := by
  refine ⟨fun e he => ?_, h.sorted⟩
  obtain ⟨t, ht, heq⟩ := h.mem e he
  exact ⟨t, htimes t ht, heq⟩

lemma insert (h : Ordered (l ++ r) times) {now : ℕ} (hnow : ∀ t ∈ times, t < now)
    (hr : ∀ e ∈ r, e.state ∈ terminalStates) (x : ℕ) :
    Ordered (l ++ { attemptId := x, state := .queued, queuedAt := now, updatedAt := now } :: r)
      (times ++ [now]) := by
  constructor
  · intro e he
    rcases List.mem_append.mp he with hl | hin
    · obtain ⟨t, ht, heq⟩ := h.mem e (List.mem_append_left _ hl)
      exact ⟨t, List.mem_append_left _ ht, heq⟩
    · rcases List.mem_cons.mp hin with rfl | hr'
      · exact ⟨now, List.mem_append_right _ List.mem_cons_self, rfl⟩
      · obtain ⟨t, ht, heq⟩ := h.mem e (List.mem_append_right _ hr')
        exact ⟨t, List.mem_append_left _ ht, heq⟩
  · have hnil : openEntries r = [] := by
      refine List.filter_eq_nil_iff.mpr fun e he => ?_
      rw [decide_eq_true_eq, not_not]
      exact hr e he
    have hsorted := h.sorted
    have hqueued : (.queued : QueueState) ∉ terminalStates := by decide
    rw [openEntries_append, hnil, List.append_nil] at hsorted
    rw [openEntries_append, openEntries_cons_of_notMem hqueued, hnil, List.pairwise_append]
    refine ⟨hsorted, List.pairwise_singleton _ _, fun e he e' he' => ?_⟩
    obtain ⟨t, ht, heq⟩ := h.mem e (List.mem_append_left _ (mem_of_mem_openEntries he))
    rw [List.mem_singleton.mp he', heq]
    exact Int.ofNat_lt.mpr (hnow t ht)

lemma replace (h : Ordered (l ++ e :: r) times) (he : e.state ∉ terminalStates)
    (hqueued : e'.queuedAt = e.queuedAt) : Ordered (l ++ e' :: r) times := by
  constructor
  · intro a ha
    rcases List.mem_append.mp ha with hl | hin
    · exact h.mem a (List.mem_append_left _ hl)
    · rcases List.mem_cons.mp hin with rfl | hr
      · rw [hqueued]
        exact h.mem e (List.mem_append_right _ List.mem_cons_self)
      · exact h.mem a (List.mem_append_right _ (List.mem_cons_of_mem _ hr))
  · have hsorted := h.sorted
    rw [openEntries_append, openEntries_cons_of_notMem he, List.pairwise_append,
      List.pairwise_cons] at hsorted
    obtain ⟨hl, ⟨her, hr⟩, hlr⟩ := hsorted
    by_cases he' : e'.state ∈ terminalStates
    · rw [openEntries_append, openEntries_cons_of_mem he', List.pairwise_append]
      exact ⟨hl, hr, fun a ha b hb => hlr a ha b (List.mem_cons_of_mem _ hb)⟩
    · rw [openEntries_append, openEntries_cons_of_notMem he', List.pairwise_append,
        List.pairwise_cons]
      refine ⟨hl, ⟨fun b hb => ?_, hr⟩, fun a ha b hb => ?_⟩
      · rw [hqueued]
        exact her b hb
      · rcases List.mem_cons.mp hb with rfl | hin
        · rw [hqueued]
          exact hlr a ha e List.mem_cons_self
        · exact hlr a ha b (List.mem_cons_of_mem _ hin)

end Ordered

lemma Edit.ordered {queue' : Queue} {lease lease' : Option QueueLease}
    (hedit : Edit queue lease now enqueued queue' lease') (h : Ordered queue times)
    (hnow : enqueued ≠ none → ∀ t ∈ times, t < now)
    (hbehind : ∀ x, enqueued = some x → Behind queue x) :
    Ordered queue' (times ++ enqueued.toList.map fun _ => now) := by
  cases hedit with
  | append x hx hget =>
    subst hx
    rw [← List.append_nil queue] at h
    exact h.insert (hnow nofun) (by simp) x
  | requeue x l e r hx hqueue hget hidx hid hstate =>
    subst hx hqueue
    have hr : ∀ e' ∈ r, e'.state ∈ terminalStates := by
      have hdrop : (l ++ e :: r).drop (l.length + 1) = r := by
        rw [List.drop_length_add_append, List.drop_succ_cons, List.drop_zero]
      have hall := hbehind x rfl e hget hstate
      rwa [hidx, hdrop] at hall
    have hold : Ordered (l ++ r) times := by
      refine ⟨fun a ha => h.mem a ?_, ?_⟩
      · rcases List.mem_append.mp ha with hl | hr
        · exact List.mem_append_left _ hl
        · exact List.mem_append_right _ (List.mem_cons_of_mem _ hr)
      · have hsorted := h.sorted
        rw [openEntries_append, openEntries_cons_of_mem hstate, ← openEntries_append] at hsorted
        exact hsorted
    exact hold.insert (hnow nofun) hr x
  | lease leaseId l e r hqueue hlease hstate hl =>
    subst hqueue
    have hopen : e.state ∉ terminalStates := by
      rw [hstate]
      decide
    refine Ordered.mono ?_ fun t ht => List.mem_append_left _ ht
    exact h.replace hopen rfl
  | free l e r state hqueue hopen hstate =>
    subst hqueue
    refine Ordered.mono ?_ fun t ht => List.mem_append_left _ ht
    exact h.replace hopen rfl

/-! ## Runs in order -/

/-- The clock does not go back, and no two attempts are enqueued at the same time. -/
def Timed (sys : QueueSys) : QueueMove → Prop
  | .call now op _ => sys.clock ≤ now ∧ (op.enqueued ≠ none → now ∉ sys.enqueueTimes)
  | .start now _ => sys.clock ≤ now

/-- An attempt that is enqueued again has its old entry behind all those that are not terminal. -/
def InOrder (sys : QueueSys) : QueueMove → Prop
  | .call _ op _ => ∀ s ∈ sys.store, ∀ x ∈ op.enqueued, Behind s.snapshot.entries x
  | .start _ _ => True

instance (sys : QueueSys) : (move : QueueMove) → Decidable (Timed sys move)
  | .call now _ _ => inferInstanceAs (Decidable (sys.clock ≤ now ∧ (_ → now ∉ sys.enqueueTimes)))
  | .start now _ => inferInstanceAs (Decidable (sys.clock ≤ now))

instance (sys : QueueSys) : (move : QueueMove) → Decidable (InOrder sys move)
  | .call _ op _ =>
    inferInstanceAs (Decidable (∀ s ∈ sys.store, ∀ x ∈ op.enqueued, Behind s.snapshot.entries x))
  | .start _ _ => inferInstanceAs (Decidable True)

variable {code : LineCode UInt8 QueueEvent}

lemma Change.entries_writeUntil {disk : QueueDisk} (hs : s.snapshot = disk.loadSnapshot)
    (hchange : Change s now enqueued r) (cut : Cut) :
    (disk.writeUntil code r.2 cut).loadSnapshot.entries = s.snapshot.entries ∨
      (disk.writeUntil code r.2 cut).loadSnapshot.entries = r.1.snapshot.entries := by
  obtain ⟨writes, bytes⟩ := cut
  by_cases hlength : r.2.length ≤ writes
  · right
    have hall := hchange.loadSnapshot code hs
    rw [QueueDisk.writeUntil_of_length_le (le_refl _)] at hall
    rw [QueueDisk.writeUntil_of_length_le hlength, hall]
  · cases hchange with
    | none => exact absurd (Nat.zero_le _) hlength
    | commit entries lease type x hedit =>
      match writes with
      | 0 => exact .inl (congrArg QueueSnapshot.entries hs.symm)
      | 1 => exact .inr rfl
      | 2 => exact .inr rfl
      | n + 3 => exact absurd (Nat.le_add_left 3 n) hlength
    | clear =>
      match writes with
      | 0 => exact .inl (congrArg QueueSnapshot.entries hs.symm)
      | 1 => exact .inr rfl
      | n + 2 => exact absurd (Nat.le_add_left 2 n) hlength

lemma Change.ordered (hchange : Change s now enqueued r) (h : Ordered s.snapshot.entries times)
    (hnow : enqueued ≠ Option.none → ∀ t ∈ times, t < now)
    (hbehind : ∀ x, enqueued = some x → Behind s.snapshot.entries x) :
    Ordered r.1.snapshot.entries (times ++ enqueued.toList.map fun _ => now) := by
  cases hchange with
  | none => exact h.mono fun t ht => List.mem_append_left _ ht
  | commit entries lease type x hedit => exact hedit.ordered h hnow hbehind
  | clear => exact Ordered.nil

structure QueueSys.Sorted (code : LineCode UInt8 QueueEvent) (sys : QueueSys) : Prop where
  inv : sys.Inv code
  ordered : Ordered sys.disk.loadSnapshot.entries sys.enqueueTimes
  past : ∀ t ∈ sys.enqueueTimes, t ≤ sys.clock

lemma QueueSys.Sorted.init : Sorted code {} :=
  ⟨QueueSys.Inv.init, Ordered.nil, by simp⟩

lemma QueueSys.Sorted.finish {sys : QueueSys} (h : sys.Sorted code)
    (hs : s.snapshot = sys.disk.loadSnapshot) (hchange : Change s now enqueued r)
    (hclock : sys.clock ≤ now) (hfresh : enqueued ≠ none → now ∉ sys.enqueueTimes)
    (hbehind : ∀ x, enqueued = some x → Behind s.snapshot.entries x) (cut : Option Cut) :
    Ordered (sys.finish code now r cut).disk.loadSnapshot.entries
        (sys.enqueueTimes ++ enqueued.toList.map fun _ => now) ∧
      ∀ t ∈ sys.enqueueTimes ++ enqueued.toList.map fun _ => now, t ≤ now := by
  have hold := h.ordered
  rw [← hs] at hold
  constructor
  · have hnew := hchange.ordered hold (fun hne t ht => by
      have hle := (h.past t ht).trans hclock
      have hneq : t ≠ now := fun heq => hfresh hne (heq ▸ ht)
      omega) hbehind
    rcases hchange.entries_writeUntil hs (cut.getD ⟨r.2.length, 0⟩) with hsame | hlast
    · change Ordered (sys.disk.writeUntil code r.2 _).loadSnapshot.entries _
      rw [hsame]
      exact hold.mono fun t ht => List.mem_append_left _ ht
    · change Ordered (sys.disk.writeUntil code r.2 _).loadSnapshot.entries _
      rw [hlast]
      exact hnew
  · intro t ht
    rcases List.mem_append.mp ht with hpast | hnow
    · exact (h.past t hpast).trans hclock
    · obtain ⟨-, -, rfl⟩ := List.mem_map.mp hnow
      exact le_refl _

lemma QueueSys.Sorted.step {sys sys' : QueueSys} {move : QueueMove} (h : sys.Sorted code)
    (hmove : Timed sys move ∧ InOrder sys move) (hstep : sys.step code move = some sys') :
    sys'.Sorted code := by
  have hinv := h.inv.step hstep
  cases h.inv.stepped hstep with
  | failed s now op cut hstore =>
    obtain ⟨hordered, hpast⟩ := h.finish (h.inv.snapshot s hstore) .none
      hmove.1.1 (fun hne => absurd rfl hne) (fun x hx => nomatch hx) cut
    rw [Option.toList_none, List.map_nil, List.append_nil] at hordered hpast
    exact ⟨hinv, hordered, hpast⟩
  | call s now op cut answer r hstore hfresh hperform hchange =>
    obtain ⟨hordered, hpast⟩ := h.finish (h.inv.snapshot s hstore) hchange hmove.1.1 hmove.1.2
      (hmove.2 s hstore) cut
    exact ⟨hinv, hordered, hpast⟩
  | start s now cut r hs hchange hnone =>
    obtain ⟨hordered, hpast⟩ := h.finish hs hchange hmove.1 (fun hne => absurd rfl hne)
      (fun x hx => nomatch hx) cut
    rw [Option.toList_none, List.map_nil, List.append_nil] at hordered hpast
    exact ⟨hinv, hordered, hpast⟩

def FirstInFirstOut (s : QueueStore) : Prop :=
  ∀ now leaseId lease, (s.acquireNextLease now leaseId).1 = some lease →
    ∃ e ∈ s.snapshot.entries, e.attemptId = lease.attemptId ∧ e.state = .queued ∧
      ∀ e' ∈ s.snapshot.entries, e'.state = .queued → e' ≠ e → e.queuedAt < e'.queuedAt

lemma Ordered.firstInFirstOut (h : Ordered s.snapshot.entries times) : FirstInFirstOut s:= by
  intro now leaseId lease hlease
  unfold QueueStore.acquireNextLease at hlease
  split at hlease
  · cases hlease
  · split at hlease
    · cases hlease
    · next e hfind =>
      cases hlease
      obtain ⟨l, r, hqueue, he, hl, -⟩ := Queue.exists_of_find? hfind
      have hstate : e.state = .queued := of_decide_eq_true he
      have hqueued : ∀ a : QueueEntry, a.state = .queued → a.state ∉ terminalStates := by
        intro a ha
        rw [ha]
        decide
      refine ⟨e, List.mem_of_find?_eq_some hfind, rfl, hstate, fun e' he' hstate' hne => ?_⟩
      have hsorted := h.sorted
      rw [hqueue, openEntries_append, openEntries_cons_of_notMem (hqueued e hstate),
        List.pairwise_append, List.pairwise_cons] at hsorted
      rw [hqueue] at he'
      rcases List.mem_append.mp he' with hin | hin
      · exact absurd hstate' (of_decide_eq_false (hl e' hin))
      · rcases List.mem_cons.mp hin with rfl | hr
        · exact absurd rfl hne
        · refine hsorted.2.1.1 e' (List.mem_filter.mpr ⟨hr, ?_⟩)
          rw [decide_eq_true_eq]
          exact hqueued e' hstate'

/-- As long as an attempt that is queued again has its old entry behind all open ones, the attempt
that was queued first is leased first. -/
theorem first_in_first_out (code : LineCode UInt8 QueueEvent) {moves : List QueueMove}
    {sys : QueueSys} (htimed : AlongRun (QueueSys.step code) Timed moves {})
    (horder : AlongRun (QueueSys.step code) InOrder moves {})
    (hrun : QueueSys.run code moves {} = some sys) {s : QueueStore} (hs : sys.store = some s) :
    FirstInFirstOut s := by
  have hsorted : sys.Sorted code := runSteps_induction_of_along
    (fun _ _ _ h hmove hstep => h.step hmove hstep) QueueSys.Sorted.init (htimed.and horder) hrun
  have hordered := hsorted.ordered
  rw [← hsorted.inv.snapshot s hs] at hordered
  exact hordered.firstInFirstOut

def twoMoves : List QueueMove :=
  [.start 0 none, .call 1 (.enqueue 7) none, .call 2 (.acquireNextLease 100) none,
    .call 3 (.release 100 .completed) none, .call 4 (.enqueue 8) none]

def againMoves : List QueueMove :=
  twoMoves ++ [.call 5 (.acquireNextLease 101) none, .call 6 (.release 101 .failed) none,
    .call 7 (.enqueue 7) (some ⟨1, 0⟩), .start 8 none, .call 9 (.enqueue 8) none]

theorem first_in_first_out_againMoves :
    ∃ sys s, QueueSys.run queueCode againMoves {} = some sys ∧ sys.store = some s ∧
      s.snapshot.entries.map QueueEntry.queuedAt = [7, 9] ∧ FirstInFirstOut s := by
  obtain ⟨sys, hrun, hsys⟩ := Option.map_eq_some_iff.mp
    (by decide : (QueueSys.run queueCode againMoves {}).map
      (fun sys => sys.store.map fun s => s.snapshot.entries.map QueueEntry.queuedAt) =
        some (some [7, 9]))
  obtain ⟨s, hs, hentries⟩ := Option.map_eq_some_iff.mp hsys
  exact ⟨sys, s, hrun, hs, hentries,
    first_in_first_out queueCode (by decide) (by decide) hrun hs⟩

/-- The first of two attempts is queued again while the second one waits, and it is leased first. -/
theorem not_first_in_first_out :
    ¬ ∀ (moves : List QueueMove) (sys : QueueSys) (s : QueueStore),
      AlongRun (QueueSys.step queueCode) Timed moves {} →
      QueueSys.run queueCode moves {} = some sys → sys.store = some s → FirstInFirstOut s := by
  intro hall
  let moves := twoMoves ++ [.call 5 (.enqueue 7) none]
  obtain ⟨sys, hrun, hsys⟩ := Option.map_eq_some_iff.mp
    (by decide : (QueueSys.run queueCode moves {}).map
      (fun sys => sys.store.map fun s => (s.snapshot.entries, (s.acquireNextLease 6 101).1)) =
        some (some ([⟨7, .queued, 5, 5⟩, ⟨8, .queued, 4, 4⟩], some ⟨101, 7, 6⟩)))
  obtain ⟨s, hs, hvalue⟩ := Option.map_eq_some_iff.mp hsys
  obtain ⟨hentries, hlease⟩ := Prod.mk.inj hvalue
  obtain ⟨e, he, hid, -, hfirst⟩ := hall moves sys s (by decide) hrun hs 6 101 _ hlease
  rw [hentries] at he hfirst
  rcases List.mem_pair.mp he with rfl | rfl
  · have hlt := hfirst ⟨8, .queued, 4, 4⟩ (by decide) rfl (by decide)
    exact absurd hlt (by decide)
  · exact absurd hid (by decide)

end VacancyRadar.Daemon
