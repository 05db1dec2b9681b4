import VacancyRadar.Daemon.QueueRuns

/-!
# The replay history of the queue store

What `#loadRecentEvents` finds after a restart, if no line was ever left in part.
-/

namespace VacancyRadar.Daemon

open Data

variable {code : LineCode UInt8 QueueEvent} {sys sys' : QueueSys} {history logged : List QueueEvent}
  {disk : QueueDisk} {s : QueueStore} {r : QueueStore × List QueueWrite}

/-! ## What was appended -/

/-- The writes of a move, and how far they come. -/
def QueueSys.writes (code : LineCode UInt8 QueueEvent) (sys : QueueSys) : QueueMove → List QueueWrite × Cut
  | .call now op cut =>
    match sys.store with
    | none => ([], ⟨0, 0⟩)
    | some s =>
      match s.perform now op with
      | .error _ => ([], cut.getD ⟨0, 0⟩)
      | .ok (_, r) => (r.2, cut.getD ⟨r.2.length, 0⟩)
  | .start now cut =>
    let writes := (QueueStore.construct code sys.disk now).2
    (writes, cut.getD ⟨writes.length, 0⟩)

def Cut.IsWhole (code : LineCode UInt8 QueueEvent) (cut : Cut) : QueueWrite → Prop
  | .append event => (code.line event).length ≤ cut.bytes
  | _ => False

instance (code : LineCode UInt8 QueueEvent) (cut : Cut) : DecidablePred (cut.IsWhole code)
  | .append _ => inferInstanceAs (Decidable (_ ≤ _))
  | .persist _ => inferInstanceAs (Decidable False)
  | .truncate => inferInstanceAs (Decidable False)

def appended (code : LineCode UInt8 QueueEvent) (writes : List QueueWrite) (cut : Cut) : List QueueEvent :=
  (writes.take cut.writes ++ (writes[cut.writes]?.filter (cut.IsWhole code ·)).toList).filterMap QueueWrite.event?

def Untorn (code : LineCode UInt8 QueueEvent) (writes : List QueueWrite) (cut : Cut) : Prop :=
  ∀ event, writes[cut.writes]? = some (.append event) → cut.bytes = 0 ∨ (code.line event).length ≤ cut.bytes

/-- Runs, with the events of all appends that were completed, in which the process never ends within a line. -/
inductive UntornRun (code : LineCode UInt8 QueueEvent) : QueueSys → List QueueEvent → Prop
  | init : UntornRun code {} []
  | step {sys sys' : QueueSys} {history : List QueueEvent} {move : QueueMove} (h : UntornRun code sys history)
      (hstep : sys.step code move = some sys')
      (huntorn : Untorn code (sys.writes code move).1 (sys.writes code move).2) :
      UntornRun code sys' (history ++ appended code (sys.writes code move).1 (sys.writes code move).2)

def lastEvents (events : List QueueEvent) : List QueueEvent := events.drop (events.length - maxReplayEvents)

def above (floor : ℕ) (events : List QueueEvent) : List QueueEvent := events.filter fun event => floor ≤ event.seq

/-! ## Loading -/

lemma mapM_decode (events : List QueueEvent) : (events.map code.encode).mapM code.decode = some events := by
  induction events with
  | nil => rfl
  | cons event events ih =>
    rw [List.map_cons, List.mapM_cons, ih, code.decode_encode]
    rfl

lemma loadRecentEvents_render (h : disk.log = code.render logged) (floor : ℕ) :
    disk.loadRecentEvents code floor = lastEvents (above floor logged) := by
  have hlines : (disk.log.splitOn code.newline).filter (fun line => line ≠ []) = logged.map code.encode := by
    have hsplit : (code.render logged ++ []).splitOn code.newline = logged.map code.encode ++ [[]] :=
      code.splitOn_render List.not_mem_nil
    rw [List.append_nil] at hsplit
    rw [h, hsplit, List.filter_append, List.filter_eq_self.mpr]
    · exact List.append_nil _
    · intro line hline
      obtain ⟨event, -, rfl⟩ := List.mem_map.mp hline
      exact decide_eq_true code.encode_ne_nil
  rw [QueueDisk.loadRecentEvents, hlines, mapM_decode]
  rfl

lemma lastEvents_append (events : List QueueEvent) (event : QueueEvent) :
    lastEvents (events ++ [event]) =
      if maxReplayEvents < (lastEvents events ++ [event]).length then (lastEvents events ++ [event]).tail
      else lastEvents events ++ [event] := by
  have hlength : (lastEvents events ++ [event]).length = min events.length maxReplayEvents + 1 := by
    rw [lastEvents, List.length_append, List.length_drop, List.length_singleton]
    omega
  rw [hlength, lastEvents, lastEvents, List.length_append, List.length_singleton]
  generalize maxReplayEvents = limit
  split
  · next hmany =>
    have hdrop : (events ++ [event]).drop (events.length - limit) = events.drop (events.length - limit) ++ [event] :=
      List.drop_append_of_le_length (Nat.sub_le _ _)
    have hcount : events.length + 1 - limit = events.length - limit + 1 := by omega
    rw [← hdrop, ← List.drop_one, List.drop_drop, hcount]
  · next hfew =>
    rw [Nat.sub_eq_zero_of_le (by omega), Nat.sub_eq_zero_of_le (by omega)]
    rfl

/-! ## What is kept -/

structure Remembers (code : LineCode UInt8 QueueEvent) (disk : QueueDisk) (history : List QueueEvent) : Prop where
  log : ∃ gone logged, disk.log = code.render logged ∧ history = gone ++ logged ∧
    ∀ event ∈ gone, event.seq < disk.loadSnapshot.eventReplayFloor
  floor_le : disk.loadSnapshot.eventReplayFloor ≤ disk.loadSnapshot.nextEventSeq
  before : ∀ event ∈ history, Before disk.loadSnapshot.nextEventSeq event
  ascending : history.Pairwise fun event event' => event.seq < event'.seq

lemma above_eq_nil {floor : ℕ} (h : ∀ event ∈ history, event.seq < floor) : above floor history = [] :=
  List.filter_eq_nil_iff.mpr fun event hevent => by simpa using h event hevent

lemma Remembers.load (h : Remembers code disk history) :
    disk.loadRecentEvents code disk.loadSnapshot.eventReplayFloor =
      lastEvents (above disk.loadSnapshot.eventReplayFloor history) := by
  obtain ⟨gone, logged, hlog, rfl, hgone⟩ := h.log
  have happend : above disk.loadSnapshot.eventReplayFloor (gone ++ logged) =
      above _ gone ++ above disk.loadSnapshot.eventReplayFloor logged := List.filter_append ..
  rw [loadRecentEvents_render hlog, happend, above_eq_nil hgone, List.nil_append]

lemma above_append_self {floor : ℕ} (history : List QueueEvent) (event : QueueEvent) (h : floor ≤ event.seq) :
    above floor (history ++ [event]) = above floor history ++ [event] := by
  simp [above, List.filter_append, h]

variable {snapshot : QueueSnapshot} {enqueued : Option ℕ} {now : ℕ}

lemma Remembers.persist (h : Remembers code disk history)
    (hnext : snapshot.nextEventSeq = disk.loadSnapshot.nextEventSeq)
    (hfloor : snapshot.eventReplayFloor = disk.loadSnapshot.eventReplayFloor ∨
      snapshot.eventReplayFloor = disk.loadSnapshot.nextEventSeq) :
    Remembers code { disk with snapshot := some snapshot } history := by
  obtain ⟨gone, logged, hlog, hhistory, hgone⟩ := h.log
  refine ⟨⟨gone, logged, hlog, hhistory, fun event hevent => ?_⟩, ?_, fun event hevent => ?_, h.ascending⟩
  · show event.seq < snapshot.eventReplayFloor
    rcases hfloor with heq | heq
    · exact heq ▸ hgone event hevent
    · exact heq ▸ h.before event (hhistory ▸ List.mem_append_left _ hevent)
  · show snapshot.eventReplayFloor ≤ snapshot.nextEventSeq
    rcases hfloor with heq | heq
    · exact heq.le.trans (h.floor_le.trans hnext.ge)
    · exact heq.le.trans hnext.ge
  · show event.seq < snapshot.nextEventSeq
    exact hnext ▸ h.before event hevent

lemma Remembers.append (h : Remembers code { disk with snapshot := some snapshot } history)
    (event : QueueEvent) (hevent : event.seq = snapshot.nextEventSeq) :
    Remembers code { snapshot := some { snapshot with nextEventSeq := snapshot.nextEventSeq + 1 }, log := disk.log }
        history ∧
      Remembers code
        { snapshot := some { snapshot with nextEventSeq := snapshot.nextEventSeq + 1 }
          log := disk.log ++ code.line event } (history ++ [event]) := by
  obtain ⟨gone, logged, hlog, hhistory, hgone⟩ := h.log
  have hbefore : ∀ e ∈ history, e.seq < snapshot.nextEventSeq + 1 := fun e he => Nat.lt_succ_of_lt (h.before e he)
  have hfloor : snapshot.eventReplayFloor ≤ snapshot.nextEventSeq + 1 := h.floor_le.trans (Nat.le_succ _)
  refine ⟨⟨⟨gone, logged, hlog, hhistory, hgone⟩, hfloor, hbefore, h.ascending⟩,
    ⟨⟨gone, logged ++ [event], ?_, ?_, hgone⟩, hfloor, fun e he => ?_, ?_⟩⟩
  · rw [code.render_append, ← hlog]
    exact congrArg (disk.log ++ ·) (List.append_nil _).symm
  · rw [hhistory, List.append_assoc]
  · rcases List.mem_append.mp he with hold | hnew
    · exact hbefore e hold
    · rw [List.mem_singleton.mp hnew]
      exact Nat.lt_succ_of_le hevent.le
  · refine List.pairwise_append.mpr ⟨h.ascending, List.pairwise_singleton _ _, fun e he e' he' => ?_⟩
    rw [List.mem_singleton.mp he', hevent]
    exact h.before e he

lemma appended_of_length_le {writes : List QueueWrite} {cut : Cut} (h : writes.length ≤ cut.writes) :
    appended code writes cut = writes.filterMap QueueWrite.event? := by
  rw [appended, List.take_of_length_le h, List.getElem?_eq_none h]
  exact congrArg _ (List.append_nil _)

lemma appended_two (first second : QueueSnapshot) (event : QueueEvent) (bytes : ℕ) :
    appended code [.persist first, .persist second, .append event] ⟨2, bytes⟩ =
      if (code.line event).length ≤ bytes then [event] else [] := by
  show List.filterMap QueueWrite.event? ([.persist first, .persist second] ++
    (if decide (Cut.IsWhole code ⟨2, bytes⟩ (.append event)) then some (QueueWrite.append event) else none).toList) = _
  by_cases h : Cut.IsWhole code ⟨2, bytes⟩ (.append event)
  · rw [if_pos (decide_eq_true h)]
    exact (if_pos h).symm
  · rw [if_neg fun hwhole => h (of_decide_eq_true hwhole)]
    exact (if_neg h).symm

lemma Remembers.change (h : Remembers code disk history) (hs : s.snapshot = disk.loadSnapshot)
    (hchange : Change s now enqueued r) (cut : Cut) (huntorn : Untorn code r.2 cut) :
    Remembers code (disk.writeUntil code r.2 cut) (history ++ appended code r.2 cut) := by
  obtain ⟨writes, bytes⟩ := cut
  cases hchange with
  | none =>
    have hwrite : disk.writeUntil code [] ⟨writes, bytes⟩ = disk := by
      rw [QueueDisk.writeUntil, List.take_nil]
      rfl
    have hnone : appended code [] ⟨writes, bytes⟩ = [] := by
      rw [appended, List.take_nil]
      rfl
    rw [hwrite, hnone, List.append_nil]
    exact h
  | commit entries lease type x hedit =>
    have hpersist : Remembers code { disk with snapshot := some { s.snapshot with entries, lease } } history :=
      h.persist (congrArg QueueSnapshot.nextEventSeq hs :) (.inl (congrArg QueueSnapshot.eventReplayFloor hs :))
    have hline := hpersist.append ⟨s.snapshot.nextEventSeq, now, type, x⟩ rfl
    rcases writes with _ | _ | _ | n
    · rw [← List.append_nil history] at h
      exact h
    · rw [← List.append_nil history] at hpersist
      exact hpersist
    · have hdisk : disk.writeUntil code (s.commit entries lease now type x).2 ⟨2, bytes⟩ =
          { snapshot := some { s.snapshot with entries, lease, nextEventSeq := s.snapshot.nextEventSeq + 1 }
            log := disk.log ++ (code.line ⟨s.snapshot.nextEventSeq, now, type, x⟩).take bytes } := rfl
      have hevents : appended code (s.commit entries lease now type x).2 ⟨2, bytes⟩ =
          if (code.line ⟨s.snapshot.nextEventSeq, now, type, x⟩).length ≤ bytes then
            [⟨s.snapshot.nextEventSeq, now, type, x⟩] else [] := appended_two _ _ _ bytes
      rw [hdisk, hevents]
      rcases huntorn _ rfl with hnone | hall
      · obtain rfl : bytes = 0 := hnone
        rw [if_neg (by simp [LineCode.line]), List.append_nil, List.take_zero, List.append_nil]
        exact hline.1
      · rw [if_pos hall, List.take_of_length_le hall]
        exact hline.2
    · have hlength : (s.commit entries lease now type x).2.length ≤ n + 3 := Nat.le_add_left 3 n
      rw [QueueDisk.writeUntil_of_length_le hlength, appended_of_length_le hlength]
      exact hline.2
  | clear =>
    have hpersist : Remembers code { disk with snapshot := some (emptySnapshot s.snapshot.nextEventSeq) } history :=
      h.persist (congrArg QueueSnapshot.nextEventSeq hs :) (.inr (congrArg QueueSnapshot.nextEventSeq hs :))
    rcases writes with _ | _ | n
    · rw [← List.append_nil history] at h
      exact h
    · rw [← List.append_nil history] at hpersist
      exact hpersist
    · have hlength : s.clear.2.2.length ≤ n + 2 := Nat.le_add_left 2 n
      rw [QueueDisk.writeUntil_of_length_le hlength, appended_of_length_le hlength]
      refine ⟨⟨history, [], rfl, rfl, fun event hevent => ?_⟩, le_rfl, ?_, ?_⟩
      · exact hpersist.before event hevent
      · exact (List.append_nil history).symm ▸ hpersist.before
      · exact (List.append_nil history).symm ▸ hpersist.ascending

/-- What the constructor reads. -/
def loadedStore (code : LineCode UInt8 QueueEvent) (disk : QueueDisk) : QueueStore where
  snapshot := disk.loadSnapshot
  recentEvents := disk.loadRecentEvents code disk.loadSnapshot.eventReplayFloor

lemma Remembers.loadedStore (h : Remembers code disk history) : (loadedStore code disk).recentEvents =
    lastEvents (above (Daemon.loadedStore code disk).snapshot.eventReplayFloor history) := by
  dsimp only [Daemon.loadedStore]
  rw [h.load]

lemma Remembers.recentEvents (h : Remembers code disk history) (hs : s.snapshot = disk.loadSnapshot)
    (hrecent : s.recentEvents = lastEvents (above s.snapshot.eventReplayFloor history))
    (hchange : Change s now enqueued r) : r.1.recentEvents =
      lastEvents (above r.1.snapshot.eventReplayFloor (history ++ r.2.filterMap QueueWrite.event?)) := by
  cases hchange with
  | none => exact (List.append_nil history).symm ▸ hrecent
  | commit entries lease type x hedit =>
    have hfloor : s.snapshot.eventReplayFloor ≤ s.snapshot.nextEventSeq := hs ▸ h.floor_le
    have habove := above_append_self history ⟨s.snapshot.nextEventSeq, now, type, x⟩ hfloor
    have hlast := lastEvents_append (above s.snapshot.eventReplayFloor history)
      ⟨s.snapshot.nextEventSeq, now, type, x⟩
    rw [← habove, ← hrecent] at hlast
    exact hlast.symm
  | clear =>
    have hnone : above s.snapshot.nextEventSeq history = [] := above_eq_nil (hs ▸ h.before)
    show [] = lastEvents (above s.snapshot.nextEventSeq (history ++ []))
    rw [List.append_nil, hnone]
    rfl

/-! ## Runs -/

lemma appended_written (writes : List QueueWrite) :
    appended code writes ⟨writes.length, 0⟩ = writes.filterMap QueueWrite.event? :=
  appended_of_length_le le_rfl

lemma Remembers.finish (h : Remembers code sys.disk history)
    (hs : s.snapshot = sys.disk.loadSnapshot)
    (hrecent : s.recentEvents = lastEvents (above s.snapshot.eventReplayFloor history))
    (hchange : Change s now enqueued r) (cut : Option Cut)
    (huntorn : Untorn code r.2 (cut.getD ⟨r.2.length, 0⟩)) :
    Remembers code (sys.finish code now r cut).disk (history ++ appended code r.2 (cut.getD ⟨r.2.length, 0⟩)) ∧
      ∀ s', (sys.finish code now r cut).store = some s' → s'.recentEvents = lastEvents
        (above s'.snapshot.eventReplayFloor (history ++ appended code r.2 (cut.getD ⟨r.2.length, 0⟩))) := by
  refine ⟨h.change hs hchange _ huntorn, fun s' hs' => ?_⟩
  cases cut with
  | some cut => cases hs'
  | none =>
    cases hs'
    rw [Option.getD_none, appended_written]
    exact h.recentEvents hs hrecent hchange

structure Recalls (code : LineCode UInt8 QueueEvent) (sys : QueueSys) (history : List QueueEvent) : Prop where
  inv : sys.Inv code
  disk : Remembers code sys.disk history
  recent : ∀ s, sys.store = some s → s.recentEvents = lastEvents (above s.snapshot.eventReplayFloor history)

lemma Recalls.step {move : QueueMove} (h : Recalls code sys history) (hstep : sys.step code move = some sys')
    (huntorn : Untorn code (sys.writes code move).1 (sys.writes code move).2) :
    Recalls code sys' (history ++ appended code (sys.writes code move).1 (sys.writes code move).2) := by
  have hinv := h.inv.step hstep
  cases move with
  | call now op cut =>
    cases hstore : sys.store with
    | none =>
      rw [QueueSys.step, hstore] at hstep
      cases hstep
    | some s =>
      rw [QueueSys.step, hstore] at hstep
      rw [QueueSys.writes, hstore] at huntorn ⊢
      dsimp only at hstep huntorn ⊢
      split at hstep
      · cases hstep
      · cases hperform : s.perform now op with
        | error error =>
          rw [hperform] at hstep huntorn
          cases hstep
          obtain ⟨hdisk, hrecent⟩ := h.disk.finish (h.inv.snapshot s hstore) (h.recent s hstore)
            (.none : Change s now none (s, [])) cut huntorn
          exact ⟨hinv, hdisk, hrecent⟩
        | ok result =>
          rw [hperform] at hstep huntorn
          cases hstep
          have hleased := h.inv.kept.leased
          rw [← h.inv.snapshot s hstore] at hleased
          obtain ⟨hdisk, hrecent⟩ := h.disk.finish (h.inv.snapshot s hstore) (h.recent s hstore)
            (QueueStore.perform_change hleased hperform) cut huntorn
          exact ⟨hinv, hdisk, hrecent⟩
  | start now cut =>
    cases hstore : sys.store with
    | some s =>
      rw [QueueSys.step, hstore] at hstep
      cases hstep
    | none =>
      rw [QueueSys.step, hstore] at hstep
      cases hstep
      rw [QueueSys.writes, h.inv.kept.construct_eq] at huntorn ⊢
      rw [h.inv.kept.construct_eq] at hinv
      obtain ⟨hdisk, hrecent⟩ := h.disk.finish (s := loadedStore code sys.disk) rfl h.disk.loadedStore
        (QueueStore.reconcile_change h.inv.kept.leased now) cut huntorn
      exact ⟨hinv, hdisk, hrecent⟩

lemma Recalls.init : Recalls code {} [] where
  inv := QueueSys.Inv.init
  disk := ⟨⟨[], [], rfl, rfl, by simp⟩, le_rfl, by simp, List.Pairwise.nil⟩
  recent s hs := by cases hs

def oneEvent : QueueSys := (QueueSys.run queueCode [.start 0 none, .call 1 (.enqueue 7) none] {}).getD {}

/-- The second event is cut off, the third one is written behind it, and then the process is started again. -/
def tornMoves : List QueueMove :=
  [.start 0 none, .call 1 (.enqueue 7) none, .call 2 (.cancel 7) (some ⟨2, 9⟩), .start 3 none,
    .call 4 (.enqueue 8) none, .call 5 (.skip 8) (some ⟨0, 0⟩), .start 6 none]

end VacancyRadar.Daemon
