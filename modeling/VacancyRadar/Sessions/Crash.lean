import VacancyRadar.Sessions.Lineages

/-!
# Recovery after a crash

In a run in which all writes succeed, a log has the events `0, 1, …` of its session, and after them at
most one terminal event.  A crash can take away events at the end, but nothing else.  So a startup can
tell how every session ended, and when it has written that down, the next one has nothing to do.
-/

namespace VacancyRadar.Sessions

open Data

variable {Content : Type} {format : Format Content} {policy : RetentionPolicy}

/-! ## The events of a session -/

def Numbered (es : List (EventRecord Content)) : Prop :=
  es.map EventRecord.sequence = List.range es.length ∧ ∀ e ∈ es, e.terminalType = none

def Recorded (record : SessionRecord) (es : List (EventRecord Content)) : Prop :=
  ∃ body last, es = body ++ last ∧ Numbered body ∧
    (last = [] ∨ ∃ e t, last = [e] ∧ e.terminalType = some t ∧ body.length ≤ e.sequence ∧
      (record.status.isTerminal = true →
        record.status = t.outcome.1 ∧ record.terminalReason = some t.outcome.2))

lemma Numbered.nil : Numbered ([] : List (EventRecord Content)) := ⟨rfl, fun _ h => nomatch h⟩

variable {es es' : List (EventRecord Content)} {e : EventRecord Content} {s : SessionFiles}
  {T : List (ℕ × TerminalLogType)} {m : Session}

lemma Numbered.concat (h : Numbered es) (hsequence : e.sequence = es.length)
    (hterminal : e.terminalType = none) : Numbered (es ++ [e]):= by
  constructor
  · rw [List.map_append, h.1, List.length_append, List.length_singleton, List.range_succ,
      List.map_singleton, hsequence]
  · intro e' he'
    rcases List.mem_append.mp he' with hold | hlast
    · exact h.2 e' hold
    · rw [List.mem_singleton.mp hlast]
      exact hterminal

lemma Numbered.of_isPrefix (h : Numbered es) (hes : es' <+: es) : Numbered es':= by
  obtain ⟨rest, rfl⟩ := hes
  refine ⟨?_, fun e he => h.2 e (List.mem_append_left _ he)⟩
  have hmap := h.1
  rw [List.map_append, List.length_append, List.range_add] at hmap
  exact (List.append_inj hmap (by simp)).1

lemma Numbered.sequence_lt (h : Numbered es) (he : e ∈ es) : e.sequence < es.length:= by
  have hmem : e.sequence ∈ es.map EventRecord.sequence := List.mem_map_of_mem he
  rw [h.1] at hmem
  exact List.mem_range.mp hmem

lemma Numbered.ascending (h : Numbered es) : LineCode.Ascending EventRecord.sequence es:= by
  have hlt := List.pairwise_lt_range (n := es.length)
  rw [← h.1, List.pairwise_map] at hlt
  exact hlt

variable {record : SessionRecord} {now : ℕ}

lemma Recorded.ascending (h : Recorded record es) : LineCode.Ascending EventRecord.sequence es:= by
  obtain ⟨body, last, rfl, hbody, rfl | ⟨e, t, rfl, -, hle, -⟩⟩ := h
  · rw [List.append_nil]
    exact hbody.ascending
  · refine List.pairwise_append.mpr ⟨hbody.ascending, List.pairwise_singleton .., ?_⟩
    intro e' he' e'' he''
    rw [List.mem_singleton.mp he'']
    have := hbody.sequence_lt he'
    omega

lemma Recorded.of_isPrefix (h : Recorded record es) (hes : es' <+: es) : Recorded record es':= by
  obtain ⟨body, last, rfl, hbody, hlast⟩ := h
  have hshort : es' <+: body → Recorded record es' := fun hbegin =>
    ⟨es', [], (List.append_nil _).symm, hbody.of_isPrefix hbegin, .inl rfl⟩
  rcases hlast with rfl | ⟨e, t, rfl, hrest⟩
  · rw [List.append_nil] at hes
    exact hshort hes
  · rcases List.prefix_concat_iff.mp hes with rfl | hbegin
    · exact ⟨body, [e], rfl, hbody, .inr ⟨e, t, rfl, hrest⟩⟩
    · exact hshort hbegin

lemma Recorded.lastTerminal (h : Recorded record es) : (Job.lastTerminal es = none ∧ Numbered es) ∨
      ∃ body e t, es = body ++ [e] ∧ Numbered body ∧ e.terminalType = some t ∧
        Job.lastTerminal es = some t ∧ body.length ≤ e.sequence ∧
        (record.status.isTerminal = true →
          record.status = t.outcome.1 ∧ record.terminalReason = some t.outcome.2) := by
  obtain ⟨body, last, rfl, hbody, hlast⟩ := h
  have hnone : body.filterMap EventRecord.terminalType = [] :=
    List.filterMap_eq_nil_iff.mpr hbody.2
  rcases hlast with rfl | ⟨e, t, rfl, hterminal, hle, hrecord⟩
  · rw [List.append_nil, Job.lastTerminal, hnone]
    exact .inl ⟨rfl, hbody⟩
  · refine .inr ⟨body, e, t, rfl, hbody, hterminal, ?_, hle, hrecord⟩
    rw [Job.lastTerminal, List.filterMap_append, hnone]
    simp [hterminal]

lemma Numbered.recorded_concat (h : Numbered es) (hopen : record.status.isTerminal = false)
    (hsequence : e.terminalType = none → e.sequence = es.length) (hle : es.length ≤ e.sequence) :
    Recorded record (es ++ [e]):= by
  cases hterminal : e.terminalType with
  | none =>
    exact ⟨es ++ [e], [], (List.append_nil _).symm, h.concat (hsequence hterminal) hterminal, .inl rfl⟩
  | some t =>
    refine ⟨es, [e], rfl, h, .inr ⟨e, t, rfl, hterminal, hle, fun hover => ?_⟩⟩
    rw [hopen] at hover
    cases hover

lemma Numbered.recorded (h : Numbered es) (record : SessionRecord) : Recorded record es:=
  ⟨es, [], (List.append_nil _).symm, h, .inl rfl⟩

/-! ## The files of a session -/

def LogRecorded (format : Format Content) (s : SessionFiles) : Prop :=
  format.code.Stopped s.log ∧ Recorded s.record (format.code.read s.log)

lemma LogRecorded.entries (h : LogRecorded format s) : s.entries format = format.code.read s.log:= by
  rw [SessionFiles.entries, (h.1.written.repair).1, LineCode.ascending_zero_eq_self h.2.ascending]

lemma LogRecorded.of_render (hlog : s.log = format.code.render es) (h : Recorded s.record es) :
    LogRecorded format s:= by
  rw [LogRecorded, hlog, LineCode.read_render_nil]
  exact ⟨LineCode.Stopped.render es, h⟩

variable (format) in
lemma LogRecorded.append_take (h : Recorded record (es ++ [e])) (cut : ℕ) :
    LogRecorded format ⟨record, format.code.render es ++ (format.code.line e).take cut⟩ := by
  obtain ⟨hstopped, es', hes', hread⟩ := LineCode.stopped_take_line format.code e cut
  refine ⟨hstopped, ?_⟩
  rw [hread]
  exact h.of_isPrefix ((List.prefix_append_right_inj es).mpr hes')

lemma LogRecorded.tear (h : LogRecorded format s) (n : ℕ) :
    LogRecorded format { s with log := format.code.tear n s.log } := by
  obtain ⟨hstopped, hbegin⟩ := h.1.tear n
  exact ⟨hstopped, h.2.of_isPrefix hbegin⟩

lemma LogRecorded.read (h : LogRecorded format s) (hread : Read format T m s) :
    ∃ es, s.log = format.code.render es ∧ m.lines = es.length ∧ s.entries format = es ∧
      Recorded s.record es := by
  obtain ⟨es, hlog, hlines, -⟩ := hread.log
  have hes : format.code.read s.log = es := by
    rw [hlog, LineCode.read_render_nil]
  exact ⟨es, hlog, hlines, h.entries.trans hes, hes ▸ h.2⟩

lemma LogRecorded.numbered (h : LogRecorded format s) (hread : Read format T m s)
    (hnone : T.lookup m.record.id = none) :
    ∃ es, s.log = format.code.render es ∧ m.lines = es.length ∧ s.entries format = es ∧
      Numbered es ∧ es.length ≤ m.record.eventCount := by
  obtain ⟨es, hlog, hlines, hentries, hrecorded⟩ := h.read hread
  have hlast : Job.lastTerminal es = none := by
    rw [← hentries, ← hread.terminal, hnone]
  rcases hrecorded.lastTerminal with ⟨-, hnumbered⟩ | ⟨_, _, _, -, -, -, hsome, -⟩
  · exact ⟨es, hlog, hlines, hentries, hnumbered, hlines ▸ hread.lines_le⟩
  · rw [hlast] at hsome
    cases hsome

lemma Numbered.recorded_interrupted (h : Numbered es) {sequence : ℕ} (hle : es.length ≤ sequence)
    (hrecord : record.status.isTerminal = true →
      record.status = .interrupted ∧ record.terminalReason = some .daemonRestart) :
    Recorded record (es ++ [interruptedEventRecord sequence now]) :=
  ⟨es, _, rfl, h, .inr ⟨_, .interrupted, rfl, rfl, hle, hrecord⟩⟩

lemma recovers_logRecorded (now : ℕ) : Recovers format True now (LogRecorded format) := by
  have hopen : ∀ {T : List (ℕ × TerminalLogType)} {m : Session} {s : SessionFiles},
      Read format T m s → m.record.status.isTerminal = false →
      s.record.status.isTerminal = true → False := by
    intro T m s hread hstatus hover
    rw [hread.status, hover] at hstatus
    cases hstatus
  constructor
  · exact fun s hs => hs.1.written
  · intro s hs
    refine LogRecorded.of_render (repaired_log hs.1.written).1 ?_
    rw [hs.entries]
    exact hs.2
  · intro T m s t hread hs hstatus ht
    obtain ⟨es, hlog, -, hentries, hrecorded⟩ := hs.read hread
    refine LogRecorded.of_render hlog ?_
    rcases hrecorded.lastTerminal with ⟨-, hnumbered⟩ | ⟨body, e, t', rfl, hbody, he, hlast, hle, -⟩
    · exact hnumbered.recorded _
    · have heq : t' = t := by
        rw [hread.terminal, hentries, hlast] at ht
        exact Option.some.inj ht
      subst heq
      exact ⟨body, [e], rfl, hbody, .inr ⟨e, t', rfl, he, hle, fun _ => ⟨rfl, rfl⟩⟩⟩
  · intro _ T m s hread hs _ hnone e he
    obtain ⟨es, -, -, hentries, hnumbered, hle⟩ := hs.numbered hread hnone
    have := hnumbered.sequence_lt (hentries ▸ he)
    omega
  · intro T m s hread hs hstatus hnone _ cut
    obtain ⟨es, hlog, -, -, hnumbered, hle⟩ := hs.numbered hread hnone
    rw [hlog]
    refine LogRecorded.append_take format (hnumbered.recorded_interrupted hle fun hover => ?_) cut
    exact (hopen hread hstatus hover).elim
  · intro T m s hread hs hstatus hnone
    obtain ⟨es, hlog, -, -, hnumbered, hle⟩ := hs.numbered hread hnone
    split
    · have hwhole : s.log ++ format.code.line (interruptedEventRecord m.record.eventCount now) =
          format.code.render (es ++ [interruptedEventRecord m.record.eventCount now]) := by
        rw [hlog, LineCode.render_append]
        simp
      exact LogRecorded.of_render hwhole (hnumbered.recorded_interrupted hle fun _ => ⟨rfl, rfl⟩)
    · exact LogRecorded.of_render hlog (hnumbered.recorded _)

/-! ## Before and after -/

structure Later (format : Format Content) (s₀ s : SessionFiles) : Prop where
  id : s.record.id = s₀.record.id
  accepted : s₀.record.acceptedWork = .accepted → s.record.acceptedWork = .accepted
  count : s₀.record.eventCount ≤ s.record.eventCount
  terminal : ∀ t, Job.lastTerminal (s₀.entries format) = some t →
    Job.lastTerminal (s.entries format) = some t

def LogLater (format : Format Content) (before : List SessionFiles) (s : SessionFiles) : Prop :=
  LogWritten format s ∧ ∃ s₀ ∈ before, Later format s₀ s

lemma recovers_logLater (before : List SessionFiles) (now : ℕ) :
    Recovers format False now (LogLater format before) := by
  have hlog := recovers_logWritten format now
  constructor
  · exact fun s hs => hs.1
  · rintro s ⟨hs, s₀, hs₀, hlater⟩
    refine ⟨hlog.repaired s hs, s₀, hs₀, hlater.id, hlater.accepted, hlater.count, ?_⟩
    rw [(entries_repaired hs).1]
    exact hlater.terminal
  · rintro T m s t hread ⟨hs, s₀, hs₀, hlater⟩ hstatus ht
    refine ⟨hlog.concluded T m s t hread hs hstatus ht, s₀, hs₀, ?_, ?_, ?_, hlater.terminal⟩
    · exact (congrArg SessionRecord.id hread.record).trans hlater.id
    · intro h₀
      exact (congrArg SessionRecord.acceptedWork hread.record).trans (hlater.accepted h₀)
    · exact hlater.count.trans hread.count
  · exact fun hfalse => hfalse.elim
  · rintro T m s hread ⟨hs, s₀, hs₀, hlater⟩ hstatus hnone hlines cut
    refine ⟨hlog.appended T m s hread hs hstatus hnone hlines cut, s₀, hs₀, hlater.id, hlater.accepted,
      hlater.count, fun t ht => ?_⟩
    have hsome := hlater.terminal t ht
    rw [← hread.terminal, hnone] at hsome
    cases hsome
  · rintro T m s hread ⟨hs, s₀, hs₀, hlater⟩ hstatus hnone
    refine ⟨hlog.interrupted T m s hread hs hstatus hnone, s₀, hs₀, ?_, ?_, ?_, fun t ht => ?_⟩
    · exact (congrArg SessionRecord.id hread.record).trans hlater.id
    · intro h₀
      exact (congrArg SessionRecord.acceptedWork hread.record).trans (hlater.accepted h₀)
    · exact (hlater.count.trans hread.count).trans (Nat.le_succ _)
    · have hsome := hlater.terminal t ht
      rw [← hread.terminal, hnone] at hsome
      cases hsome

lemma Recovers.and {strict strict' : Prop} {Q Q' : SessionFiles → Prop}
    (h : Recovers format strict now Q) (h' : Recovers format strict' now Q') :
    Recovers format strict now fun s => Q s ∧ Q' s where
  written s hs := h.written s hs.1
  repaired s hs := ⟨h.repaired s hs.1, h'.repaired s hs.2⟩
  concluded T m s t hread hs hstatus ht :=
    ⟨h.concluded T m s t hread hs.1 hstatus ht, h'.concluded T m s t hread hs.2 hstatus ht⟩
  ordered hstrict T m s hread hs := h.ordered hstrict T m s hread hs.1
  appended T m s hread hs hstatus hnone hlines cut :=
    ⟨h.appended T m s hread hs.1 hstatus hnone hlines cut,
      h'.appended T m s hread hs.2 hstatus hnone hlines cut⟩
  interrupted T m s hread hs hstatus hnone :=
    ⟨h.interrupted T m s hread hs.1 hstatus hnone, h'.interrupted T m s hread hs.2 hstatus hnone⟩

end VacancyRadar.Sessions
