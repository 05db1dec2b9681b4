import VacancyRadar.Sessions.Crash

/-!
# Runs in which all writes succeed

The manager numbers the events of a session as they come.  While they are consumed, the record in
memory counts them, and the log has them all, up to the limit.
-/

namespace VacancyRadar.Sessions

open Data

variable {Content : Type} {format : Format Content} {policy : RetentionPolicy}

/-! ## Sessions whose events are consumed -/

structure Live (format : Format Content) (n : ℕ) (m : Session) (s : SessionFiles) : Prop where
  status : m.record.status.isTerminal = false
  count : m.record.eventCount = n
  numbered : Numbered (format.code.read s.log)
  lines : m.lines < maxPersistedEventsPerSession → m.lines = n

def liveInvariants (format : Format Content) (used : List ℕ) (live : List (ℕ × ℕ)) :
    Invariants Content where
  format := format
  used := used
  S := { links := Linked }
  Q := LogRecorded format
  R m s := Resumed format True m s ∧ ∀ n, live.lookup m.record.id = some n → Live format n m s
  exact := True

variable {record : SessionRecord} {m : Session} {s : SessionFiles} {id id' n now root : ℕ}
  {terminal : Option TerminalLogType} {live : List (ℕ × ℕ)} {used : List ℕ}
  {entry : EventRecord Content} {j : Job} {I : Invariants Content} {d d₀ : Disk} {l : Lineage}
  {up : Up}

lemma Recorded.congr {record' : SessionRecord} {es : List (EventRecord Content)}
    (h : Recorded record es) (hstatus : record'.status = record.status)
    (hreason : record'.terminalReason = record.terminalReason) : Recorded record' es := by
  obtain ⟨body, last, hes, hbody, hlast⟩ := h
  refine ⟨body, last, hes, hbody, hlast.imp_right ?_⟩
  rintro ⟨e, t, hlast, he, hle, hrecord⟩
  rw [← hstatus, ← hreason] at hrecord
  exact ⟨e, t, hlast, he, hle, hrecord⟩

lemma LogRecorded.minor (h : LogRecorded format s) (hresumed : Resumed format True m s)
    (hminor : Minor m.record record) : LogRecorded format { s with record } := by
  refine ⟨h.1, h.2.congr (hminor.status.trans hresumed.status) (hminor.terminalReason.trans ?_)⟩
  rw [hresumed.record]

lemma Live.minor (h : Live format n m s) (hminor : Minor m.record record) :
    Live format n { m with record } { s with record } :=
  ⟨hminor.status ▸ h.status, hminor.eventCount.trans h.count, h.numbered, h.lines⟩

lemma keepsMinor_liveInvariants (used : List ℕ) (live : List (ℕ × ℕ)) :
    (liveInvariants format used live).KeepsMinor := by
  intro m s record hminor hR hQ
  refine ⟨⟨hR.1.ended record, fun n hn => ?_⟩, LogRecorded.minor hQ hR.1 hminor⟩
  have hid : record.id = m.record.id := congrArg Links.id hminor.links
  exact (hR.2 n (hid ▸ hn)).minor hminor

/-! ## An event -/

structure After (format : Format Content) (n : ℕ) (terminal : Option TerminalLogType) (m : Session)
    (s : SessionFiles) : Prop where
  count : m.record.eventCount = n + 1
  events : ∀ e ∈ format.code.read s.log, ∀ t, e.terminalType = some t → terminal = some t
  live : terminal = none → Live format (n + 1) m s

def eventInvariants (format : Format Content) (used : List ℕ) (live : List (ℕ × ℕ)) (id : ℕ)
    (X : Session → SessionFiles → Prop) : Invariants Content where
  format := format
  used := used
  S := { links := Linked }
  Q := LogRecorded format
  R m s := Resumed format True m s ∧ (m.record.id = id → X m s) ∧
    (m.record.id ≠ id → ∀ n, live.lookup m.record.id = some n → Live format n m s)
  exact := True

lemma After.minor (h : After format n terminal m s) (hminor : Minor m.record record) :
    After format n terminal { m with record } { s with record } :=
  ⟨hminor.eventCount.trans h.count, h.events, fun hnone => (h.live hnone).minor hminor⟩

lemma keepsMinor_eventInvariants (used : List ℕ) (live : List (ℕ × ℕ)) (id n : ℕ)
    (terminal : Option TerminalLogType) :
    (eventInvariants format used live id (After format n terminal)).KeepsMinor := by
  intro m s record hminor hR hQ
  have hid : record.id = m.record.id := congrArg Links.id hminor.links
  refine ⟨⟨hR.1.ended record, fun hsame => ?_, fun hother k hk => ?_⟩,
    LogRecorded.minor hQ hR.1 hminor⟩
  · exact (hR.2.1 (hid ▸ hsame)).minor hminor
  · exact (hR.2.2 (hid ▸ hother) k (hid ▸ hk)).minor hminor

lemma Live.exists_events (h : Live format n m s) (hresumed : Resumed format True m s) :
    ∃ es, s.log = format.code.render es ∧ m.lines = es.length ∧ Numbered es := by
  obtain ⟨es, hlog, hlines, -⟩ := hresumed.log
  have hnumbered := h.numbered
  rw [hlog, LineCode.read_render_nil] at hnumbered
  exact ⟨es, hlog, hlines, hnumbered⟩

lemma persists_eventInvariants {event : AgentEvent Content} (hid : m.record.id = id)
    (hn : m.record.eventCount = n) : (eventInvariants format used live id fun m s =>
      Live format n m s ∨ After format n event.type.terminalType m s).Persists m (event.record n)
      none := by
  have hlive : ∀ {s : SessionFiles},
      (Live format n m s ∨ After format n event.type.terminalType m s) → Live format n m s := by
    rintro s (hlive | hafter)
    · exact hlive
    · have := hafter.count
      omega
  constructor
  · intro _ hlines s hR hQ
    obtain ⟨hresumed, hX, -⟩ := hR
    have hbefore := hlive (hX hid)
    obtain ⟨es, hlog, hlen, hnumbered⟩ := hbefore.exists_events hresumed
    have hcount : es.length = n := hlen.symm.trans (hbefore.lines hlines)
    have hopen : s.record.status.isTerminal = false := hresumed.status ▸ hbefore.status
    have hrecorded : Recorded s.record (es ++ [event.record n]) :=
      hnumbered.recorded_concat hopen (fun _ => hcount.symm) (Nat.le_of_eq hcount)
    have htext : s.log ++ format.code.line (event.record n) =
        format.code.render (es ++ [event.record n]) := by
      rw [hlog, LineCode.render_append]
      simp
    have hread : format.code.read (s.log ++ format.code.line (event.record n)) =
        es ++ [event.record n] := by
      rw [htext, LineCode.read_render_nil]
    refine ⟨⟨⟨⟨_, htext, ?_, fun _ => hrecorded.ascending⟩, ?_, ?_⟩, fun _ => .inr ⟨?_, ?_, ?_⟩, ?_⟩, ?_⟩
    · rw [List.length_append, ← hlen]
      rfl
    · exact hresumed.count.trans (Nat.le_succ _)
    · exact congrArg SessionRecord.counted hresumed.record
    · exact congrArg (· + 1) hn
    · intro e he t ht
      change e ∈ format.code.read (s.log ++ format.code.line (event.record n)) at he
      rw [hread] at he
      rcases List.mem_append.mp he with hold | hlast
      · rw [hnumbered.2 e hold] at ht
        cases ht
      · rw [List.mem_singleton.mp hlast] at ht
        exact ht
    · intro hnone
      refine ⟨hbefore.status, congrArg (· + 1) hn, ?_, fun _ => ?_⟩
      · change Numbered (format.code.read (s.log ++ format.code.line (event.record n)))
        rw [hread]
        exact hnumbered.concat hcount.symm hnone
      · exact congrArg (· + 1) (hbefore.lines hlines)
    · exact fun hother => absurd hid hother
    · intro cut
      have hcut := LogRecorded.append_take format hrecorded cut
      rw [← hlog] at hcut
      exact hcut
  · intro n' hfault
    cases hfault
  · intro hlines s hR hQ
    obtain ⟨hresumed, hX, -⟩ := hR
    have hbefore := hlive (hX hid)
    have hnone : ∀ e ∈ format.code.read s.log, ∀ t, e.terminalType = some t →
        event.type.terminalType = some t := by
      intro e he t ht
      rw [hbefore.numbered.2 e he] at ht
      cases ht
    refine ⟨⟨hresumed.ended _, fun _ => .inr ⟨congrArg (· + 1) hn, hnone, fun _ => ?_⟩, ?_⟩, ?_⟩
    · exact ⟨hbefore.status, congrArg (· + 1) hn, hbefore.numbered, fun hless => absurd hless hlines⟩
    · exact fun hother => absurd hid hother
    · refine ⟨hQ.1, hQ.2.congr hresumed.status ?_⟩
      change m.record.terminalReason = s.record.terminalReason
      rw [hresumed.record]

lemma session?_appendEvent (fault : Option ℕ) (hm : j.store.locate id = some (root, m)) :
    ∃ m', (j.appendEvent format id entry fault).store.session? root id = some m' ∧
      m'.record.eventCount = m.record.eventCount + 1 := by
  have hsession := session?_of_locate hm
  have hid : m.record.id = id := by
    obtain ⟨-, -, -, -, hid⟩ := session?_eq_some hsession
    exact hid
  have hcounted := session?_modifySession (g := fun m => { m with record := m.record.counted }) hsession
    hid
  have heq : j.appendEvent format id entry fault =
      if m.lines < maxPersistedEventsPerSession then
        (j.set (j.store.modifySession root id fun m =>
          { m with record := m.record.counted })).appendLine format root id entry fault
      else (j.set (j.store.modifySession root id fun m =>
          { m with record := m.record.counted })).writeRecord format root id fun record =>
            { record with eventsTruncated := true } := by
    rw [Job.appendEvent, hm]
    rfl
  rw [heq]
  split
  · cases fault with
    | none => exact ⟨_, session?_appendLine format _ hcounted, rfl⟩
    | some n => exact ⟨_, hcounted, rfl⟩
  · exact ⟨_, session?_writeRecord format hcounted hid, rfl⟩

lemma lookup_others :
    (live.filter fun p => p.1 ≠ id).lookup id' = if id' = id then none else live.lookup id' := by
  rw [Invariants.lookup_filter_fst (p := fun k => k ≠ id)]
  by_cases h : id' = id
  · simp [h]
  · simp [h]

def liveAfter (live : List (ℕ × ℕ)) (id n : ℕ) (terminal : Option TerminalLogType) : List (ℕ × ℕ) :=
  if terminal.isSome then live.filter fun p => p.1 ≠ id
    else (id, n + 1) :: live.filter fun p => p.1 ≠ id

lemma lookup_liveAfter : (liveAfter live id n terminal).lookup id' =
      if id' = id then (if terminal.isSome then none else some (n + 1)) else live.lookup id' := by
  unfold liveAfter
  by_cases hterminal : terminal.isSome
  · rw [if_pos hterminal, lookup_others]
    simp [hterminal]
  · rw [if_neg hterminal, List.lookup_cons]
    by_cases hid : id' = id
    · simp [hid, hterminal]
    · have hbeq : (id' == id) = false := by simpa using hid
      simp only [hbeq, hid, if_false, lookup_others]

lemma Invariants.Good.locate_of_mem (h : I.Good d₀ j) (hl : l ∈ j.store.lineages)
    (hm : m ∈ l.sessions) : j.store.locate m.record.id = some (l.root, m) := by
  have hplace := (h.index m.record.id l.root).mpr (mem_places.mpr ⟨l, hl, rfl, m, hm, rfl⟩)
  rw [Store.locate, hplace, Option.bind_some, h.distinct.session?_of_mem hl hm]
  rfl

lemma Invariants.Good.exists_rel (h : I.Good d₀ j) (hm : j.store.session? root id = some m) :
    m.record.id = id ∧ ∃ s, I.R m s ∧ I.Q s := by
  obtain ⟨dir, hdir, hroot, s, hs, hsid⟩ := h.exists_files hm
  obtain ⟨-, hR, hQ⟩ := h.files hm hdir hroot hs hsid
  exact ⟨h.id_eq hm, s, hR, hQ⟩

lemma Invariants.Good.mem_used (h : I.Good d₀ j) (hl : l ∈ j.store.lineages) (hm : m ∈ l.sessions) :
    m.record.id ∈ I.used := by
  obtain ⟨dir, hdir, hrel⟩ := exists_right_of_mem h.agrees hl
  have hmem : m.record.id ∈ dir.ids := hrel.ids ▸ List.mem_map_of_mem hm
  exact h.sound.used_id dir (List.mem_append_left _ hdir) _ hmem

lemma Invariants.Good.eventCount_appendEvent {I' : Invariants Content} {fault : Option ℕ}
    (h : I.Good d₀ j) (happended : I'.Good d₀ (j.appendEvent format id entry fault))
    (hcount : ∀ {root : ℕ} {m : Session}, j.store.locate id = some (root, m) → m.record.eventCount = n)
    (hl : l ∈ (j.appendEvent format id entry fault).store.lineages) (hm : m ∈ l.sessions)
    (hid : m.record.id = id) : m.record.eventCount = n + 1 := by
  cases hlocate : j.store.locate id with
  | none =>
    have hsame : j.appendEvent format id entry fault = j := by rw [Job.appendEvent, hlocate]
    rw [hsame] at hl
    have hsome := h.locate_of_mem hl hm
    rw [hid, hlocate] at hsome
    cases hsome
  | some found =>
    obtain ⟨m', hm', hnext⟩ := session?_appendEvent fault hlocate
    obtain ⟨l', hl', -, hml', hmid'⟩ := session?_eq_some hm'
    rw [happended.distinct.eq_of_id hl hl' hm hml' (hid.trans hmid'.symm), hnext, hcount hlocate]

lemma good_after {event : AgentEvent Content} (h : (liveInvariants format used live).Good d₀ j)
    (hn : live.lookup id = some n) :
    (eventInvariants format used live id (After format n event.type.terminalType)).Good d₀
      (j.appendEvent format id (event.record n) none) := by
  have hcount : ∀ {root : ℕ} {m : Session}, j.store.locate id = some (root, m) →
      m.record.id = id ∧ m.record.eventCount = n := by
    intro root m hlocate
    obtain ⟨hid, s, hR, -⟩ := h.exists_rel (session?_of_locate hlocate)
    exact ⟨hid, (hR.2 n (hid ▸ hn)).count⟩
  have hstart : (eventInvariants format used live id fun m s =>
      Live format n m s ∨ After format n event.type.terminalType m s).Good d₀ j := by
    refine h.imp (fun _ => trivial) fun l _ m _ s hR => ⟨hR.1, fun hid => .inl ?_, fun _ => hR.2⟩
    exact hR.2 n (hid ▸ hn)
  have happended := hstart.appendEvent id (event.record n) none
    fun root m hlocate => persists_eventInvariants (hcount hlocate).1 (hcount hlocate).2
  refine happended.imp (fun _ => trivial) fun l hl m hm s hR => ⟨hR.1, fun hid => ?_, hR.2.2⟩
  refine (hR.2.1 hid).resolve_left fun hlive => ?_
  -- the number in memory tells that the event was appended
  have hafter := h.eventCount_appendEvent happended (fun hlocate => (hcount hlocate).2) hl hm hid
  have hbefore := hlive.count
  omega

lemma LogRecorded.final {t : TerminalLogType} (h : LogRecorded format s)
    (hafter : After format n (some t) m s) (record : SessionRecord)
    (hstatus : record.status = t.outcome.1) (hreason : record.terminalReason = some t.outcome.2) :
    LogRecorded format { s with record } := by
  refine ⟨h.1, ?_⟩
  obtain ⟨body, last, hes, hbody, hlast⟩ := h.2
  refine ⟨body, last, hes, hbody, hlast.imp_right ?_⟩
  rintro ⟨e, t', rfl, he, hle, -⟩
  have hmem : e ∈ format.code.read s.log := by
    rw [hes]
    exact List.mem_append_right _ List.mem_cons_self
  obtain rfl := Option.some.inj (hafter.events e hmem t' he)
  exact ⟨e, t, rfl, he, hle, fun _ => ⟨hstatus, hreason⟩⟩

lemma good_live_event {event : AgentEvent Content} {frames : List UnknownFrame}
    (h : (liveInvariants format used live).Good d₀ j) (hn : live.lookup id = some n) :
    (liveInvariants format used (liveAfter live id n event.type.terminalType)).Good d₀
      (j.persistEvent format id n event frames now none) := by
  have hdone := (good_after h hn).conclude event frames now (keepsMinor_eventInvariants used live id n _) fun t ht m s hid hR hQ => by
      obtain ⟨hresumed, hX, -⟩ := hR
      have hafter := hX hid
      refine ⟨⟨hresumed.ended _, fun _ => ⟨hafter.count, hafter.events, fun hnone => ?_⟩,
        fun hother => absurd hid hother⟩, LogRecorded.final hQ (ht ▸ hafter) _ rfl rfl⟩
      rw [ht] at hnone
      cases hnone
  have hthrows : j.store.throws id none = false := rfl
  rw [persistEvent_eq, hthrows]
  refine hdone.imp (fun _ => trivial) fun l _ m _ s hR => ⟨hR.1, fun k hk => ?_⟩
  rw [lookup_liveAfter] at hk
  by_cases hid : m.record.id = id
  · rw [if_pos hid] at hk
    cases hterminal : event.type.terminalType with
    | some t =>
      rw [hterminal] at hk
      cases hk
    | none =>
      rw [hterminal] at hk
      obtain rfl := Option.some.inj hk
      exact (hR.2.1 hid).live hterminal
  · rw [if_neg hid] at hk
    exact hR.2.2 hid k hk

/-! ## Runs -/

/-- The operation does not run into a write that fails. -/
def Op.succeeds : Op Content → Prop
  | event _ _ _ _ fault => fault = none
  | _ => True

/-- No write fails in the step. -/
def Move.succeeds : Move Content → Prop
  | op o => o.succeeds
  | kill o _ _ _ => o.succeeds
  | _ => True

lemma Move.succeeds.op {move : Move Content} {op : Op Content} (h : move.succeeds)
    (hop : op ∈ move.op?) : op.succeeds := by
  cases move with
  | op o | kill o => exact Option.some.inj hop ▸ h
  | _ => cases hop

lemma live_new (hstatus : record.status = .starting) (hcount : record.eventCount = 0) :
    LogRecorded format { record } ∧
      Resumed format True ⟨record, 0⟩ { record } ∧ Live format 0 ⟨record, 0⟩ { record } := by
  have hread : format.code.read (format.code.render []) = [] := LineCode.read_render_nil
  rw [LineCode.render, List.flatMap_nil] at hread
  refine ⟨LogRecorded.of_render rfl (Numbered.nil.recorded _), ?_, ?_⟩
  · exact ⟨⟨[], rfl, rfl, fun _ => List.Pairwise.nil⟩, Nat.le_refl _, rfl⟩
  · refine ⟨?_, hcount, ?_, fun _ => rfl⟩
    · rw [hstatus]
      rfl
    · rw [hread]
      exact Numbered.nil

def createInvariants (format : Format Content) (used : List ℕ) (live : List (ℕ × ℕ)) (id : ℕ) :
    Invariants Content where
  format := format
  used := used
  S := { links := Linked }
  Q := LogRecorded format
  R m s := Resumed format True m s ∧ (∀ n, live.lookup m.record.id = some n → Live format n m s) ∧
    (m.record.id = id → Live format 0 m s)
  exact := True

variable (policy) in
lemma good_live_create (now : ℕ) {new : Job.NewSession}
    (h : (liveInvariants format used live).Good d₀ j)
    (hlive : ∀ id n, live.lookup id = some n → id ∈ used) (hfresh : new.id ∉ used) :
    (createInvariants format (new.id :: used) live new.id).Good d₀
      (j.create format policy now new).1 := by
  have hstart : (createInvariants format used live new.id).Good d₀ j := by
    refine h.imp (fun _ => trivial) fun l hl m hm s hR => ⟨hR.1, hR.2, fun hid => ?_⟩
    exact absurd (hid ▸ h.mem_used hl hm) hfresh
  refine hstart.create policy now rfl hfresh fun record hid hstatus hcount _ => ?_
  obtain ⟨hQ, hresumed, hnew⟩ := live_new hstatus hcount
  refine ⟨hQ, hresumed, fun n hn => ?_, fun _ => hnew⟩
  exact absurd (hlive _ n hn) (hid ▸ hfresh)

lemma good_live_launchFailed (h : (createInvariants format used live id).Good d₀ j)
    (hid : ∀ n, live.lookup id ≠ some n) :
    (liveInvariants format used live).Good d₀ (j.finalize format now id .failed .launchFailed) := by
  have hstart : (eventInvariants format used live id fun _ s =>
      Numbered (format.code.read s.log)).Good d₀ j :=
    h.imp (fun _ => trivial) fun l _ m _ s hR =>
      ⟨hR.1, fun hsame => (hR.2.2 hsame).numbered, fun _ => hR.2.1⟩
  have hfinal := hstart.finalize now .failed .launchFailed
    fun root m s hlocate hR hQ => by
      have hsame := hstart.id_eq (session?_of_locate hlocate)
      have hnumbered := hR.2.1 hsame
      refine ⟨⟨hR.1.ended _, fun _ => hnumbered, fun hother => absurd hsame hother⟩, hQ.1, ?_⟩
      exact hnumbered.recorded _
  refine hfinal.imp (fun _ => trivial) fun l _ m _ s hR => ⟨hR.1, fun n hn => ?_⟩
  by_cases hsame : m.record.id = id
  · exact absurd hn (hsame ▸ hid n)
  · exact hR.2.2 hsame n hn

lemma lookup_cons {live : List (ℕ × ℕ)} {id id' n k : ℕ}
    (h : ((id, n) :: live).lookup id' = some k) : id' = id ∧ n = k ∨ live.lookup id' = some k := by
  rw [List.lookup_cons] at h
  split at h
  · rename_i hid
    exact .inl ⟨eq_of_beq hid, Option.some.inj h⟩
  · exact .inr h

lemma good_live_job {op : Op Content}
    (h : (liveInvariants format used up.live).Good d { store := up.store, disk := d })
    (hlive : ∀ id n, up.live.lookup id = some n → id ∈ used) (hfresh : op.fresh used = true)
    (hsucceeds : op.succeeds) :
    (liveInvariants format (op.ids ++ used) (op.live format policy up d)).Good d
      (op.job format policy up d) := by
  cases op with
  | create new launches now =>
    have hnew : new.id ∉ used := of_decide_eq_true hfresh
    have hcreated := good_live_create policy now h hlive hnew
    refine Op.create_cases
      (motive := fun live j => (liveInvariants format (new.id :: used) live).Good d j) rfl ?_ ?_ ?_
    · exact hcreated.imp (fun _ => trivial) fun l _ m _ s hR => ⟨hR.1, hR.2.1⟩
    · refine hcreated.imp (fun _ => trivial) fun l _ m _ s hR => ⟨hR.1, fun n hn => ?_⟩
      rcases lookup_cons hn with ⟨hid, rfl⟩ | hn
      · exact hR.2.2 hid
      · exact hR.2.1 n hn
    · exact good_live_launchFailed hcreated fun n hn => hnew (hlive _ n hn)
  | event id e frames now fault =>
    obtain rfl : fault = none := hsucceeds
    unfold Op.job Op.live
    dsimp only
    cases hn : up.live.lookup id with
    | none => exact h
    | some n => exact good_live_event h hn
  | accepted id => exact h.markAcceptedWork (keepsMinor_liveInvariants used up.live)
  | refine id scope => exact h.setScope (keepsMinor_liveInvariants used up.live)
  | streamFailed id =>
    refine h.imp (fun _ => trivial) fun l _ m _ s hR => ⟨hR.1, fun n hn => ?_⟩
    unfold Op.live at hn
    rw [lookup_others] at hn
    split at hn
    · cases hn
    · exact hR.2 n hn

lemma live_used {op : Op Content} (hlive : ∀ id n, up.live.lookup id = some n → id ∈ used) :
    ∀ id n, (op.live format policy up d).lookup id = some n → id ∈ op.ids ++ used := by
  intro id n hn
  cases op with
  | create new launches now =>
    unfold Op.live at hn
    dsimp only at hn
    split at hn
    · rcases lookup_cons hn with ⟨rfl, -⟩ | hn
      · exact List.mem_cons_self
      · exact List.mem_cons_of_mem _ (hlive id n hn)
    · exact List.mem_cons_of_mem _ (hlive id n hn)
  | event id' e frames now fault =>
    unfold Op.live at hn
    dsimp only at hn
    cases hfound : up.live.lookup id' with
    | none =>
      rw [hfound] at hn
      exact hlive id n hn
    | some k =>
      rw [hfound] at hn
      change (liveAfter up.live id' k e.type.terminalType).lookup id = some n at hn
      rw [lookup_liveAfter] at hn
      by_cases hid : id = id'
      · rw [hid]
        exact hlive id' k hfound
      · rw [if_neg hid] at hn
        exact hlive id n hn
  | streamFailed id' =>
    unfold Op.live at hn
    rw [lookup_others] at hn
    split at hn
    · cases hn
    · exact hlive id n hn
  | accepted id' => exact hlive id n hn
  | refine id' scope => exact hlive id n hn

def LiveInv (format : Format Content) (d : Daemon Content) : Prop :=
  match d.up with
  | none => DiskInv d.used { links := Linked } (LogRecorded format) d.disk
  | some up => (∀ id n, up.live.lookup id = some n → id ∈ d.used) ∧
    (liveInvariants format d.used up.live).Good d.disk { store := up.store, disk := d.disk }

variable (policy) in
lemma LiveInv.construct (h : DiskInv used { links := Linked } (LogRecorded format) d) (now : ℕ) :
    (liveInvariants format used []).Good d (Job.construct format policy now d) :=
  (good_construct policy h (recovers_logRecorded now)).imp (fun _ => trivial)
    fun _ _ _ _ _ hR => ⟨hR.1, fun _ hn => nomatch hn⟩

lemma LiveInv.step {d : Daemon Content} (h : LiveInv format d) {move : Move Content}
    (hmove : move.succeeds) : LiveInv format (d.step format policy move) := by
  refine Daemon.Holds.step (P := fun used => DiskInv used { links := Linked } (LogRecorded format))
    (G := fun used up disk => (∀ id n, up.live.lookup id = some n → id ∈ used) ∧
      (liveInvariants format used up.live).Good disk { store := up.store, disk }) h
    (fun _ _ hdisk => hdisk.tear _ fun _ hs n => hs.tear n) ?_ ?_
  · rintro up op hop ⟨hlive, hgood⟩ hfresh
    exact (good_live_job hgood hlive hfresh (hmove.op hop)).holds.imp_right
      fun hjob => ⟨live_used hlive, hjob⟩
  · intro now _ _ hdisk
    have hjob := LiveInv.construct policy hdisk now
    generalize Job.construct format policy now d.disk = j at hjob ⊢
    exact ⟨hjob.along, (fun _ _ hn => nomatch hn), hjob.restart⟩

variable (format policy) in
theorem liveInv_run {moves : List (Move Content)} (hmoves : ∀ move ∈ moves, move.succeeds) :
    LiveInv format (Daemon.run format policy moves) :=
  List.foldlRecOn moves _ (diskInv_empty _) fun _ hd move hmove => hd.step (hmoves move hmove)

end VacancyRadar.Sessions
