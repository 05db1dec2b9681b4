import VacancyRadar.Sessions.FixedPoint

/-!
# Logs that are full

A log takes so many lines and no more.  The events after that are only counted, and the record says
that the log is not complete.  A startup that interrupts a session counts one more event as well, and
appends it only if there is room for it.
-/

namespace VacancyRadar.Sessions

open Data

variable {Content : Type} {format : Format Content} {policy : RetentionPolicy} {used : List ℕ}

/-! ## What a record tells about its log -/

/-- The record says that the log is not complete exactly if it counts more events than the log has
lines, and then the log is full. -/
structure Told (record : SessionRecord) (lines : ℕ) : Prop where
  truncated : record.eventsTruncated = true ↔ lines < record.eventCount
  full : record.eventsTruncated = true → maxPersistedEventsPerSession ≤ lines

def SessionFiles.lines (format : Format Content) (s : SessionFiles) : ℕ :=
  (format.code.read s.log).length

variable {record : SessionRecord} {m : Session} {strict : Prop} {T : List (ℕ × TerminalLogType)}

lemma Told.congr {record' : SessionRecord} {lines : ℕ} (h : Told record lines)
    (htruncated : record'.eventsTruncated = record.eventsTruncated)
    (hcount : record'.eventCount = record.eventCount) : Told record' lines := by
  constructor
  · rw [htruncated, hcount]
    exact h.truncated
  · rw [htruncated]
    exact h.full

lemma Told.complete {lines : ℕ} (h : Told record lines)
    (hlines : lines < maxPersistedEventsPerSession) :
    record.eventsTruncated = false ∧ record.eventCount ≤ lines := by
  have hfalse : record.eventsTruncated = false :=
    Bool.eq_false_iff.mpr fun htrue => absurd (h.full htrue) (Nat.not_le_of_lt hlines)
  refine ⟨hfalse, Nat.le_of_not_lt fun hlt => ?_⟩
  rw [h.truncated.mpr hlt] at hfalse
  cases hfalse

lemma Told.of_le {lines : ℕ} (hfalse : record.eventsTruncated = false)
    (hle : record.eventCount ≤ lines) : Told record lines := by
  constructor
  · rw [hfalse]
    exact ⟨fun h => absurd h Bool.false_ne_true, fun hlt => absurd hle (Nat.not_le_of_lt hlt)⟩
  · intro htrue
    rw [hfalse] at htrue
    cases htrue

variable {s : SessionFiles} {d : Disk} {n : ℕ}

lemma Resumed.lines_eq (h : Resumed format strict m s) : s.lines format = m.lines:= by
  obtain ⟨es, hlog, hlines, -⟩ := h.log
  rw [SessionFiles.lines, hlog, LineCode.read_render_nil, hlines]

lemma Resumed.truncated (h : Resumed format strict m s) :
    s.record.eventsTruncated = m.record.eventsTruncated:=
  (congrArg SessionRecord.eventsTruncated h.record).symm

lemma Resumed.append (h : Resumed format False m s) (entry : EventRecord Content)
    (hcount : s.record.eventCount ≤ record.eventCount)
    (hrecord : record =
      { s.record with
        eventCount := record.eventCount, earliestSequence := record.earliestSequence }) :
    Resumed format False ⟨record, m.lines + 1⟩ { s with log := s.log ++ format.code.line entry } := by
  obtain ⟨es, hlog, hlen, -⟩ := h.log
  refine ⟨⟨es ++ [entry], ?_, ?_, False.elim⟩, hcount, hrecord⟩
  · rw [hlog, LineCode.render_append]
    simp
  · rw [List.length_append, ← hlen]
    rfl

lemma Told.append_take (hresumed : Resumed format strict m s) (h : Told m.record m.lines)
    (hlines : m.lines < maxPersistedEventsPerSession) (entry : EventRecord Content) (cut : ℕ) :
    Told s.record ({ s with log := s.log ++ (format.code.line entry).take cut }.lines format) := by
  obtain ⟨hfalse, hcount⟩ := h.complete hlines
  obtain ⟨es, hlog, hlen, -⟩ := hresumed.log
  obtain ⟨es', hread⟩ : ∃ es', format.code.read
      (format.code.render es ++ (format.code.line entry).take cut) = es ++ es' := by
    obtain ⟨-, es', -, hread⟩ := LineCode.stopped_take_line format.code entry cut
    exact ⟨es', hread⟩
  have hdisk := hresumed.count
  refine Told.of_le (hresumed.truncated.trans hfalse) ?_
  rw [SessionFiles.lines]
  rw [hlog, hread, List.length_append]
  omega

/-! ## Operations -/

def toldInvariants (format : Format Content) (used : List ℕ) : Invariants Content where
  format := format
  used := used
  S := { links := Linked }
  Q s := Told s.record (s.lines format)
  R m s := Resumed format False m s ∧ m.lines ≤ m.record.eventCount ∧ Told m.record m.lines
  exact := True

variable (used) in
lemma told_record (hresumed : Resumed format False m s) (htold : Told record m.lines)
    (hle : m.lines ≤ record.eventCount) :
    (toldInvariants format used).R { m with record } { s with record } ∧
      (toldInvariants format used).Q { s with record } := by
  refine ⟨⟨hresumed.ended record, hle, htold⟩, ?_⟩
  have hlines : { s with record }.lines format = m.lines := hresumed.lines_eq
  change Told record ({ s with record }.lines format)
  rw [hlines]
  exact htold

lemma keepsMinor_toldInvariants : (toldInvariants format used).KeepsMinor := by
  rintro m s record hminor ⟨hresumed, hle, htold⟩ -
  refine told_record used hresumed (htold.congr hminor.eventsTruncated hminor.eventCount) ?_
  rw [hminor.eventCount]
  exact hle

lemma persists_toldInvariants (m : Session) (entry : EventRecord Content) :
    (toldInvariants format used).Persists m entry none := by
  constructor
  · rintro - hlines s ⟨hresumed, hle, htold⟩ -
    obtain ⟨hfalse, hcount⟩ := htold.complete hlines
    refine ⟨⟨hresumed.append entry ?_ ?_, Nat.succ_le_succ hle, ?_⟩, ?_⟩
    · exact hresumed.count.trans (Nat.le_succ _)
    · exact congrArg SessionRecord.counted hresumed.record
    · exact Told.of_le hfalse (Nat.succ_le_succ hcount)
    · exact Told.append_take hresumed htold hlines entry
  · rintro n ⟨⟩
  · rintro hlines s ⟨hresumed, hle, htold⟩ -
    have hmore : m.lines < m.record.dropped.eventCount := Nat.lt_succ_of_le hle
    refine told_record used hresumed ⟨⟨fun _ => hmore, fun _ => rfl⟩, fun _ => ?_⟩ hmore.le
    exact Nat.le_of_not_lt hlines

lemma good_told_finalize {d₀ : Disk} {j : Job} (h : (toldInvariants format used).Good d₀ j)
    (id now : ℕ) (status : SessionStatus) (reason : TerminalReason) :
    (toldInvariants format used).Good d₀ (j.finalize format now id status reason) := by
  refine h.finalize now status reason ?_
  rintro root m s - ⟨hresumed, hle, htold⟩ -
  exact told_record used hresumed (htold.congr rfl rfl) hle

lemma good_told_job {up : Up} {op : Op Content}
    (h : (toldInvariants format used).Good d { store := up.store, disk := d })
    (hfresh : op.fresh used = true) (hsucceeds : op.succeeds) :
    (toldInvariants format (op.ids ++ used)).Good d (op.job format policy up d) := by
  cases op with
  | create new launches now =>
    have hnew : new.id ∉ used := of_decide_eq_true hfresh
    have hcreated : (toldInvariants format (new.id :: used)).Good d
        (Job.create format policy now new { store := up.store, disk := d }).1 := by
      refine h.create policy now rfl hnew fun record _ _ hcount hfalse => ?_
      have htold : ∀ lines, Told record lines := fun lines =>
        Told.of_le hfalse (hcount.trans_le (Nat.zero_le lines))
      exact ⟨htold _, ⟨⟨[], rfl, rfl, False.elim⟩, Nat.le_refl _, rfl⟩, Nat.zero_le _, htold _⟩
    exact Op.create_cases (motive := fun _ j => (toldInvariants format (new.id :: used)).Good d j) rfl
      hcreated hcreated (good_told_finalize hcreated new.id now .failed .launchFailed)
  | event id e frames now fault =>
    obtain rfl : fault = none := hsucceeds
    unfold Op.job
    dsimp only
    cases up.live.lookup id with
    | none => exact h
    | some n =>
      have happended := h.appendEvent id (e.record n) none fun _ m _ =>
        persists_toldInvariants m (e.record n)
      have hthrows : Store.throws up.store id none = false := rfl
      dsimp only
      rw [persistEvent_eq, hthrows]
      refine happended.conclude e frames now keepsMinor_toldInvariants ?_
      rintro t - m s - ⟨hresumed, hle, htold⟩ -
      exact told_record used hresumed (htold.congr rfl rfl) hle
  | accepted id => exact h.markAcceptedWork keepsMinor_toldInvariants
  | refine id scope => exact h.setScope keepsMinor_toldInvariants
  | streamFailed id => exact h

/-! ## Startups -/

structure SessionFiles.AtCap (format : Format Content) (s : SessionFiles) : Prop where
  status : s.record.status.isTerminal = false
  complete : s.record.eventsTruncated = false
  terminal : Job.lastTerminal (s.entries format) = none
  lines : maxPersistedEventsPerSession ≤ (s.entries format).length

structure Roomy (format : Format Content) (s : SessionFiles) : Prop where
  log : LogRecorded format s
  told : Told s.record (s.lines format)
  room : ¬ s.AtCap format

lemma Roomy.repaired (h : Roomy format s) : Roomy format (s.repaired format):= by
  have hlog : LogRecorded format (s.repaired format) := (recovers_logRecorded 0).repaired s h.log
  have hentries : (s.repaired format).entries format = s.entries format :=
    (entries_repaired h.log.1.written).1
  refine ⟨hlog, ?_, fun hcap => h.room ⟨hcap.status, hcap.complete, ?_, ?_⟩⟩
  · rw [SessionFiles.lines, ← hlog.entries, hentries, h.log.entries]
    exact h.told
  · rw [← hentries]
    exact hcap.terminal
  · rw [← hentries]
    exact hcap.lines

structure Ready (T : List (ℕ × TerminalLogType)) (m : Session) : Prop where
  count : m.lines ≤ m.record.eventCount
  full : m.record.status.isTerminal = false → T.lookup m.record.id = none →
    maxPersistedEventsPerSession ≤ m.lines → m.record.eventsTruncated = true

lemma Ready.of_over (hover : m.record.status.isTerminal = true)
    (hcount : m.lines ≤ m.record.eventCount) : Ready T m := by
  refine ⟨hcount, fun hopen => ?_⟩
  rw [hover] at hopen
  cases hopen

lemma Roomy.session (h : Roomy format s)
    (hT : T.lookup s.record.id = Job.lastTerminal (s.entries format)) :
    Ready T (s.session format) ∧ Told (s.session format).record (s.session format).lines := by
  have hlines : s.lines format = (s.entries format).length := by
    rw [SessionFiles.lines, h.log.entries]
  have htold := h.told
  rw [hlines] at htold
  refine ⟨⟨Nat.le_max_right .., fun hopen hnone hfull => ?_⟩, ?_, htold.full⟩
  · refine (Bool.eq_false_or_eq_true _).resolve_right fun hcomplete => ?_
    exact h.room ⟨hopen, hcomplete, hT.symm.trans hnone, hfull⟩
  · refine htold.truncated.trans ⟨fun hlt => lt_max_iff.mpr (.inl hlt), fun hlt => ?_⟩
    exact (lt_max_iff.mp hlt).resolve_right (Nat.lt_irrefl _)

def readyInvariants (format : Format Content) (used : List ℕ) (T : List (ℕ × TerminalLogType)) :
    Invariants Content :=
  { toldInvariants format used with
    R := fun m s => Resumed format False m s ∧ Told m.record m.lines ∧ Ready T m }

def cappedInvariants (format : Format Content) (used : List ℕ) (T : List (ℕ × TerminalLogType))
    (id : ℕ) : Invariants Content :=
  { toldInvariants format used with
    R := fun m s => Resumed format False m s ∧ Told m.record m.lines ∧
      (m.record.id = id ∧ m.record.status.isTerminal = false ∨ Ready T m) }

section Recover

variable {T : List (ℕ × TerminalLogType)} {d₀ : Disk} {j : Job} {root id now : ℕ} {m : Session}

lemma good_told_interrupted (h : (readyInvariants format used T).Good d₀ j)
    (hm : j.store.session? root id = some m) (hopen : m.record.status.isTerminal = false)
    (hlines : m.lines < maxPersistedEventsPerSession) :
    (readyInvariants format used T).Good d₀
      ((j.appendLine format root id (interruptedEventRecord m.record.eventCount now)
        none).writeRecord format root id (SessionRecord.interrupted now m.record.eventCount)) := by
  obtain ⟨hid, -, ⟨-, htold, hready⟩, -⟩ := h.exists_rel hm
  obtain ⟨hfalse, hcount⟩ := htold.complete hlines
  have hstart : (cappedInvariants format used T id).Good d₀ j :=
    h.imp (fun _ => trivial) fun _ _ _ _ _ hR => ⟨hR.1, hR.2.1, .inr hR.2.2⟩
  have happended : (cappedInvariants format used T id).Good d₀
      (j.appendLine format root id (interruptedEventRecord m.record.eventCount now) none) := by
    refine hstart.appendLine hm ?_
    rintro s ⟨hresumed, -, -⟩ -
    refine ⟨⟨hresumed.append _ hresumed.count hresumed.record, ?_, .inl ⟨hid, hopen⟩⟩, ?_⟩
    · exact Told.of_le hfalse (hcount.trans (Nat.le_succ _))
    · exact Told.append_take hresumed htold hlines _
  have hnext := session?_appendLine format (interruptedEventRecord m.record.eventCount now) hm
  have hwritten := happended.writeRecord (f := SessionRecord.interrupted now m.record.eventCount)
    hnext rfl ?_
  · have hend := session?_writeRecord format
      (f := SessionRecord.interrupted now m.record.eventCount) hnext hid
    refine hwritten.imp (fun _ => trivial) fun l hl m' hm' s hR => ⟨hR.1, hR.2.1, ?_⟩
    refine hR.2.2.resolve_left ?_
    rintro ⟨hsame, hopen'⟩
    obtain ⟨l', hl', -, hml', hmid'⟩ := session?_eq_some hend
    obtain rfl := hwritten.distinct.eq_of_id hl hl' hm' hml' (hsame.trans hmid'.symm)
    cases hopen'
  · rintro s ⟨hresumed, -, -⟩ -
    have htold' : Told (m.record.interrupted now m.record.eventCount) (m.lines + 1) :=
      Told.of_le hfalse (Nat.succ_le_succ hcount)
    obtain ⟨hR, hQ⟩ := told_record used hresumed htold' (Nat.succ_le_succ hready.count)
    exact ⟨⟨hR.1, htold', .inr (Ready.of_over rfl hR.2.1)⟩, hQ⟩

lemma good_told_recoverSession {place : ℕ × ℕ} (h : (readyInvariants format used T).Good d₀ j)
    (hT : j.store.logTerminals = T) (hplace : place ∈ Job.places j.store) :
    (readyInvariants format used T).Good d₀ (j.recoverSession format now place) := by
  obtain ⟨root, id⟩ := place
  obtain ⟨l, hl, rfl, m, hml, rfl⟩ := mem_places.mp hplace
  have hm := h.distinct.session?_of_mem hl hml
  obtain ⟨-, -, ⟨-, htold, hready⟩, -⟩ := h.exists_rel hm
  cases hstatus : m.record.status.isTerminal with
  | true =>
    rwa [recoverSession_of_isTerminal hm hstatus]
  | false =>
    rw [recoverSession_eq hm hstatus (Nat.max_eq_left hready.count), hT]
    cases hfound : T.lookup m.record.id with
    | some t =>
      have hover : t.outcome.1.isTerminal = true := by cases t <;> rfl
      refine h.writeRecord (f := SessionRecord.concluded now t) hm rfl ?_
      rintro s ⟨hresumed, -, -⟩ -
      have htold' : Told (m.record.concluded now t) m.lines := htold.congr rfl rfl
      obtain ⟨hR, hQ⟩ := told_record used hresumed htold' hready.count
      exact ⟨⟨hR.1, htold', Ready.of_over hover hready.count⟩, hQ⟩
    | none =>
      by_cases hlines : m.lines < maxPersistedEventsPerSession
      · rw [if_pos hlines]
        exact good_told_interrupted h hm hstatus hlines
      · rw [if_neg hlines]
        have hfull := Nat.le_of_not_lt hlines
        have htrue := hready.full hstatus hfound hfull
        refine h.writeRecord (f := SessionRecord.interrupted now m.record.eventCount) hm rfl ?_
        rintro s ⟨hresumed, -, -⟩ -
        have hmore : m.lines < m.record.eventCount + 1 := Nat.lt_succ_of_le hready.count
        have htold' : Told (m.record.interrupted now m.record.eventCount) m.lines :=
          ⟨⟨fun _ => hmore, fun _ => htrue⟩, fun _ => hfull⟩
        obtain ⟨hR, hQ⟩ := told_record used hresumed htold' hmore.le
        exact ⟨⟨hR.1, htold', Ready.of_over rfl hR.2.1⟩, hQ⟩

variable (now) in
lemma good_told_foldl_recoverSession {places : List (ℕ × ℕ)}
    (h : (readyInvariants format used T).Good d₀ j) (hT : j.store.logTerminals = T)
    (hplaces : ∀ p ∈ places, p ∈ Job.places j.store) :
    (readyInvariants format used T).Good d₀ (places.foldl (Job.recoverSession format now) j) := by
  induction places generalizing j with
  | nil => exact h
  | cons p rest ih =>
    refine ih (good_told_recoverSession h hT (hplaces p List.mem_cons_self))
      ((store_recoverSession p).1.trans hT) fun p' hp' => ?_
    rw [(store_recoverSession p).2]
    exact hplaces p' (List.mem_cons_of_mem _ hp')

lemma Loading.ready {done : List LineageDir}
    (h : Loading format used { links := Linked } (Roomy format) d₀ done [] j)
    (hne : ∀ dir ∈ done, dir.sessions ≠ [])
    (hroomy : ∀ dir ∈ done, ∀ s ∈ dir.sessions, Roomy format s) :
    (readyInvariants format used j.store.logTerminals).Good d₀ j := by
  have hgood := h.good hne (fun dir hdir s hs => (hroomy dir hdir s hs).log.1.written) False
  refine ⟨h.along.mono fun d hd => hd.imp_files fun _ _ s _ hs => hs.told, ?_, hgood.full, hgood.trash,
    hgood.index⟩
  have hlineages := h.lineages
  rw [List.append_nil] at hlineages
  rw [Agrees, hlineages, h.store]
  refine forall₂_map_same fun dir hdir => ⟨rfl, forall₂_map_same fun s hs => ⟨rfl, ?_⟩, fun _ => rfl⟩
  have hs' := hroomy dir hdir s hs
  have hterminal : (storeOf format done).logTerminals.lookup s.record.id =
      Job.lastTerminal (s.entries format) :=
    lookup_terminal h.nodup_ids (List.mem_flatMap.mpr ⟨dir, hdir, hs⟩)
  obtain ⟨hready, htold⟩ := hs'.session hterminal
  exact ⟨(Read.of_written hs'.log.1.written hterminal).weaken, htold, hready⟩

end Recover

variable (policy) in
lemma good_told_construct (h : DiskInv used { links := Linked } (Roomy format) d) (now : ℕ) :
    (toldInvariants format used).Good d (Job.construct format policy now d):= by
  have hrecovered : (toldInvariants format used).Good d (Job.recovered format now d) := by
    obtain ⟨halong, hstore, htrash⟩ := along_sweep h
    unfold Job.recovered
    dsimp only at halong hstore htrash ⊢
    generalize Job.recoverInterruptedEvictions _ = swept at halong hstore htrash ⊢
    have hfiles := halong.now.files
    have hstart : Loading format used { links := Linked } (Roomy format) d [] swept.disk.lineages
        swept := ⟨halong, rfl, htrash, hstore⟩
    have hloaded := hstart.foldl_loadLineage fun dir hdir s hs => (hfiles dir hdir s hs).repaired
    have hready := hloaded.ready (fun dir hdir => (mem_nonempty.mp hdir).2)
      fun dir hdir => hfiles dir (mem_nonempty.mp hdir).1
    have hend := (good_told_foldl_recoverSession now hready rfl fun _ hp => hp).setTerminals []
    exact hend.imp (fun _ => trivial) fun _ _ _ _ _ hR => ⟨hR.1, hR.2.2.count, hR.2.1⟩
  exact hrecovered.enforceRetention.1.writeManifest

/-! ## Runs -/

/-- No write fails in the step.  The process may be killed anywhere, but what was written stays. -/
def Move.intact : Move Content → Prop
  | .kill o _ _ tears => o.succeeds ∧ tears = fun _ => 0
  | .killStart _ _ _ tears => tears = fun _ => 0
  | move => move.succeeds

def Daemon.HasRoom (format : Format Content) (d : Daemon Content) : Prop :=
  ∀ dir ∈ d.disk.lineages ++ d.disk.trash, ∀ s ∈ dir.sessions, ¬ s.AtCap format

/-- If the step is a startup, there is room for it. -/
def Daemon.RoomFor (format : Format Content) (d : Daemon Content) : Move Content → Prop
  | .start _ | .killStart _ _ _ _ => d.up = none → d.HasRoom format
  | _ => True

structure Daemon.Tells (format : Format Content) (d : Daemon Content) : Prop where
  disk : ∀ dir ∈ d.disk.lineages, ∀ s ∈ dir.sessions,
    (s.record.eventsTruncated = true ↔ s.lines format < s.record.eventCount)
  memory : ∀ up, d.up = some up → ∀ l ∈ up.store.lineages, ∀ m ∈ l.sessions,
    ∃ s, d.disk.files? l.root m.record.id = some s ∧
      (m.record.eventsTruncated = true ↔ s.lines format < m.record.eventCount)

def ToldInv (format : Format Content) (d : Daemon Content) : Prop :=
  match d.up with
  | none => DiskInv d.used { links := Linked } (fun s => Told s.record (s.lines format)) d.disk
  | some up =>
    (toldInvariants format d.used).Good d.disk { store := up.store, disk := d.disk }

lemma tear_zero (d : Disk) : d.tear format (fun _ => 0) = d := by
  have hlog : ∀ log : List UInt8, format.code.tear 0 log = log := by
    intro log
    rw [LineCode.tear, Nat.zero_min, Nat.sub_zero, List.take_length]
  simp [Disk.tear, hlog]

lemma Move.intact.succeeds {move : Move Content} (h : move.intact) : move.succeeds := by
  cases move with
  | op op => exact h
  | kill op k cut tears => exact h.1
  | start now => trivial
  | killStart now k cut tears => trivial

lemma Move.intact.tears {move : Move Content} (h : move.intact) : move.tears = fun _ => 0 := by
  cases move with
  | kill => exact h.2
  | killStart => exact h
  | _ => rfl

lemma Daemon.RoomFor.of_start {d : Daemon Content} {move : Move Content} {now : ℕ}
    (h : d.RoomFor format move) (hnow : now ∈ move.start?) (hdown : d.up = none) : d.HasRoom format := by
  cases move with
  | start | killStart => exact h hdown
  | _ => cases hnow

variable (policy) in
lemma ToldInv.step {d : Daemon Content} (h : ToldInv format d) (hlive : LiveInv format d)
    {move : Move Content} (hmove : move.intact) (hroom : d.RoomFor format move) :
    ToldInv format (d.step format policy move) := by
  have hroomy : d.up = none → d.HasRoom format →
      DiskInv d.used { links := Linked } (Roomy format) d.disk := by
    intro hdown hfits
    unfold ToldInv at h
    unfold LiveInv at hlive
    rw [hdown] at h hlive
    have hlogs : DiskInv d.used { links := Linked } (LogRecorded format) d.disk := hlive
    have htold : DiskInv d.used { links := Linked } (fun s => Told s.record (s.lines format)) d.disk := h
    exact (hlogs.and_files htold).imp_files fun dir hdir s hs hQ => ⟨hQ.1, hQ.2, hfits dir hdir s hs⟩
  refine Daemon.Holds.step
    (P := fun used => DiskInv used { links := Linked } fun s => Told s.record (s.lines format))
    (G := fun used up disk => (toldInvariants format used).Good disk { store := up.store, disk })
    h ?_ ?_ ?_
  · intro used disk hdisk
    rwa [hmove.tears, tear_zero]
  · intro up op hop hgood hfresh
    exact (good_told_job hgood hfresh (hmove.succeeds.op hop)).holds
  · intro now hnow hdown _
    have hjob := good_told_construct policy (hroomy hdown (hroom.of_start hnow hdown)) now
    generalize Job.construct format policy now d.disk = j at hjob ⊢
    exact hjob.holds

lemma ToldInv.tells {d : Daemon Content} (h : ToldInv format d) : d.Tells format := by
  obtain ⟨disk, up, used, acked⟩ := d
  cases up with
  | none =>
    have hdisk : DiskInv used { links := Linked } (fun s => Told s.record (s.lines format)) disk := h
    refine ⟨fun dir hdir s hs => (hdisk.files dir hdir s hs).truncated, ?_⟩
    rintro up ⟨⟩
  | some up =>
    have hgood : (toldInvariants format used).Good disk { store := up.store, disk } := h
    refine ⟨fun dir hdir s hs => (hgood.sound.files dir hdir s hs).truncated, ?_⟩
    rintro _ ⟨⟩ l hl m hm
    obtain ⟨dir, hdir, hrel⟩ := exists_right_of_mem hgood.agrees hl
    obtain ⟨s, hs, hlinks, hresumed, -, htold⟩ := exists_right_of_mem hrel.sessions hm
    have hfound := hgood.files?_eq hdir hs
    rw [← hrel.root, ← show m.record.id = s.record.id from congrArg Links.id hlinks] at hfound
    refine ⟨s, hfound, ?_⟩
    rw [hresumed.lines_eq]
    exact htold.truncated

/-! ## A session that fills its log -/

def statusEvent : AgentEvent Unit := ⟨.status, (), 6, none⟩

def statusEvents (n : ℕ) : List (EventRecord Unit) := (List.range n).map statusEvent.record

def statusMove : Move Unit := .op (.event 1 statusEvent [] 6 none)

def fillingRecord : SessionRecord where
  id := 1
  status := .starting
  startedAt := 5
  acceptedWork := .unknown
  rootSessionId := 1
  parentSessionId := none
  scope := sampleScope

def fillingDisk (n : ℕ) : Disk where
  manifest := some persistedSchemaVersion
  lineages := [⟨1, [⟨fillingRecord, textCode.render (statusEvents n)⟩]⟩]

def fillingUp (n : ℕ) : Up where
  store :=
    { lineages := [⟨1, [⟨{ fillingRecord with eventCount := n }, n⟩],
        600 + (textCode.render (statusEvents n)).length⟩]
      sessionIndex := [(1, 1)] }
  live := [(1, n)]

def filling (n : ℕ) : Daemon Unit where
  disk := fillingDisk n
  up := some (fillingUp n)
  used := [1]
  acked := (statusEvents n).map fun e => (1, e)

lemma statusEvents_succ (n : ℕ) :
    statusEvents (n + 1) = statusEvents n ++ [statusEvent.record n] := by
  rw [statusEvents, List.range_succ, List.map_append]
  rfl

lemma render_statusEvents_succ (n : ℕ) : textCode.render (statusEvents (n + 1)) =
    textCode.render (statusEvents n) ++ textCode.line (statusEvent.record n) := by
  rw [statusEvents_succ, LineCode.render_append]
  simp

lemma step_filling (hn : n < maxPersistedEventsPerSession) :
    (filling n).step textFormat {} statusMove = filling (n + 1) := by
  have hjob : Op.job textFormat {} (.event 1 statusEvent [] 6 none) (fillingUp n) (fillingDisk n) =
      { store := (fillingUp (n + 1)).store, disk := fillingDisk (n + 1)
        effects := [.append 1 1 (textCode.line (statusEvent.record n))] } := by
    have hlookup : (fillingUp n).live.lookup 1 = some n := rfl
    have hlocate : (fillingUp n).store.locate 1 =
        some (1, ⟨{ fillingRecord with eventCount := n }, n⟩) := rfl
    have hconclude : ∀ j : Job, j.conclude textFormat 1 statusEvent [] 6 = j := fun _ => rfl
    have hthrows : (fillingUp n).store.throws 1 none = false := rfl
    unfold Op.job
    dsimp only
    rw [hlookup]
    dsimp only
    rw [persistEvent_eq, hthrows, hconclude, Job.appendEvent]
    rw [hlocate]
    dsimp only
    rw [if_pos hn]
    simp [Job.appendLine, Job.emit, Job.set, Effect.apply, fillingUp, fillingDisk,
      render_statusEvents_succ, Store.modifySession, Store.modifyLineage, Disk.modifyDir,
      LineageDir.modify, fillingRecord, textFormat, Nat.add_assoc]
  have hstep : (filling n).step textFormat {} statusMove =
      { disk := (Op.job textFormat {} (.event 1 statusEvent [] 6 none) (fillingUp n) (fillingDisk n)).disk
        up := some
          { store := (Op.job textFormat {} (.event 1 statusEvent [] 6 none) (fillingUp n) (fillingDisk n)).store
            live := [(1, n + 1)] }
        used := [1]
        acked := (filling n).acked ++ [(1, statusEvent.record n)] } := rfl
  have hacked : (filling n).acked ++ [(1, statusEvent.record n)] = (filling (n + 1)).acked := by
    simp [filling, statusEvents_succ]
  rw [hstep, hjob, hacked]
  rfl

lemma foldl_filling (hn : n ≤ maxPersistedEventsPerSession) :
    (List.replicate n statusMove).foldl (Daemon.step textFormat {}) (filling 0) = filling n := by
  induction n with
  | zero => rfl
  | succ n ih =>
    rw [List.replicate_succ', List.foldl_append, ih (Nat.le_of_succ_le hn)]
    exact step_filling hn

def fillingMoves (n : ℕ) : List (Move Unit) :=
  [.start 0, .op (.create ⟨1, 5, sampleScope, none⟩ true 5)] ++ List.replicate n statusMove ++
    [.kill (.streamFailed 1) 0 0 (fun _ => 0), .start 7]

lemma numbered_statusEvents (n : ℕ) : Numbered (statusEvents n) := by
  induction n with
  | zero => exact Numbered.nil
  | succ n ih =>
    rw [statusEvents_succ]
    refine ih.concat ?_ rfl
    rw [statusEvents, List.length_map, List.length_range]
    rfl

def cappedRecord (n : ℕ) : SessionRecord :=
  { fillingRecord with
    eventCount := n + 1, status := .interrupted
    terminalReason := some .daemonRestart, completedAt := some 7 }

lemma length_line (hn : n < 10000) : (textCode.line (statusEvent.record n)).length ≤ 60:= by
  have hpow : n < 10 ^ 4 := by omega
  have hdigits : (Nat.toDigits 10 n).length ≤ 4 :=
    (Nat.length_toDigits_le_iff (by decide) (by decide)).mpr hpow
  have hsix : (Nat.toDigits 10 6).length = 1 := rfl
  have hfields : (fields (statusEvent.record n)).length =
      5 + ((11 + (digits n).length) + ((12 + (digits 6).length) + (8 + 6 + 1 + 1) + 1) + 1) := by
    rw [fields, List.length_append, List.length_cons, List.length_append, List.length_append,
      List.length_cons, List.length_append, List.length_append, List.length_cons, List.length_append]
    rfl
  have hline : (textCode.line (statusEvent.record n)).length =
      (fields (statusEvent.record n)).length + 3 := by
    change ((123 :: (fields (statusEvent.record n) ++ [125])) ++ [10]).length = _
    rw [List.length_append, List.length_cons, List.length_append, List.length_singleton,
      List.length_singleton]
  rw [digits, List.length_map, digits, List.length_map] at hfields
  omega

lemma length_render_statusEvents (hn : n ≤ 10000) :
    (textCode.render (statusEvents n)).length ≤ 60 * n := by
  induction n with
  | zero => exact Nat.le_refl _
  | succ n ih =>
    have hline := length_line hn
    rw [render_statusEvents_succ, List.length_append]
    omega

lemma loadLineages_filling (hn : n ≠ 0) :
    Job.loadLineages textFormat { store := {}, disk := fillingDisk n } =
      { store := (fillingUp n).store, disk := fillingDisk n } := by
  have hrepair : textCode.repair EventRecord.sequence (textCode.render (statusEvents n)) =
      ⟨statusEvents n, none⟩ :=
    LineCode.repair_render (numbered_statusEvents n).ascending
  have hlength : (statusEvents n).length = n := by
    rw [statusEvents, List.length_map, List.length_range]
  have hhead : (statusEvents n).head?.map EventRecord.sequence = some 0 := by
    rw [statusEvents, List.head?_map, List.head?_range, if_neg hn]
    rfl
  have hlast : Job.lastTerminal (statusEvents n) = none := by
    rw [Job.lastTerminal, List.filterMap_eq_nil_iff.mpr (numbered_statusEvents n).2]
    rfl
  simp [Job.loadLineages, Job.loadLineage, fillingDisk, Job.loadSession, textFormat, hrepair, hlength,
    hhead, hlast, fillingUp, Job.set, Store.modifyLineage, Disk.dir?, Job.measure, fillingRecord]

lemma recovered_filling (hn : maxPersistedEventsPerSession ≤ n) :
    Job.recovered textFormat 7 (fillingDisk n) =
      { store :=
          { lineages := [⟨1, [⟨cappedRecord n, n⟩], 600 + (textCode.render (statusEvents n)).length⟩]
            sessionIndex := [(1, 1)] }
        disk :=
          { fillingDisk n with
            lineages := [⟨1, [⟨cappedRecord n, textCode.render (statusEvents n)⟩]⟩] }
        effects := [.writeRecord 1 (cappedRecord n)] } := by
  have hpos : n ≠ 0 := Nat.ne_of_gt (Nat.lt_of_lt_of_le (by decide) hn)
  have hsweep : Job.recovered textFormat 7 (fillingDisk n) =
      (Job.loadLineages textFormat { store := {}, disk := fillingDisk n }).recoverNonTerminalSessions
        textFormat 7 := rfl
  have hsession : (fillingUp n).store.session? 1 1 = some ⟨{ fillingRecord with eventCount := n }, n⟩ := rfl
  let read : Job := { store := (fillingUp n).store, disk := fillingDisk n }
  have hend : read.recoverSession textFormat 7 (1, 1) =
      read.writeRecord textFormat 1 1 (SessionRecord.interrupted 7 n) := by
    rw [recoverSession_eq hsession rfl (Nat.max_self n)]
    change Job.writeRecord textFormat 1 1 _ (if n < maxPersistedEventsPerSession then _ else _) = _
    rw [if_neg (Nat.not_lt_of_le hn)]
  rw [hsweep, loadLineages_filling hpos]
  change Job.set (read.recoverSession textFormat 7 (1, 1))
    { (read.recoverSession textFormat 7 (1, 1)).store with logTerminals := [] } = _
  rw [hend]
  simp [read, Job.writeRecord, Job.set, Job.emit, fillingUp, fillingDisk, Store.modifySession,
    Store.modifyLineage, Store.session?, fillingRecord, SessionRecord.interrupted, Disk.files?,
    Disk.dir?, textFormat, Effect.apply, Disk.modifyDir, LineageDir.put, LineageDir.modify, cappedRecord]

lemma construct_filling (hn : maxPersistedEventsPerSession ≤ n) (hsize : n ≤ 10000) : let j:= Job.construct textFormat {} 7 (fillingDisk n)
    j.store.lineages = [⟨1, [⟨cappedRecord n, n⟩], 600 + (textCode.render (statusEvents n)).length⟩] ∧
      j.disk.lineages = [⟨1, [⟨cappedRecord n, textCode.render (statusEvents n)⟩]⟩] := by
  have hconstruct : Job.construct textFormat {} 7 (fillingDisk n) =
      ((Job.recovered textFormat 7 (fillingDisk n)).enforceRetention {} 7 none).emit .writeManifest := rfl
  have hbytes := length_render_statusEvents hsize
  rw [hconstruct, recovered_filling hn, enforceRetention_eq_self]
  · exact ⟨rfl, rfl⟩
  · refine ⟨?_, ?_, ?_⟩
    · simp [Job.expired, Lineage.recency, cappedRecord]
    · simp [Store.recordCount]
    · simp [Store.totalBytes]
      omega

lemma intact_fillingMoves (n : ℕ) : ∀ move ∈ fillingMoves n, move.intact := by
  intro move hmove
  simp only [fillingMoves, List.mem_append, List.mem_cons, List.not_mem_nil, or_false,
    List.mem_replicate] at hmove
  rcases hmove with ((rfl | rfl) | ⟨-, rfl⟩) | rfl | rfl
  · trivial
  · trivial
  · rfl
  · exact ⟨trivial, rfl⟩
  · trivial

lemma kill_filling (n : ℕ) :
    (filling n).step textFormat {} (.kill (.streamFailed 1) 0 0 (fun _ => 0)) =
      { filling n with up := none } := by
  change Daemon.mk ((fillingDisk n).tear textFormat fun _ => 0) none [1] _ = _
  rw [tear_zero]
  rfl

lemma create_filling : [.start 0, .op (.create ⟨1, 5, sampleScope, none⟩ true 5)].foldl
    (Daemon.step textFormat {}) {} = filling 0 := rfl

lemma not_tells_start (hn : maxPersistedEventsPerSession ≤ n) (hsize : n ≤ 10000) :
    ¬ (Daemon.step textFormat {} { filling n with up := none } (.start 7)).Tells textFormat := by
  intro htells
  obtain ⟨-, hdirs⟩ := construct_filling hn hsize
  have hdir : ⟨1, [⟨cappedRecord n, textCode.render (statusEvents n)⟩]⟩ ∈
      (Job.construct textFormat {} 7 (fillingDisk n)).disk.lineages := by
    rw [hdirs]
    exact List.mem_cons_self
  have hiff := htells.disk _ hdir _ List.mem_cons_self
  have hlines : (SessionFiles.mk (cappedRecord n) (textCode.render (statusEvents n))).lines
      textFormat = n := by
    refine (congrArg List.length LineCode.read_render_nil).trans ?_
    rw [statusEvents, List.length_map, List.length_range]
  rw [hlines] at hiff
  cases hiff.mpr (Nat.lt_succ_self n)

/-! ## Any run -/

variable (format policy) in
def Daemon.Meets (ok : Daemon Content → Move Content → Prop) : Daemon Content → List (Move Content) → Prop
  | _, [] => True
  | d, move :: rest => ok d move ∧ Daemon.Meets ok (d.step format policy move) rest

/-- **A record says that its log is not complete exactly if it is not.**  In a run in which every
write succeeds, it does so as long as every startup finds room for what it appends. -/
theorem tells_run {moves : List (Move Content)} (hmoves : ∀ move ∈ moves, move.intact)
    (hroom : Daemon.Meets format policy (Daemon.RoomFor format) {} moves) :
    (Daemon.run format policy moves).Tells format := by
  suffices h : ToldInv format (Daemon.run format policy moves) from h.tells
  have hlive : LiveInv format (Daemon.run format policy []) := liveInv_run format policy (by simp)
  change LiveInv format {} at hlive
  have htold : ToldInv format ({} : Daemon Content) := diskInv_empty _
  unfold Daemon.run
  generalize ({} : Daemon Content) = d at hroom hlive htold
  induction moves generalizing d with
  | nil => exact htold
  | cons move rest ih =>
    have hmove := hmoves move List.mem_cons_self
    refine ih (fun m hm => hmoves m (List.mem_cons_of_mem _ hm)) _ hroom.2 ?_ ?_
    · exact hlive.step hmove.succeeds
    · exact htold.step policy hlive hmove hroom.1

theorem tells_run_filling : (Daemon.run textFormat {} (fillingMoves 1)).Tells textFormat := by
  refine tells_run (intact_fillingMoves 1) ⟨?_, trivial, trivial, trivial, ?_, trivial⟩
  · rintro - dir ⟨⟩
  · have hstate : Daemon.step textFormat {} (Daemon.step textFormat {} (filling 0) statusMove)
        (.kill (.streamFailed 1) 0 0 (fun _ => 0)) = { filling 1 with up := none } := by
      rw [step_filling (by decide), kill_filling]
    change Daemon.RoomFor textFormat (Daemon.step textFormat {} (Daemon.step textFormat {}
      ([.start 0, .op (.create ⟨1, 5, sampleScope, none⟩ true 5)].foldl (Daemon.step textFormat {}) {})
      statusMove) (.kill (.streamFailed 1) 0 0 (fun _ => 0))) (.start 7)
    rw [create_filling, hstate]
    rintro - dir hdir s hs hcap
    obtain rfl := List.mem_singleton.mp hdir
    obtain rfl := List.mem_singleton.mp hs
    have hlines := hcap.lines
    rw [(entries_of_render (numbered_statusEvents 1).ascending rfl).1] at hlines
    exact absurd hlines (by decide)

theorem not_tells_filling : ¬ ∀ moves : List (Move Unit), (∀ move ∈ moves, move.intact) →
    (Daemon.run textFormat {} moves).Tells textFormat := by
  intro h
  have htells := h _ (intact_fillingMoves maxPersistedEventsPerSession)
  have hrun : Daemon.run textFormat {} (fillingMoves maxPersistedEventsPerSession) =
      Daemon.step textFormat {} { filling maxPersistedEventsPerSession with up := none }
        (.start 7) := by
    rw [Daemon.run, fillingMoves, List.foldl_append, List.foldl_append, create_filling,
      foldl_filling (Nat.le_refl _), List.foldl_cons, kill_filling]
    rfl
  rw [hrun] at htells
  exact not_tells_start (Nat.le_refl _) (by decide) htells

end VacancyRadar.Sessions
