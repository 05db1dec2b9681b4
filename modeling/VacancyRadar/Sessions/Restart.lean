import VacancyRadar.Sessions.Startup

/-!
# Sessions are ended at a startup

A session that was not over when the process died is given the state that its log tells, or it was
interrupted.  Log and record are written one after the other, so that a session is for a moment
between the two.
-/

namespace VacancyRadar.Sessions

open Data

variable {Content : Type} {format : Format Content} {used : List ℕ} {S : Shape}
  {Q : SessionFiles → Prop} {strict : Prop} {T : List (ℕ × TerminalLogType)} {d₀ : Disk} {j : Job}
  {now : ℕ}

lemma Distinct.eq_of_id {store : Store} (h : Distinct store) {l l' : Lineage}
    (hl : l ∈ store.lineages) (hl' : l' ∈ store.lineages) {m m' : Session} (hm : m ∈ l.sessions)
    (hm' : m' ∈ l'.sessions) (hid : m.record.id = m'.record.id) : m = m' := by
  have hids := h.ids
  rw [← List.map_flatMap] at hids
  exact List.inj_on_of_nodup_map hids (List.mem_flatMap.mpr ⟨l, hl, hm⟩)
    (List.mem_flatMap.mpr ⟨l', hl', hm'⟩) hid

variable {m : Session} {s : SessionFiles} {I : Invariants Content} {d : Disk}

variable {id root : ℕ} {pending : List ℕ}

lemma Invariants.Good.turn (h : (endInvariants format used S Q strict T (id :: pending)).Good d₀ j)
    (hm : j.store.session? root id = some m) (hover : m.record.status.isTerminal = true) :
    (endInvariants format used S Q strict T pending).Good d₀ j := by
  refine h.imp (fun _ => trivial) fun l hl m' hm' s hR => ⟨hR.1, fun hopen => ?_⟩
  obtain ⟨hread, hmem⟩ := hR.2 hopen
  refine ⟨hread, (List.mem_cons.mp hmem).resolve_left fun hid => ?_⟩
  obtain ⟨l', hl', -, hml', hmid⟩ := session?_eq_some hm
  rw [h.distinct.eq_of_id hl hl' hm' hml' (hid.trans hmid.symm), hover] at hopen
  cases hopen

lemma Resumed.ended (h : Resumed format strict m s) (record : SessionRecord) :
    Resumed format strict { m with record } { s with record }:=
  ⟨h.log, Nat.le_refl _, rfl⟩

lemma good_concluded {t : TerminalLogType}
    (h : (endInvariants format used S Q strict T (id :: pending)).Good d₀ j)
    (hQ : Recovers format strict now Q) (hm : j.store.session? root id = some m)
    (hopen : m.record.status.isTerminal = false) (ht : T.lookup id = some t) :
    (endInvariants format used S Q strict T pending).Good d₀
      (j.writeRecord format root id (SessionRecord.concluded now t)) := by
  have hid : m.record.id = id := h.id_eq hm
  have hover : t.outcome.1.isTerminal = true := by cases t <;> rfl
  have hwritten := h.writeRecord (f := SessionRecord.concluded now t) hm rfl fun s hR hs => by
    refine ⟨⟨hR.1.ended _, fun hopen' => ?_⟩, ?_⟩
    · rw [show (SessionRecord.concluded now t m.record).status = t.outcome.1 from rfl, hover] at hopen'
      cases hopen'
    · exact hQ.concluded T m s t (hR.2 hopen).1 hs hopen (hid ▸ ht)
  exact hwritten.turn (session?_writeRecord format hm hid) hover

def Interrupting (format : Format Content) (Q : SessionFiles → Prop) (strict : Prop)
    (T : List (ℕ × TerminalLogType)) (now : ℕ) (m₀ m : Session) (s : SessionFiles) : Prop :=
  (m = m₀ ∧ Read format T m s) ∨
    (m = { m₀ with lines := m₀.lines + 1 } ∧ ∃ s₀, Read format T m₀ s₀ ∧ Q s₀ ∧
      s = { s₀ with
        log := s₀.log ++ format.code.line (interruptedEventRecord m₀.record.eventCount now) }) ∨
    (m.record.status.isTerminal = true ∧ Resumed format strict m s)

def interruptInvariants (format : Format Content) (used : List ℕ) (S : Shape)
    (Q : SessionFiles → Prop) (strict : Prop) (T : List (ℕ × TerminalLogType)) (now : ℕ)
    (pending : List ℕ) (m₀ : Session) : Invariants Content where
  format := format
  used := used
  S := S
  Q := Q
  R m s := if m.record.id = m₀.record.id then Interrupting format Q strict T now m₀ m s
    else Resumed format strict m s ∧
      (m.record.status.isTerminal = false → Read format T m s ∧ m.record.id ∈ pending)
  exact := True

lemma Read.appended {e : EventRecord Content} (h : Read format T m s)
    (hlast : strict → ∀ e' ∈ s.entries format, e'.sequence < e.sequence) :
    ∃ es, s.log ++ format.code.line e = format.code.render es ∧ m.lines + 1 = es.length ∧
      (strict → LineCode.Ascending EventRecord.sequence es) := by
  obtain ⟨es, hlog, hlines, hascending⟩ := h.log
  obtain ⟨hentries, -⟩ := entries_of_render (hascending trivial) hlog
  refine ⟨es ++ [e], ?_, ?_, fun hstrict => ?_⟩
  · rw [hlog, LineCode.render_append]
    simp
  · rw [hlines, List.length_append]
    rfl
  · refine List.pairwise_append.mpr ⟨hascending trivial, List.pairwise_singleton .., ?_⟩
    intro e' he' e'' he''
    rw [List.mem_singleton.mp he'']
    exact hlast hstrict e' (hentries ▸ he')

lemma good_interrupted (h : (endInvariants format used S Q strict T (id :: pending)).Good d₀ j)
    (hQ : Recovers format strict now Q) (hm : j.store.session? root id = some m)
    (hopen : m.record.status.isTerminal = false) (hnone : T.lookup id = none)
    (hlines : m.lines < maxPersistedEventsPerSession) :
    (endInvariants format used S Q strict T pending).Good d₀
      ((j.appendLine format root id (interruptedEventRecord m.record.eventCount now)
        none).writeRecord format root id (SessionRecord.interrupted now m.record.eventCount)) := by
  have hid : m.record.id = id := h.id_eq hm
  rw [← hid] at hnone
  have hstart : (interruptInvariants format used S Q strict T now pending m).Good d₀ j := by
    refine h.imp (fun _ => trivial) fun l hl m' hm' s hR => ?_
    split
    · rename_i hsame
      obtain ⟨l', hl', -, hml', -⟩ := session?_eq_some hm
      obtain rfl := h.distinct.eq_of_id hl hl' hm' hml' hsame
      exact .inl ⟨rfl, (hR.2 hopen).1⟩
    · rename_i hother
      refine ⟨hR.1, fun hopen' => ⟨(hR.2 hopen').1, ?_⟩⟩
      exact (List.mem_cons.mp (hR.2 hopen').2).resolve_left fun heq => hother (heq.trans hid.symm)
  have happended := hstart.appendLine hm
    fun s hR hs => by
      dsimp only [interruptInvariants] at hR hs ⊢
      rw [if_pos rfl] at hR
      rcases hR with ⟨-, hread⟩ | ⟨heq, -⟩ | ⟨hover, -⟩
      · refine ⟨?_, hQ.appended T m s hread hs hopen hnone hlines⟩
        rw [if_pos rfl]
        exact .inr (.inl ⟨rfl, s, hread, hs, rfl⟩)
      · exact absurd (congrArg Session.lines heq) (Nat.ne_of_lt (Nat.lt_succ_self _))
      · rw [hopen] at hover
        cases hover
  have hnext :=
    session?_appendLine format (interruptedEventRecord m.record.eventCount now) hm
  have hwritten := happended.writeRecord (f := SessionRecord.interrupted now m.record.eventCount)
    hnext rfl fun s hR hs => by
      dsimp only [interruptInvariants] at hR hs ⊢
      rw [if_pos rfl] at hR
      rcases hR with ⟨heq, -⟩ | ⟨-, s₀, hread, hs₀, rfl⟩ | ⟨hover, -⟩
      · exact absurd (congrArg Session.lines heq).symm (Nat.ne_of_lt (Nat.lt_succ_self _))
      · have hsame : (m.record.interrupted now m.record.eventCount).id = m.record.id := rfl
        rw [if_pos hsame]
        refine ⟨.inr (.inr ⟨rfl, ?_, Nat.le_refl _, rfl⟩), ?_⟩
        · exact hread.appended fun hstrict => hQ.ordered hstrict T m s₀ hread hs₀ hopen hnone
        · have hfinal := hQ.interrupted T m s₀ hread hs₀ hopen hnone
          rw [if_pos hlines] at hfinal
          exact hfinal
      · rw [hopen] at hover
        cases hover
  have hend := session?_writeRecord format
    (f := SessionRecord.interrupted now m.record.eventCount) hnext hid
  refine hwritten.imp (fun _ => trivial) fun l hl m' hm' s hR => ?_
  dsimp only [interruptInvariants] at hR
  split at hR
  · rename_i hsame
    obtain ⟨l', hl', -, hml', -⟩ := session?_eq_some hend
    obtain rfl := hwritten.distinct.eq_of_id hl hl' hm' hml' hsame
    rcases hR with ⟨heq, -⟩ | ⟨heq, -⟩ | ⟨-, hresumed⟩
    · exact absurd (congrArg Session.lines heq).symm (Nat.ne_of_lt (Nat.lt_succ_self _))
    · have hstatus := congrArg (fun m : Session => m.record.status.isTerminal) heq
      rw [hopen] at hstatus
      cases hstatus
    · exact ⟨hresumed, fun hopen' => nomatch hopen'⟩
  · exact hR

lemma good_interrupted_full (h : (endInvariants format used S Q strict T (id :: pending)).Good d₀ j)
    (hQ : Recovers format strict now Q) (hm : j.store.session? root id = some m)
    (hopen : m.record.status.isTerminal = false) (hnone : T.lookup id = none)
    (hlines : ¬ m.lines < maxPersistedEventsPerSession) :
    (endInvariants format used S Q strict T pending).Good d₀
      (j.writeRecord format root id (SessionRecord.interrupted now m.record.eventCount)) := by
  have hid : m.record.id = id := h.id_eq hm
  have hwritten := h.writeRecord (f := SessionRecord.interrupted now m.record.eventCount) hm rfl
    fun s hR hs => by
      refine ⟨⟨hR.1.ended _, fun hopen' => nomatch hopen'⟩, ?_⟩
      have hfinal := hQ.interrupted T m s (hR.2 hopen).1 hs hopen (hid ▸ hnone)
      rw [if_neg hlines] at hfinal
      exact hfinal
  exact hwritten.turn (session?_writeRecord format hm hid) rfl

lemma recoverSession_eq (hm : j.store.session? root id = some m)
    (hopen : m.record.status.isTerminal = false)
    (hmax : max m.record.eventCount m.lines = m.record.eventCount) :
    j.recoverSession format now (root, id) =
      match j.store.logTerminals.lookup id with
      | some t => j.writeRecord format root id (SessionRecord.concluded now t)
      | none =>
        (if m.lines < maxPersistedEventsPerSession then
          j.appendLine format root id (interruptedEventRecord m.record.eventCount now) none
        else j).writeRecord format root id (SessionRecord.interrupted now m.record.eventCount) := by
  rw [Job.recoverSession]
  rw [hm]
  dsimp only
  rw [hopen, hmax]
  rfl

lemma recoverSession_of_isTerminal (hm : j.store.session? root id = some m)
    (hstatus : m.record.status.isTerminal = true) : j.recoverSession format now (root, id) = j := by
  rw [Job.recoverSession]
  rw [hm]
  exact if_pos hstatus

lemma store_recoverSession (place : ℕ × ℕ) :
    (j.recoverSession format now place).store.logTerminals = j.store.logTerminals ∧
      Job.places (j.recoverSession format now place).store = Job.places j.store := by
  unfold Job.recoverSession
  split
  · exact ⟨rfl, rfl⟩
  · split
    · exact ⟨rfl, rfl⟩
    · split
      · exact ⟨logTerminals_writeRecord, places_writeRecord (by exact fun _ => rfl)⟩
      · refine ⟨logTerminals_writeRecord.trans ?_, (places_writeRecord ?_).trans ?_⟩
        · split <;> rfl
        · exact fun _ => rfl
        · split
          · exact places_appendLine
          · rfl

lemma good_recoverSession {at_ : ℕ × ℕ}
    (h : (endInvariants format used S Q strict T (at_.2 :: pending)).Good d₀ j)
    (hQ : Recovers format strict now Q) (hT : j.store.logTerminals = T)
    (hplace : at_ ∈ Job.places j.store) :
    (endInvariants format used S Q strict T pending).Good d₀ (j.recoverSession format now at_) := by
  obtain ⟨root, id⟩ := at_
  obtain ⟨l, hl, rfl, m, hml, rfl⟩ := mem_places.mp hplace
  have hm := h.distinct.session?_of_mem hl hml
  cases hstatus : m.record.status.isTerminal with
  | true =>
    rw [recoverSession_of_isTerminal hm hstatus]
    exact h.turn hm hstatus
  | false =>
    have hmax : max m.record.eventCount m.lines = m.record.eventCount := by
      obtain ⟨dir, hdir, hroot, s, hs, hsid⟩ := h.exists_files hm
      obtain ⟨-, hR, -⟩ := h.files hm hdir hroot hs hsid
      exact Nat.max_eq_left (hR.2 hstatus).1.lines_le
    rw [recoverSession_eq hm hstatus hmax, hT]
    cases hfound : T.lookup m.record.id with
    | some t => exact good_concluded h hQ hm hstatus hfound
    | none =>
      by_cases hlines : m.lines < maxPersistedEventsPerSession
      · rw [if_pos hlines]
        exact good_interrupted h hQ hm hstatus hfound hlines
      · rw [if_neg hlines]
        exact good_interrupted_full h hQ hm hstatus hfound hlines

lemma good_foldl_recoverSession {places : List (ℕ × ℕ)}
    (h : (endInvariants format used S Q strict T (places.map Prod.snd)).Good d₀ j)
    (hQ : Recovers format strict now Q) (hT : j.store.logTerminals = T)
    (hplaces : ∀ p ∈ places, p ∈ Job.places j.store) :
    (endInvariants format used S Q strict T []).Good d₀
      (places.foldl (Job.recoverSession format now) j) := by
  induction places generalizing j with
  | nil => exact h
  | cons p rest ih =>
    obtain ⟨hterminals, hsame⟩ := store_recoverSession p
    have hgood := good_recoverSession h hQ hT (hplaces p List.mem_cons_self)
    exact ih hgood (hterminals.trans hT) fun p' hp' => hsame ▸ hplaces p' (List.mem_cons_of_mem _ hp')

/-! ## The constructor -/

def restInvariants (format : Format Content) (used : List ℕ) (S : Shape)
    (Q : SessionFiles → Prop) (strict : Prop) : Invariants Content where
  format := format
  used := used
  S := S
  Q := Q
  R m s := Resumed format strict m s ∧ m.record.status.isTerminal = true
  exact := True

lemma Invariants.Good.setTerminals (h : I.Good d₀ j) (T : List (ℕ × TerminalLogType)) :
    I.Good d₀ (j.set { j.store with logTerminals := T }):=
  ⟨h.along.set _, h.agrees, h.full, h.trash, h.index⟩

/-- The job of the constructor before old lineages are evicted. -/
def Job.recovered (format : Format Content) (now : ℕ) (disk : Disk) : Job :=
  let j : Job := { store := {}, disk }
  let j := j.quarantineStrayTemps.loadManifest.recoverInterruptedEvictions
  (j.loadLineages format).recoverNonTerminalSessions format now

lemma mem_nonempty {dirs : List LineageDir} {dir : LineageDir} :
    dir ∈ nonempty dirs ↔ dir ∈ dirs ∧ dir.sessions ≠ [] := by
  rw [nonempty, List.mem_filter]
  simp

theorem good_recovered (h : DiskInv used S Q d) (hQ : Recovers format strict now Q) :
    (restInvariants format used S Q strict).Good d (Job.recovered format now d) := by
  obtain ⟨halong, hstore, htrash⟩ := along_sweep h
  unfold Job.recovered
  dsimp only at halong hstore htrash ⊢
  generalize Job.recoverInterruptedEvictions _ = swept at halong hstore htrash ⊢
  have hfiles := halong.now.files
  have hstart : Loading format used S Q d [] swept.disk.lineages swept :=
    ⟨halong, rfl, htrash, hstore⟩
  have hloaded := hstart.foldl_loadLineage fun dir hdir s hs => hQ.repaired s (hfiles dir hdir s hs)
  have hgood := hloaded.good (fun dir hdir => (mem_nonempty.mp hdir).2)
    (fun dir hdir s hs => hQ.written s (hfiles dir (mem_nonempty.mp hdir).1 s hs)) strict
  have hend := (good_foldl_recoverSession hgood hQ rfl fun _ hp => hp).setTerminals []
  refine hend.imp (fun _ => trivial) fun l _ m _ s hR => ⟨hR.1, ?_⟩
  cases hstatus : m.record.status.isTerminal with
  | true => rfl
  | false => exact absurd (hR.2 hstatus).2 List.not_mem_nil

lemma Invariants.Good.writeManifest (h : I.Good d₀ j) : I.Good d₀ (j.emit .writeManifest):=
  ⟨h.along.emit (fun _ => h.sound.of_same rfl rfl rfl) (h.sound.of_same rfl rfl rfl), h.agrees, h.full,
    h.trash, h.index⟩

/-- A startup keeps what holds of the files, wherever it is killed, and it ends with a store in which
all sessions are over. -/
theorem good_construct (policy : RetentionPolicy) (h : DiskInv used S Q d)
    (hQ : Recovers format strict now Q) :
    (restInvariants format used S Q strict).Good d (Job.construct format policy now d) :=
  (good_recovered h hQ).enforceRetention.1.writeManifest

end VacancyRadar.Sessions
