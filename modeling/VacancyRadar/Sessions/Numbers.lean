import VacancyRadar.Data.Chunks
import VacancyRadar.Sessions.Live

/-!
# The numbers of the events in any run

The manager gives the events of a session ascending numbers, and it goes on after a write that failed.
A startup that interrupts a session numbers its event by what it has counted, and a count that was not
written to the disk is lost: the last event may have a number that an earlier one has.
-/

namespace VacancyRadar.Sessions

open Data

variable {Content : Type} {format : Format Content} {policy : RetentionPolicy}

/-! ## Logs -/

def LogOrdered (format : Format Content) (s : SessionFiles) : Prop :=
  ∃ es, format.code.Chunks es s.log ∧ LineCode.Ascending EventRecord.sequence es.dropLast

structure OrderedLive (format : Format Content) (n : ℕ) (m : Session) (s : SessionFiles) : Prop where
  count : m.record.eventCount = n
  events : ∃ es, format.code.Chunks es s.log ∧ LineCode.Ascending EventRecord.sequence es ∧
    ∀ e ∈ es, e.sequence < n

variable {es : List (EventRecord Content)} {s : SessionFiles} {m : Session} {event : AgentEvent Content}
  {d : Disk}

lemma ascending_dropLast (h : LineCode.Ascending EventRecord.sequence es) :
    LineCode.Ascending EventRecord.sequence es.dropLast := h.sublist (List.dropLast_sublist es)

lemma LogOrdered.read (h : LogOrdered format s) :
    ((format.code.read s.log).dropLast.map EventRecord.sequence).Nodup := by
  obtain ⟨es, hchunks, hes⟩ := h
  have hsub : (format.code.read s.log).dropLast.Sublist es.dropLast := by
    have htail := hchunks.read_sublist.reverse.tail
    rw [List.tail_reverse, List.tail_reverse] at htail
    exact List.reverse_sublist.mp htail
  have hpair := hes.sublist hsub
  exact List.Pairwise.map _ (fun _ _ hlt => Nat.ne_of_lt hlt) hpair

lemma LogOrdered.take (h : LogOrdered format s) (n : ℕ) :
    LogOrdered format { s with log := s.log.take n } := by
  obtain ⟨es, hchunks, hes⟩ := h
  exact ⟨es, hchunks.take n, hes⟩

variable {part : List UInt8} {record : SessionRecord}

lemma logOrdered_append (hchunks : format.code.Chunks es s.log)
    (hes : LineCode.Ascending EventRecord.sequence es) {e : EventRecord Content}
    (hpart : part <+: format.code.line e) : LogOrdered format { record, log := s.log ++ part }:=
  ⟨es ++ [e], hchunks.add hpart, by rwa [List.dropLast_concat]⟩

variable (format) in
lemma recovers_logOrdered (now : ℕ) : Recovers format False now (LogOrdered format) where
  written := by
    rintro s ⟨es, hchunks, -⟩
    exact hchunks.written
  repaired := by
    rintro s ⟨es, hchunks, -⟩
    obtain ⟨hlog, hascending⟩ := repaired_log hchunks.written
    refine ⟨_, ?_, ascending_dropLast hascending⟩
    rw [hlog]
    exact LineCode.Chunks.render _
  concluded := by
    rintro T m s t - hs - -
    exact hs
  ordered hfalse := hfalse.elim
  appended := by
    rintro T m s hread - - - - cut
    obtain ⟨es, hlog, -, hes⟩ := hread.log
    refine logOrdered_append ?_ (hes trivial) (List.take_prefix ..)
    rw [hlog]
    exact LineCode.Chunks.render es
  interrupted := by
    rintro T m s hread hs - -
    obtain ⟨es, hlog, -, hes⟩ := hread.log
    split
    · refine logOrdered_append ?_ (hes trivial) (List.prefix_refl _)
      rw [hlog]
      exact LineCode.Chunks.render es
    · exact hs

/-! ## Operations -/

def orderInvariants (format : Format Content) (used : List ℕ) (live : List (ℕ × ℕ)) :
    Invariants Content where
  format := format
  used := used
  S := { links := Linked }
  Q := LogOrdered format
  R m s := ∀ n, live.lookup m.record.id = some n → OrderedLive format n m s
  exact := False

lemma OrderedLive.minor {n : ℕ} (h : OrderedLive format n m s)
    (hcount : record.eventCount = m.record.eventCount) :
    OrderedLive format n { m with record } { s with record } := ⟨hcount.trans h.count, h.events⟩

lemma keepsMinor_orderInvariants (used : List ℕ) (live : List (ℕ × ℕ)) :
    (orderInvariants format used live).KeepsMinor := by
  intro m s record hminor hR hQ
  have hid : record.id = m.record.id := congrArg Links.id hminor.links
  exact ⟨fun n hn => (hR n (hid ▸ hn)).minor hminor.eventCount, hQ⟩

def numberInvariants (format : Format Content) (used : List ℕ) (live : List (ℕ × ℕ)) (id : ℕ)
    (X : Session → SessionFiles → Prop) : Invariants Content :=
  { orderInvariants format used live with
    R := fun m s => (m.record.id = id → X m s) ∧
      (m.record.id ≠ id → ∀ n, live.lookup m.record.id = some n → OrderedLive format n m s) }

lemma keepsMinor_numberInvariants (used : List ℕ) (live : List (ℕ × ℕ)) (id n : ℕ) :
    (numberInvariants format used live id (OrderedLive format n)).KeepsMinor := by
  intro m s record hminor hR hQ
  have hid : record.id = m.record.id := congrArg Links.id hminor.links
  refine ⟨⟨fun hsame => (hR.1 (hid ▸ hsame)).minor hminor.eventCount, fun hother k hk => ?_⟩, hQ⟩
  exact (hR.2 (hid ▸ hother) k (hid ▸ hk)).minor hminor.eventCount

lemma OrderedLive.append {n : ℕ} (h : OrderedLive format n m s) (m' : Session)
    (hcount : m'.record.eventCount = n + 1) (hpart : part <+: format.code.line (event.record n)) :
    OrderedLive format (n + 1) m' { s with log := s.log ++ part } ∧
      ∀ cut, LogOrdered format { s with log := s.log ++ part.take cut } := by
  obtain ⟨-, es, hchunks, hes, hlt⟩ := h
  refine ⟨⟨hcount, es ++ [event.record n], hchunks.add hpart, ?_, ?_⟩, fun cut => ?_⟩
  · refine List.pairwise_append.mpr ⟨hes, List.pairwise_singleton .., fun e he e' he' => ?_⟩
    rw [List.mem_singleton.mp he']
    exact hlt e he
  · intro e he
    rcases List.mem_append.mp he with hold | hnew
    · exact (hlt e hold).trans (Nat.lt_succ_self n)
    · rw [List.mem_singleton.mp hnew]
      exact Nat.lt_succ_self n
  · exact logOrdered_append hchunks hes ((List.take_prefix ..).trans hpart)

/-- The session is as it was before the event `n`, or as it is after it. -/
def Around (format : Format Content) (n : ℕ) (m : Session) (s : SessionFiles) : Prop :=
  OrderedLive format n m s ∨ OrderedLive format (n + 1) m s

lemma Around.before {n : ℕ} (h : Around format n m s) (hn : m.record.eventCount = n) : OrderedLive format n m s:= by
  refine h.resolve_right fun hafter => ?_
  have := hafter.count
  omega

lemma persists_numberInvariants {used : List ℕ} {live : List (ℕ × ℕ)} {id n : ℕ} (fault : Option ℕ)
    (hid : m.record.id = id) (hn : m.record.eventCount = n) :
    (numberInvariants format used live id (Around format n)).Persists m (event.record n) fault := by
  have hcount : m.record.counted.eventCount = n + 1 := congrArg (· + 1) hn
  constructor
  · rintro - - s ⟨hX, -⟩ -
    obtain ⟨hlive, hlog⟩ := ((hX hid).before hn).append ⟨m.record.counted, m.lines + 1⟩ hcount
      (List.prefix_refl (format.code.line (event.record n)))
    exact ⟨⟨fun _ => .inr hlive, fun hother => absurd hid hother⟩, hlog⟩
  · rintro k - -
    refine ⟨fun hfalse => hfalse, ?_⟩
    rintro s ⟨hX, -⟩ -
    have hpart : (format.code.encode (event.record n)).take k <+: format.code.line (event.record n) :=
      (List.take_prefix ..).trans (List.prefix_append ..)
    obtain ⟨hlive, hlog⟩ := ((hX hid).before hn).append { m with record := m.record.counted } hcount
      hpart
    exact ⟨⟨fun _ => .inr hlive, fun hother => absurd hid hother⟩, hlog⟩
  · rintro - s ⟨hX, -⟩ hQ
    obtain ⟨-, es, hchunks, hes, hlt⟩ := (hX hid).before hn
    refine ⟨⟨fun _ => .inr ⟨hcount, es, hchunks, hes, ?_⟩, fun hother => absurd hid hother⟩, hQ⟩
    exact fun e he => (hlt e he).trans (Nat.lt_succ_self n)

variable {used : List ℕ} {live : List (ℕ × ℕ)} {d₀ : Disk} {j : Job} {id n now : ℕ}

lemma good_numbered (event : AgentEvent Content) (fault : Option ℕ)
    (h : (orderInvariants format used live).Good d₀ j) (hn : live.lookup id = some n) :
    (numberInvariants format used live id (OrderedLive format (n + 1))).Good d₀
      (j.appendEvent format id (event.record n) fault) := by
  have hcount : ∀ {root : ℕ} {m : Session}, j.store.locate id = some (root, m) →
      m.record.id = id ∧ m.record.eventCount = n := by
    intro root m hlocate
    obtain ⟨hid, s, hR, -⟩ := h.exists_rel (session?_of_locate hlocate)
    exact ⟨hid, (hR n (hid ▸ hn)).count⟩
  have hstart : (numberInvariants format used live id (Around format n)).Good d₀ j :=
    h.imp (fun hfalse => hfalse) fun l _ m _ s hR => ⟨fun hid => .inl (hR n (hid ▸ hn)), fun _ => hR⟩
  have happended := hstart.appendEvent id (event.record n) fault
    fun root m hlocate => persists_numberInvariants fault (hcount hlocate).1 (hcount hlocate).2
  refine happended.imp (fun hfalse => hfalse) fun l hl m hm s hR => ⟨fun hid => ?_, hR.2⟩
  refine (hR.1 hid).resolve_left fun hlive => ?_
  -- the count in memory tells that the event was appended
  have hafter := h.eventCount_appendEvent happended (fun hlocate => (hcount hlocate).2) hl hm hid
  have hbefore := hlive.count
  omega

lemma good_order_event {frames : List UnknownFrame} (fault : Option ℕ)
    (h : (orderInvariants format used live).Good d₀ j) (hn : live.lookup id = some n) :
    (orderInvariants format used (liveAfter live id n event.type.terminalType)).Good d₀
      (j.persistEvent format id n event frames now fault) := by
  have happended := good_numbered event fault h hn
  have hdone : (numberInvariants format used live id (OrderedLive format (n + 1))).Good d₀
      (j.persistEvent format id n event frames now fault) := by
    rw [persistEvent_eq]
    split
    · exact happended
    · refine happended.conclude event frames now (keepsMinor_numberInvariants used live id _) ?_
      rintro t - m s hid ⟨hX, -⟩ hQ
      exact ⟨⟨fun _ => (hX hid).minor rfl, fun hother => absurd hid hother⟩, hQ⟩
  refine hdone.imp (fun hfalse => hfalse) fun l _ m _ s hR k hk => ?_
  rw [lookup_liveAfter] at hk
  by_cases hid : m.record.id = id
  · rw [if_pos hid] at hk
    split at hk
    · cases hk
    · obtain rfl := Option.some.inj hk
      exact hR.1 hid
  · rw [if_neg hid] at hk
    exact hR.2 hid k hk

variable (policy) in
lemma good_order_create (now : ℕ) {new : Job.NewSession}
    (h : (orderInvariants format used live).Good d₀ j)
    (hfresh : new.id ∉ used) :
    (numberInvariants format (new.id :: used) live new.id (OrderedLive format 0)).Good d₀
      (j.create format policy now new).1 := by
  have hstart : (numberInvariants format used live new.id (OrderedLive format 0)).Good d₀ j := by
    refine h.imp (fun hfalse => hfalse) fun l hl m hm s hR => ⟨fun hid => ?_, fun _ => hR⟩
    exact absurd (hid ▸ h.mem_used hl hm) hfresh
  refine hstart.create policy now rfl hfresh fun record hid hstatus hcount _ => ?_
  refine ⟨⟨[], .nil, List.Pairwise.nil⟩, fun _ => ⟨hcount, [], .nil, List.Pairwise.nil, ?_⟩, ?_⟩
  · exact fun e he => absurd he List.not_mem_nil
  · exact fun hother => absurd hid hother

lemma good_order_job {up : Up} {op : Op Content}
    (h : (orderInvariants format used up.live).Good d { store := up.store, disk := d })
    (hlive : ∀ id n, up.live.lookup id = some n → id ∈ used) (hfresh : op.fresh used = true) :
    (orderInvariants format (op.ids ++ used) (op.live format policy up d)).Good d
      (op.job format policy up d) := by
  cases op with
  | create new launches now =>
    have hnew : new.id ∉ used := of_decide_eq_true hfresh
    have hno : ∀ n, up.live.lookup new.id ≠ some n := fun n hn => hnew (hlive _ n hn)
    have hcreated := good_order_create policy now h hnew
    have hsame : (orderInvariants format (new.id :: used) up.live).Good d
        (Job.create format policy now new { store := up.store, disk := d }).1 :=
      hcreated.imp (fun hfalse => hfalse) fun l _ m _ s hR n hn => by
        by_cases hid : m.record.id = new.id
        · exact absurd (hid ▸ hn) (hno n)
        · exact hR.2 hid n hn
    refine Op.create_cases
      (motive := fun live j => (orderInvariants format (new.id :: used) live).Good d j) rfl hsame ?_ ?_
    · refine hcreated.imp (fun hfalse => hfalse) fun l _ m _ s hR n hn => ?_
      by_cases hid : m.record.id = new.id
      · rcases lookup_cons hn with ⟨-, rfl⟩ | hn
        · exact hR.1 hid
        · exact absurd (hid ▸ hn) (hno n)
      · rcases lookup_cons hn with ⟨hsame, -⟩ | hn
        · exact absurd hsame hid
        · exact hR.2 hid n hn
    · refine hsame.finalize now .failed .launchFailed ?_
      rintro root m s - hR hQ
      exact ⟨fun n hn => (hR n hn).minor rfl, hQ⟩
  | event id e frames now fault =>
    unfold Op.job Op.live
    dsimp only
    cases hn : up.live.lookup id with
    | none => exact h
    | some n => exact good_order_event fault h hn
  | accepted id => exact h.markAcceptedWork (keepsMinor_orderInvariants used up.live)
  | refine id scope => exact h.setScope (keepsMinor_orderInvariants used up.live)
  | streamFailed id =>
    refine h.imp (fun hfalse => hfalse) fun l _ m _ s hR n hn => ?_
    unfold Op.live at hn
    rw [lookup_others] at hn
    split at hn
    · cases hn
    · exact hR n hn

/-! ## Runs -/

def OrderInv (format : Format Content) (d : Daemon Content) : Prop :=
  match d.up with
  | none => DiskInv d.used { links := Linked } (LogOrdered format) d.disk
  | some up => (∀ id n, up.live.lookup id = some n → id ∈ d.used) ∧
    (orderInvariants format d.used up.live).Good d.disk { store := up.store, disk := d.disk }

variable (policy) in
lemma OrderInv.construct (h : DiskInv used { links := Linked } (LogOrdered format) d) (now : ℕ) :
    (orderInvariants format used []).Good d (Job.construct format policy now d):= by
  refine (good_construct policy h (recovers_logOrdered format now)).imp (fun hfalse => hfalse.elim) ?_
  rintro l - m - s - n ⟨⟩

lemma OrderInv.step {d : Daemon Content} (h : OrderInv format d) (move : Move Content) :
    OrderInv format (d.step format policy move) := by
  refine Daemon.Holds.step (P := fun used => DiskInv used { links := Linked } (LogOrdered format))
    (G := fun used up disk => (∀ id n, up.live.lookup id = some n → id ∈ used) ∧
      (orderInvariants format used up.live).Good disk { store := up.store, disk }) h
    (fun _ _ hdisk => hdisk.tear _ fun _ hs _ => hs.take _) ?_ ?_
  · rintro up op _ ⟨hlive, hgood⟩ hfresh
    exact (good_order_job hgood hlive hfresh).holds.imp_right fun hjob => ⟨live_used hlive, hjob⟩
  · intro now _ _ hdisk
    have hjob := OrderInv.construct policy hdisk now
    generalize Job.construct format policy now d.disk = j at hjob ⊢
    refine ⟨hjob.along, ?_, hjob.restart⟩
    rintro id n ⟨⟩

variable (format policy) in
theorem orderInv_run (moves : List (Move Content)) :
    OrderInv format (Daemon.run format policy moves) :=
  List.foldlRecOn moves _ (diskInv_empty _) fun _ hd move _ => hd.step move

end VacancyRadar.Sessions
