import VacancyRadar.Audit.System
import VacancyRadar.Audit.Text

/-!
# The invariants of appending

In every state that can be reached, whatever fails, the next call of `append` comes to an end, moves
the active file as it is if it moves it at all, and is rejected for its size exactly if the entry does
not fit in an empty file.  A store that had a failed write accepts nothing any more.
-/

namespace VacancyRadar.Audit

open Data

variable {Input : Type} {policy : AuditPolicy} {format : AuditFormat Input} {input : Input}
  {attempts : ℕ → Attempt} {answer : Except AppendError (AuditEntry Input)} {s s' : State Input}

/-! ## Writing -/

lemma write_cases (entry : AuditEntry Input) (fault : Option WriteFault) (s : State Input) :
    ∃ part, part <+: format.code.line entry ∧
      (s.write format entry fault).2.disk.retired = s.disk.retired ∧
      (s.write format entry fault).2.disk.text = s.disk.text ++ part ∧
      (s.write format entry fault).2.store.entries =
        s.store.entries ++ accepted (s.write format entry fault).1 ∧
      ((s.write format entry fault).1 = .ok entry ∧ part = format.code.line entry ∨
        ∃ cause, (s.write format entry fault).1 = .error (.unavailable cause) ∧
          (s.write format entry fault).2.store.unhealthy = some cause) := by
  match fault with
  | none => exact ⟨_, List.prefix_refl _, rfl, rfl, rfl, .inl ⟨rfl, rfl⟩⟩
  | some (.opening message) =>
    exact ⟨[], List.nil_prefix, rfl, (List.append_nil _).symm, (List.append_nil _).symm,
      .inr ⟨message, rfl, rfl⟩⟩
  | some (.writing written message) =>
    exact ⟨_, List.take_prefix .., rfl, rfl, (List.append_nil _).symm, .inr ⟨message, rfl, rfl⟩⟩

lemma Sound.log_toList (h : Sound policy format s) (hlatch : s.store.unhealthy = none)
    (hbytes : s.store.bytes ≠ 0) : s.disk.log.toList = [s.disk.text] := by
  obtain ⟨hlength, -⟩ := h.holds hlatch
  cases hlog : s.disk.log with
  | none =>
    rw [Disk.text, hlog] at hlength
    exact absurd hlength.symm hbytes
  | some text => rw [Disk.text, hlog]; rfl

lemma lineBytes_le {e e' : AuditEntry Input} (hinput : e.input = e'.input)
    (hsequence : e.sequence ≤ e'.sequence) : format.lineBytes e ≤ format.lineBytes e' := by
  have hle := format.length_le e e' hinput hsequence
  simp only [AuditFormat.lineBytes, LineCode.line, List.length_append, List.length_singleton]
  omega

/-! ## One call -/

/-- The entry does not fit in an empty file. -/
def TooLarge (policy : AuditPolicy) (format : AuditFormat Input) (input : Input) : Prop :=
  ∀ stamp, policy.maxBytes < format.lineBytes { sequence := 0, stamp, input }

lemma tooLarge_iff (stamp : Stamp) : TooLarge policy format input ↔
    policy.maxBytes < format.lineBytes { sequence := 0, stamp, input } := by
  refine ⟨fun h => h stamp, fun h stamp' => h.trans_le ?_⟩
  exact lineBytes_le rfl (le_refl 0)

structure Turned (policy : AuditPolicy) (format : AuditFormat Input) (input : Input)
    (attempts : ℕ → Attempt) (s : State Input) (answer : Except AppendError (AuditEntry Input))
    (s' : State Input) : Prop where
  /-- The file grows, or it is moved as it is and a new one is begun. -/
  files : ∃ part, (∀ entry, answer = .ok entry → part = format.code.line entry) ∧
    (s'.disk.retired = s.disk.retired ∧ s'.disk.text = s.disk.text ++ part ∧
        s'.store.entries = s.store.entries ++ accepted answer ∨
      s'.disk.retired.map Retired.text = s.disk.retired.map Retired.text ++ [s.disk.text] ∧
        Holds format s.disk.text s.store.entries ∧
        s'.disk.text = part ∧ s'.store.entries = accepted answer)
  /-- The entry is rejected for its size exactly if it does not fit in an empty file. -/
  capacity : answer = .error (.capacity policy.maxBytes) ↔
    s.store.unhealthy = none ∧ format.accepts input = true ∧
      (s.store.bytes ≠ 0 → (rotate policy (attempts 0) s).1 = none) ∧ TooLarge policy format input
  /-- A failure latches the store. -/
  latch : ∀ cause, answer = .error (.unavailable cause) → s'.store.unhealthy = some cause
  /-- A store that is latched does nothing. -/
  refused : ∀ cause, s.store.unhealthy = some cause → answer = .error (.unavailable cause) ∧ s' = s

lemma Sound.nextSequence_eq_zero (h : Sound policy format s) (hlatch : s.store.unhealthy = none)
    (hbytes : s.store.bytes = 0) : s.store.nextSequence = 0 := by
  obtain ⟨hlength, hholds⟩ := h.holds hlatch
  rw [List.eq_nil_of_length_eq_zero (hlength.trans hbytes)] at hholds
  rw [h.next, hholds.eq_nil]
  rfl

lemma not_tooLarge_of_le (entry : AuditEntry Input) (hinput : entry.input = input)
    (h : format.lineBytes entry ≤ policy.maxBytes) : ¬ TooLarge policy format input := by
  intro hlarge
  have hle : format.lineBytes { sequence := 0, stamp := entry.stamp, input } ≤
      format.lineBytes entry := lineBytes_le hinput.symm (Nat.zero_le _)
  have := hlarge entry.stamp
  omega

lemma Turned.same (hanswer : accepted answer = [])
    (hcapacity : answer = .error (.capacity policy.maxBytes) ↔
      s.store.unhealthy = none ∧ format.accepts input = true ∧
        (s.store.bytes ≠ 0 → (rotate policy (attempts 0) s).1 = none) ∧
        TooLarge policy format input)
    (hlatch : ∀ cause, answer = .error (.unavailable cause) ↔ s.store.unhealthy = some cause) :
    Turned policy format input attempts s answer s where
  files := by
    refine ⟨[], fun entry hok => ?_, .inl ⟨rfl, by simp, by simp [hanswer]⟩⟩
    rw [hok] at hanswer
    cases hanswer
  capacity := hcapacity
  latch cause := (hlatch cause).mp
  refused cause hcause := ⟨(hlatch cause).mpr hcause, rfl⟩

lemma Turned.of_write {t : State Input} {entry : AuditEntry Input} {fault : Option WriteFault}
    (hlatch : s.store.unhealthy = none) (hsmall : ¬ TooLarge policy format input)
    (hfrom : t = s ∨
      t.disk.retired.map Retired.text = s.disk.retired.map Retired.text ++ [s.disk.text] ∧
        Holds format s.disk.text s.store.entries ∧ t.disk.text = [] ∧ t.store.entries = []) :
    Turned policy format input attempts s (t.write format entry fault).1
      (t.write format entry fault).2 := by
  obtain ⟨part, -, hretired, htext, hentries, hanswer⟩ := write_cases entry fault t
  generalize (t.write format entry fault).1 = answer at *
  refine ⟨⟨part, ?_, ?_⟩, ?_, ?_, ?_⟩
  · intro e hok
    rcases hanswer with ⟨rfl, hpart⟩ | ⟨cause, rfl, -⟩
    · cases hok
      exact hpart
    · cases hok
  · rcases hfrom with rfl | ⟨hmoved, hholds, hnil, hnone⟩
    · exact .inl ⟨hretired, htext, hentries⟩
    · rw [hnil, List.nil_append] at htext
      rw [hnone, List.nil_append] at hentries
      rw [← hretired] at hmoved
      exact .inr ⟨hmoved, hholds, htext, hentries⟩
  · refine iff_of_false (fun hcapacity => ?_) fun hall => hsmall hall.2.2.2
    rcases hanswer with ⟨rfl, -⟩ | ⟨cause, rfl, -⟩ <;> cases hcapacity
  · intro cause hcause
    rcases hanswer with ⟨rfl, -⟩ | ⟨cause', rfl, hunhealthy⟩
    · cases hcause
    · cases hcause
      exact hunhealthy
  · intro cause hcause
    rw [hlatch] at hcause
    cases hcause

lemma Sound.turned (h : Sound policy format s)
    (houtcome : Outcome policy format input attempts s answer s') :
    Turned policy format input attempts s answer s' := by
  cases houtcome with
  | refused hlatch =>
    refine Turned.same rfl (by simp [hlatch]) fun cause => ?_
    rw [hlatch]
    simp
  | invalid hlatch hinput =>
    refine Turned.same rfl (by simp [hinput]) fun cause => ?_
    rw [hlatch]
    simp
  | full hlatch hinput hroom hempty =>
    refine Turned.same rfl ?_ fun cause => ?_
    · have hlarge : TooLarge policy format input := by
        rw [tooLarge_iff (attempts 0).stamp]
        rw [hempty, Nat.zero_add, State.entry, h.nextSequence_eq_zero hlatch hempty] at hroom
        exact hroom
      simp [hlatch, hinput, hempty, hlarge]
    · rw [hlatch]
      simp
  | written hlatch hinput hroom =>
    refine Turned.of_write hlatch (not_tooLarge_of_le (s.entry input (attempts 0)) rfl ?_)
      (.inl rfl)
    omega
  | unrotated hlatch hinput hroom hempty hrotate =>
    refine ⟨⟨[], by rintro _ ⟨⟩, ?_⟩, ?_, ?_, ?_⟩
    · rcases rotate_some hrotate with rfl | ⟨hstore, hlog, hretired⟩
      · exact .inl ⟨rfl, (List.append_nil _).symm, (List.append_nil _).symm⟩
      · rw [h.log_toList hlatch hempty] at hretired
        exact .inr ⟨hretired, (h.holds hlatch).2, by rw [Disk.text, hlog]; rfl, by rw [hstore]; rfl⟩
    · simp [hrotate, hempty]
    · intro cause hcause
      cases hcause
      rcases rotate_some hrotate with rfl | ⟨hstore, -, -⟩
      · rfl
      · rw [hstore]
    · intro cause hcause
      rw [hlatch] at hcause
      cases hcause
  | tooLarge hlatch hinput hroom hempty hrotate hlarge =>
    obtain ⟨hstore, hlog, hretired⟩ := rotate_none hrotate
    rw [h.log_toList hlatch hempty] at hretired
    refine ⟨⟨[], by rintro _ ⟨⟩, .inr ⟨hretired, (h.holds hlatch).2, ?_, ?_⟩⟩, ?_, ?_, ?_⟩
    · rw [Disk.text, hlog]
      rfl
    · rw [hstore]
      rfl
    · have hall : TooLarge policy format input := by
        rw [tooLarge_iff (attempts 1).stamp]
        rw [State.entry, hstore] at hlarge
        exact hlarge
      simp [hlatch, hinput, hrotate, hall]
    · rintro _ ⟨⟩
    · intro cause hcause
      rw [hlatch] at hcause
      cases hcause
  | rewritten hlatch hinput hroom hempty hrotate hfits =>
    obtain ⟨hstore, hlog, hretired⟩ := rotate_none hrotate
    rw [h.log_toList hlatch hempty] at hretired
    refine Turned.of_write hlatch (not_tooLarge_of_le _ rfl hfits)
      (.inr ⟨hretired, (h.holds hlatch).2, ?_, ?_⟩)
    · rw [Disk.text, hlog]
      rfl
    · rw [hstore]

/-! ## All calls -/

/-- The process goes on. -/
def Move.alive : Move Input → Bool
  | .kill _ _ => false
  | _ => true

lemma step_of_unhealthy {s s' : Sys Input} {move : Move Input} {cause : String}
    (hlatch : s.state.store.unhealthy = some cause) (halive : move.alive)
    (hstep : s.step policy format move = some s') :
    s'.state = s.state ∧ s'.resolved = s.resolved := by
  cases move with
  | call input =>
    cases hstep
    exact ⟨rfl, rfl⟩
  | turn attempts =>
    unfold Sys.step at hstep
    dsimp only at hstep
    split at hstep
    · cases hstep
      exact ⟨rfl, rfl⟩
    · obtain ⟨r, hr, rfl⟩ := Option.map_eq_some_iff.mp hstep
      rw [appendNow, hlatch] at hr
      cases hr
      exact ⟨rfl, List.append_nil _⟩
  | close reason =>
    cases hstep
    refine ⟨?_, rfl⟩
    rw [State.close, hlatch, Option.some_or, ← hlatch]
  | kill during load => cases halive

lemma run_of_unhealthy {s s' : Sys Input} {moves : List (Move Input)} {cause : String}
    (hlatch : s.state.store.unhealthy = some cause) (halive : ∀ move ∈ moves, move.alive)
    (hrun : Sys.run policy format moves s = some s') :
    s'.state = s.state ∧ s'.resolved = s.resolved := by
  induction moves generalizing s with
  | nil =>
    cases hrun
    exact ⟨rfl, rfl⟩
  | cons move moves ih =>
    obtain ⟨t, ht, hrest⟩ := Option.bind_eq_some_iff.mp hrun
    obtain ⟨hstate, hresolved⟩ := step_of_unhealthy hlatch (halive move List.mem_cons_self) ht
    rw [← hstate, ← hresolved]
    refine ih ?_ (fun m hm => halive m (List.mem_cons_of_mem _ hm)) hrest
    rw [hstate]
    exact hlatch

lemma exists_step (s : Sys Input) (move : Move Input) : ∃ s', s.step policy format move = some s' := by
  cases move with
  | call input => exact ⟨_, rfl⟩
  | turn attempts =>
    unfold Sys.step
    cases s.waiting with
    | nil => exact ⟨_, rfl⟩
    | cons input waiting =>
      obtain ⟨answer, s', hall, -⟩ := appendNow_outcome policy format input attempts s.state
      dsimp only
      rw [hall 0]
      exact ⟨_, rfl⟩
  | close reason => exact ⟨_, rfl⟩
  | kill during load =>
    unfold Sys.step Sys.left
    cases during with
    | none => exact ⟨_, rfl⟩
    | some attempts =>
      cases s.waiting with
      | nil => exact ⟨_, rfl⟩
      | cons input waiting =>
        obtain ⟨answer, s', hall, -⟩ := appendNow_outcome policy format input attempts s.state
        dsimp only
        rw [hall 0]
        exact ⟨_, rfl⟩

lemma exists_run (s : Sys Input) (moves : List (Move Input)) :
    ∃ s', Sys.run policy format moves s = some s' := by
  induction moves generalizing s with
  | nil => exact ⟨s, rfl⟩
  | cons move moves ih =>
    obtain ⟨t, ht⟩ := exists_step s move
    obtain ⟨s', hs'⟩ := ih t
    exact ⟨s', Option.bind_eq_some_iff.mpr ⟨t, ht, hs'⟩⟩

/-- Every run of a store that is opened on files no larger than it allows comes to a state in which
the entries have the numbers from zero on, and their bytes are counted.  There the next call of
`append` ends as `Turned` says, and a store that is latched stays as it is. -/
theorem append_invariants (policy : AuditPolicy) (format : AuditFormat Input) (load : Load)
    {disk : Disk} (hdisk : disk.text.length ≤ policy.maxBytes) (moves : List (Move Input)) :
    ∃ s, Sys.run policy format moves { state := construct policy format load disk } = some s ∧
      s.state.store.entries.map AuditEntry.sequence = List.range s.state.store.entries.length ∧
      (∃ text tail, s.state.disk.text = text ++ tail ∧ text.length = s.state.store.bytes ∧
        (s.state.store.unhealthy = none → tail = []) ∧ Holds format text s.state.store.entries) ∧
      s.state.store.bytes ≤ policy.maxBytes ∧
      (∀ input attempts, ∃ answer s',
        (∀ fuel, 2 ≤ fuel →
          appendNow policy format input fuel attempts s.state = some (answer, s')) ∧
        Turned policy format input attempts s.state answer s') ∧
      ∀ cause, s.state.store.unhealthy = some cause → ∀ moves' s',
        (∀ move ∈ moves', move.alive) → Sys.run policy format moves' s = some s' →
        s'.state = s.state ∧ s'.resolved = s.resolved := by
  obtain ⟨s, hrun⟩ := exists_run
    { state := construct policy format load disk } moves
  have hsound : Sound policy format s.state :=
    Sys.run_induction (P := fun s => Sound policy format s.state) (fun _ _ _ h => h.step)
      (sound_construct load hdisk) hrun
  refine ⟨s, hrun, hsound.sequences, hsound.file, ?_, fun input attempts => ?_, ?_⟩
  · obtain ⟨text, tail, htext, hbytes, -⟩ := hsound.file
    have hroom := hsound.room
    rw [htext, List.length_append] at hroom
    omega
  · obtain ⟨answer, s', hall, houtcome⟩ := appendNow_outcome policy format input attempts s.state
    refine ⟨answer, s', fun fuel hfuel => ?_, hsound.turned houtcome⟩
    obtain ⟨fuel, rfl⟩ := Nat.exists_eq_add_of_le' hfuel
    exact hall fuel
  · intro cause hlatch moves' s' halive hrun'
    exact run_of_unhealthy hlatch halive hrun'

def samplePolicy : AuditPolicy := { maxBytes := 300, maxSegmentAgeMs := 1000 }

def sampleAttempts (entryId : BitVec 128) (fault : Option WriteFault) : ℕ → Attempt :=
  fun _ => { stamp := ⟨entryId, 5, by decide⟩, writeFails := fault }

def sampleMoves : List (Move Unit) :=
  [.call (), .call (), .turn (sampleAttempts 1 none), .turn (sampleAttempts 2 none), .call (),
    .turn (sampleAttempts 3 none), .call (), .turn (sampleAttempts 4 none), .call (),
    .turn (sampleAttempts 5 (some (.writing 5 "EIO")))]

theorem append_invariants_sample : ∃ s,
    Sys.run samplePolicy entryFormat sampleMoves
      { state := construct samplePolicy entryFormat {} {} } = some s ∧
    s.state.store.entries.map AuditEntry.sequence = List.range s.state.store.entries.length ∧
    s.state.store.bytes ≤ samplePolicy.maxBytes := by
  have hdisk : ({} : Disk).text.length ≤ samplePolicy.maxBytes := by decide
  obtain ⟨s, hrun, hsequences, -, hbytes, -⟩ :=
    append_invariants samplePolicy entryFormat {} hdisk sampleMoves
  exact ⟨s, hrun, hsequences, hbytes⟩

/-- A write that fails may leave bytes in the file that are not counted. -/
theorem uncounted_bytes : ¬ ∀ (moves : List (Move Unit)) (s : Sys Unit),
    Sys.run samplePolicy entryFormat moves
      { state := construct samplePolicy entryFormat {} {} } = some s →
    s.state.disk.text.length = s.state.store.bytes := by
  intro hall
  have hrun : (Sys.run samplePolicy entryFormat sampleMoves
      { state := construct samplePolicy entryFormat {} {} }).map
        (fun s => (s.state.disk.text.length, s.state.store.bytes)) = some (103, 98) := by
    decide
  obtain ⟨s, hs, hsizes⟩ := Option.map_eq_some_iff.mp hrun
  have hsame := hall sampleMoves s hs
  rw [(Prod.mk.inj hsizes).1, (Prod.mk.inj hsizes).2] at hsame
  exact absurd hsame (by decide)

end VacancyRadar.Audit
