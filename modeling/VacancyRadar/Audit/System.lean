import VacancyRadar.Audit.Store

/-!
# Appending to the audit log

Any number of callers append entries, one after the other, while writes and renames may fail and the
process may be killed and started again.
-/

namespace VacancyRadar.Audit

open Data

variable {Input : Type}

/-! ## Runs -/

/-- What can happen: `append` is called, the oldest waiting call gets its turn, the store is closed,
or the process ends, maybe within a turn, and is started again. -/
inductive Move (Input : Type) where
  | call (input : Input)
  | turn (attempts : ℕ → Attempt)
  | close (reason : String)
  | kill (during : Option (ℕ → Attempt)) (load : Load)

/-- The state, the calls that wait on `#writeQueue`, and the entries of the calls that have resolved. -/
structure Sys (Input : Type) where
  state : State Input
  waiting : List Input := []
  resolved : List (AuditEntry Input) := []

def accepted : Except AppendError (AuditEntry Input) → List (AuditEntry Input)
  | .ok entry => [entry]
  | .error _ => []

/-- The files as the process leaves them when it ends. -/
def Sys.left (policy : AuditPolicy) (format : AuditFormat Input) (s : Sys Input)
    (during : Option (ℕ → Attempt)) : Option Disk :=
  match during, s.waiting with
  | some attempts, input :: _ =>
    (appendNow policy format input 2 attempts s.state).map fun r => r.2.disk
  | _, _ => some s.state.disk

def Sys.step (policy : AuditPolicy) (format : AuditFormat Input) (s : Sys Input) :
    Move Input → Option (Sys Input)
  | .call input => some { s with waiting := s.waiting ++ [input] }
  | .turn attempts =>
    match s.waiting with
    | [] => some s
    | input :: waiting =>
      (appendNow policy format input 2 attempts s.state).map fun r =>
        { state := r.2, waiting, resolved := s.resolved ++ accepted r.1 }
  | .close reason => some { s with state := s.state.close reason }
  | .kill during load =>
    (s.left policy format during).map fun disk =>
      { state := construct policy format load disk, resolved := s.resolved }

def Sys.run (policy : AuditPolicy) (format : AuditFormat Input) :
    List (Move Input) → Sys Input → Option (Sys Input)
  | [], s => some s
  | move :: moves, s => (s.step policy format move).bind (Sys.run policy format moves)

variable {policy : AuditPolicy} {format : AuditFormat Input}

/-- All steps of a run meet a condition. -/
def Sys.Along (policy : AuditPolicy) (format : AuditFormat Input) (P : Sys Input → Move Input → Prop) :
    List (Move Input) → Sys Input → Prop
  | [], _ => True
  | move :: moves, s =>
    P s move ∧ ∀ s', s.step policy format move = some s' → Sys.Along policy format P moves s'

variable {C : Sys Input → Move Input → Prop} {P : Sys Input → Prop} {moves : List (Move Input)}
  {r : Except AppendError (AuditEntry Input) × State Input}

lemma Sys.run_induction_of_along {s s' : Sys Input}
    (hstep : ∀ s s' move, P s → C s move → s.step policy format move = some s' → P s') (hs : P s)
    (halong : Sys.Along policy format C moves s) (hrun : Sys.run policy format moves s = some s') : P s':= by
  induction moves generalizing s with
  | nil =>
    cases hrun
    exact hs
  | cons move moves ih =>
    obtain ⟨t, ht, hrest⟩ := Option.bind_eq_some_iff.mp hrun
    obtain ⟨hmove, hmoves⟩ := halong
    exact ih (hstep s t move hs hmove ht) (hmoves t ht) hrest

lemma Sys.run_induction {s s' : Sys Input}
    (hstep : ∀ s s' move, P s → s.step policy format move = some s' → P s') (hs : P s)
    (hrun : Sys.run policy format moves s = some s') : P s':= by
  refine Sys.run_induction_of_along (C := fun _ _ => True) (fun s s' move h _ => hstep s s' move h)
    hs ?_ hrun
  clear hrun hs
  induction moves generalizing s with
  | nil => trivial
  | cons move moves ih => exact ⟨trivial, fun t _ => ih⟩

/-! ## What an append does -/

section Outcome

variable {input : Input} {attempts : ℕ → Attempt} {s s' : State Input}

/-- What `#appendNow` can come to. -/
inductive Outcome (policy : AuditPolicy) (format : AuditFormat Input) (input : Input)
    (attempts : ℕ → Attempt) (s : State Input) :
    Except AppendError (AuditEntry Input) → State Input → Prop where
  | refused {cause : String} (hlatch : s.store.unhealthy = some cause) :
    Outcome policy format input attempts s (.error (.unavailable cause)) s
  | invalid (hlatch : s.store.unhealthy = none) (hinput : format.accepts input = false) :
    Outcome policy format input attempts s (.error .invalid) s
  | written (hlatch : s.store.unhealthy = none) (hinput : format.accepts input = true)
    (hroom : s.store.bytes + format.lineBytes (s.entry input (attempts 0)) ≤ policy.maxBytes) :
    Outcome policy format input attempts s
      (s.write format (s.entry input (attempts 0)) (attempts 0).writeFails).1
      (s.write format (s.entry input (attempts 0)) (attempts 0).writeFails).2
  | full (hlatch : s.store.unhealthy = none) (hinput : format.accepts input = true)
    (hroom : policy.maxBytes < s.store.bytes + format.lineBytes (s.entry input (attempts 0)))
    (hempty : s.store.bytes = 0) :
    Outcome policy format input attempts s (.error (.capacity policy.maxBytes)) s
  | unrotated {message : String} {s' : State Input} (hlatch : s.store.unhealthy = none)
    (hinput : format.accepts input = true)
    (hroom : policy.maxBytes < s.store.bytes + format.lineBytes (s.entry input (attempts 0)))
    (hempty : s.store.bytes ≠ 0) (hrotate : rotate policy (attempts 0) s = (some message, s')) :
    Outcome policy format input attempts s (.error (.unavailable message)) s'
  | tooLarge {s' : State Input} (hlatch : s.store.unhealthy = none)
    (hinput : format.accepts input = true)
    (hroom : policy.maxBytes < s.store.bytes + format.lineBytes (s.entry input (attempts 0)))
    (hempty : s.store.bytes ≠ 0) (hrotate : rotate policy (attempts 0) s = (none, s'))
    (hlarge : policy.maxBytes < format.lineBytes (s'.entry input (attempts 1))) :
    Outcome policy format input attempts s (.error (.capacity policy.maxBytes)) s'
  | rewritten {s' : State Input} (hlatch : s.store.unhealthy = none)
    (hinput : format.accepts input = true)
    (hroom : policy.maxBytes < s.store.bytes + format.lineBytes (s.entry input (attempts 0)))
    (hempty : s.store.bytes ≠ 0) (hrotate : rotate policy (attempts 0) s = (none, s'))
    (hfits : format.lineBytes (s'.entry input (attempts 1)) ≤ policy.maxBytes) :
    Outcome policy format input attempts s
      (s'.write format (s'.entry input (attempts 1)) (attempts 1).writeFails).1
      (s'.write format (s'.entry input (attempts 1)) (attempts 1).writeFails).2

@[simp]
lemma log_pruneExpiredSegments (prune : Prune) (disk : Disk) :
    (pruneExpiredSegments policy prune disk).log = disk.log := rfl

@[simp]
lemma texts_pruneExpiredSegments (prune : Prune) (disk : Disk) :
    (pruneExpiredSegments policy prune disk).retired.map Retired.text =
      disk.retired.map Retired.text := by
  rw [pruneExpiredSegments, List.map_map]
  refine List.map_congr_left fun file _ => ?_
  dsimp only [Function.comp_apply]
  split
  · split <;> rfl
  · rfl

lemma rotate_none {attempt : Attempt} (h : rotate policy attempt s = (none, s')) :
    s'.store = { s.store with entries := [], nextSequence := 0, bytes := 0 } ∧
      s'.disk.log = none ∧
      s'.disk.retired.map Retired.text = s.disk.retired.map Retired.text ++ s.disk.log.toList := by
  unfold rotate at h
  split at h
  · next hlog =>
    cases h
    exact ⟨rfl, hlog, by simp [hlog]⟩
  · next text hlog =>
    split at h
    · cases h
    · split at h
      · cases h
      · cases h
        exact ⟨rfl, rfl, by simp [hlog]⟩

lemma rotate_some {attempt : Attempt} {message : String}
    (h : rotate policy attempt s = (some message, s')) :
    s' = s.latched message ∨
      s'.store =
        { entries := [], nextSequence := 0, bytes := 0, unhealthy := some message } ∧
      s'.disk.log = none ∧
      s'.disk.retired.map Retired.text = s.disk.retired.map Retired.text ++ s.disk.log.toList := by
  unfold rotate at h
  split at h
  · cases h
  · next text hlog =>
    split at h
    · cases h
      exact .inl rfl
    · split at h
      · cases h
        exact .inr ⟨rfl, rfl, by simp [State.latched, hlog]⟩
      · cases h

/-- `#appendNow` calls itself at most once. -/
theorem appendNow_outcome (policy : AuditPolicy) (format : AuditFormat Input) (input : Input)
    (attempts : ℕ → Attempt) (s : State Input) :
    ∃ answer s', (∀ fuel, appendNow policy format input (fuel + 2) attempts s = some (answer, s')) ∧
      Outcome policy format input attempts s answer s' := by
  cases hlatch : s.store.unhealthy with
  | some cause => exact ⟨_, _, fun fuel => by rw [appendNow, hlatch], .refused hlatch⟩
  | none =>
    by_cases hinput : format.accepts input = true
    · by_cases hroom :
          policy.maxBytes < s.store.bytes + format.lineBytes (s.entry input (attempts 0))
      · by_cases hempty : s.store.bytes = 0
        · refine ⟨_, _, fun fuel => ?_, .full hlatch hinput hroom hempty⟩
          rw [appendNow, hlatch]
          rw [if_neg (by simp [hinput]), if_pos hroom, if_pos hempty]
        · obtain ⟨result, s', hrotate⟩ :
              ∃ result s', rotate policy (attempts 0) s = (result, s') := ⟨_, _, rfl⟩
          cases result with
          | some message =>
            refine ⟨_, _, fun fuel => ?_, .unrotated hlatch hinput hroom hempty hrotate⟩
            rw [appendNow, hlatch]
            rw [if_neg (by simp [hinput]), if_pos hroom, if_neg hempty, hrotate]
          | none =>
            have hfirst : ∀ fuel, appendNow policy format input (fuel + 2) attempts s =
                appendNow policy format input (fuel + 1) (fun k => attempts (k + 1)) s' := by
              intro fuel
              rw [appendNow, hlatch]
              rw [if_neg (by simp [hinput]), if_pos hroom, if_neg hempty, hrotate]
            -- The file is empty now, so the second call does not rotate again.
            obtain ⟨hstore, -, -⟩ := rotate_none hrotate
            have hhealthy : s'.store.unhealthy = none := by rw [hstore]; exact hlatch
            have hbytes : s'.store.bytes = 0 := by rw [hstore]
            have hsecond : ∀ fuel, appendNow policy format input (fuel + 2) attempts s =
                if policy.maxBytes < s'.store.bytes + format.lineBytes (s'.entry input (attempts 1)) then
                  some (.error (.capacity policy.maxBytes), s')
                else some (s'.write format (s'.entry input (attempts 1)) (attempts 1).writeFails) := by
              intro fuel
              rw [hfirst, appendNow, hhealthy]
              rw [if_neg (by simp [hinput]), if_pos hbytes]
            rw [hbytes, Nat.zero_add] at hsecond
            by_cases hlarge : policy.maxBytes < format.lineBytes (s'.entry input (attempts 1))
            · refine ⟨_, _, fun fuel => ?_, .tooLarge hlatch hinput hroom hempty hrotate hlarge⟩
              rw [hsecond, if_pos hlarge]
            · refine ⟨_, _, fun fuel => ?_,
                .rewritten hlatch hinput hroom hempty hrotate (Nat.not_lt.mp hlarge)⟩
              rw [hsecond, if_neg hlarge]
      · refine ⟨_, _, fun fuel => ?_, .written hlatch hinput (Nat.not_lt.mp hroom)⟩
        rw [appendNow, hlatch]
        rw [if_neg (by simp [hinput])]
        exact if_neg hroom
    · refine ⟨_, _, fun fuel => ?_, .invalid hlatch (Bool.eq_false_iff.mpr hinput)⟩
      rw [appendNow, hlatch]
      rw [if_pos hinput]

lemma outcome_of_appendNow (h : appendNow policy format input 2 attempts s = some r) :
    Outcome policy format input attempts s r.1 r.2 := by
  obtain ⟨answer, s', hall, houtcome⟩ := appendNow_outcome policy format input attempts s
  rw [hall 0] at h
  cases h
  exact houtcome

end Outcome

/-! ## What holds in every state -/

def Holds (format : AuditFormat Input) (text : List UInt8) (entries : List (AuditEntry Input)) :
    Prop :=
  ∃ base es₀ es, entries = es₀ ++ es ∧ text = base ++ format.code.render es ∧
    checkLines format 0 (format.lines base) = .ok es₀

structure Sound (policy : AuditPolicy) (format : AuditFormat Input) (s : State Input) : Prop where
  sequences : s.store.entries.map AuditEntry.sequence = List.range s.store.entries.length
  next : s.store.nextSequence = s.store.entries.length
  room : s.disk.text.length ≤ policy.maxBytes
  file : ∃ text tail, s.disk.text = text ++ tail ∧ text.length = s.store.bytes ∧
    (s.store.unhealthy = none → tail = []) ∧ Holds format text s.store.entries

section Sound

variable {s s' : State Input} {text : List UInt8} {entries : List (AuditEntry Input)}

lemma holds_nil : Holds format [] ([] : List (AuditEntry Input)) :=
  ⟨[], [], [], rfl, rfl, rfl⟩

lemma Holds.append (h : Holds format text entries) (entry : AuditEntry Input) :
    Holds format (text ++ format.code.line entry) (entries ++ [entry]) := by
  obtain ⟨base, es₀, es, rfl, rfl, hbase⟩ := h
  refine ⟨base, es₀, es ++ [entry], by simp, ?_, hbase⟩
  rw [LineCode.render_append, List.append_assoc]
  simp [LineCode.render]

lemma Holds.eq_nil (h : Holds format [] entries) : entries = [] := by
  obtain ⟨base, es₀, es, rfl, htext, hbase⟩ := h
  obtain ⟨rfl, hes⟩ := List.append_eq_nil_iff.mp htext.symm
  obtain rfl : es₀ = [] := by
    cases hbase
    rfl
  cases es with
  | nil => rfl
  | cons e es => simp [LineCode.render, LineCode.line] at hes

lemma sequences_of_checkLines {index : ℕ} {lines : List (List UInt8)}
    (h : checkLines format index lines = .ok entries) :
    entries.map AuditEntry.sequence = List.range' index entries.length := by
  induction lines generalizing index entries with
  | nil =>
    cases h
    rfl
  | cons line rest ih =>
    rw [checkLines] at h
    split at h
    · cases h
    · split at h
      · cases h
      · next entry _ hsequence =>
        split at h
        · next entries' hrest =>
          cases h
          rw [List.map_cons, ih hrest, List.length_cons, List.range'_succ]
          rw [not_ne_iff.mp hsequence]
        · cases h

lemma Sound.holds (h : Sound policy format s) (hlatch : s.store.unhealthy = none) :
    s.disk.text.length = s.store.bytes ∧ Holds format s.disk.text s.store.entries := by
  obtain ⟨text, tail, htext, hbytes, htail, hholds⟩ := h.file
  rw [htail hlatch, List.append_nil] at htext
  rw [htext]
  exact ⟨hbytes, hholds⟩

lemma Sound.latched (h : Sound policy format s) (cause : String) :
    Sound policy format (s.latched cause) where
  sequences := h.sequences
  next := h.next
  room := h.room
  file := by
    obtain ⟨text, tail, htext, hbytes, -, hholds⟩ := h.file
    exact ⟨text, tail, htext, hbytes, (fun hnone => nomatch hnone), hholds⟩

lemma Sound.of_empty (hentries : s.store.entries = []) (hnext : s.store.nextSequence = 0)
    (hbytes : s.store.bytes = 0) (hlog : s.disk.log = none) : Sound policy format s where
  sequences := by rw [hentries]; rfl
  next := by rw [hentries, hnext]; rfl
  room := by simp [Disk.text, hlog]
  file := by
    refine ⟨[], [], by simp [Disk.text, hlog], hbytes.symm, fun _ => rfl, ?_⟩
    rw [hentries]
    exact holds_nil

lemma Sound.rotate {attempt : Attempt} {result : Option String} (h : Sound policy format s)
    (hrotate : rotate policy attempt s = (result, s')) : Sound policy format s' := by
  cases result with
  | none =>
    obtain ⟨hstore, hlog, -⟩ := rotate_none hrotate
    exact Sound.of_empty (by rw [hstore]) (by rw [hstore]) (by rw [hstore]) hlog
  | some message =>
    rcases rotate_some hrotate with rfl | ⟨hstore, hlog, -⟩
    · exact h.latched message
    · exact Sound.of_empty (by rw [hstore]) (by rw [hstore]) (by rw [hstore]) hlog

lemma Sound.write {entry : AuditEntry Input} {fault : Option WriteFault}
    (h : Sound policy format s) (hlatch : s.store.unhealthy = none)
    (hentry : entry.sequence = s.store.nextSequence)
    (hroom : s.store.bytes + format.lineBytes entry ≤ policy.maxBytes) :
    Sound policy format (s.write format entry fault).2 := by
  obtain ⟨hlength, hholds⟩ := h.holds hlatch
  match fault with
  | none =>
    refine ⟨?_, ?_, ?_, ?_⟩
    · simp only [State.write, appendDurably, List.map_append, h.sequences, List.map_cons,
        List.map_nil, hentry, h.next, List.length_append, List.length_singleton, List.range_succ]
    · simp [State.write, appendDurably, h.next]
    · simp only [State.write, appendDurably, Disk.text, Option.getD_some, List.length_append]
      unfold AuditFormat.lineBytes at hroom
      unfold Disk.text at hlength
      omega
    · refine ⟨s.disk.text ++ format.code.line entry, [], ?_, ?_, fun _ => rfl, hholds.append entry⟩
      · simp [State.write, appendDurably, Disk.text]
      · rw [List.length_append, hlength]
        rfl
  | some (.opening message) => exact h.latched message
  | some (.writing written message) =>
    refine ⟨h.sequences, h.next, ?_, ?_⟩
    · have htake := List.length_take_le' written (format.code.line entry)
      simp only [State.write, appendDurably, State.latched, Disk.text, Option.getD_some,
        List.length_append]
      unfold AuditFormat.lineBytes at hroom
      unfold Disk.text at hlength
      omega
    · exact ⟨s.disk.text, (format.code.line entry).take written, rfl, hlength,
        (fun hnone => nomatch hnone), hholds⟩

lemma Sound.outcome {input : Input} {attempts : ℕ → Attempt}
    {answer : Except AppendError (AuditEntry Input)} (h : Sound policy format s)
    (houtcome : Outcome policy format input attempts s answer s') : Sound policy format s' := by
  cases houtcome with
  | refused _ => exact h
  | invalid _ _ => exact h
  | written hlatch _ hroom => exact h.write hlatch rfl hroom
  | full _ _ _ _ => exact h
  | unrotated _ _ _ _ hrotate => exact h.rotate hrotate
  | tooLarge _ _ _ _ hrotate _ => exact h.rotate hrotate
  | rewritten hlatch _ _ _ hrotate hfits =>
    obtain ⟨hstore, -, -⟩ := rotate_none hrotate
    refine (h.rotate hrotate).write ?_ rfl ?_
    · rw [hstore]
      exact hlatch
    · rw [hstore, Nat.zero_add]
      exact hfits

lemma sound_construct (load : Load) {disk : Disk} (h : disk.text.length ≤ policy.maxBytes) :
    Sound policy format (construct policy format load disk) := by
  have hquarantine : ∀ reason, Sound policy format (quarantineLog load reason
      (pruneExpiredSegments policy load.prune disk) : State Input) := by
    intro reason
    unfold quarantineLog
    split
    · exact Sound.of_empty rfl rfl rfl rfl
    · exact ⟨rfl, rfl, h, [], _, rfl, rfl, (fun hnone => nomatch hnone), holds_nil⟩
    · exact Sound.of_empty rfl rfl rfl rfl
  unfold construct
  dsimp only
  split
  · next hlog => exact Sound.of_empty rfl rfl rfl hlog
  · next raw hlog =>
    split
    · exact hquarantine _
    · split
      · exact hquarantine _
      · next parsed hparsed =>
        have hraw : disk.text = raw := by
          rw [log_pruneExpiredSegments] at hlog
          rw [Disk.text, hlog, Option.getD_some]
        have hsequences := sequences_of_checkLines hparsed
        rw [← List.range_eq_range'] at hsequences
        refine ⟨hsequences, rfl, h, raw, [], ?_, rfl, fun _ => rfl, ?_⟩
        · rw [List.append_nil]
          exact hraw
        · exact ⟨raw, parsed, [], by simp, by simp [LineCode.render], hparsed⟩

lemma Sound.step {s s' : Sys Input} {move : Move Input} (h : Sound policy format s.state)
    (hstep : s.step policy format move = some s') : Sound policy format s'.state := by
  cases move with
  | call input =>
    cases hstep
    exact h
  | turn attempts =>
    unfold Sys.step at hstep
    dsimp only at hstep
    split at hstep
    · cases hstep
      exact h
    · obtain ⟨r, hr, rfl⟩ := Option.map_eq_some_iff.mp hstep
      exact h.outcome (outcome_of_appendNow hr)
  | close reason =>
    cases hstep
    cases hlatch : s.state.store.unhealthy with
    | none =>
      have hclose : s.state.close reason = s.state.latched reason := by
        rw [State.close, hlatch]
        rfl
      rw [hclose]
      exact h.latched reason
    | some cause =>
      have hclose : s.state.close reason = s.state.latched cause := by
        rw [State.close, hlatch]
        rfl
      rw [hclose]
      exact h.latched cause
  | kill during load =>
    obtain ⟨disk, hdisk, rfl⟩ := Option.map_eq_some_iff.mp hstep
    refine sound_construct load ?_
    unfold Sys.left at hdisk
    split at hdisk
    · obtain ⟨r, hr, rfl⟩ := Option.map_eq_some_iff.mp hdisk
      exact (h.outcome (outcome_of_appendNow hr)).room
    · cases hdisk
      exact h.room

end Sound

end VacancyRadar.Audit
