import VacancyRadar.Audit.Invariants

/-!
# Loading the audit log again

The process may die while an entry is written, and an append may fail there.  A log in which only
whole lines are found is accepted, with all its entries.  A log that ends in a part of an entry is
quarantined as a whole, with the entries in it, and a new one is begun.
-/

namespace VacancyRadar.Audit

open Data

variable {Input : Type} {policy : AuditPolicy} {format : AuditFormat Input}
  {es : List (AuditEntry Input)} {tail : List UInt8}

/-! ## The lines of a log -/

/-- The text is the beginning of an entry. -/
def Part (format : AuditFormat Input) (tail : List UInt8) : Prop :=
  tail = [] ∨ ∃ e, tail <+: format.code.encode e

lemma Part.newline_notMem (h : Part format tail) : format.code.newline ∉ tail := by
  rcases h with rfl | ⟨e, hbegin⟩
  · exact List.not_mem_nil
  · exact fun hmem => format.code.newline_notMem e (hbegin.subset hmem)

lemma Part.decode_eq_none (h : Part format tail) (hpart : ∀ e, tail ≠ format.code.encode e) :
    format.code.decode tail = none := by
  rcases h with rfl | ⟨e, hbegin⟩
  · exact LineCode.decode_nil
  · cases hdecode : format.code.decode tail with
    | none => rfl
    | some e' => exact absurd ((LineCode.Torn.of_prefix_encode hbegin).eq_encode hdecode) (hpart e')

def Numbered (es : List (AuditEntry Input)) : Prop :=
  es.map AuditEntry.sequence = List.range es.length

lemma Numbered.concat (h : Numbered es) {e : AuditEntry Input} (he : e.sequence = es.length) :
    Numbered (es ++ [e]) := by
  unfold Numbered at *
  rw [List.map_append, h, List.length_append, List.length_singleton, List.range_succ, List.map_cons,
    he, List.map_nil]

variable (es) in
lemma lines_render (h : Part format tail) :
    format.lines (format.code.render es ++ tail) =
      es.map format.code.encode ++ [tail].filter fun line => line ≠ [] := by
  rw [AuditFormat.lines, LineCode.splitOn_render h.newline_notMem, List.filter_append]
  congr 1
  refine List.filter_eq_self.mpr fun line hline => ?_
  obtain ⟨e, -, rfl⟩ := List.mem_map.mp hline
  simpa using LineCode.encode_ne_nil

lemma checkLines_encode {index : ℕ} (h : es.map AuditEntry.sequence = List.range' index es.length)
    (rest : List (List UInt8)) :
    checkLines format index (es.map format.code.encode ++ rest) =
      match checkLines format (index + es.length) rest with
      | .ok entries => .ok (es ++ entries)
      | .error reason => .error reason := by
  induction es generalizing index with
  | nil =>
    rw [List.map_nil, List.nil_append, List.length_nil, Nat.add_zero]
    cases checkLines format index rest <;> rfl
  | cons e es ih =>
    obtain ⟨hindex, hrest⟩ := List.cons.inj h
    rw [List.map_cons, List.cons_append, checkLines, format.code.decode_encode]
    dsimp only
    rw [if_neg (not_not.mpr hindex), ih hrest, List.length_cons]
    have hplace : index + 1 + es.length = index + (es.length + 1) := by omega
    rw [hplace]
    cases checkLines format (index + (es.length + 1)) rest <;> rfl

lemma checkLines_render (h : Numbered es) :
    checkLines format 0 (format.lines (format.code.render es)) = .ok es := by
  have hlines := lines_render es (.inl rfl : Part format [])
  rw [List.append_nil] at hlines
  rw [hlines, checkLines_encode (by rw [h, List.range_eq_range'])]
  simp [checkLines]

lemma checkLines_render_part (h : Numbered es) (htail : Part format tail)
    (hpart : ∀ e, tail ≠ format.code.encode e) (hne : tail ≠ []) :
    ∃ reason, checkLines format 0 (format.lines (format.code.render es ++ tail)) = .error reason := by
  rw [lines_render es htail, checkLines_encode (by rw [h, List.range_eq_range'])]
  refine ⟨if format.parses tail then .invalidEntry else .unparseableLine, ?_⟩
  simp [hne, checkLines, htail.decode_eq_none hpart]

/-! ## What is in the files -/

/-- The entries of the files that were put aside. -/
def Disk.history (format : AuditFormat Input) (disk : Disk) : List (AuditEntry Input) :=
  (disk.retired.map Retired.text).flatMap format.code.read

/-- The active file has the lines of some numbered entries, and then a part of one more.  The files
have all resolved entries in order. -/
structure Logged (format : AuditFormat Input) (disk : Disk) (resolved es : List (AuditEntry Input))
    (tail : List UInt8) : Prop where
  text : disk.text = format.code.render es ++ tail
  part : Part format tail
  numbered : Numbered es
  resolved : resolved.Sublist (disk.history format ++ es)

def Kept (format : AuditFormat Input) (s : State Input) (resolved : List (AuditEntry Input)) : Prop :=
  ∃ es tail, Logged format s.disk resolved es tail ∧
    (s.store.unhealthy = none → tail = [] ∧ s.store.entries = es ∧ s.store.nextSequence = es.length)

section Kept

variable {s s' : State Input} {resolved : List (AuditEntry Input)}

lemma Kept.latched (h : Kept format s resolved) (cause : String) :
    Kept format (s.latched cause) resolved := by
  obtain ⟨es, tail, hlogged, -⟩ := h
  exact ⟨es, tail, hlogged, fun hnone => nomatch hnone⟩

lemma Kept.moved (h : Kept format s resolved) (hlatch : s.store.unhealthy = none)
    (hlog : s'.disk.log = none)
    (hretired : s'.disk.retired.map Retired.text =
      s.disk.retired.map Retired.text ++ s.disk.log.toList) :
    Logged format s'.disk resolved [] [] := by
  obtain ⟨es, tail, hlogged, hhealthy⟩ := h
  obtain ⟨rfl, -, -⟩ := hhealthy hlatch
  have htext := hlogged.text
  rw [List.append_nil] at htext
  have hread : s.disk.log.toList.flatMap format.code.read = es := by
    cases hlog : s.disk.log with
    | none =>
      rw [Disk.text, hlog, Option.getD_none] at htext
      have hread : format.code.read (format.code.render es) = es := LineCode.read_render_nil
      rw [← htext] at hread
      rw [← hread]
      rfl
    | some text =>
      rw [Disk.text, hlog, Option.getD_some] at htext
      rw [htext, Option.toList_some, List.flatMap_singleton, LineCode.read_render_nil]
  refine ⟨by simp [Disk.text, hlog], .inl rfl, rfl, ?_⟩
  rw [Disk.history, hretired, List.flatMap_append, hread, List.append_nil]
  exact hlogged.resolved

lemma Kept.rotate {attempt : Attempt} {result : Option String} (h : Kept format s resolved)
    (hlatch : s.store.unhealthy = none) (hrotate : rotate policy attempt s = (result, s')) :
    Kept format s' resolved := by
  cases result with
  | none =>
    obtain ⟨hstore, hlog, hretired⟩ := rotate_none hrotate
    refine ⟨[], [], h.moved hlatch hlog hretired, fun _ => ?_⟩
    rw [hstore]
    exact ⟨rfl, rfl, rfl⟩
  | some message =>
    rcases rotate_some hrotate with rfl | ⟨hstore, hlog, hretired⟩
    · exact h.latched message
    · refine ⟨[], [], h.moved hlatch hlog hretired, fun _ => ?_⟩
      rw [hstore]
      exact ⟨rfl, rfl, rfl⟩

lemma Kept.write {entry : AuditEntry Input} {fault : Option WriteFault} (h : Kept format s resolved)
    (hlatch : s.store.unhealthy = none) (hentry : entry.sequence = s.store.nextSequence) :
    Kept format (s.write format entry fault).2
      (resolved ++ accepted (s.write format entry fault).1) := by
  obtain ⟨es, tail, hlogged, hhealthy⟩ := h
  obtain ⟨rfl, hentries, hnext⟩ := hhealthy hlatch
  have htext := hlogged.text
  rw [List.append_nil] at htext
  have hrender : format.code.render es ++ format.code.line entry = format.code.render (es ++ [entry]) := by
    rw [LineCode.render_append]
    simp
  have hnumbered : Numbered (es ++ [entry]) := hlogged.numbered.concat (hentry.trans hnext)
  match fault with
  | none =>
    refine ⟨es ++ [entry], [], ⟨?_, .inl rfl, hnumbered, ?_⟩, fun _ => ⟨rfl, ?_, ?_⟩⟩
    · rw [List.append_nil, ← hrender, ← htext]
      rfl
    · rw [← List.append_assoc]
      exact hlogged.resolved.append_right [entry]
    · rw [← hentries]
      rfl
    · rw [List.length_append, List.length_singleton, ← hnext]
      rfl
  | some (.opening message) =>
    refine ⟨es, [], ⟨?_, .inl rfl, hlogged.numbered, ?_⟩, (fun hnone => nomatch hnone)⟩
    · exact hlogged.text
    · exact (List.append_nil resolved).symm ▸ hlogged.resolved
  | some (.writing written message) =>
    by_cases hwritten : written ≤ (format.code.encode entry).length
    · refine ⟨es, (format.code.encode entry).take written, ⟨?_, ?_, hlogged.numbered, ?_⟩,
        (fun hnone => nomatch hnone)⟩
      · have htake : (format.code.line entry).take written =
            (format.code.encode entry).take written := List.take_append_of_le_length hwritten
        rw [← htext, ← htake]
        rfl
      · exact .inr ⟨entry, List.take_prefix ..⟩
      · exact (List.append_nil resolved).symm ▸ hlogged.resolved
    · refine ⟨es ++ [entry], [], ⟨?_, .inl rfl, hnumbered, ?_⟩, (fun hnone => nomatch hnone)⟩
      · have htake : (format.code.line entry).take written = format.code.line entry := by
          rw [List.take_of_length_le]
          rw [LineCode.line, List.length_append, List.length_singleton]
          omega
        rw [List.append_nil, ← hrender, ← htext, ← htake]
        rfl
      · rw [← List.append_assoc]
        exact hlogged.resolved.append (List.nil_sublist [entry])

lemma Kept.outcome {input : Input} {attempts : ℕ → Attempt}
    {answer : Except AppendError (AuditEntry Input)} (h : Kept format s resolved)
    (houtcome : Outcome policy format input attempts s answer s') :
    Kept format s' (resolved ++ accepted answer) := by
  have hsame : resolved ++ [] = resolved := List.append_nil resolved
  cases houtcome with
  | refused _ => rwa [accepted, hsame]
  | invalid _ _ => rwa [accepted, hsame]
  | written hlatch _ _ => exact h.write hlatch rfl
  | full _ _ _ _ => rwa [accepted, hsame]
  | unrotated hlatch _ _ _ hrotate =>
    rw [accepted, hsame]
    exact h.rotate hlatch hrotate
  | tooLarge hlatch _ _ _ hrotate _ =>
    rw [accepted, hsame]
    exact h.rotate hlatch hrotate
  | rewritten hlatch _ _ _ hrotate _ =>
    obtain ⟨hstore, -, -⟩ := rotate_none hrotate
    refine (h.rotate hlatch hrotate).write ?_ rfl
    rw [hstore]
    exact hlatch

lemma Kept.left {s : Sys Input} {during : Option (ℕ → Attempt)} {disk : Disk}
    (h : Kept format s.state s.resolved) (hleft : s.left policy format during = some disk) :
    ∃ es tail, Logged format disk s.resolved es tail := by
  unfold Sys.left at hleft
  split at hleft
  · obtain ⟨r, hr, rfl⟩ := Option.map_eq_some_iff.mp hleft
    obtain ⟨es, tail, hlogged, -⟩ := h.outcome (outcome_of_appendNow hr)
    refine ⟨es, tail, hlogged.text, hlogged.part, hlogged.numbered, ?_⟩
    exact (List.sublist_append_left ..).trans hlogged.resolved
  · cases hleft
    obtain ⟨es, tail, hlogged, -⟩ := h
    exact ⟨es, tail, hlogged⟩

end Kept

/-! ## Loading -/

structure Loaded (load : Load) (disk : Disk) (es : List (AuditEntry Input)) (tail : List UInt8)
    (s : State Input) : Prop where
  accepts : tail = [] → load.readFails = false →
    s.store.entries = es ∧ s.store.unhealthy = none ∧ s.disk.text = disk.text ∧
      s.disk.retired.map Retired.text = disk.retired.map Retired.text
  quarantines : tail ≠ [] →
    s.store.entries = [] ∧
    (load.quarantineFails = none → s.store.unhealthy = none ∧ s.disk.log = none ∧
      s.disk.retired.map Retired.text = disk.retired.map Retired.text ++ [disk.text] ∧
      ∃ reason, s.disk.retired.getLast? = some ⟨disk.text, .quarantined reason⟩) ∧
    (load.quarantineFails ≠ none → s.store.unhealthy ≠ none)

section Loaded

variable {load : Load} {disk : Disk} {resolved : List (AuditEntry Input)}

lemma history_pruneExpiredSegments (prune : Prune) :
    (pruneExpiredSegments policy prune disk).history format = disk.history format := by
  rw [Disk.history, Disk.history, texts_pruneExpiredSegments]

lemma Logged.kept_quarantineLog (h : Logged format disk resolved es tail)
    (hpart : ∀ e, tail ≠ format.code.encode e) (reason : QuarantineReason) :
    Kept format (quarantineLog load reason disk : State Input) resolved := by
  have hread : format.code.read disk.text = es := by
    rw [h.text, LineCode.read_render h.part.newline_notMem, h.part.decode_eq_none hpart]
    exact List.append_nil es
  have hmoved : Logged format
      { log := none, retired := disk.retired ++ [⟨disk.text, .quarantined reason⟩] } resolved [] [] := by
    refine ⟨rfl, .inl rfl, rfl, ?_⟩
    rw [Disk.history, List.map_append, List.flatMap_append, List.append_nil, List.map_singleton,
      List.flatMap_singleton, hread]
    exact h.resolved
  unfold quarantineLog
  split
  · exact ⟨[], [], hmoved, fun _ => ⟨rfl, rfl, rfl⟩⟩
  · exact ⟨es, tail, h, fun hnone => nomatch hnone⟩
  · exact ⟨[], [], hmoved, fun hnone => nomatch hnone⟩

/-- How `#quarantineLog` ends. -/
lemma quarantineLog_spec (reason : QuarantineReason) :
    (quarantineLog load reason disk : State Input).store.entries = [] ∧
    (load.quarantineFails = none →
      (quarantineLog load reason disk : State Input).store.unhealthy = none ∧
      (quarantineLog load reason disk : State Input).disk.log = none ∧
      (quarantineLog load reason disk : State Input).disk.retired =
        disk.retired ++ [⟨disk.text, .quarantined reason⟩]) ∧
    (load.quarantineFails ≠ none →
      (quarantineLog load reason disk : State Input).store.unhealthy ≠ none) := by
  unfold quarantineLog
  split
  · next hnone => exact ⟨rfl, fun _ => ⟨rfl, rfl, rfl⟩, fun hfails => absurd hnone hfails⟩
  · next hfault =>
    refine ⟨rfl, fun hnone => ?_, fun _ hnone => nomatch hnone⟩
    rw [hfault] at hnone
    cases hnone
  · next hfault =>
    refine ⟨rfl, fun hnone => ?_, fun _ hnone => nomatch hnone⟩
    rw [hfault] at hnone
    cases hnone

lemma Logged.loaded (h : Logged format disk resolved es tail)
    (hpart : ∀ e, tail ≠ format.code.encode e) :
    Kept format (construct policy format load disk) resolved ∧
      Loaded load disk es tail (construct policy format load disk) := by
  have hpruned : Logged format (pruneExpiredSegments policy load.prune disk) resolved es tail :=
    ⟨h.text, h.part, h.numbered, by rw [history_pruneExpiredSegments]; exact h.resolved⟩
  have hquarantined : ∀ reason, tail ≠ [] →
      Loaded load disk es tail (quarantineLog load reason
        (pruneExpiredSegments policy load.prune disk) : State Input) := by
    intro reason hne
    obtain ⟨hentries, hmoved, hlatched⟩ := quarantineLog_spec reason
    refine ⟨fun hnil => absurd hnil hne, fun _ => ⟨hentries, fun hnone => ?_, hlatched⟩⟩
    obtain ⟨hhealthy, hlog, hretired⟩ := hmoved hnone
    refine ⟨hhealthy, hlog, ?_, reason, ?_⟩
    · rw [hretired, List.map_append, texts_pruneExpiredSegments]
      rfl
    · rw [hretired, List.getLast?_concat]
      rfl
  unfold construct
  dsimp only
  split
  · next hlog =>
    rw [log_pruneExpiredSegments] at hlog
    have htext := h.text
    rw [Disk.text, hlog, Option.getD_none] at htext
    obtain ⟨hrender, rfl⟩ := List.append_eq_nil_iff.mp htext.symm
    obtain rfl : es = [] := by
      have hread : format.code.read (format.code.render es) = es := LineCode.read_render_nil
      rw [hrender] at hread
      exact hread.symm
    refine ⟨⟨[], [], hpruned, fun _ => ⟨rfl, rfl, rfl⟩⟩, ?_, fun hne => absurd rfl hne⟩
    exact fun _ _ => ⟨rfl, rfl, rfl, texts_pruneExpiredSegments ..⟩
  · next raw hlog =>
    have hraw : raw = format.code.render es ++ tail := by
      rw [← h.text, Disk.text]
      rw [log_pruneExpiredSegments] at hlog
      rw [hlog, Option.getD_some]
    split
    · next hfails =>
      refine ⟨hpruned.kept_quarantineLog hpart _, ?_⟩
      by_cases hnil : tail = []
      · exact ⟨fun _ hreads => absurd hfails (by simp [hreads]), fun hne => absurd hnil hne⟩
      · exact hquarantined _ hnil
    · by_cases hnil : tail = []
      · subst hnil
        rw [List.append_nil] at hraw
        rw [hraw, checkLines_render h.numbered]
        refine ⟨⟨es, [], hpruned, fun _ => ⟨rfl, rfl, rfl⟩⟩, ?_, fun hne => absurd rfl hne⟩
        exact fun _ _ => ⟨rfl, rfl, rfl, texts_pruneExpiredSegments ..⟩
      · obtain ⟨reason, hreason⟩ := checkLines_render_part h.numbered h.part hpart hnil
        rw [hraw, hreason]
        exact ⟨hpruned.kept_quarantineLog hpart _, hquarantined _ hnil⟩

end Loaded

/-! ## Runs -/

/-- The process does not end with a file whose last entry is whole and has no end of line. -/
def Ended (policy : AuditPolicy) (format : AuditFormat Input) (s : Sys Input) : Move Input → Prop
  | .kill during _ => ∀ disk, s.left policy format during = some disk →
    ∀ es e, disk.text ≠ format.code.render es ++ format.code.encode e
  | _ => True

lemma Kept.kill {s : Sys Input} {during : Option (ℕ → Attempt)} {load : Load}
    (h : Kept format s.state s.resolved) (hended : Ended policy format s (.kill during load))
    {disk : Disk} (hleft : s.left policy format during = some disk) :
    ∃ es tail, Logged format disk s.resolved es tail ∧
      Kept format (construct policy format load disk) s.resolved ∧
      Loaded load disk es tail (construct policy format load disk) := by
  obtain ⟨es, tail, hlogged⟩ := h.left hleft
  have hpart : ∀ e, tail ≠ format.code.encode e := by
    rintro e rfl
    exact hended disk hleft es e hlogged.text
  obtain ⟨hkept, hloaded⟩ := hlogged.loaded hpart
  exact ⟨es, tail, hlogged, hkept, hloaded⟩

lemma Kept.step {s s' : Sys Input} {move : Move Input} (h : Kept format s.state s.resolved)
    (hended : Ended policy format s move) (hstep : s.step policy format move = some s') :
    Kept format s'.state s'.resolved := by
  cases move with
  | call input =>
    cases hstep
    exact h
  | turn attempts =>
    unfold Sys.step at hstep
    dsimp only at hstep
    split at hstep
    · cases hstep
      exact h
    · obtain ⟨r, hr, rfl⟩ := Option.map_eq_some_iff.mp hstep
      exact h.outcome (outcome_of_appendNow hr)
  | close reason =>
    cases hstep
    obtain ⟨es, tail, hlogged, hhealthy⟩ := h
    refine ⟨es, tail, hlogged, fun hnone => ?_⟩
    cases hlatch : s.state.store.unhealthy <;> simp [State.close, hlatch] at hnone
  | kill during load =>
    obtain ⟨disk, hleft, rfl⟩ := Option.map_eq_some_iff.mp hstep
    obtain ⟨-, -, -, hkept, -⟩ := h.kill hended hleft
    exact hkept

/-- The process may end at any byte of an append, but not between an entry and the end of its line.
Then every load finds all entries that have resolved, and maybe a part of one more.  It accepts the
log with all its entries if there is no such part, and moves it to quarantine as it is if there is
one. -/
theorem load_after_death (policy : AuditPolicy) (format : AuditFormat Input) (first : Load)
    {moves : List (Move Input)} {s : Sys Input} (during : Option (ℕ → Attempt)) (load : Load)
    (halong : Sys.Along policy format (Ended policy format) moves
      { state := construct policy format first {} })
    (hrun : Sys.run policy format moves { state := construct policy format first {} } = some s)
    (hended : Ended policy format s (.kill during load)) :
    ∃ disk s' es tail, s.left policy format during = some disk ∧
      s.step policy format (.kill during load) = some s' ∧
      Logged format disk s.resolved es tail ∧ Loaded load disk es tail s'.state := by
  have hstart : Kept format (construct policy format first {}) [] :=
    ⟨[], [], ⟨rfl, .inl rfl, rfl, List.nil_sublist _⟩, fun _ => ⟨rfl, rfl, rfl⟩⟩
  have hkept : Kept format s.state s.resolved :=
    Sys.run_induction_of_along (P := fun s => Kept format s.state s.resolved)
      (fun _ _ _ h hended hstep => h.step hended hstep) hstart halong hrun
  obtain ⟨s', hstep⟩ := exists_step s (.kill during load)
  obtain ⟨disk, hleft, rfl⟩ := Option.map_eq_some_iff.mp hstep
  obtain ⟨es, tail, hlogged, -, hloaded⟩ := hkept.kill hended hleft
  exact ⟨disk, _, es, tail, hleft, hstep, hlogged, hloaded⟩

/-- One entry resolves, and the process dies within the next one. -/
def deathMoves : List (Move Unit) := [.call (), .turn (sampleAttempts 1 none), .call ()]

/-- The process dies after five bytes. -/
def deathAttempts : ℕ → Attempt := sampleAttempts 2 (some (.writing 5 ""))

lemma getLast?_render_encode (es : List (AuditEntry Unit)) (e : AuditEntry Unit) :
    (entryFormat.code.render es ++ entryFormat.code.encode e).getLast? = some 125 := by
  have hencode : entryFormat.code.encode e = (123 :: entryFields e) ++ [125] := rfl
  rw [hencode, ← List.append_assoc, List.getLast?_concat]

theorem load_after_death_sample : ∃ s disk s' es tail,
    Sys.run samplePolicy entryFormat deathMoves
      { state := construct samplePolicy entryFormat {} {} } = some s ∧
    s.step samplePolicy entryFormat (.kill (some deathAttempts) {}) = some s' ∧
    Logged entryFormat disk s.resolved es tail ∧ Loaded {} disk es tail s'.state := by
  have hlast : ((Sys.run samplePolicy entryFormat deathMoves
      { state := construct samplePolicy entryFormat {} {} }).bind fun s =>
        (s.left samplePolicy entryFormat (some deathAttempts)).map fun disk => disk.text.getLast?) =
      some (some 113) := by
    decide
  obtain ⟨s, hrun, hdisk⟩ := Option.bind_eq_some_iff.mp hlast
  obtain ⟨disk, hleft, htext⟩ := Option.map_eq_some_iff.mp hdisk
  have hended : Ended samplePolicy entryFormat s (.kill (some deathAttempts) {}) := by
    intro disk' hleft' es e heq
    rw [hleft] at hleft'
    cases hleft'
    rw [heq, getLast?_render_encode] at htext
    exact absurd htext (by decide)
  have halong : Sys.Along samplePolicy entryFormat (Ended samplePolicy entryFormat) deathMoves
      { state := construct samplePolicy entryFormat {} {} } :=
    ⟨trivial, fun _ _ => ⟨trivial, fun _ _ => ⟨trivial, fun _ _ => trivial⟩⟩⟩
  obtain ⟨disk', s', es, tail, -, hstep, hlogged, hloaded⟩ :=
    load_after_death samplePolicy entryFormat {} (some deathAttempts) {} halong hrun hended
  exact ⟨s, disk', s', es, tail, hrun, hstep, hlogged, hloaded⟩

/-- A load does not always return the entries that have resolved, even if nothing was rotated. -/
theorem resolved_entry_quarantined : ¬ ∀ (moves : List (Move Unit)) (during : Option (ℕ → Attempt))
    (s : Sys Unit),
    Sys.run samplePolicy entryFormat (moves ++ [.kill during {}])
      { state := construct samplePolicy entryFormat {} {} } = some s →
    (∀ file ∈ s.state.disk.retired, ∀ rotatedAt, file.fate ≠ .archived rotatedAt) →
    s.resolved.Sublist s.state.store.entries := by
  intro hall
  have hrun : (Sys.run samplePolicy entryFormat (deathMoves ++ [.kill (some deathAttempts) {}])
      { state := construct samplePolicy entryFormat {} {} }).map
        (fun s => (s.resolved.length, s.state.store.entries, s.state.disk.retired.map Retired.fate)) =
      some (1, [], [.quarantined .unparseableLine]) := by
    decide
  obtain ⟨s, hs, hfacts⟩ := Option.map_eq_some_iff.mp hrun
  obtain ⟨hresolved, hentries, hfates⟩ :
      s.resolved.length = 1 ∧ s.state.store.entries = [] ∧
        s.state.disk.retired.map Retired.fate = [.quarantined .unparseableLine] := by
    simpa using hfacts
  have hsublist := hall deathMoves (some deathAttempts) s hs (by
    intro file hfile rotatedAt hfate
    have hmem := List.mem_map_of_mem (f := Retired.fate) hfile
    rw [hfates, hfate] at hmem
    simp at hmem)
  have hlength := hsublist.length_le
  rw [hresolved, hentries] at hlength
  exact absurd hlength (by decide)

end VacancyRadar.Audit
