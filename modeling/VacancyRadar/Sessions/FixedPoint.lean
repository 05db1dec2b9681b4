import VacancyRadar.Sessions.Live

/-!
# A startup leaves nothing to do

After a startup there are no temporary files, no logs to repair, no sessions to end and no lineages
to evict.  The next startup changes nothing.
-/

namespace VacancyRadar.Sessions

open Data

variable {Content : Type} {format : Format Content} {policy : RetentionPolicy} {now : ℕ}

/-! ## Temporary files -/

/-- No temporary files are left behind. -/
def Tidy (f : Job → Job) : Prop := ∀ j, (f j).disk.temps ≤ j.disk.temps

lemma temps_apply (d : Disk) (e : Effect) : (e.apply d).temps ≤ d.temps := by
  cases e with
  | quarantineTemp => exact Nat.sub_le ..
  | makeLineage root =>
    unfold Effect.apply
    dsimp only
    split
    · exact Nat.le_refl _
    · exact Nat.le_refl _
  | _ => exact Nat.le_refl _

lemma tidy_emit (e : Effect) : Tidy fun j => j.emit e := fun j => temps_apply j.disk e

lemma Tidy.foldl {α : Type} {f : Job → α → Job} (h : ∀ x, Tidy fun j => f j x) (xs : List α) :
    Tidy fun j => xs.foldl f j := by
  intro j
  induction xs generalizing j with
  | nil => exact Nat.le_refl _
  | cons x rest ih => exact (ih _).trans (h x j)

lemma tidy_recoverEviction (dir : LineageDir) : Tidy fun j => j.recoverEviction dir := by
  intro j
  dsimp only
  unfold Job.recoverEviction
  split
  · exact tidy_emit _ j
  · split
    · exact tidy_emit _ j
    · exact tidy_emit _ j

lemma tidy_loadSession (root : ℕ) (s : SessionFiles) : Tidy fun j => j.loadSession format root s := by
  intro j
  unfold Job.loadSession
  dsimp only
  split
  · exact Nat.le_refl _
  · exact (tidy_emit _ _).trans (tidy_emit _ j)

lemma tidy_loadLineage (dir : LineageDir) : Tidy fun j => j.loadLineage format dir := by
  intro j
  unfold Job.loadLineage
  split
  · exact tidy_emit _ j
  · exact Tidy.foldl (tidy_loadSession dir.root) dir.sessions _

lemma tidy_writeRecord (root id : ℕ) (f : SessionRecord → SessionRecord) :
    Tidy fun j => j.writeRecord format root id f := by
  intro j
  unfold Job.writeRecord
  dsimp only
  split
  · exact Nat.le_refl _
  · exact tidy_emit _ _

lemma tidy_recoverSession (p : ℕ × ℕ) : Tidy fun j => j.recoverSession format now p := by
  intro j
  dsimp only
  unfold Job.recoverSession
  split
  · exact Nat.le_refl _
  · split
    · exact Nat.le_refl _
    · split
      · exact tidy_writeRecord _ _ _ j
      · dsimp only
        refine (tidy_writeRecord _ _ _ _).trans ?_
        split
        · exact tidy_emit _ _
        · exact Nat.le_refl _

lemma tidy_evictLineage (reason : EvictionReason) (l : Lineage) :
    Tidy fun j => j.evictLineage now reason l := by
  intro j
  exact ((tidy_emit _ _).trans (tidy_emit _ _)).trans (tidy_emit _ j)

variable {reason : EvictionReason} {store store' : Store} {j : Job} {d₀ d : Disk} {used : List ℕ}
  {S : Shape} {Q : SessionFiles → Prop} {s : SessionFiles} {es : List (EventRecord Content)}

lemma tidy_evictWhile {tooMuch : Store → Bool} {excluded : Option ℕ} (fuel : ℕ) :
    Tidy fun j => j.evictWhile now tooMuch reason excluded fuel:= by
  induction fuel with
  | zero => exact fun j => Nat.le_refl _
  | succ fuel ih =>
    intro j
    dsimp only
    unfold Job.evictWhile
    split
    · split
      · exact Nat.le_refl _
      · exact (ih _).trans (tidy_evictLineage _ _ j)
    · exact Nat.le_refl _

variable (policy now) in
lemma tidy_enforceRetention (excluded : Option ℕ) :
    Tidy fun j => j.enforceRetention policy now excluded := by
  intro j
  refine (tidy_evictWhile _ _).trans ((tidy_evictWhile _ _).trans ?_)
  exact Tidy.foldl (tidy_evictLineage .retentionAge) _ j

lemma temps_quarantineStrayTemps (j : Job) : j.quarantineStrayTemps.disk.temps = 0 := by
  unfold Job.quarantineStrayTemps
  generalize hn : j.disk.temps = n
  induction n generalizing j with
  | zero => exact hn
  | succ n ih =>
    refine ih (j.emit .quarantineTemp) ?_
    change j.disk.temps - 1 = n
    omega

variable (format policy now) in
lemma temps_construct (d : Disk) : (Job.construct format policy now d).disk.temps = 0 := by
  let j : Job := { store := {}, disk := d }
  have hmanifest : j.quarantineStrayTemps.loadManifest.disk.temps ≤ 0 := by
    rw [← temps_quarantineStrayTemps j]
    unfold Job.loadManifest
    split
    · exact Nat.le_refl _
    · split
      · exact Nat.le_refl _
      · exact tidy_emit _ _
  have hswept : (j.quarantineStrayTemps.loadManifest.recoverInterruptedEvictions).disk.temps ≤ 0 :=
    (Tidy.foldl tidy_recoverEviction _ _).trans hmanifest
  generalize hsweep : j.quarantineStrayTemps.loadManifest.recoverInterruptedEvictions = swept at hswept
  have hloaded : (swept.loadLineages format).disk.temps ≤ 0 :=
    (Tidy.foldl tidy_loadLineage _ _).trans hswept
  generalize hload : swept.loadLineages format = loaded at hloaded
  have hended : (loaded.recoverNonTerminalSessions format now).disk.temps ≤ 0 :=
    (Tidy.foldl tidy_recoverSession (Job.places loaded.store) _).trans hloaded
  have heq : Job.construct format policy now d =
      ((loaded.recoverNonTerminalSessions format now).enforceRetention policy now none).emit
        .writeManifest := by
    rw [← hload, ← hsweep]
    rfl
  rw [heq]
  have hkept := (tidy_enforceRetention policy now none _).trans hended
  exact Nat.le_zero.mp ((tidy_emit _ _).trans hkept)

/-! ## Retention -/

/-- There is nothing to evict. -/
structure Settled (policy : RetentionPolicy) (now : ℕ) (store : Store) : Prop where
  age : ∀ l ∈ store.lineages, Job.expired policy now l = false
  records : store.recordCount ≤ policy.maxRecords
  bytes : store.totalBytes ≤ policy.maxBytes

def AllOver (store : Store) : Prop := ∀ l ∈ store.lineages, l.isActive = false

lemma AllOver.of_subset (h : AllOver store) (hsub : ∀ l ∈ store'.lineages, l ∈ store.lineages) : AllOver store':=
  fun l hl => h l (hsub l hl)

variable (now) in
lemma evictWhile_settles (tooMuch : Store → Bool) (reason : EvictionReason)
    (hempty : ∀ store : Store, store.lineages = [] → tooMuch store = false) {fuel : ℕ}
    (hover : AllOver j.store) (hfuel : j.store.lineages.length ≤ fuel) :
    tooMuch (j.evictWhile now tooMuch reason none fuel).store = false := by
  induction fuel generalizing j with
  | zero => exact hempty _ (List.eq_nil_of_length_eq_zero (Nat.le_zero.mp hfuel))
  | succ fuel ih =>
    unfold Job.evictWhile
    split
    · split
      · rename_i hmuch hnone
        refine hempty _ (List.eq_nil_iff_forall_not_mem.mpr fun l hl => ?_)
        have hcandidate : l ∈ j.store.evictionCandidates none :=
          mem_evictionCandidates.mpr ⟨hl, by simp, hover l hl⟩
        rw [hnone] at hcandidate
        cases hcandidate
      · rename_i victim rest hcandidates
        have hvictim : victim ∈ j.store.lineages :=
          (mem_evictionCandidates.mp (hcandidates ▸ List.mem_cons_self :
            victim ∈ j.store.evictionCandidates none)).1
        refine ih (hover.of_subset fun l hl => (List.mem_filter.mp hl).1) ?_
        change (j.store.lineages.filter fun l => l.root ≠ victim.root).length ≤ fuel
        have hless : (j.store.lineages.filter fun l => l.root ≠ victim.root).length <
            j.store.lineages.length :=
          List.length_filter_lt_length_iff_exists.mpr ⟨victim, hvictim, by simp⟩
        omega
    · rename_i hmuch
      exact Bool.eq_false_iff.mpr hmuch

lemma root_ne_of_mem_foldl {victims : List Lineage} {l : Lineage}
    (hl : l ∈ (victims.foldl (Job.evictLineage now reason) j).store.lineages) :
    l ∈ j.store.lineages ∧ ∀ v ∈ victims, l.root ≠ v.root := by
  induction victims generalizing j with
  | nil => exact ⟨hl, fun _ hv => nomatch hv⟩
  | cons victim rest ih =>
    obtain ⟨hin, hrest⟩ := ih hl
    obtain ⟨hold, hne⟩ := List.mem_filter.mp hin
    refine ⟨hold, fun v hv => ?_⟩
    rcases List.mem_cons.mp hv with rfl | hv'
    · exact of_decide_eq_true hne
    · exact hrest v hv'

lemma recordCount_le_of_sublist (h : store'.lineages.Sublist store.lineages) :
    store'.recordCount ≤ store.recordCount:=
  (h.map _).sum_le_sum fun _ _ => Nat.zero_le _

variable (policy now) in
lemma settled_enforceRetention {I : Invariants Content} (h : I.Good d₀ j) (hover : AllOver j.store) :
    Settled policy now (j.enforceRetention policy now none).store:= by
  let victims := (j.store.evictionCandidates none).filter (Job.expired policy now)
  have haged := h.foldl_evictLineage now .retentionAge victims (fun l hl => (List.mem_filter.mp hl).1)
    ((List.filter_sublist.map _).nodup (nodup_evictionCandidates h.distinct.roots))
  obtain ⟨hgood, hevicted⟩ := haged
  have hage : ∀ l ∈ (victims.foldl (Job.evictLineage now .retentionAge) j).store.lineages,
      Job.expired policy now l = false := by
    intro l hl
    obtain ⟨hold, hne⟩ := root_ne_of_mem_foldl hl
    refine Bool.eq_false_iff.mpr fun hexpired => hne l ?_ rfl
    exact List.mem_filter.mpr ⟨mem_evictionCandidates.mpr ⟨hold, by simp, hover l hold⟩, hexpired⟩
  have hover₁ := hover.of_subset hevicted.sub.subset
  change Settled policy now (Job.evictWhile now _ .quotaBytes none _ (Job.evictWhile now _ .quotaRecords
    none _ (victims.foldl (Job.evictLineage now .retentionAge) j))).store
  generalize victims.foldl (Job.evictLineage now .retentionAge) j = aged at *
  obtain ⟨hgood₂, (hevicted₂ : Evicted none _ _)⟩ := hgood.evictWhile
  have hrecords := evictWhile_settles now (fun s => policy.maxRecords < s.recordCount)
    .quotaRecords (fun store hnil => by simp [Store.recordCount, hnil]) hover₁ (Nat.le_refl _)
  have hover₂ := hover₁.of_subset hevicted₂.sub.subset
  generalize Job.evictWhile now _ .quotaRecords none _ aged = counted at *
  obtain ⟨-, hevicted₃⟩ := hgood₂.evictWhile
  have hbytes := evictWhile_settles now (fun s => policy.maxBytes < s.totalBytes) .quotaBytes
    (fun store hnil => by simp [Store.totalBytes, hnil]) hover₂ (Nat.le_refl _)
  constructor
  · exact fun l hl => hage l (hevicted₂.sub.subset (hevicted₃.sub.subset hl))
  · have hcount : counted.store.recordCount ≤ policy.maxRecords := by simpa using hrecords
    exact (recordCount_le_of_sublist hevicted₃.sub).trans hcount
  · simpa using hbytes

lemma enforceRetention_eq_self (h : Settled policy now j.store) :
    j.enforceRetention policy now none = j := by
  have hvictims : (j.store.evictionCandidates none).filter (Job.expired policy now) = [] := by
    refine List.filter_eq_nil_iff.mpr fun l hl => ?_
    rw [h.age l (mem_evictionCandidates.mp hl).1]
    exact Bool.false_ne_true
  have hstop : ∀ {tooMuch : Store → Bool} {reason : EvictionReason} (fuel : ℕ),
      tooMuch j.store = false → j.evictWhile now tooMuch reason none fuel = j := by
    intro tooMuch reason fuel hfalse
    cases fuel with
    | zero => rfl
    | succ fuel =>
      unfold Job.evictWhile
      rw [if_neg (Bool.eq_false_iff.mp hfalse)]
  unfold Job.enforceRetention
  rw [hvictims]
  dsimp only [List.foldl_nil]
  rw [hstop _ (by simpa using h.records), hstop _ (by simpa using h.bytes)]

/-! ## What retention looks at -/

def Lineage.summary (l : Lineage) : ℕ × ℕ × ℕ := (l.recency, l.sessions.length, l.bytes)

def LineageDir.summary (format : Format Content) (dir : LineageDir) : ℕ × ℕ × ℕ :=
  (dir.sessions.foldl (fun newest s =>
    max newest (s.record.completedAt.getD s.record.startedAt)) 0, dir.sessions.length,
    Job.measure format dir)

lemma foldl_recency {strict : Prop} {ms : List Session} {ss : List SessionFiles}
    (h : List.Forall₂ (Resumed format strict) ms ss) (newest : ℕ) :
    ms.foldl (fun newest m => max newest (m.record.completedAt.getD m.record.startedAt)) newest =
      ss.foldl (fun newest s => max newest (s.record.completedAt.getD s.record.startedAt)) newest := by
  induction h generalizing newest with
  | nil => rfl
  | @cons m s ms ss hms _ ih =>
    have hstamp : m.record.completedAt.getD m.record.startedAt =
        s.record.completedAt.getD s.record.startedAt := by rw [hms.record]
    rw [List.foldl_cons, List.foldl_cons, hstamp]
    exact ih _

lemma map_summary {strict : Prop} (h : (restInvariants format used S Q strict).Good d₀ j) :
    j.store.lineages.map Lineage.summary = j.disk.lineages.map (LineageDir.summary format) := by
  refine map_eq_of_forall₂ h.agrees fun l dir hrel => ?_
  have hresumed : List.Forall₂ (Resumed format strict) l.sessions dir.sessions :=
    hrel.sessions.imp fun _ _ hms => hms.2.1
  have hbytes : l.bytes = Job.measure format dir := hrel.bytes trivial
  rw [Lineage.summary, LineageDir.summary, ← hbytes, hrel.sessions.length_eq, Lineage.recency,
    foldl_recency hresumed]

lemma Settled.of_summary (heq : store'.lineages.map Lineage.summary = store.lineages.map Lineage.summary)
    (h : Settled policy now store) : Settled policy now store':= by
  have hsum : ∀ f : ℕ × ℕ × ℕ → ℕ, (store'.lineages.map fun l => f l.summary).sum =
      (store.lineages.map fun l => f l.summary).sum := by
    intro f
    have hmap := congrArg (fun xs => (xs.map f).sum) heq
    rw [List.map_map, List.map_map] at hmap
    exact hmap
  constructor
  · intro l hl
    obtain ⟨l₀, hl₀, hsummary⟩ := List.mem_map.mp (heq ▸ List.mem_map_of_mem hl :
      l.summary ∈ store.lineages.map Lineage.summary)
    have hrecency : l₀.recency = l.recency := congrArg Prod.fst hsummary
    have hage := h.age l₀ hl₀
    rw [Job.expired, hrecency] at hage
    exact hage
  · exact (hsum fun x => x.2.1).trans_le h.records
  · exact (hsum fun x => x.2.2).trans_le h.bytes

/-! ## The second startup -/

/-- A directory in which nothing is left to do. -/
def Clean (format : Format Content) (dir : LineageDir) : Prop :=
  dir.sessions ≠ [] ∧ ∀ s ∈ dir.sessions, s.record.status.isTerminal = true ∧
    ∃ es, LineCode.Ascending EventRecord.sequence es ∧ s.log = format.code.render es

lemma disk_loadSession {root : ℕ} (hes : LineCode.Ascending EventRecord.sequence es)
    (hlog : s.log = format.code.render es) : (j.loadSession format root s).disk = j.disk:= by
  have hrepair : format.code.repair EventRecord.sequence (format.code.render es) = ⟨es, none⟩ :=
    LineCode.repair_render hes
  unfold Job.loadSession
  rw [hlog, hrepair]
  rfl

lemma disk_loadLineage {dir : LineageDir} (h : Clean format dir) :
    (j.loadLineage format dir).disk = j.disk := by
  have hfold : ∀ (ss : List SessionFiles) (j : Job), (∀ s ∈ ss, s ∈ dir.sessions) →
      (ss.foldl (Job.loadSession format dir.root) j).disk = j.disk := by
    intro ss
    induction ss with
    | nil => exact fun _ _ => rfl
    | cons s rest ih =>
      intro j hss
      obtain ⟨-, es, hes, hlog⟩ := h.2 s (hss s List.mem_cons_self)
      exact (ih _ fun s' hs' => hss s' (List.mem_cons_of_mem _ hs')).trans (disk_loadSession hes hlog)
  unfold Job.loadLineage
  rw [if_neg h.1]
  exact hfold dir.sessions _ fun _ hs => hs

lemma disk_loadLineages (h : ∀ dir ∈ j.disk.lineages, Clean format dir) :
    (j.loadLineages format).disk = j.disk := by
  unfold Job.loadLineages
  generalize j.disk.lineages = dirs at h
  induction dirs generalizing j with
  | nil => rfl
  | cons dir rest ih =>
    exact (ih fun dir' hdir' => h dir' (List.mem_cons_of_mem _ hdir')).trans
      (disk_loadLineage (h dir List.mem_cons_self))

lemma foldl_recoverSession_eq_self {places : List (ℕ × ℕ)}
    (h : ∀ l ∈ j.store.lineages, ∀ m ∈ l.sessions, m.record.status.isTerminal = true) :
    places.foldl (Job.recoverSession format now) j = j := by
  induction places with
  | nil => rfl
  | cons p rest ih =>
    have hstep : j.recoverSession format now p = j := by
      unfold Job.recoverSession
      split
      · rfl
      · rename_i m hm
        obtain ⟨l, hl, -, hml, -⟩ := session?_eq_some hm
        rw [if_pos (h l hl m hml)]
    rw [List.foldl_cons, hstep]
    exact ih

lemma disk_recovered (h : DiskInv used S Q d) (hQ : Recovers format True now Q)
    (hclean : ∀ dir ∈ d.lineages, Clean format dir) (htrash : d.trash = []) (htemps : d.temps = 0)
    (hmanifest : d.manifest = some persistedSchemaVersion) :
    (Job.recovered format now d).disk = d := by
  let j : Job := { store := {}, disk := d }
  have htidy : j.quarantineStrayTemps = j := by
    unfold Job.quarantineStrayTemps
    rw [show j.disk.temps = 0 from htemps]
    rfl
  have hread : j.loadManifest = j := by
    unfold Job.loadManifest
    rw [show j.disk.manifest = some persistedSchemaVersion from hmanifest]
    rfl
  have hswept : j.recoverInterruptedEvictions = j := by
    unfold Job.recoverInterruptedEvictions
    rw [show j.disk.trash = [] from htrash]
    rfl
  have heq : Job.recovered format now d =
      (j.loadLineages format).recoverNonTerminalSessions format now := by
    unfold Job.recovered
    dsimp only
    rw [htidy, hread, hswept]
  have hstart : Loading format used S Q d [] d.lineages j := ⟨Along.start h, rfl, htrash, rfl⟩
  have hloaded := hstart.foldl_loadLineage fun dir hdir s hs => hQ.repaired s (h.files dir hdir s hs)
  have hover : ∀ l ∈ (j.loadLineages format).store.lineages, ∀ m ∈ l.sessions,
      m.record.status.isTerminal = true := by
    intro l hl m hm
    rw [show (j.loadLineages format).store = _ from hloaded.store] at hl
    obtain ⟨dir, hdir, rfl⟩ := List.mem_map.mp hl
    obtain ⟨s, hs, rfl⟩ := List.mem_map.mp hm
    exact ((hclean dir (mem_nonempty.mp hdir).1).2 s hs).1
  rw [heq]
  unfold Job.recoverNonTerminalSessions
  rw [foldl_recoverSession_eq_self hover]
  exact disk_loadLineages (j := j) hclean

lemma emit_store (j : Job) (e : Effect) : (j.emit e).store = j.store := rfl

lemma manifest_writeManifest (j : Job) :
    (j.emit .writeManifest).disk.manifest = some persistedSchemaVersion := rfl

lemma construct_eq (d : Disk) : Job.construct format policy now d =
    ((Job.recovered format now d).enforceRetention policy now none).emit .writeManifest := rfl

variable (policy) in
lemma settled_construct {strict : Prop} (h : DiskInv used S Q d) (hQ : Recovers format strict now Q) :
    Settled policy now (Job.construct format policy now d).store := by
  have hgood := good_recovered h hQ
  have hover : AllOver (Job.recovered format now d).store := by
    intro l hl
    refine List.any_eq_false.mpr fun m hm => ?_
    obtain ⟨dir, hdir, hrel⟩ := exists_right_of_mem hgood.agrees hl
    obtain ⟨s, -, -, hR⟩ := exists_right_of_mem hrel.sessions hm
    simp [hR.2]
  have hsettled := settled_enforceRetention policy now hgood hover
  rw [construct_eq, emit_store]
  exact hsettled

/-- A second startup changes nothing, unless some lineage has expired in the meantime. -/
theorem construct_construct {now' : ℕ} (h : DiskInv used S Q d) (hQ : ∀ now, Recovers format True now Q)
    (hage : now' = now ∨ ∀ l ∈ (Job.construct format policy now d).store.lineages,
      Job.expired policy now' l = false) :
    (Job.construct format policy now' (Job.construct format policy now d).disk).disk =
      (Job.construct format policy now d).disk := by
  have hgood := good_construct policy h (hQ now)
  have htemps := temps_construct format policy now d
  have hmanifest : (Job.construct format policy now d).disk.manifest =
      some persistedSchemaVersion := by
    rw [construct_eq, manifest_writeManifest]
  have hbefore := settled_construct policy h (hQ now)
  have hsettled : Settled policy now' (Job.construct format policy now d).store := by
    rcases hage with rfl | hage
    · exact hbefore
    · exact ⟨hage, hbefore.records, hbefore.bytes⟩
  clear hage hbefore
  generalize Job.construct format policy now d = first at *
  have hclean : ∀ dir ∈ first.disk.lineages, Clean format dir := by
    intro dir hdir
    refine ⟨hgood.full dir hdir, fun s hs => ?_⟩
    obtain ⟨l, hl, hrel⟩ := exists_left_of_mem hgood.agrees hdir
    obtain ⟨m, hm, -, hresumed, hover⟩ := exists_left_of_mem hrel.sessions hs
    obtain ⟨es, hlog, -, hes⟩ := hresumed.log
    exact ⟨hresumed.status ▸ hover, es, hes trivial, hlog⟩
  have hdisk := disk_recovered hgood.sound (hQ now') hclean hgood.trash htemps hmanifest
  have hagain : Settled policy now' (Job.recovered format now' first.disk).store := by
    refine hsettled.of_summary ?_
    rw [map_summary (good_recovered hgood.sound (hQ now')), map_summary hgood, hdisk]
  rw [construct_eq, enforceRetention_eq_self hagain]
  change { (Job.recovered format now' first.disk).disk with manifest := some persistedSchemaVersion } =
    first.disk
  rw [hdisk, ← hmanifest]

/-! ## Recovery -/

def Disk.files (d : Disk) : List SessionFiles := (d.lineages ++ d.trash).flatMap LineageDir.sessions

structure RecoveredFrom (format : Format Content) (s₀ s : SessionFiles) : Prop where
  id : s.record.id = s₀.record.id
  accepted : s₀.record.acceptedWork = .accepted → s.record.acceptedWork = .accepted
  count : s₀.record.eventCount ≤ s.record.eventCount
  terminal : ∀ t, Job.lastTerminal (s₀.entries format) = some t →
    s.record.status = t.outcome.1 ∧ s.record.terminalReason = some t.outcome.2

structure StartedFrom (format : Format Content) (d : Disk) (j : Job) : Prop where
  ended : ∀ dir ∈ j.disk.lineages, ∀ s ∈ dir.sessions, s.record.status.isTerminal = true
  logs : ∀ dir ∈ j.disk.lineages, ∀ s ∈ dir.sessions, ∃ es, s.log = format.code.render es ∧
    LineCode.Ascending EventRecord.sequence es
  files : ∀ dir ∈ j.disk.lineages, ∀ s ∈ dir.sessions, ∃ s₀ ∈ d.files, RecoveredFrom format s₀ s
  memory : ∀ l ∈ j.store.lineages, ∀ m ∈ l.sessions, ∃ dir ∈ j.disk.lineages, dir.root = l.root ∧
    ∃ s ∈ dir.sessions, m.record.id = s.record.id ∧ Resumed format True m s

lemma DiskInv.withLater (h : DiskInv used S (LogRecorded format) d) :
    DiskInv used S (fun s => LogRecorded format s ∧ LogLater format d.files s) d := by
  have hlater : ∀ dir ∈ d.lineages ++ d.trash, (∀ s ∈ dir.sessions, LogRecorded format s) →
      ∀ s ∈ dir.sessions, LogRecorded format s ∧ LogLater format d.files s := by
    intro dir hdir hall s hs
    refine ⟨hall s hs, (hall s hs).1.written, s, List.mem_flatMap.mpr ⟨dir, hdir, hs⟩, rfl, id,
      Nat.le_refl _, fun _ ht => ht⟩
  refine ⟨h.roots, h.ids, h.used_root, h.used_id, h.used_tombstone, h.standing, h.links, ?_, ?_, h.kept,
    h.full⟩
  · exact fun dir hdir => hlater dir (List.mem_append_left _ hdir) (h.files dir hdir)
  · intro dir hdir
    refine (h.trash dir hdir).imp_right fun hkept => ⟨hkept.1, hkept.2.1, ?_⟩
    exact hlater dir (List.mem_append_right _ hdir) hkept.2.2

lemma LogRecorded.decides (h : LogRecorded format s) {t : TerminalLogType}
    (hover : s.record.status.isTerminal = true) (ht : Job.lastTerminal (s.entries format) = some t) :
    s.record.status = t.outcome.1 ∧ s.record.terminalReason = some t.outcome.2 := by
  rw [h.entries] at ht
  rcases h.2.lastTerminal with ⟨hnone, -⟩ | ⟨_, _, t', -, -, -, hlast, -, hrecord⟩
  · rw [hnone] at ht
    cases ht
  · rw [hlast] at ht
    obtain rfl := Option.some.inj ht
    exact hrecord hover

/-- However the daemon was killed, if its writes succeeded, a startup ends all sessions, with what
their logs tell, and keeps the records; and another one has nothing to do. -/
theorem startedFrom_of_crash {moves : List (Move Content)} (hmoves : ∀ move ∈ moves, move.succeeds)
    (hdown : (Daemon.run format policy moves).up = none) (now : ℕ) :
    let d := (Daemon.run format policy moves).disk
    let j := Job.construct format policy now d
    StartedFrom format d j ∧
      ∀ now', (now' = now ∨ ∀ l ∈ j.store.lineages, Job.expired policy now' l = false) →
        (Job.construct format policy now' j.disk).disk = j.disk := by
  have hinv := liveInv_run format policy hmoves
  unfold LiveInv at hinv
  rw [hdown] at hinv
  intro d j
  have hdisk : DiskInv _ { links := Linked } (LogRecorded format) d := hinv
  refine ⟨?_, fun now' hage => construct_construct hdisk recovers_logRecorded hage⟩
  have hgood := good_construct policy hdisk.withLater
    ((recovers_logRecorded now).and (recovers_logLater d.files now))
  have hmemory : ∀ dir ∈ j.disk.lineages, ∀ s ∈ dir.sessions,
      ∃ m, Resumed format True m s ∧ m.record.status.isTerminal = true := by
    intro dir hdir s hs
    obtain ⟨l, -, hrel⟩ := exists_left_of_mem hgood.agrees hdir
    obtain ⟨m, -, -, hR⟩ := exists_left_of_mem hrel.sessions hs
    exact ⟨m, hR⟩
  constructor
  · intro dir hdir s hs
    obtain ⟨m, hresumed, hover⟩ := hmemory dir hdir s hs
    exact hresumed.status ▸ hover
  · intro dir hdir s hs
    obtain ⟨m, hresumed, -⟩ := hmemory dir hdir s hs
    obtain ⟨es, hlog, -, hes⟩ := hresumed.log
    exact ⟨es, hlog, hes trivial⟩
  · intro dir hdir s hs
    obtain ⟨m, hresumed, hover⟩ := hmemory dir hdir s hs
    obtain ⟨hrecorded, -, s₀, hs₀, hlater⟩ := hgood.sound.files dir hdir s hs
    refine ⟨s₀, hs₀, hlater.id, hlater.accepted, hlater.count, fun t ht => ?_⟩
    exact hrecorded.decides (hresumed.status ▸ hover) (hlater.terminal t ht)
  · intro l hl m hm
    obtain ⟨dir, hdir, hrel⟩ := exists_right_of_mem hgood.agrees hl
    obtain ⟨s, hs, hlinks, hR⟩ := exists_right_of_mem hrel.sessions hm
    exact ⟨dir, hdir, hrel.root.symm, s, hs, congrArg Links.id hlinks, hR.1⟩

def sampleCrash : List (Move Unit) :=
  [.start 0, .op (.create ⟨1, 5, sampleScope, none⟩ true 5),
    .op (.event 1 ⟨.sessionStarted, (), 6, some "thread"⟩ [] 6 none), .op (.accepted 1),
    .kill (.event 1 ⟨.sessionCompleted, (), 7, none⟩ [] 7 none) 0 20 (fun _ => 0)]

theorem startedFrom_of_crash_sample :
    (Daemon.run textFormat {} sampleCrash).up.isNone = true ∧
      (let d := (Daemon.run textFormat {} sampleCrash).disk
      let j := Job.construct textFormat {} 9 d
      StartedFrom textFormat d j ∧
        ∀ now', (now' = 9 ∨ ∀ l ∈ j.store.lineages, Job.expired {} now' l = false) →
          (Job.construct textFormat {} now' j.disk).disk = j.disk) := by
  have hmoves : ∀ move ∈ sampleCrash, move.succeeds := by
    intro move hmove
    simp only [sampleCrash, List.mem_cons, List.not_mem_nil, or_false] at hmove
    rcases hmove with rfl | rfl | rfl | rfl | rfl
    · trivial
    · trivial
    · rfl
    · trivial
    · rfl
  have hdown : (Daemon.run textFormat {} sampleCrash).up.isNone = true := by decide
  exact ⟨hdown, startedFrom_of_crash hmoves (Option.isNone_iff_eq_none.mp hdown) 9⟩

end VacancyRadar.Sessions
