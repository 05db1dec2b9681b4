import VacancyRadar.Sessions.Lineages

/-!
# Evictions that are interrupted

A lineage is moved to the trash, its tombstone is written, and what is in the trash is removed.  The
process may die anywhere in between, and again in each of the startups that follow.
-/

namespace VacancyRadar.Sessions

open Data

variable {Content : Type} {format : Format Content} {policy : RetentionPolicy}

/-! ## Where lineages are evicted -/

inductive Evictions (now : ℕ) (j : Job) : Job → Prop
  | none : Evictions now j j
  | more {j' : Job} (reason : EvictionReason) {l : Lineage} (h : Evictions now j j')
      (hl : l ∈ j'.store.lineages) (hactive : l.isActive = false) :
      Evictions now j (j'.evictLineage now reason l)

/-- A job of the daemon in which a lineage may be evicted next: room is made for a new session, or old
lineages are evicted in a startup. -/
inductive Daemon.Evicts (format : Format Content) (d : Daemon Content) (now : ℕ) : Job → Prop
  | running {up : Up} {j : Job} (hup : d.up = some up)
      (h : Evictions now { store := up.store, disk := d.disk } j) : Daemon.Evicts format d now j
  | starting {j : Job} (hup : d.up = none) (h : Evictions now (Job.recovered format now d.disk) j) :
      Daemon.Evicts format d now j

def Job.evictionEffects (now : ℕ) (reason : EvictionReason) (j : Job) (l : Lineage) : List Effect :=
  (evictLineage now reason { store := j.store, disk := j.disk } l).effects

structure Killed where
  now : ℕ
  k : ℕ
  cut : ℕ

def Killed.disk (format : Format Content) (policy : RetentionPolicy) (d : Disk) (s : Killed) : Disk :=
  kill (Job.construct format policy s.now d).effects s.k s.cut d

/-! ## The files of one lineage -/

def Same (format : Format Content) (s₀ s : SessionFiles) : Prop :=
  s.record = s₀.record ∧ (s.log = s₀.log ∨ s.log = (s₀.repaired format).log)

/-- The lineage is there with all its records and logs, on the disk and in memory. -/
def Present (format : Format Content) (dir : LineageDir) (j : Job) : Prop :=
  j.disk.tombstoned dir.root = false ∧
    ∃ dir' ∈ j.disk.lineages, dir'.root = dir.root ∧
      List.Forall₂ (Same format) dir.sessions dir'.sessions ∧
      ∃ l ∈ j.store.lineages, l.root = dir.root ∧
        List.Forall₂ (Resumed format False) l.sessions dir'.sessions

def Gone (root : ℕ) (j : Job) : Prop :=
  j.disk.tombstoned root = true ∧ (∀ dir ∈ j.disk.lineages ++ j.disk.trash, dir.root ≠ root) ∧
    (∀ l ∈ j.store.lineages, l.root ≠ root) ∧ ∀ id, j.store.sessionIndex.lookup id ≠ some root

def whole (dir : LineageDir) : Shape where
  links root links := Linked root links ∧ (root = dir.root → links = dir.links)
  kept root := root = dir.root

def Unchanged (format : Format Content) (dir : LineageDir) (s : SessionFiles) : Prop :=
  LogWritten format s ∧ (s.record.rootSessionId = dir.root → ∃ s₀ ∈ dir.sessions, Same format s₀ s)

variable {dir : LineageDir} {d₀ : Disk} {j : Job} {used : List ℕ}

lemma recovers_unchanged (hover : ∀ s ∈ dir.sessions, s.record.status.isTerminal = true)
    (hwritten : ∀ s ∈ dir.sessions, LogWritten format s) (now : ℕ) :
    Recovers format False now (Unchanged format dir) := by
  have hopen : ∀ {T m s}, Read format T m s → Unchanged format dir s →
      m.record.status.isTerminal = false → m.record.rootSessionId ≠ dir.root := by
    intro T m s hread hs hstatus hroot
    have hroot' : s.record.rootSessionId = dir.root := by
      rw [← hroot, hread.record]
    obtain ⟨s₀, hs₀, hsame⟩ := hs.2 hroot'
    rw [hread.status, hsame.1, hover s₀ hs₀] at hstatus
    cases hstatus
  have hlog := recovers_logWritten format now
  constructor
  · exact fun s hs => hs.1
  · intro s hs
    refine ⟨hlog.repaired s hs.1, fun hroot => ?_⟩
    obtain ⟨s₀, hs₀, hrecord, hsame⟩ := hs.2 hroot
    refine ⟨s₀, hs₀, hrecord, .inr ?_⟩
    rcases hsame with hsame | hsame
    · rw [SessionFiles.repaired, SessionFiles.repaired, hsame]
    · have hagain := (entries_repaired (hwritten s₀ hs₀)).2
      rw [← hsame, SessionFiles.repaired]
      have hrepair := congrArg SessionFiles.log hagain
      rw [SessionFiles.repaired, ← hsame] at hrepair
      exact hrepair
  · exact fun T m s t hread hs hstatus ht =>
      ⟨hlog.concluded T m s t hread hs.1 hstatus ht, fun hroot => absurd hroot (hopen hread hs hstatus)⟩
  · exact fun hfalse => hfalse.elim
  · intro T m s hread hs hstatus hnone hlines cut
    refine ⟨hlog.appended T m s hread hs.1 hstatus hnone hlines cut, fun hroot => ?_⟩
    refine absurd ?_ (hopen hread hs hstatus)
    rw [hread.record]
    exact hroot
  · exact fun T m s hread hs hstatus hnone =>
      ⟨hlog.interrupted T m s hread hs.1 hstatus hnone, fun hroot =>
        absurd hroot (hopen hread hs hstatus)⟩

lemma Invariants.Good.evictions {I : Invariants Content} {j j' : Job} {now : ℕ} (h : I.Good d₀ j)
    (he : Evictions now j j') : I.Good d₀ j':= by
  induction he with
  | none => exact h
  | more reason _ hl _ ih => exact ih.evictLineage _ _ hl

lemma good_of_evicts {d : Daemon Content} {now : ℕ} (h : LinkInv format d) (hj : d.Evicts format now j) :
    ∃ d₀, (linkInvariants format d.used).Good d₀ j:= by
  unfold LinkInv at h
  cases hj with
  | running hup he =>
    rw [hup] at h
    exact ⟨_, h.evictions he⟩
  | starting hup he =>
    rw [hup] at h
    have hrecovered := (good_recovered h (recovers_logWritten format now)).imp
      (R := fun m s => m.record.status = s.record.status) (fun hfalse : False => hfalse.elim)
      fun _ _ _ _ _ hR => hR.1.status
    exact ⟨_, hrecovered.evictions he⟩

def evictInvariants (format : Format Content) (used : List ℕ) (dir : LineageDir) :
    Invariants Content where
  format := format
  used := used
  S := whole dir
  Q := Unchanged format dir
  R _ _ := True
  exact := False

lemma Same.refl (s : SessionFiles) : Same format s s := ⟨rfl, .inl rfl⟩

lemma good_whole (h : (linkInvariants format used).Good d₀ j) (hdir : dir ∈ j.disk.lineages) :
    (evictInvariants format used dir).Good j.disk { store := j.store, disk := j.disk } := by
  have hsound := h.sound
  have hunique : ∀ dir' ∈ j.disk.lineages, dir'.root = dir.root → dir' = dir := fun dir' hdir' =>
    h.dir_eq hdir' hdir
  have hwhole : DiskInv used (whole dir) (Unchanged format dir) j.disk := by
    refine ⟨hsound.roots, hsound.ids, hsound.used_root, hsound.used_id, hsound.used_tombstone,
      hsound.standing, fun dir' hdir' hne => ?_, fun dir' hdir' s hs => ?_, fun dir' hdir' => ?_,
      fun root hroot => ?_, fun dir' hdir' _ => h.full dir' hdir'⟩
    · refine ⟨hsound.links dir' hdir' hne, fun hroot => ?_⟩
      rw [hunique dir' hdir' hroot]
    · refine ⟨hsound.files dir' hdir' s hs, fun hroot => ⟨s, ?_, Same.refl s⟩⟩
      have hlinked := hsound.links dir' hdir' (h.full dir' hdir')
      have hroot' := (hlinked.1 s.record.links (List.mem_map_of_mem hs)).1
      rw [← hunique dir' hdir' (hroot'.symm.trans hroot)]
      exact hs
    · rw [h.trash] at hdir'
      cases hdir'
    · refine .inr (List.mem_map.mpr ⟨dir, List.mem_append_left _ hdir, ?_⟩)
      exact hroot.symm
  refine ⟨Along.start hwhole, ?_, h.full, h.trash, h.index⟩
  refine forall₂_imp_of_mem h.agrees fun l _ dir' _ hrel => ⟨hrel.root, ?_, fun hfalse => hfalse.elim⟩
  exact forall₂_imp_of_mem hrel.sessions fun m _ s _ hms => ⟨hms.1, trivial⟩

variable (policy) in
lemma diskInv_killed {d : Disk} (hover : ∀ s ∈ dir.sessions, s.record.status.isTerminal = true)
    (hwritten : ∀ s ∈ dir.sessions, LogWritten format s)
    (h : DiskInv used (whole dir) (Unchanged format dir) d) (startups : List Killed) :
    DiskInv used (whole dir) (Unchanged format dir) (startups.foldl (Killed.disk format policy) d) := by
  induction startups generalizing d with
  | nil => exact h
  | cons s rest ih =>
    have hgood := good_construct policy h (recovers_unchanged hover hwritten s.now)
    have hnext : DiskInv used (whole dir) (Unchanged format dir) (s.disk format policy d) :=
      hgood.along.killed s.k s.cut
    rw [List.foldl_cons]
    exact ih hnext

lemma present_or_gone (hids : dir.ids.Nodup)
    (h : (restInvariants format used (whole dir) (Unchanged format dir) False).Good d₀ j) :
    Present format dir j ∨ Gone dir.root j := by
  have hsound := h.sound
  cases hgone : j.disk.tombstoned dir.root with
  | true =>
    have hnone : ∀ dir' ∈ j.disk.lineages, dir'.root ≠ dir.root := by
      intro dir' hdir' hroot
      have hstanding := hsound.standing dir' hdir'
      rw [hroot, hgone] at hstanding
      cases hstanding
    have hnoneMemory : ∀ l ∈ j.store.lineages, l.root ≠ dir.root := by
      intro l hl hroot
      obtain ⟨dir', hdir', hrel⟩ := exists_right_of_mem h.agrees hl
      exact hnone dir' hdir' (hrel.root.symm.trans hroot)
    refine .inr ⟨hgone, fun dir' hdir' => ?_, hnoneMemory, fun id hlookup => ?_⟩
    · rw [h.trash, List.append_nil] at hdir'
      exact hnone dir' hdir'
    · obtain ⟨l, hl, hroot, -⟩ := mem_places.mp ((h.index id dir.root).mp hlookup)
      exact hnoneMemory l hl hroot
  | false =>
    have hthere : dir.root ∈ j.disk.lineages.map LineageDir.root := by
      rcases hsound.kept dir.root rfl with htomb | hthere
      · rw [hgone] at htomb
        cases htomb
      · rw [h.trash, List.append_nil] at hthere
        exact hthere
    obtain ⟨dir', hdir', hroot⟩ := List.mem_map.mp hthere
    obtain ⟨hlinked, hlinks⟩ := hsound.links dir' hdir' (h.full dir' hdir')
    have hpairs : List.Forall₂ (fun s s' : SessionFiles => s.record.links = s'.record.links)
        dir.sessions dir'.sessions := forall₂_of_map_eq (hlinks hroot).symm
    have hsame : List.Forall₂ (Same format) dir.sessions dir'.sessions := by
      refine forall₂_imp_of_mem hpairs fun s hs s' hs' hlink => ?_
      have hroot' := (hlinked.1 s'.record.links (List.mem_map_of_mem hs')).1
      obtain ⟨s₀, hs₀, hsame⟩ := (hsound.files dir' hdir' s' hs').2 (hroot'.trans hroot)
      have hid : s₀.record.id = s.record.id := by
        rw [← hsame.1]
        exact (congrArg Links.id hlink).symm
      rw [← List.inj_on_of_nodup_map hids hs₀ hs hid]
      exact hsame
    obtain ⟨l, hl, hrel⟩ := exists_left_of_mem h.agrees hdir'
    refine .inl ⟨hgone, dir', hdir', hroot, hsame, l, hl, hrel.root.trans hroot, ?_⟩
    exact forall₂_imp_of_mem hrel.sessions fun m _ s _ hms => hms.2.1

/-- Wherever the process dies while it evicts a lineage, and in the startups after that, the next
startup has the lineage as a whole or, with its tombstone, not at all. -/
theorem present_or_gone_of_evicts (moves : List (Move Content)) {now : ℕ} {j : Job} {l : Lineage}
    (hj : (Daemon.run format policy moves).Evicts format now j) (hl : l ∈ j.store.lineages)
    (hactive : l.isActive = false) :
    ∃ dir ∈ j.disk.lineages, dir.root = l.root ∧
      (l.sessions.map fun m => m.record.id) = dir.ids ∧
      ∀ (reason : EvictionReason) (k cut : ℕ) (startups : List Killed) (now' : ℕ),
        let killed := kill (j.evictionEffects now reason l) k cut j.disk
        let started := Job.construct format policy now'
          (startups.foldl (Killed.disk format policy) killed)
        Present format dir started ∨ Gone dir.root started := by
  obtain ⟨d₀, hgood⟩ := good_of_evicts (linkInv_run format policy moves) hj
  obtain ⟨dir, hdir, hrel⟩ := exists_right_of_mem hgood.agrees hl
  refine ⟨dir, hdir, hrel.root.symm, hrel.ids, fun reason k cut startups now' => ?_⟩
  have hover : ∀ s ∈ dir.sessions, s.record.status.isTerminal = true := by
    intro s hs
    obtain ⟨m, hm, -, hstatus⟩ := exists_left_of_mem hrel.sessions hs
    rw [← hstatus]
    have hinactive := List.any_eq_false.mp hactive m hm
    simpa using hinactive
  have hwritten : ∀ s ∈ dir.sessions, LogWritten format s := hgood.sound.files dir hdir
  have hkilled := ((good_whole hgood hdir).evictLineage now reason hl).along.killed
    k cut
  have hlast := diskInv_killed policy hover hwritten hkilled startups
  have hstarted := good_construct policy hlast (recovers_unchanged hover hwritten now')
  exact present_or_gone (hgood.nodup_ids hdir) hstarted

theorem present_or_gone_of_evicts_sample :
    ∃ up l, (Daemon.run textFormat {} (sampleMoves.take 6)).up = some up ∧ l ∈ up.store.lineages ∧
      l.root = 1 ∧ l.isActive = false ∧
      ∃ dir ∈ (Daemon.run textFormat {} (sampleMoves.take 6)).disk.lineages, dir.root = l.root ∧
        (l.sessions.map fun m => m.record.id) = dir.ids ∧
        ∀ (reason : EvictionReason) (k cut : ℕ) (startups : List Killed) (now' : ℕ),
          let disk := (Daemon.run textFormat {} (sampleMoves.take 6)).disk
          let killed := kill (Job.evictionEffects 20 reason { store := up.store, disk } l) k cut disk
          let started := Job.construct textFormat {} now'
            (startups.foldl (Killed.disk textFormat {}) killed)
          Present textFormat dir started ∨ Gone dir.root started := by
  have hrun : ((Daemon.run textFormat {} (sampleMoves.take 6)).up.map fun up =>
      up.store.lineages.map fun l => (l.root, l.isActive)) = some [(1, false)] := by decide
  obtain ⟨up, hup, hlineages⟩ := Option.map_eq_some_iff.mp hrun
  obtain ⟨l, hl, heq⟩ := List.mem_map.mp (hlineages ▸ List.mem_cons_self :
    (1, false) ∈ up.store.lineages.map fun l => (l.root, l.isActive))
  obtain ⟨hroot, hactive⟩ := Prod.mk.inj heq
  have hj : (Daemon.run textFormat {} (sampleMoves.take 6)).Evicts textFormat 20
      { store := up.store, disk := (Daemon.run textFormat {} (sampleMoves.take 6)).disk } :=
    .running hup .none
  have hshown := present_or_gone_of_evicts _ hj hl hactive
  exact ⟨up, l, hup, hl, hroot, hactive, hshown⟩

end VacancyRadar.Sessions
