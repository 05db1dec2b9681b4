import VacancyRadar.Sessions.Ops
import VacancyRadar.Sessions.Restart
import VacancyRadar.Sessions.Text

/-!
# The lineages of every reachable store

Whatever is created, ended and evicted, wherever the daemon is killed and whichever writes to the
event logs fail: a record stands in the lineage of its root together with the record that it resumes,
and the index has the sessions that are kept and no others.
-/

namespace VacancyRadar.Sessions

open Data

variable {Content : Type} {format : Format Content} {policy : RetentionPolicy}

/-! ## Torn logs -/

lemma diskInv_empty (Q : SessionFiles → Prop) : DiskInv [] { links := Linked } Q {} := by
  refine ⟨List.nodup_nil, List.nodup_nil, ?_, ?_, ?_, ?_, ?_, ?_, ?_, ?_, ?_⟩
  all_goals simp [Disk.tombstoned]

variable {used : List ℕ} {d : Disk} {R : Session → SessionFiles → Prop}

lemma DiskInv.tear {S : Shape} {Q : SessionFiles → Prop} (h : DiskInv used S Q d) (tears : ℕ → ℕ)
    (hQ : ∀ s, Q s → ∀ n, Q { s with log := format.code.tear n s.log }) :
    DiskInv used S Q (d.tear format tears) := by
  have hsimilar : ∀ dirs : List LineageDir, List.Forall₂ LineageDir.Similar dirs
      (dirs.map fun dir => { dir with
        sessions := dir.sessions.map fun s =>
          { s with log := format.code.tear (tears s.record.id) s.log } }) := by
    intro dirs
    refine List.forall₂_map_right_iff.mpr (List.forall₂_same.mpr fun dir _ => ⟨rfl, ?_⟩)
    rw [LineageDir.links, LineageDir.links, List.map_map]
    rfl
  have hfiles : ∀ {dirs : List LineageDir} {dir : LineageDir},
      dir ∈ (dirs.map fun dir : LineageDir => { dir with
        sessions := dir.sessions.map fun s =>
          { s with log := format.code.tear (tears s.record.id) s.log } }) →
      ∃ dir₀ ∈ dirs, dir.root = dir₀.root ∧
        ((∀ s ∈ dir₀.sessions, Q s) → ∀ s ∈ dir.sessions, Q s) := by
    intro dirs dir hdir
    obtain ⟨dir₀, hdir₀, rfl⟩ := List.mem_map.mp hdir
    refine ⟨dir₀, hdir₀, rfl, fun hall s hs => ?_⟩
    obtain ⟨s₀, hs₀, rfl⟩ := List.mem_map.mp hs
    exact hQ s₀ (hall s₀ hs₀) _
  refine h.of_similar (hsimilar _) (hsimilar _) rfl ?_ ?_
  · intro dir hdir
    obtain ⟨dir₀, hdir₀, -, hall⟩ := hfiles hdir
    exact hall (h.files dir₀ hdir₀)
  · intro dir hdir
    obtain ⟨dir₀, hdir₀, hroot, hall⟩ := hfiles hdir
    rw [hroot]
    exact (h.trash dir₀ hdir₀).imp_right fun hkept => hall hkept.2.2

/-! ## Steps of the daemon -/

/-- A session that is created is not launched, launched, or finalised because its launch failed. -/
lemma Op.create_cases {new : Job.NewSession} {launches : Bool} {now : ℕ} {up : Up}
    {motive : List (ℕ × ℕ) → Job → Prop} {created : Job}
    (hcreated : (Job.create format policy now new { store := up.store, disk := d }).1 = created)
    (idle : motive up.live created) (launched : motive ((new.id, 0) :: up.live) created)
    (failed : motive up.live (created.finalize format now new.id .failed .launchFailed)) :
    motive ((Op.create new launches now : Op Content).live format policy up d)
      ((Op.create new launches now : Op Content).job format policy up d) := by
  unfold Op.job Op.live
  dsimp only
  generalize Job.create format policy now new { store := up.store, disk := d } = result at hcreated ⊢
  obtain ⟨j, room⟩ := result
  cases hcreated
  cases room with
  | false =>
    rw [if_neg (by simp)]
    exact idle
  | true =>
    cases launches with
    | true =>
      rw [if_pos (by simp)]
      exact launched
    | false =>
      rw [if_neg (by simp)]
      exact failed

def Move.op? : Move Content → Option (Op Content)
  | op o | kill o _ _ _ => some o
  | _ => none

def Move.start? : Move Content → Option ℕ
  | start now | killStart now _ _ _ => some now
  | _ => none

def Move.tears : Move Content → ℕ → ℕ
  | kill _ _ _ tears | killStart _ _ _ tears => tears
  | _ => fun _ => 0

/-- `P` holds of the disk of a daemon that is down, and `G` of a daemon that is up. -/
def Daemon.Holds (P : List ℕ → Disk → Prop) (G : List ℕ → Up → Disk → Prop) (d : Daemon Content) :
    Prop :=
  match d.up with
  | none => P d.used d.disk
  | some up => G d.used up d.disk

lemma Daemon.Holds.step {P : List ℕ → Disk → Prop} {G : List ℕ → Up → Disk → Prop}
    {d : Daemon Content} {move : Move Content} (h : d.Holds P G)
    (htear : ∀ used disk, P used disk → P used (disk.tear format move.tears))
    (hop : ∀ up, ∀ op ∈ move.op?, G d.used up d.disk → op.fresh d.used = true →
      Along (P (op.ids ++ d.used)) d.disk (op.job format policy up d.disk) ∧
        G (op.ids ++ d.used)
          ⟨(op.job format policy up d.disk).store, op.live format policy up d.disk⟩
          (op.job format policy up d.disk).disk)
    (hstart : ∀ now ∈ move.start?, d.up = none → P d.used d.disk →
      Along (P d.used) d.disk (Job.construct format policy now d.disk) ∧
        G d.used { store := (Job.construct format policy now d.disk).store }
          (Job.construct format policy now d.disk).disk) :
    (d.step format policy move).Holds P G := by
  obtain ⟨disk, up, used, acked⟩ := d
  cases move with
  | op op =>
    cases up with
    | none => exact h
    | some up =>
      unfold Daemon.step
      dsimp only
      split
      · rename_i hfresh
        exact (hop up op rfl h hfresh).2
      · exact h
  | kill op k cut tears =>
    cases up with
    | none => exact h
    | some up =>
      unfold Daemon.step
      dsimp only
      split
      · rename_i hfresh
        exact htear _ _ ((hop up op rfl h hfresh).1.killed k cut)
      · exact h
  | start now =>
    cases up with
    | some up => exact h
    | none => exact (hstart now rfl rfl h).2
  | killStart now k cut tears =>
    cases up with
    | some up => exact h
    | none => exact htear _ _ ((hstart now rfl rfl h).1.killed k cut)

/-! ## Any run -/

def LogWritten (format : Format Content) (s : SessionFiles) : Prop := format.code.Written s.log

variable (format) in
lemma recovers_logWritten (now : ℕ) : Recovers format False now (LogWritten format) := by
  refine ⟨fun _ h => h, fun s h => ?_, fun _ _ _ _ _ h _ _ => h, fun hfalse => hfalse.elim, ?_, ?_⟩
  · rw [LogWritten, (repaired_log h).1]
    exact LineCode.Written.render _
  · intro T m s _ h _ _ _ cut
    exact LineCode.Written.append_take h _ cut
  · intro T m s _ h _ _
    split
    · have happend := LineCode.Written.append_take h
        (interruptedEventRecord m.record.eventCount now)
        (format.code.line (interruptedEventRecord m.record.eventCount now)).length
      rwa [List.take_of_length_le (Nat.le_refl _)] at happend
    · exact h

def linkInvariants (format : Format Content) (used : List ℕ) : Invariants Content where
  format := format
  used := used
  S := { links := Linked }
  Q := LogWritten format
  R m s := m.record.status = s.record.status
  exact := False

lemma keepsMinor_linkInvariants (used : List ℕ) : (linkInvariants format used).KeepsMinor :=
  fun _ _ _ _ _ hQ => ⟨rfl, hQ⟩

lemma persists_linkInvariants {m : Session} {entry : EventRecord Content} {fault : Option ℕ} :
    (linkInvariants format used).Persists m entry fault where
  line _ _ _ hR hQ := ⟨hR, fun cut => LineCode.Written.append_take hQ entry cut⟩
  torn _ _ _ := ⟨fun hfalse => hfalse, fun _ hR hQ => ⟨hR, fun _ =>
    LineCode.Written.append_prefix hQ ((List.take_prefix ..).trans (List.take_prefix ..))⟩⟩
  full _ _ _ hQ := ⟨rfl, hQ⟩

lemma good_link_job {up : Up} (h : (linkInvariants format used).Good d { store := up.store, disk := d })
    {op : Op Content} (hfresh : op.fresh used = true) :
    (linkInvariants format (op.ids ++ used)).Good d (op.job format policy up d) := by
  have hfinal : ∀ {used : List ℕ} {j : Job} {id now : ℕ} {status : SessionStatus}
      {reason : TerminalReason}, (linkInvariants format used).Good d j →
      (linkInvariants format used).Good d (j.finalize format now id status reason) :=
    fun h => h.finalize _ _ _ fun _ _ _ _ _ hQ => ⟨rfl, hQ⟩
  cases op with
  | create new launches now =>
    have hcreated : (linkInvariants format (new.id :: used)).Good d
        (Job.create format policy now new { store := up.store, disk := d }).1 :=
      h.create policy now rfl (of_decide_eq_true hfresh)
        fun record _ _ _ _ => ⟨LineCode.Written.render [], rfl⟩
    exact Op.create_cases (motive := fun _ j => (linkInvariants format (new.id :: used)).Good d j) rfl
      hcreated hcreated (hfinal hcreated)
  | event id e frames now fault =>
    unfold Op.job
    dsimp only
    split
    · exact h
    · rename_i sequence _
      have happended := h.appendEvent id (e.record sequence) fault
        fun _ _ _ => persists_linkInvariants
      rw [persistEvent_eq]
      split
      · exact happended
      · exact happended.conclude _ _ _ (keepsMinor_linkInvariants used) fun _ _ _ _ _ _ hQ => ⟨rfl, hQ⟩
  | accepted id => exact h.markAcceptedWork (keepsMinor_linkInvariants used)
  | refine id scope => exact h.setScope (keepsMinor_linkInvariants used)
  | streamFailed id => exact h

def LinkInv (format : Format Content) (d : Daemon Content) : Prop :=
  match d.up with
  | none => DiskInv d.used { links := Linked } (LogWritten format) d.disk
  | some up => (linkInvariants format d.used).Good d.disk { store := up.store, disk := d.disk }

variable (policy) in
lemma LinkInv.construct (h : DiskInv used { links := Linked } (LogWritten format) d) (now : ℕ) :
    (linkInvariants format used).Good d (Job.construct format policy now d):=
  (good_construct policy h (recovers_logWritten format now)).imp (fun hfalse => hfalse.elim)
    fun _ _ _ _ _ hR => hR.1.status

lemma Invariants.Good.holds {I : Invariants Content} {j : Job} (h : I.Good d j) :
    Along (DiskInv I.used I.S I.Q) d j ∧ I.Good j.disk { store := j.store, disk := j.disk } :=
  ⟨h.along, h.restart⟩

lemma LinkInv.step {d : Daemon Content} (h : LinkInv format d) (move : Move Content) :
    LinkInv format (d.step format policy move) := by
  refine Daemon.Holds.step (P := fun used => DiskInv used { links := Linked } (LogWritten format))
    (G := fun used up disk => (linkInvariants format used).Good disk { store := up.store, disk }) h
    (fun _ _ hdisk => hdisk.tear _ fun _ hs n => LineCode.Written.tear hs n) ?_ ?_
  · intro up op _ hgood hfresh
    exact (good_link_job hgood hfresh).holds
  · intro now _ _ hdisk
    have hjob := LinkInv.construct policy hdisk now
    generalize Job.construct format policy now d.disk = j at hjob ⊢
    exact hjob.holds

variable (format policy) in
theorem linkInv_run (moves : List (Move Content)) : LinkInv format (Daemon.run format policy moves) :=
  List.foldlRecOn moves _ (diskInv_empty _) fun _ hd move _ => hd.step move

structure Store.Linked (store : Store) : Prop where
  root : ∀ l ∈ store.lineages, ∃ m ∈ l.sessions, m.record.id = l.root
  record : ∀ l ∈ store.lineages, ∀ m ∈ l.sessions, m.record.rootSessionId = l.root ∧
    ∀ parent, m.record.parentSessionId = some parent → ∃ m' ∈ l.sessions, m'.record.id = parent
  index : ∀ id root, store.sessionIndex.lookup id = some root ↔
    ∃ l ∈ store.lineages, l.root = root ∧ ∃ m ∈ l.sessions, m.record.id = id

lemma LineageRel.linked {exact : Prop} {l : Lineage} {dir : LineageDir}
    (h : LineageRel format exact R l dir) (hlinked : Linked dir.root dir.links) :
    (∃ m ∈ l.sessions, m.record.id = l.root) ∧ ∀ m ∈ l.sessions, m.record.rootSessionId = l.root ∧
      ∀ parent, m.record.parentSessionId = some parent → ∃ m' ∈ l.sessions, m'.record.id = parent := by
  have hlinks : (l.sessions.map fun m => m.record.links) = dir.links :=
    map_eq_of_forall₂ h.sessions fun _ _ hms => hms.1
  have hback : ∀ {x : Links}, x ∈ dir.links → ∃ m ∈ l.sessions, m.record.links = x := by
    intro x hx
    rw [← hlinks] at hx
    exact List.mem_map.mp hx
  rw [← h.root] at hlinked
  obtain ⟨hall, x, hx, hroot⟩ := hlinked
  constructor
  · obtain ⟨m, hm, rfl⟩ := hback hx
    exact ⟨m, hm, hroot⟩
  · intro m hm
    have hmem : m.record.links ∈ dir.links := hlinks ▸ List.mem_map_of_mem hm
    obtain ⟨hroot', hparent⟩ := hall _ hmem
    refine ⟨hroot', fun parent hp => ?_⟩
    obtain ⟨y, hy, hid⟩ := hparent parent hp
    obtain ⟨m', hm', rfl⟩ := hback hy
    exact ⟨m', hm', hid⟩

/-- In every state that is reached all records are linked within their lineage and the index has the
kept sessions, each with its lineage. -/
theorem linked_run (moves : List (Move Content)) {up : Up}
    (h : (Daemon.run format policy moves).up = some up) : up.store.Linked := by
  have hinv := linkInv_run format policy moves
  unfold LinkInv at hinv
  rw [h] at hinv
  have hlineage : ∀ l ∈ up.store.lineages, ∃ dir, LineageRel format False (linkInvariants format []).R l dir ∧
      Linked dir.root dir.links := by
    intro l hl
    obtain ⟨dir, hdir, hrel⟩ := exists_right_of_mem hinv.agrees hl
    exact ⟨dir, hrel, hinv.sound.links dir hdir (hinv.full dir hdir)⟩
  constructor
  · intro l hl
    obtain ⟨dir, hrel, hlinked⟩ := hlineage l hl
    exact (hrel.linked hlinked).1
  · intro l hl
    obtain ⟨dir, hrel, hlinked⟩ := hlineage l hl
    exact (hrel.linked hlinked).2
  · exact fun id root => (hinv.index id root).trans mem_places

def sampleScope : LaunchScope := { authenticated := "unknown", platform := "linux" }

def sampleMoves : List (Move Unit) :=
  [.start 0, .op (.create ⟨1, 5, sampleScope, none⟩ true 5),
    .op (.event 1 ⟨.sessionStarted, (), 6, some "thread"⟩ [] 6 none),
    .op (.event 1 ⟨.sessionCompleted, (), 7, none⟩ [] 7 none),
    .kill (.create ⟨2, 8, sampleScope, none⟩ true 8) 1 0 (fun _ => 3), .start 9,
    .op (.create ⟨3, 10, sampleScope, some "thread"⟩ true 10)]

theorem linked_run_sample : ∃ up, (Daemon.run textFormat {} sampleMoves).up = some up ∧
    up.store.sessionIndex = [(3, 1), (1, 1)] ∧ up.store.Linked := by
  have hrun : ((Daemon.run textFormat {} sampleMoves).up.map fun up => up.store.sessionIndex) =
      some [(3, 1), (1, 1)] := by decide +kernel
  obtain ⟨up, hup, hindex⟩ := Option.map_eq_some_iff.mp hrun
  exact ⟨up, hup, hindex, linked_run sampleMoves hup⟩

end VacancyRadar.Sessions
