import VacancyRadar.Sessions.Jobs

/-!
# The startup of the store

The constructor takes temporary files away, finishes or undoes the evictions that were under way,
reads the lineages and repairs their logs, and ends the sessions that were not over.  It may be
killed anywhere, and what it leaves behind is described by the same invariant.
-/

namespace VacancyRadar.Sessions

open Data

variable {Content : Type}

/-! ## Evictions that were under way -/

section Sweep

variable {used : List ℕ} {S : Shape} {Q : SessionFiles → Prop} {d₀ : Disk} {j : Job}

lemma along_quarantineStrayTemps (h : Along (DiskInv used S Q) d₀ j) :
    Along (DiskInv used S Q) d₀ j.quarantineStrayTemps ∧ j.quarantineStrayTemps.store = j.store := by
  unfold Job.quarantineStrayTemps
  generalize j.disk.temps = n
  induction n generalizing j with
  | zero => exact ⟨h, rfl⟩
  | succ n ih =>
    have hstep : Along (DiskInv used S Q) d₀ (j.emit .quarantineTemp) :=
      h.emit (fun _ => h.now) (h.now.of_same rfl rfl rfl)
    exact ih hstep

lemma along_loadManifest (h : Along (DiskInv used S Q) d₀ j) :
    Along (DiskInv used S Q) d₀ j.loadManifest ∧ j.loadManifest.store = j.store := by
  unfold Job.loadManifest
  split
  · exact ⟨h, rfl⟩
  · split
    · exact ⟨h, rfl⟩
    · exact ⟨h.emit (fun _ => h.now) (h.now.of_same rfl rfl rfl), rfl⟩

lemma filter_root_ne_eq_self {dirs : List LineageDir} {root : ℕ}
    (h : root ∉ dirs.map LineageDir.root) : (dirs.filter fun dir => dir.root ≠ root) = dirs := by
  refine List.filter_eq_self.mpr fun dir hdir => decide_eq_true fun heq => h ?_
  exact List.mem_map.mpr ⟨dir, hdir, heq⟩

lemma along_recoverEviction {dir : LineageDir} {rest : List LineageDir}
    (h : Along (DiskInv used S Q) d₀ j) (htrash : j.disk.trash = dir :: rest) :
    Along (DiskInv used S Q) d₀ (j.recoverEviction dir) ∧ (j.recoverEviction dir).store = j.store ∧
      (j.recoverEviction dir).disk.trash = rest := by
  have hnodup := h.now.roots
  rw [htrash, List.map_append, List.nodup_append] at hnodup
  obtain ⟨-, hroots, hapart⟩ := hnodup
  have hrest : ((dir :: rest).filter fun dir' => dir'.root ≠ dir.root) = rest := by
    rw [List.filter_cons_of_neg (by simp)]
    exact filter_root_ne_eq_self (List.nodup_cons.mp hroots).1
  unfold Job.recoverEviction
  split
  · rename_i hgone
    refine ⟨h.emit (fun _ => h.now.removeTrash_torn hgone) (h.now.removeTrash hgone), rfl, ?_⟩
    change (j.disk.trash.filter fun dir' => dir'.root ≠ dir.root) = rest
    rw [htrash, hrest]
  · rename_i hnot
    split
    · rename_i hsome
      -- no lineage has a directory in both places
      obtain ⟨dir', hdir', heq⟩ := List.any_eq_true.mp (List.isSome_find?.symm.trans hsome)
      exact absurd (of_decide_eq_true heq)
        (hapart _ (List.mem_map_of_mem hdir') _ (List.mem_map_of_mem List.mem_cons_self))
    · refine ⟨h.emit (fun _ => h.now) (h.now.restore (Bool.eq_false_iff.mpr hnot)), rfl, ?_⟩
      change (j.disk.trash.filter fun dir' => dir'.root ≠ dir.root) = rest
      rw [htrash, hrest]

lemma along_recoverInterruptedEvictions (h : Along (DiskInv used S Q) d₀ j) :
    Along (DiskInv used S Q) d₀ j.recoverInterruptedEvictions ∧
      j.recoverInterruptedEvictions.store = j.store ∧
      j.recoverInterruptedEvictions.disk.trash = [] := by
  unfold Job.recoverInterruptedEvictions
  generalize htrash : j.disk.trash = trash
  induction trash generalizing j with
  | nil => exact ⟨h, rfl, htrash⟩
  | cons dir rest ih =>
    obtain ⟨halong, hstore, hrest⟩ := along_recoverEviction h htrash
    obtain ⟨hend, hsame, hnil⟩ := ih halong hrest
    exact ⟨hend, hsame.trans hstore, hnil⟩

lemma along_sweep {d : Disk} (h : DiskInv used S Q d) :
    let j : Job := { store := {}, disk := d }
    let swept := j.quarantineStrayTemps.loadManifest.recoverInterruptedEvictions
    Along (DiskInv used S Q) d swept ∧ swept.store = {} ∧ swept.disk.trash = [] := by
  intro j swept
  obtain ⟨htemps, hstore⟩ := along_quarantineStrayTemps (j := j) (Along.start h)
  obtain ⟨hmanifest, hstore'⟩ := along_loadManifest htemps
  obtain ⟨hend, hstore'', htrash⟩ := along_recoverInterruptedEvictions hmanifest
  exact ⟨hend, hstore''.trans (hstore'.trans hstore), htrash⟩

end Sweep

/-! ## Lineages are read -/

lemma notMem_of_nodup_middle {α : Type} {k : α → ℕ} {xs ys : List α} {x : α}
    (h : ((xs ++ x :: ys).map k).Nodup) : k x ∉ xs.map k ∧ k x ∉ ys.map k := by
  rw [List.map_append, List.map_cons, List.nodup_middle, List.nodup_cons, List.mem_append] at h
  exact not_or.mp h.1

lemma map_ite_middle {α : Type} {k : α → ℕ} {f : α → α} {xs ys : List α} {x : α}
    (h : k x ∉ xs.map k ∧ k x ∉ ys.map k) :
    ((xs ++ x :: ys).map fun y => if k y = k x then f y else y) = xs ++ f x :: ys := by
  have hother : ∀ zs : List α, k x ∉ zs.map k →
      (zs.map fun y => if k y = k x then f y else y) = zs := by
    intro zs hzs
    refine (List.map_congr_left fun z hz => ?_).trans (List.map_id zs)
    exact if_neg fun heq => hzs (List.mem_map.mpr ⟨z, hz, heq⟩)
  rw [List.map_append, List.map_cons, if_pos rfl, hother xs h.1, hother ys h.2]

section Load

variable (format : Format Content)

def SessionFiles.entries (s : SessionFiles) : List (EventRecord Content) :=
  (format.code.repair EventRecord.sequence s.log).entries

def SessionFiles.repaired (s : SessionFiles) : SessionFiles :=
  { s with log := (format.code.repair EventRecord.sequence s.log).log s.log }

/-- What is known about a session that was read. -/
def SessionFiles.session (s : SessionFiles) : Session where
  record :=
    { s.record with
      eventCount := max s.record.eventCount (s.entries format).length
      earliestSequence :=
        ((s.entries format).head?.map EventRecord.sequence).getD s.record.earliestSequence }
  lines := (s.entries format).length

def SessionFiles.terminal (s : SessionFiles) : List (ℕ × TerminalLogType) :=
  ((Job.lastTerminal (s.entries format)).map fun t => (s.record.id, t)).toList

def LineageDir.repaired (dir : LineageDir) : LineageDir :=
  { dir with sessions := dir.sessions.map (SessionFiles.repaired format) }

def LineageDir.lineage (dir : LineageDir) : Lineage where
  root := dir.root
  sessions := dir.sessions.map (SessionFiles.session format)
  bytes := Job.measure format (dir.repaired format)

def LineageDir.index (dir : LineageDir) : List (ℕ × ℕ) :=
  dir.sessions.map fun s => (s.record.id, dir.root)

def storeOf (dirs : List LineageDir) : Store where
  lineages := dirs.map (LineageDir.lineage format)
  sessionIndex := (dirs.flatMap LineageDir.index).reverse
  logTerminals := ((dirs.flatMap LineageDir.sessions).flatMap (SessionFiles.terminal format)).reverse

variable {format} {used : List ℕ} {S : Shape} {Q : SessionFiles → Prop} {d₀ : Disk}

lemma SessionFiles.terminal_reverse (s : SessionFiles) :
    (s.terminal format).reverse = s.terminal format := by
  rw [SessionFiles.terminal]
  cases Job.lastTerminal (s.entries format) with
  | none => rfl
  | some t => rfl

structure Reading (used : List ℕ) (S : Shape) (Q : SessionFiles → Prop) (d₀ : Disk)
    (before after : List LineageDir) (dir : LineageDir) (j : Job) : Prop where
  along : Along (DiskInv used S Q) d₀ j
  lineages : j.disk.lineages = before ++ dir :: after
  trash : j.disk.trash = []

variable {after before done rest : List LineageDir} {dir : LineageDir} {j : Job} {root : ℕ}
  {s : SessionFiles} {ss : List SessionFiles} {l : Lineage} {ls : List Lineage} {m : Session}
  {strict : Prop}

lemma Reading.roots (h : Reading used S Q d₀ before after dir j) :
    ((before ++ dir :: after).map LineageDir.root).Nodup := by
  have hroots := h.along.now.roots
  rwa [h.trash, List.append_nil, h.lineages] at hroots

lemma Reading.ids (h : Reading used S Q d₀ before after dir j) : dir.ids.Nodup := by
  have hids := h.along.now.ids
  rw [h.trash, List.append_nil, h.lineages, List.flatMap_def] at hids
  refine (List.sublist_flatten_of_mem ?_).nodup hids
  exact List.mem_map_of_mem (List.mem_append_right _ List.mem_cons_self)

lemma Reading.repair {rest : List SessionFiles}
    (h : Reading used S Q d₀ before after ⟨root, ss ++ s :: rest⟩ j) {kept cut : List UInt8}
    (hQ : Q { s with log := kept }) :
    Reading used S Q d₀ before after ⟨root, ss ++ { s with log := kept } :: rest⟩
      ((j.emit (.quarantineTail s.record.id cut)).emit (.writeLog root s.record.id kept)) := by
  have htail : Along (DiskInv used S Q) d₀ (j.emit (.quarantineTail s.record.id cut)) :=
    h.along.emit (fun _ => h.along.now.of_same rfl rfl rfl) (h.along.now.of_same rfl rfl rfl)
  have hroots := h.roots
  have hids := h.ids
  refine ⟨htail.emit (fun _ => htail.now.of_same rfl rfl rfl) ?_, ?_, h.trash⟩
  · refine htail.now.modify fun dir hdir hroot s' hs' hid => ⟨rfl, ?_⟩
    change dir ∈ j.disk.lineages at hdir
    rw [h.lineages] at hdir
    have hdir' : dir = ⟨root, ss ++ s :: rest⟩ := List.inj_on_of_nodup_map hroots hdir
      (List.mem_append_right _ List.mem_cons_self) hroot
    subst hdir'
    rw [List.inj_on_of_nodup_map hids hs' (List.mem_append_right _ List.mem_cons_self) hid]
    exact hQ
  · change (j.disk.lineages.map _) = _
    rw [h.lineages]
    have hdirs := map_ite_middle (k := LineageDir.root) (x := ⟨root, ss ++ s :: rest⟩)
      (f := fun dir => dir.modify s.record.id fun s => { s with log := kept })
      (notMem_of_nodup_middle hroots)
    have hsessions := map_ite_middle (k := fun s : SessionFiles => s.record.id)
      (f := fun s => { s with log := kept }) (notMem_of_nodup_middle hids)
    refine hdirs.trans ?_
    rw [LineageDir.modify]
    exact congrArg (fun sessions => before ++ ⟨root, sessions⟩ :: after) hsessions

lemma Reading.loadSession {rest : List SessionFiles}
    (h : Reading used S Q d₀ before after ⟨root, ss ++ s :: rest⟩ j) (hQ : Q (s.repaired format)) :
    Reading used S Q d₀ before after ⟨root, ss ++ s.repaired format :: rest⟩
      (j.loadSession format root s) := by
  have hset : ∀ {dir : LineageDir} {j' : Job} (store : Store), Reading used S Q d₀ before after dir j' →
      Reading used S Q d₀ before after dir (j'.set store) := fun store h' =>
    ⟨h'.along.set store, h'.lineages, h'.trash⟩
  rw [SessionFiles.repaired] at hQ ⊢
  cases hchange : (format.code.repair EventRecord.sequence s.log).change with
  | none =>
    refine hset _ ?_
    rw [LineCode.Repair.log, hchange]
    exact h
  | some change =>
    refine hset _ ?_
    rw [LineCode.Repair.log, hchange] at hQ ⊢
    exact h.repair hQ

lemma modifyLineage_concat {store : Store} {F : Lineage → Lineage} (h : store.lineages = ls ++ [l])
    (hroot : l.root ∉ ls.map Lineage.root) :
    store.modifyLineage l.root F = { store with lineages := ls ++ [F l] } := by
  rw [Store.modifyLineage, h]
  refine congrArg (fun lineages => { store with lineages }) ?_
  exact map_ite_middle (k := Lineage.root) ⟨hroot, List.not_mem_nil⟩

variable (format) in
lemma loadSession_store (s : SessionFiles) (h : j.store.lineages = ls ++ [l])
    (hroot : l.root ∉ ls.map Lineage.root) : (j.loadSession format l.root s).store =
      { lineages := ls ++ [{ l with sessions := l.sessions ++ [s.session format] }]
        sessionIndex := (s.record.id, l.root) :: j.store.sessionIndex
        logTerminals := s.terminal format ++ j.store.logTerminals } := by
  have hmodify := modifyLineage_concat (F := fun l =>
    { l with sessions := l.sessions ++ [s.session format] }) h hroot
  unfold Job.loadSession
  dsimp only
  split
  · exact congrArg (fun store : Store =>
      { store with
        sessionIndex := (s.record.id, l.root) :: store.sessionIndex
        logTerminals := s.terminal format ++ store.logTerminals }) hmodify
  · exact congrArg (fun store : Store =>
      { store with
        sessionIndex := (s.record.id, l.root) :: store.sessionIndex
        logTerminals := s.terminal format ++ store.logTerminals }) hmodify

lemma Reading.foldl_loadSession (bytes : ℕ) {rest : List SessionFiles} (index : List (ℕ × ℕ))
    (terminals : List (ℕ × TerminalLogType))
    (h : Reading used S Q d₀ before after ⟨root, ss.map (SessionFiles.repaired format) ++ rest⟩ j)
    (hQ : ∀ s ∈ rest, Q (s.repaired format)) (hroot : root ∉ ls.map Lineage.root)
    (hstore : j.store =
      { lineages := ls ++ [⟨root, ss.map (SessionFiles.session format), bytes⟩]
        sessionIndex := (ss.map fun s => (s.record.id, root)).reverse ++ index
        logTerminals := (ss.flatMap (SessionFiles.terminal format)).reverse ++ terminals }) :
    Reading used S Q d₀ before after ⟨root, (ss ++ rest).map (SessionFiles.repaired format)⟩
        (rest.foldl (Job.loadSession format root) j) ∧
      (rest.foldl (Job.loadSession format root) j).store =
        { lineages := ls ++ [⟨root, (ss ++ rest).map (SessionFiles.session format), bytes⟩]
          sessionIndex := ((ss ++ rest).map fun s => (s.record.id, root)).reverse ++ index
          logTerminals := ((ss ++ rest).flatMap (SessionFiles.terminal format)).reverse ++
            terminals } := by
  induction rest generalizing ss j with
  | nil =>
    rw [List.append_nil] at h ⊢
    exact ⟨h, hstore⟩
  | cons s rest ih =>
    have hread := h.loadSession (hQ s List.mem_cons_self)
    have hnext := loadSession_store format s
      (l := ⟨root, ss.map (SessionFiles.session format), bytes⟩) (congrArg Store.lineages hstore) hroot
    have hind := @ih (j.loadSession format root s) (ss ++ [s]) ?_ ?_ ?_
    · rw [List.append_assoc, List.singleton_append] at hind
      exact hind
    · rw [List.map_append, List.append_assoc]
      exact hread
    · exact fun s' hs' => hQ s' (List.mem_cons_of_mem _ hs')
    · rw [hnext, hstore]
      simp [SessionFiles.terminal_reverse]

structure Loading (format : Format Content) (used : List ℕ) (S : Shape)
    (Q : SessionFiles → Prop) (d₀ : Disk) (done rest : List LineageDir) (j : Job) : Prop where
  along : Along (DiskInv used S Q) d₀ j
  lineages : j.disk.lineages = done.map (LineageDir.repaired format) ++ rest
  trash : j.disk.trash = []
  store : j.store = storeOf format done

lemma map_root_repaired (dirs : List LineageDir) :
    (dirs.map (LineageDir.repaired format)).map LineageDir.root = dirs.map LineageDir.root := by
  rw [List.map_map]
  rfl

lemma storeOf_concat (done : List LineageDir) (dir : LineageDir) :
    storeOf format (done ++ [dir]) =
      { lineages := done.map (LineageDir.lineage format) ++ [dir.lineage format]
        sessionIndex := dir.index.reverse ++ (storeOf format done).sessionIndex
        logTerminals := (dir.sessions.flatMap (SessionFiles.terminal format)).reverse ++
          (storeOf format done).logTerminals } := by
  simp [storeOf]

lemma Loading.roots (h : Loading format used S Q d₀ done (dir :: rest) j) :
    dir.root ∉ done.map LineageDir.root ∧ dir.root ∉ rest.map LineageDir.root := by
  have hroots := h.along.now.roots
  rw [h.trash, List.append_nil, h.lineages] at hroots
  rw [← map_root_repaired done]
  exact notMem_of_nodup_middle hroots

lemma Loading.quarantineLineage (h : Loading format used S Q d₀ done (dir :: rest) j)
    (hnil : dir.sessions = []) :
    Loading format used S Q d₀ done rest (j.emit (.quarantineLineage dir.root)) where
  along := by
    refine h.along.emit (fun _ => h.along.now) (h.along.now.quarantineLineage fun hkept => ?_)
    refine h.along.now.full dir ?_ hkept hnil
    rw [h.lineages]
    exact List.mem_append_right _ List.mem_cons_self
  lineages := by
    change (j.disk.lineages.filter fun dir' => dir'.root ≠ dir.root) = _
    obtain ⟨hdone, hrest⟩ := h.roots
    rw [← map_root_repaired] at hdone
    rw [h.lineages, List.filter_append, List.filter_cons_of_neg (by simp),
      filter_root_ne_eq_self hdone, filter_root_ne_eq_self hrest]
  trash := h.trash
  store := h.store

lemma Loading.loadLineage (h : Loading format used S Q d₀ done (dir :: rest) j)
    (hne : dir.sessions ≠ []) (hQ : ∀ s ∈ dir.sessions, Q (s.repaired format)) :
    Loading format used S Q d₀ (done ++ [dir]) rest (j.loadLineage format dir) := by
  obtain ⟨hdone, hrest⟩ := h.roots
  let added := j.set
    { j.store with lineages := j.store.lineages ++ [{ root := dir.root, sessions := [], bytes := 0 }] }
  let loaded := dir.sessions.foldl (Job.loadSession format dir.root) added
  have hstart : Reading used S Q d₀ (done.map (LineageDir.repaired format)) rest
      ⟨dir.root, [].map (SessionFiles.repaired format) ++ dir.sessions⟩ added :=
    ⟨h.along.set _, h.lineages, h.trash⟩
  have hls : dir.root ∉ (done.map (LineageDir.lineage format)).map Lineage.root := by
    rw [List.map_map]
    exact hdone
  obtain ⟨hread, hstore⟩ := hstart.foldl_loadSession 0 j.store.sessionIndex j.store.logTerminals hQ
    hls (by
      simp only [added, Job.set, h.store, storeOf]
      simp)
  rw [List.nil_append] at hread hstore
  have hdir : loaded.disk.dir? dir.root = some (dir.repaired format) := by
    have hnone : (done.map (LineageDir.repaired format)).find? (fun dir' => dir'.root = dir.root) =
        none := by
      refine List.find?_eq_none.mpr fun dir' hdir' heq => hdone ?_
      rw [← map_root_repaired]
      exact List.mem_map.mpr ⟨dir', hdir', of_decide_eq_true heq⟩
    rw [Disk.dir?, show loaded.disk.lineages = _ from hread.lineages, List.find?_append, hnone,
      Option.none_or, List.find?_cons_of_pos (by simp)]
    rfl
  have heq : j.loadLineage format dir = loaded.set (loaded.store.modifyLineage dir.root fun l =>
      { l with bytes := ((loaded.disk.dir? dir.root).map (Job.measure format)).getD 0 }) := by
    rw [Job.loadLineage, if_neg hne]
  rw [heq, hdir]
  refine ⟨hread.along.set _, ?_, hread.trash, ?_⟩
  · rw [List.map_append, List.append_assoc]
    exact hread.lineages
  · have hmodify := modifyLineage_concat (F := fun l =>
      { l with bytes := Job.measure format (dir.repaired format) }) (congrArg Store.lineages hstore) hls
    refine hmodify.trans ?_
    rw [storeOf_concat, show loaded.store = _ from hstore, h.store]
    rfl

def nonempty (dirs : List LineageDir) : List LineageDir := dirs.filter fun dir => !dir.sessions.isEmpty

lemma Loading.foldl_loadLineage (h : Loading format used S Q d₀ done rest j)
    (hQ : ∀ dir ∈ rest, ∀ s ∈ dir.sessions, Q (s.repaired format)) :
    Loading format used S Q d₀ (done ++ nonempty rest) [] (rest.foldl (Job.loadLineage format) j) := by
  induction rest generalizing done j with
  | nil =>
    rw [nonempty, List.filter_nil, List.append_nil]
    exact h
  | cons dir rest ih =>
    have hQ' : ∀ dir' ∈ rest, ∀ s ∈ dir'.sessions, Q (s.repaired format) := fun dir' hdir' =>
      hQ dir' (List.mem_cons_of_mem _ hdir')
    by_cases hnil : dir.sessions = []
    · have hstep : j.loadLineage format dir = j.emit (.quarantineLineage dir.root) := if_pos hnil
      rw [List.foldl_cons, hstep, nonempty, List.filter_cons_of_neg (by simp [hnil])]
      exact ih (h.quarantineLineage hnil) hQ'
    · have hnext := ih (h.loadLineage hnil (hQ dir List.mem_cons_self)) hQ'
      rw [List.foldl_cons, nonempty, List.filter_cons_of_pos (by simp [hnil])]
      rw [List.append_assoc] at hnext
      exact hnext

/-! ## What was read agrees with the disk -/

lemma mem_iff_lookup {β : Type} {l : List (ℕ × β)} (h : (l.map Prod.fst).Nodup) {k : ℕ} {v : β} :
    l.lookup k = some v ↔ (k, v) ∈ l := by
  induction l with
  | nil => simp
  | cons x rest ih =>
    obtain ⟨k', v'⟩ := x
    obtain ⟨hnot, hrest⟩ := List.nodup_cons.mp h
    rw [List.lookup_cons, List.mem_cons]
    by_cases hk : k = k'
    · subst hk
      have hother : (k, v) ∉ rest := fun hmem =>
        hnot (List.mem_map.mpr ⟨_, hmem, rfl⟩)
      simp [hother, eq_comm]
    · have hbeq : (k == k') = false := by simpa using hk
      simp [hbeq, hk, ih hrest]

lemma repaired_log (h : format.code.Written s.log) :
    (s.repaired format).log = format.code.render (s.entries format) ∧
      LineCode.Ascending EventRecord.sequence (s.entries format) := by
  obtain ⟨hentries, hlog⟩ := h.repair
  rw [SessionFiles.entries, hentries]
  exact ⟨hlog, LineCode.ascending_ascending _ _⟩

lemma entries_of_render {es : List (EventRecord Content)}
    (h : LineCode.Ascending EventRecord.sequence es) (hlog : s.log = format.code.render es) :
    s.entries format = es ∧ s.repaired format = s := by
  have hrepair : format.code.repair EventRecord.sequence (format.code.render es) = ⟨es, none⟩ :=
    LineCode.repair_render h
  rw [SessionFiles.entries, SessionFiles.repaired, hlog, hrepair]
  refine ⟨rfl, ?_⟩
  rw [LineCode.Repair.log, Option.map_none, Option.getD_none, ← hlog]

lemma entries_repaired (h : format.code.Written s.log) :
    (s.repaired format).entries format = s.entries format ∧
      (s.repaired format).repaired format = s.repaired format := by
  obtain ⟨hlog, hascending⟩ := repaired_log h
  exact entries_of_render hascending hlog

structure Resumed (format : Format Content) (strict : Prop) (m : Session) (s : SessionFiles) :
    Prop where
  log : ∃ es, s.log = format.code.render es ∧ m.lines = es.length ∧
    (strict → LineCode.Ascending EventRecord.sequence es)
  count : s.record.eventCount ≤ m.record.eventCount
  record : m.record =
    { s.record with
      eventCount := m.record.eventCount, earliestSequence := m.record.earliestSequence }

lemma Resumed.status (h : Resumed format strict m s) : m.record.status = s.record.status := by
  rw [h.record]

structure Read (format : Format Content) (terminals : List (ℕ × TerminalLogType)) (m : Session)
    (s : SessionFiles) : Prop extends Resumed format True m s where
  lines : m.lines = (s.entries format).length
  lines_le : m.lines ≤ m.record.eventCount
  terminal : terminals.lookup m.record.id = Job.lastTerminal (s.entries format)

lemma Read.of_written {terminals : List (ℕ × TerminalLogType)} (h : format.code.Written s.log)
    (hterminal : terminals.lookup s.record.id = Job.lastTerminal (s.entries format)) :
    Read format terminals (s.session format) (s.repaired format) := by
  obtain ⟨hlog, hascending⟩ := repaired_log h
  obtain ⟨hentries, -⟩ := entries_repaired h
  refine ⟨⟨⟨_, hlog, rfl, fun _ => hascending⟩, Nat.le_max_left .., rfl⟩, ?_, Nat.le_max_right .., ?_⟩
  · rw [hentries]
    rfl
  · rw [hentries]
    exact hterminal

lemma map_fst_terminal_sublist (ss : List SessionFiles) :
    ((ss.flatMap (SessionFiles.terminal format)).map Prod.fst).Sublist
      (ss.map fun s => s.record.id) := by
  induction ss with
  | nil => exact List.Sublist.refl _
  | cons s rest ih =>
    rw [List.flatMap_cons, List.map_append, List.map_cons, SessionFiles.terminal]
    cases Job.lastTerminal (s.entries format) with
    | none => exact ih.cons _
    | some t => exact ih.cons_cons _

lemma lookup_terminal (hids : (ss.map fun s => s.record.id).Nodup) (hs : s ∈ ss) :
    (ss.flatMap (SessionFiles.terminal format)).reverse.lookup s.record.id =
      Job.lastTerminal (s.entries format) := by
  have hkeys : ((ss.flatMap (SessionFiles.terminal format)).reverse.map Prod.fst).Nodup := by
    rw [List.map_reverse, List.nodup_reverse]
    exact (map_fst_terminal_sublist ss).nodup hids
  have hmem : ∀ t, (s.record.id, t) ∈ (ss.flatMap (SessionFiles.terminal format)).reverse ↔
      Job.lastTerminal (s.entries format) = some t := by
    intro t
    rw [List.mem_reverse, List.mem_flatMap]
    constructor
    · rintro ⟨s', hs', ht⟩
      obtain ⟨t', ht', heq⟩ := Option.map_eq_some_iff.mp (Option.mem_toList.mp ht)
      obtain ⟨hid, rfl⟩ := Prod.mk.inj heq
      rw [List.inj_on_of_nodup_map hids hs hs' hid.symm]
      exact ht'
    · intro ht
      refine ⟨s, hs, Option.mem_toList.mpr ?_⟩
      rw [ht]
      rfl
  ext t
  exact (mem_iff_lookup hkeys).trans (hmem t)

lemma flatMap_ids_repaired (dirs : List LineageDir) :
    (dirs.map (LineageDir.repaired format)).flatMap LineageDir.ids = dirs.flatMap LineageDir.ids := by
  rw [List.flatMap_map]
  refine congrArg (dirs.flatMap ·) (funext fun dir => ?_)
  rw [LineageDir.ids, LineageDir.repaired, List.map_map]
  rfl

lemma forall₂_map_same {α β γ : Type} {R : β → γ → Prop} {f : α → β} {g : α → γ} {xs : List α}
    (h : ∀ x ∈ xs, R (f x) (g x)) : List.Forall₂ R (xs.map f) (xs.map g) :=
  List.forall₂_map_left_iff.mpr (List.forall₂_map_right_iff.mpr (List.forall₂_same.mpr h))

def endInvariants (format : Format Content) (used : List ℕ) (S : Shape)
    (Q : SessionFiles → Prop) (strict : Prop) (terminals : List (ℕ × TerminalLogType))
    (pending : List ℕ) : Invariants Content where
  format := format
  used := used
  S := S
  Q := Q
  R m s := Resumed format strict m s ∧
    (m.record.status.isTerminal = false → Read format terminals m s ∧ m.record.id ∈ pending)
  exact := True

lemma Resumed.weaken (h : Resumed format True m s) : Resumed format strict m s := by
  obtain ⟨es, hlog, hlines, hascending⟩ := h.log
  exact ⟨⟨es, hlog, hlines, fun _ => hascending trivial⟩, h.count, h.record⟩

lemma Loading.nodup_ids (h : Loading format used S Q d₀ done [] j) :
    ((done.flatMap LineageDir.sessions).map fun s => s.record.id).Nodup := by
  have hnodup := h.along.now.ids
  rw [h.trash, List.append_nil, h.lineages, List.append_nil, flatMap_ids_repaired] at hnodup
  rw [List.map_flatMap]
  exact hnodup

lemma Loading.good (h : Loading format used S Q d₀ done [] j)
    (hne : ∀ dir ∈ done, dir.sessions ≠ [])
    (hwritten : ∀ dir ∈ done, ∀ s ∈ dir.sessions, format.code.Written s.log) (strict : Prop) :
    (endInvariants format used S Q strict j.store.logTerminals
      ((Job.places j.store).map Prod.snd)).Good d₀ j := by
  have hlineages := h.lineages
  rw [List.append_nil] at hlineages
  have hids := h.nodup_ids
  refine ⟨h.along, ?_, ?_, h.trash, fun id root => ?_⟩
  · rw [Agrees, hlineages, h.store]
    refine forall₂_map_same fun dir hdir => ⟨rfl, forall₂_map_same fun s hs => ?_, fun _ => rfl⟩
    have hs' := hwritten dir hdir s hs
    have hread := Read.of_written hs' (lookup_terminal hids (List.mem_flatMap.mpr ⟨dir, hdir, hs⟩))
    refine ⟨rfl, hread.weaken, fun _ => ⟨hread, List.mem_map.mpr ⟨(dir.root, s.record.id), ?_, rfl⟩⟩⟩
    exact mem_places.mpr ⟨_, List.mem_map_of_mem hdir, rfl, _, List.mem_map_of_mem hs, rfl⟩
  · intro dir' hdir'
    rw [hlineages] at hdir'
    obtain ⟨dir, hdir, rfl⟩ := List.mem_map.mp hdir'
    exact mt List.map_eq_nil_iff.mp (hne dir hdir)
  · have hkeys : ((done.flatMap LineageDir.index).reverse.map Prod.fst).Nodup := by
      rw [List.map_reverse, List.nodup_reverse, List.map_flatMap]
      rw [List.map_flatMap] at hids
      refine (congrArg List.Nodup ?_).mpr hids
      refine congrArg (done.flatMap ·) (funext fun dir => ?_)
      rw [LineageDir.index, List.map_map]
      rfl
    rw [h.store]
    change (done.flatMap LineageDir.index).reverse.lookup id = some root ↔ _
    rw [mem_iff_lookup hkeys, List.mem_reverse, List.mem_flatMap, mem_places]
    constructor
    · rintro ⟨dir, hdir, hmem⟩
      obtain ⟨s, hs, heq⟩ := List.mem_map.mp hmem
      obtain ⟨rfl, rfl⟩ := Prod.mk.inj heq
      exact ⟨_, List.mem_map_of_mem hdir, rfl, _, List.mem_map_of_mem hs, rfl⟩
    · rintro ⟨l, hl, rfl, m, hm, rfl⟩
      obtain ⟨dir, hdir, rfl⟩ := List.mem_map.mp hl
      obtain ⟨s, hs, rfl⟩ := List.mem_map.mp hm
      exact ⟨dir, hdir, List.mem_map.mpr ⟨s, hs, rfl⟩⟩

end Load

/-! ## Sessions are ended -/

def SessionRecord.concluded (now : ℕ) (t : TerminalLogType) (record : SessionRecord) :
    SessionRecord :=
  { record with
    status := t.outcome.1, terminalReason := some t.outcome.2
    completedAt := some (record.completedAt.getD now) }

def SessionRecord.interrupted (now sequence : ℕ) (record : SessionRecord) : SessionRecord :=
  { record with
    eventCount := sequence + 1, status := .interrupted
    terminalReason := some .daemonRestart, completedAt := some now }

structure Recovers (format : Format Content) (strict : Prop) (now : ℕ) (Q : SessionFiles → Prop) :
    Prop where
  written : ∀ s, Q s → format.code.Written s.log
  repaired : ∀ s, Q s → Q (s.repaired format)
  concluded : ∀ T m s t, Read format T m s → Q s → m.record.status.isTerminal = false →
    T.lookup m.record.id = some t → Q { s with record := m.record.concluded now t }
  ordered : strict → ∀ T m s, Read format T m s → Q s → m.record.status.isTerminal = false →
    T.lookup m.record.id = none → ∀ e ∈ s.entries format, e.sequence < m.record.eventCount
  appended : ∀ T m s, Read format T m s → Q s → m.record.status.isTerminal = false →
    T.lookup m.record.id = none → m.lines < maxPersistedEventsPerSession → ∀ cut,
      Q { s with
        log := s.log ++ (format.code.line (interruptedEventRecord m.record.eventCount now)).take cut }
  interrupted : ∀ T m s, Read format T m s → Q s → m.record.status.isTerminal = false →
    T.lookup m.record.id = none →
    Q { record := m.record.interrupted now m.record.eventCount
        log := if m.lines < maxPersistedEventsPerSession then
          s.log ++ format.code.line (interruptedEventRecord m.record.eventCount now) else s.log }

lemma Invariants.Good.imp {I : Invariants Content} {R : Session → SessionFiles → Prop} {exact : Prop}
    {d₀ : Disk} {j : Job} (h : I.Good d₀ j) (hexact : exact → I.exact)
    (hR : ∀ l ∈ j.store.lineages, ∀ m ∈ l.sessions, ∀ s, I.R m s → R m s) :
    Invariants.Good { I with R, exact } d₀ j := by
  refine ⟨h.along, ?_, h.full, h.trash, h.index⟩
  refine forall₂_imp_of_mem h.agrees fun l hl dir _ hrel => ?_
  refine ⟨hrel.root, ?_, fun h' => hrel.bytes (hexact h')⟩
  exact forall₂_imp_of_mem hrel.sessions fun m hm s _ hms => ⟨hms.1, hR l hl m hm s hms.2⟩

/-! ### Memory after a change -/

variable {root : ℕ} {store : Store}

lemma session?_setBytes {root' id : ℕ} (b : Lineage → ℕ) :
    (store.modifyLineage root' fun l => { l with bytes := b l }).session? root id =
      store.session? root id := by
  rw [Store.session?, Store.session?, Store.modifyLineage, List.find?_map]
  have hroot : ∀ l : Lineage,
      (if l.root = root' then { l with bytes := b l } else l).root = l.root := by
    intro l
    split
    · rfl
    · rfl
  have hpred : ((fun l : Lineage => decide (l.root = root)) ∘ fun l =>
      if l.root = root' then { l with bytes := b l } else l) = fun l => decide (l.root = root) := by
    funext l
    simp only [Function.comp_apply, hroot]
  rw [hpred]
  cases store.lineages.find? (fun l => l.root = root) with
  | none => rfl
  | some l =>
    rw [Option.map_some, Option.bind_some, Option.bind_some]
    split
    · rfl
    · rfl

lemma places_modifyLineage {F : Lineage → Lineage}
    (hF : ∀ l, (F l).root = l.root ∧
      ((F l).sessions.map fun m => m.record.id) = l.sessions.map fun m => m.record.id) :
    Job.places (store.modifyLineage root F) = Job.places store := by
  rw [Job.places, Job.places, Store.modifyLineage, List.flatMap_map]
  refine congrArg (store.lineages.flatMap ·) (funext fun l => ?_)
  split
  · have hids := congrArg (List.map fun id => (l.root, id)) (hF l).2
    rw [List.map_map, List.map_map] at hids
    rw [(hF l).1]
    exact hids
  · rfl

lemma places_modifySession {id : ℕ} {g : Session → Session}
    (hg : ∀ m, (g m).record.id = m.record.id) :
    Job.places (store.modifySession root id g) = Job.places store := by
  refine places_modifyLineage fun l => ⟨rfl, ?_⟩
  rw [List.map_map]
  refine List.map_congr_left fun m _ => ?_
  change (if m.record.id = id then g m else m).record.id = m.record.id
  split
  · exact hg m
  · rfl

section Memory

variable {format : Format Content} {j : Job} {root id : ℕ} {m : Session}
  {f : SessionRecord → SessionRecord}

lemma writeRecord_store :
    ∃ b : Lineage → ℕ, (j.writeRecord format root id f).store =
      (j.store.modifySession root id fun m => { m with record := f m.record }).modifyLineage root
        fun l => { l with bytes := b l } := by
  unfold Job.writeRecord
  dsimp only
  split
  · refine ⟨Lineage.bytes, ?_⟩
    simp [Store.modifyLineage, Job.set]
  · exact ⟨_, rfl⟩

variable (format) in
lemma session?_writeRecord (hm : j.store.session? root id = some m) (hf : (f m.record).id = id) :
    (j.writeRecord format root id f).store.session? root id =
      some { m with record := f m.record } := by
  obtain ⟨b, hb⟩ := writeRecord_store (j := j) (f := f)
  rw [hb, session?_setBytes]
  exact session?_modifySession (g := fun m => { m with record := f m.record }) hm hf

lemma places_writeRecord (hf : ∀ record : SessionRecord, (f record).id = record.id) :
    Job.places (j.writeRecord format root id f).store = Job.places j.store := by
  obtain ⟨b, hb⟩ := writeRecord_store (j := j) (f := f)
  rw [hb]
  refine (places_modifyLineage (F := fun l => { l with bytes := b l }) fun _ => ⟨rfl, rfl⟩).trans ?_
  exact places_modifySession fun m => hf m.record

lemma logTerminals_writeRecord :
    (j.writeRecord format root id f).store.logTerminals = j.store.logTerminals := by
  obtain ⟨b, hb⟩ := writeRecord_store (j := j) (f := f)
  rw [hb]
  rfl

variable (format) in
lemma session?_appendLine (entry : EventRecord Content) (hm : j.store.session? root id = some m) :
    (j.appendLine format root id entry none).store.session? root id =
      some { m with lines := m.lines + 1 } := by
  have hid : m.record.id = id := by
    obtain ⟨-, -, -, -, hid⟩ := session?_eq_some hm
    exact hid
  refine session?_modifySession (g := fun m => { m with lines := m.lines + 1 }) ?_ hid
  rw [← hm]
  exact session?_setBytes _

lemma places_appendLine {entry : EventRecord Content} :
    Job.places (j.appendLine format root id entry none).store = Job.places j.store := by
  refine (places_modifySession (g := fun m => { m with lines := m.lines + 1 }) fun _ => rfl).trans ?_
  exact places_modifyLineage (F := fun l =>
    { l with bytes := l.bytes + (format.code.line entry).length }) fun _ => ⟨rfl, rfl⟩

end Memory

end VacancyRadar.Sessions
