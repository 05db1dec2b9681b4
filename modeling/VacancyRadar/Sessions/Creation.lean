import VacancyRadar.Sessions.Jobs

/-!
# Sessions are created

A new session stands in the lineage of the one it resumes, or in a lineage of its own.  Room is made
for it before, but never in its own lineage, so that the record it resumes is still there.
-/

namespace VacancyRadar.Sessions

open Data

variable {Content : Type}

lemma Along.mono {P P' : Disk → Prop} {d₀ : Disk} {j : Job} (h : Along P d₀ j)
    (hP : ∀ d, P d → P' d) : Along P' d₀ j :=
  ⟨h.disk, fun k cut => hP _ (h.killed k cut)⟩

/-! ## Memory -/

def opened (store : Store) (root : ℕ) : List Lineage :=
  if store.lineages.any fun l => l.root = root then store.lineages
    else store.lineages ++ [{ root, sessions := [], bytes := 0 }]

variable {store : Store} {root : ℕ} {l : Lineage} {format : Format Content}

lemma mem_opened (h : l ∈ opened store root) :
    l ∈ store.lineages ∨ l.root = root ∧ l.sessions = [] := by
  unfold opened at h
  split at h
  · exact .inl h
  · rcases List.mem_append.mp h with hold | hnew
    · exact .inl hold
    · rw [List.mem_singleton.mp hnew]
      exact .inr ⟨rfl, rfl⟩

lemma mem_opened_of_mem (h : l ∈ store.lineages) : l ∈ opened store root:= by
  unfold opened
  split
  · exact h
  · exact List.mem_append_left _ h

lemma exists_mem_opened (store : Store) (root : ℕ) : ∃ l ∈ opened store root, l.root = root := by
  unfold opened
  split
  · rename_i hany
    obtain ⟨l, hl, hroot⟩ := List.any_eq_true.mp hany
    exact ⟨l, hl, of_decide_eq_true hroot⟩
  · exact ⟨_, List.mem_append_right _ List.mem_cons_self, rfl⟩

def grown (format : Format Content) (record : SessionRecord) (l : Lineage) : Lineage :=
  { l with sessions := l.sessions ++ [⟨record, 0⟩], bytes := l.bytes + format.size record }

def registered (format : Format Content) (root : ℕ) (record : SessionRecord) (store : Store) :
    Store where
  lineages := (opened store root).map fun l => if l.root = root then grown format record l else l
  sessionIndex := (record.id, root) :: store.sessionIndex
  logTerminals := store.logTerminals

lemma find?_concat_of_notMem {α : Type} {p : α → Bool} {xs : List α} {x : α}
    (hx : p x = true) (hxs : ∀ y ∈ xs, p y = false) : (xs ++ [x]).find? p = some x := by
  rw [List.find?_append, List.find?_eq_none.mpr fun y hy => by simp [hxs y hy]]
  simp [hx]

lemma register_eq {format : Format Content} {j : Job} {root : ℕ} {record : SessionRecord}
    (hfresh : ∀ l ∈ opened j.store root, ∀ m ∈ l.sessions, m.record.id ≠ record.id)
    (hfile : (Effect.apply j.disk (.makeLineage root)).files? root record.id = none) :
    j.register format root record =
      ((j.emit (.makeLineage root)).emit (.writeRecord root record)).set
        (registered format root record j.store) := by
  let store : Store :=
    { lineages := (opened j.store root).map fun l =>
        if l.root = root then { l with sessions := l.sessions ++ [⟨record, 0⟩] } else l
      sessionIndex := (record.id, root) :: j.store.sessionIndex
      logTerminals := j.store.logTerminals }
  have hsame : store.modifySession root record.id (fun m => { m with record := id m.record }) =
      store := by
    simp [Store.modifySession, Store.modifyLineage]
  have hfound : store.session? root record.id = some ⟨record, 0⟩ := by
    obtain ⟨l, hl, hroot⟩ := exists_mem_opened j.store root
    cases hfind : (opened j.store root).find? (fun l => l.root = root) with
    | none => exact absurd (List.find?_eq_none.mp hfind l hl) (by simpa using hroot)
    | some l' =>
      have hroot' : l'.root = root := by simpa using List.find?_some hfind
      have hmap := find?_map_of_find?
        (g := fun l => { l with sessions := l.sessions ++ [⟨record, 0⟩] }) hfind (by exact hroot')
      rw [Store.session?, hmap, Option.bind_some]
      refine find?_concat_of_notMem (by simp) fun m hm => ?_
      simpa using hfresh l' (List.mem_of_find?_eq_some hfind) m hm
  have hwrite : j.register format root record =
      Job.writeRecord format root record.id id ((j.emit (.makeLineage root)).set store) := rfl
  rw [hwrite]
  simp only [Job.writeRecord, Job.set, hsame, hfound, Job.emit, hfile, Option.map_none,
    Option.getD_none, Nat.sub_zero]
  congr 1
  simp only [Store.modifyLineage, store, registered, List.map_map]
  congr 1
  refine List.map_congr_left fun l _ => ?_
  by_cases hroot : l.root = root
  · simp [hroot, grown]
  · simp [hroot]

variable {record : SessionRecord}

lemma mem_places_registered {root' id' : ℕ} :
    (root', id') ∈ Job.places (registered format root record store) ↔
      (root' = root ∧ id' = record.id) ∨ (root', id') ∈ Job.places store := by
  rw [mem_places, mem_places]
  constructor
  · rintro ⟨l', hl', rfl, m, hm, rfl⟩
    obtain ⟨l, hl, rfl⟩ := List.mem_map.mp hl'
    split at hm
    · rename_i hroot
      rw [if_pos hroot]
      rcases List.mem_append.mp hm with hold | hnew
      · rcases mem_opened hl with hin | ⟨-, hnil⟩
        · exact .inr ⟨l, hin, rfl, m, hold, rfl⟩
        · rw [hnil] at hold
          cases hold
      · rw [List.mem_singleton.mp hnew]
        exact .inl ⟨hroot, rfl⟩
    · rename_i hroot
      rw [if_neg hroot]
      rcases mem_opened hl with hin | ⟨heq, -⟩
      · exact .inr ⟨l, hin, rfl, m, hm, rfl⟩
      · exact absurd heq hroot
  · rintro (⟨rfl, rfl⟩ | ⟨l, hl, rfl, m, hm, rfl⟩)
    · obtain ⟨l, hl, hroot⟩ := exists_mem_opened store root'
      refine ⟨_, List.mem_map_of_mem hl, ?_⟩
      rw [if_pos hroot]
      exact ⟨hroot, ⟨record, 0⟩, List.mem_append_right _ List.mem_cons_self, rfl⟩
    · refine ⟨_, List.mem_map_of_mem (mem_opened_of_mem hl), ?_⟩
      split
      · exact ⟨rfl, m, List.mem_append_left _ hm, rfl⟩
      · exact ⟨rfl, m, hm, rfl⟩

lemma IndexExact.registered (h : IndexExact store)
    (hfresh : ∀ root', (root', record.id) ∉ Job.places store) :
    IndexExact (registered format root record store) := by
  intro id' root'
  change List.lookup id' ((record.id, root) :: store.sessionIndex) = some root' ↔ _
  rw [mem_places_registered, List.lookup_cons]
  by_cases hsame : id' = record.id
  · subst hsame
    have hold := hfresh root'
    simp [hold, eq_comm]
  · have hbeq : (id' == record.id) = false := by simpa using hsame
    simp [hbeq, hsame, h id' root']

/-! ## Lineages -/

/-- All records of a lineage have its root, which is one of them, and were resumed from others of
them. -/
def Linked (root : ℕ) (links : List Links) : Prop :=
  (∀ x ∈ links, x.root = root ∧ ∀ parent, x.parent = some parent → ∃ y ∈ links, y.id = parent) ∧
    ∃ x ∈ links, x.id = root

lemma linked_singleton (id : ℕ) : Linked id [⟨id, id, none⟩] := by
  simp [Linked]

lemma Linked.concat {id : ℕ} {links : List Links} {x : Links} (h : Linked root links)
    (hx : x ∈ links) : Linked root (links ++ [⟨id, root, some x.id⟩]) := by
  obtain ⟨hall, y, hy, hroot⟩ := h
  refine ⟨fun z hz => ?_, y, List.mem_append_left _ hy, hroot⟩
  rcases List.mem_append.mp hz with hold | hnew
  · obtain ⟨hz', hparent⟩ := hall z hold
    refine ⟨hz', fun p hp => ?_⟩
    obtain ⟨w, hw, hwid⟩ := hparent p hp
    exact ⟨w, List.mem_append_left _ hw, hwid⟩
  · rw [List.mem_singleton.mp hnew]
    refine ⟨rfl, fun p hp => ⟨x, List.mem_append_left _ hx, ?_⟩⟩
    exact Option.some.inj hp

lemma exists_of_findByProviderSessionId {providerSessionId : String}
    (h : store.findByProviderSessionId providerSessionId = some record) :
    ∃ l ∈ store.lineages, ∃ m ∈ l.sessions, m.record = record := by
  obtain ⟨m, hm, hrecord⟩ := List.mem_map.mp (List.mem_of_find?_eq_some h)
  obtain ⟨l, hl, hml⟩ := List.mem_flatMap.mp hm
  exact ⟨l, hl, m, hml, hrecord⟩

/-! ## Registration -/

namespace Invariants

variable {I : Invariants Content} {d₀ : Disk} {j : Job}

lemma Good.mono {used : List ℕ} (h : I.Good d₀ j) (hused : ∀ id ∈ I.used, id ∈ used) :
    Good { I with used } d₀ j :=
  ⟨h.along.mono fun _ hd => DiskInv.mono hd hused, h.agrees, h.full, h.trash, h.index⟩

lemma Good.makeLineage (h : I.Good d₀ j) (hroot : root ∈ I.used)
    (hstanding : j.disk.tombstoned root = false) :
    Along I.Sound d₀ (j.emit (.makeLineage root)) ∧
      List.Forall₂ (LineageRel I.format I.exact I.R) (opened j.store root)
        (Effect.apply j.disk (.makeLineage root)).lineages ∧
      (Effect.apply j.disk (.makeLineage root)).trash = [] := by
  have hany : (j.store.lineages.any fun l => l.root = root) = (j.disk.dir? root).isSome := by
    rw [Disk.dir?, List.isSome_find?, Bool.eq_iff_iff, List.any_eq_true, List.any_eq_true]
    constructor
    · rintro ⟨l, hl, hlroot⟩
      obtain ⟨dir, hdir, hrel⟩ := exists_right_of_mem h.agrees hl
      exact ⟨dir, hdir, by rwa [← hrel.root]⟩
    · rintro ⟨dir, hdir, hdroot⟩
      obtain ⟨l, hl, hrel⟩ := exists_left_of_mem h.agrees hdir
      exact ⟨l, hl, by rwa [hrel.root]⟩
  have happly : Effect.apply j.disk (.makeLineage root) =
      if (j.disk.dir? root).isSome then j.disk
        else { j.disk with lineages := j.disk.lineages ++ [{ root }] } := rfl
  rw [opened, hany, happly]
  by_cases hsome : (j.disk.dir? root).isSome
  · rw [if_pos hsome, if_pos hsome]
    refine ⟨h.along.emit (fun _ => h.sound) ?_, h.agrees, h.trash⟩
    rw [happly, if_pos hsome]
    exact h.sound
  · rw [if_neg hsome, if_neg hsome]
    refine ⟨h.along.emit (fun _ => h.sound) ?_, ?_, h.trash⟩
    · rw [happly, if_neg hsome]
      refine h.sound.makeLineage hroot (fun hmem => hsome ?_) hstanding
      rw [h.trash, List.append_nil] at hmem
      obtain ⟨dir, hdir, hdroot⟩ := List.mem_map.mp hmem
      rw [Disk.dir?, List.isSome_find?]
      exact List.any_eq_true.mpr ⟨dir, hdir, decide_eq_true hdroot⟩
    · exact List.rel_append h.agrees (.cons ⟨rfl, .nil, fun _ => rfl⟩ .nil)

/-- A session is registered, in a lineage that is there or in a new one. -/
theorem Good.register (h : I.Good d₀ j) {record : SessionRecord} (hroot : root ∈ I.used)
    (hstanding : j.disk.tombstoned root = false) (hid : record.id ∈ I.used)
    (hfresh : ∀ dir ∈ j.disk.lineages, record.id ∉ dir.ids)
    (hnew : root ∉ j.disk.lineages.map LineageDir.root → I.S.links root [record.links])
    (hS : ∀ dir ∈ j.disk.lineages, dir.root = root → I.S.links root (dir.links ++ [record.links]))
    (hQ : I.Q { record }) (hR : I.R ⟨record, 0⟩ { record }) :
    I.Good d₀ (j.register I.format root record) := by
  obtain ⟨halong, hagrees, htrash⟩ := h.makeLineage hroot hstanding
  let disk := Effect.apply j.disk (.makeLineage root)
  have hmade : ∀ dir ∈ disk.lineages, dir ∈ j.disk.lineages ∨
      dir.root = root ∧ dir.sessions = [] ∧ root ∉ j.disk.lineages.map LineageDir.root := by
    intro dir hdir
    by_cases hsome : (j.disk.dir? root).isSome
    · have heq : disk = j.disk := if_pos hsome
      rw [heq] at hdir
      exact .inl hdir
    · have heq : disk = { j.disk with lineages := j.disk.lineages ++ [{ root }] } := if_neg hsome
      rw [heq] at hdir
      rcases List.mem_append.mp hdir with hold | hlast
      · exact .inl hold
      · rw [List.mem_singleton.mp hlast]
        refine .inr ⟨rfl, rfl, fun hmem => hsome ?_⟩
        obtain ⟨dir', hdir', hroot'⟩ := List.mem_map.mp hmem
        rw [Disk.dir?, List.isSome_find?]
        exact List.any_eq_true.mpr ⟨dir', hdir', decide_eq_true hroot'⟩
  have hfresh' : ∀ dir ∈ disk.lineages, record.id ∉ dir.ids := by
    intro dir hdir hmem
    rcases hmade dir hdir with hold | ⟨-, hnil, -⟩
    · exact hfresh dir hold hmem
    · rw [LineageDir.ids, hnil] at hmem
      cases hmem
  have hsome : root ∈ disk.lineages.map LineageDir.root := by
    obtain ⟨l, hl, hlroot⟩ := exists_mem_opened j.store root
    obtain ⟨dir, hdir, hrel⟩ := exists_right_of_mem hagrees hl
    exact List.mem_map.mpr ⟨dir, hdir, hrel.root.symm.trans hlroot⟩
  have hput : ∀ dir ∈ disk.lineages,
      dir.put record = { dir with sessions := dir.sessions ++ [{ record }] } := fun dir hdir =>
    LineageDir.put_of_notMem (hfresh' dir hdir)
  have heq := @register_eq Content I.format j root record ?_ ?_
  · have hwritten : Agrees I.format I.exact I.R (registered I.format root record j.store)
        (Effect.apply disk (.writeRecord root record)) := by
      refine forall₂_map_of_mem hagrees fun l hl dir hdir hrel => ?_
      by_cases hlroot : l.root = root
      · rw [if_pos hlroot, if_pos (hrel.root ▸ hlroot)]
        dsimp only
        rw [hput dir hdir]
        refine ⟨hrel.root, List.rel_append hrel.sessions (.cons ⟨rfl, hR⟩ .nil), fun hexact => ?_⟩
        have hbytes := hrel.bytes hexact
        simp only [grown, Job.measure, List.map_append, List.map_cons, List.map_nil,
          List.sum_append, List.sum_cons, List.sum_nil, List.length_nil] at hbytes ⊢
        omega
      · rw [if_neg hlroot, if_neg (hrel.root ▸ hlroot)]
        exact hrel
    rw [heq]
    refine ⟨(halong.emit (fun cut => ?_) ?_).set _, hwritten, ?_, htrash, fun id' root' => ?_⟩
    · exact halong.now.of_same rfl rfl rfl
    · refine halong.now.putNew hid (fun dir hdir => ?_) hsome (fun dir hdir hdroot => ?_) hQ
      · rw [show (j.emit (.makeLineage root)).disk.trash = [] from htrash, List.append_nil] at hdir
        exact hfresh' dir hdir
      · rcases hmade dir hdir with hold | ⟨-, hnil, hnone⟩
        · exact hS dir hold hdroot
        · rw [LineageDir.links, hnil]
          exact hnew hnone
    · intro dir hdir
      rcases Disk.mem_modifyDir hdir with ⟨dir', hdir', -, rfl⟩ | ⟨hold, hne⟩
      · rw [hput dir' hdir']
        exact List.append_ne_nil_of_right_ne_nil _ (List.cons_ne_nil _ _)
      · rcases hmade dir hold with hin | ⟨hdroot, -, -⟩
        · exact h.full dir hin
        · exact absurd hdroot hne
    · refine h.index.registered (fun root' hplace => ?_) id' root'
      obtain ⟨l, hl, -, m, hm, hmid⟩ := mem_places.mp hplace
      obtain ⟨dir, hdir, hrel⟩ := exists_right_of_mem h.agrees hl
      refine hfresh dir hdir ?_
      rw [← hrel.ids, ← hmid]
      exact List.mem_map_of_mem hm
  · intro l hl m hm hmid
    obtain ⟨dir, hdir, hrel⟩ := exists_right_of_mem hagrees hl
    refine hfresh' dir hdir ?_
    rw [← hrel.ids, ← hmid]
    exact List.mem_map_of_mem hm
  · cases hfiles : disk.files? root record.id with
    | none => rfl
    | some s =>
      obtain ⟨dir, hdir, hs⟩ := Option.bind_eq_some_iff.mp hfiles
      have hsid : s.record.id = record.id := by simpa using List.find?_some hs
      refine absurd ?_ (hfresh' dir (List.mem_of_find?_eq_some hdir))
      rw [← hsid]
      exact List.mem_map_of_mem (List.mem_of_find?_eq_some hs)

/-- A session is created, if there is room for it. -/
theorem Good.create {new : Job.NewSession} (policy : RetentionPolicy) (now : ℕ) (h : I.Good d₀ j)
    (hS : I.S.links = Linked) (hfresh : new.id ∉ I.used)
    (hnew : ∀ record : SessionRecord, record.id = new.id → record.status = .starting →
      record.eventCount = 0 → record.eventsTruncated = false →
      I.Q { record } ∧ I.R ⟨record, 0⟩ { record }) :
    Good { I with used := new.id :: I.used } d₀ (j.create I.format policy now new).1 := by
  have hused : ∀ id ∈ I.used, id ∈ new.id :: I.used := fun _ => List.mem_cons_of_mem _
  unfold Job.create
  dsimp only
  generalize hparent : Option.bind _ j.store.findByProviderSessionId = parent
  generalize hown : (parent.map SessionRecord.rootSessionId).getD new.id = root
  obtain ⟨hroom, hevicted⟩ := h.makeRoomForOneMore
  generalize j.makeRoomForOneMore policy now root = made at hroom hevicted ⊢
  obtain ⟨j', room⟩ := made
  cases room with
  | false => exact hroom.mono hused
  | true =>
    have hfreshDir : ∀ dir ∈ j'.disk.lineages, new.id ∉ dir.ids := fun dir hdir hmem =>
      hfresh (hroom.sound.used_id dir (List.mem_append_left _ hdir) _ hmem)
    let record : SessionRecord :=
      { id := new.id, status := .starting, startedAt := new.startedAt, acceptedWork := .unknown
        rootSessionId := root, parentSessionId := parent.map SessionRecord.id, scope := new.scope }
    obtain ⟨hQ, hR⟩ := hnew record rfl rfl rfl rfl
    have hplace : root ∈ new.id :: I.used ∧ j'.disk.tombstoned root = false ∧
        (root ∉ j'.disk.lineages.map LineageDir.root → Linked root [record.links]) ∧
        ∀ dir ∈ j'.disk.lineages, dir.root = root → Linked root (dir.links ++ [record.links]) := by
      cases parent with
      | none =>
        subst hown
        refine ⟨List.mem_cons_self, Bool.eq_false_iff.mpr fun hgone => ?_, ?_, ?_⟩
        · exact hfresh (hroom.sound.used_tombstone _ hgone)
        · exact fun _ => linked_singleton new.id
        · intro dir hdir hroot
          have hmem := hroom.sound.used_root dir (List.mem_append_left _ hdir)
          rw [hroot] at hmem
          exact absurd hmem hfresh
      | some p =>
        -- the lineage of the record that is resumed was not evicted
        obtain ⟨providerSessionId, -, hfound⟩ := Option.bind_eq_some_iff.mp hparent
        obtain ⟨l, hl, m, hm, rfl⟩ := exists_of_findByProviderSessionId hfound
        have hlinks : ∀ j : Job, I.Good d₀ j → l ∈ j.store.lineages →
            ∃ dir ∈ j.disk.lineages, dir.root = l.root ∧ m.record.links ∈ dir.links ∧
              Linked dir.root dir.links := by
          intro j hj hl
          obtain ⟨dir, hdir, hrel⟩ := exists_right_of_mem hj.agrees hl
          obtain ⟨s, hs, hms, -⟩ := exists_right_of_mem hrel.sessions hm
          refine ⟨dir, hdir, hrel.root.symm, List.mem_map.mpr ⟨s, hs, hms.symm⟩, ?_⟩
          exact hS ▸ hj.sound.links dir hdir (hj.full dir hdir)
        have hroot : root = l.root := by
          obtain ⟨dir, -, hdroot, hmem, hlinked⟩ := hlinks j h hl
          rw [← hown]
          exact (hlinked.1 _ hmem).1.trans hdroot
        obtain ⟨dir, hdir, hdroot, hmem, hlinked⟩ :=
          hlinks j' hroom (hevicted.kept l hl (.inl (congrArg some hroot.symm)))
        have hdroot' : dir.root = root := hdroot.trans hroot.symm
        refine ⟨List.mem_cons_of_mem _ ?_, ?_, fun hnot => ?_, fun dir' hdir' heq => ?_⟩
        · exact hdroot' ▸ hroom.sound.used_root dir (List.mem_append_left _ hdir)
        · exact hdroot' ▸ hroom.sound.standing dir hdir
        · exact absurd (List.mem_map.mpr ⟨dir, hdir, hdroot'⟩) hnot
        · rw [hroom.dir_eq hdir' hdir (heq.trans hdroot'.symm)]
          exact (hdroot' ▸ hlinked).concat hmem
    obtain ⟨hroot, hstanding, hfirst, hmore⟩ := hplace
    refine (hroom.mono hused).register hroot hstanding List.mem_cons_self hfreshDir ?_ ?_ hQ hR
    · exact fun hnot => hS ▸ hfirst hnot
    · exact fun dir hdir heq => hS ▸ hmore dir hdir heq

end Invariants

end VacancyRadar.Sessions
