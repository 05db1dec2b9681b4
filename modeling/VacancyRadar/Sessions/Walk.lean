import Mathlib.Data.List.Flatten
import VacancyRadar.Sessions.Daemon

/-!
# Invariants of the files

The disk is described by what holds of every directory that counts: all of them, but for those in the
trash whose eviction was committed.  How a record is linked to others never changes, so that the
links of a directory can be spoken about apart from the contents of its files.  The description is a
parameter here; what is proved is that the effects keep it, wherever the process is killed.
-/

namespace VacancyRadar.Sessions

open Data

variable {dir dir' : LineageDir} {dirs dirs' : List LineageDir} {Q' : SessionFiles → Prop} {t : Tombstone}

/-! ## Links -/

structure Links where
  id : ℕ
  root : ℕ
  parent : Option ℕ

def SessionRecord.links (record : SessionRecord) : Links :=
  ⟨record.id, record.rootSessionId, record.parentSessionId⟩

namespace LineageDir

def links (dir : LineageDir) : List Links := dir.sessions.map fun s => s.record.links

def ids (dir : LineageDir) : List ℕ := dir.sessions.map fun s => s.record.id

lemma ids_eq (dir : LineageDir) : dir.ids = dir.links.map Links.id := by
  rw [links, List.map_map]
  rfl

structure Similar (dir dir' : LineageDir) : Prop where
  root : dir'.root = dir.root
  links : dir'.links = dir.links

lemma Similar.refl (dir : LineageDir) : dir.Similar dir := ⟨rfl, rfl⟩

lemma Similar.ids (h : dir.Similar dir') : dir'.ids = dir.ids:= by
  rw [ids_eq, ids_eq, h.links]

lemma Similar.sessions_eq_nil (h : dir.Similar dir') : dir'.sessions = [] ↔ dir.sessions = []:= by
  have hlen := congrArg List.length h.links
  rw [LineageDir.links, LineageDir.links, List.length_map, List.length_map] at hlen
  rw [← List.length_eq_zero_iff, ← List.length_eq_zero_iff, hlen]

variable {f : SessionFiles → SessionFiles} {id : ℕ} {record : SessionRecord}

lemma similar_modify
    (h : ∀ s ∈ dir.sessions, s.record.id = id → (f s).record.links = s.record.links) :
    dir.Similar (dir.modify id f) where
  root := rfl
  links := by
    rw [links, links, modify, List.map_map]
    refine List.map_congr_left fun s hs => ?_
    change (if s.record.id = id then f s else s).record.links = _
    split
    · rename_i hid
      exact h s hs hid
    · rfl

lemma mem_modify {s : SessionFiles} (h : s ∈ (dir.modify id f).sessions) :
    (∃ s' ∈ dir.sessions, s'.record.id = id ∧ s = f s') ∨ (s ∈ dir.sessions ∧ s.record.id ≠ id) := by
  obtain ⟨s', hs', rfl⟩ := List.mem_map.mp h
  split
  · rename_i hid
    exact .inl ⟨s', hs', hid, rfl⟩
  · rename_i hid
    exact .inr ⟨hs', hid⟩

lemma put_of_mem (h : record.id ∈ dir.ids) :
    dir.put record = dir.modify record.id fun s => { s with record } := by
  refine if_pos (List.any_eq_true.mpr ?_)
  obtain ⟨s, hs, hid⟩ := List.mem_map.mp h
  exact ⟨s, hs, decide_eq_true hid⟩

lemma put_of_notMem (h : record.id ∉ dir.ids) :
    dir.put record = { dir with sessions := dir.sessions ++ [{ record }] } := by
  refine if_neg fun hany => h ?_
  obtain ⟨s, hs, hid⟩ := List.any_eq_true.mp hany
  exact List.mem_map.mpr ⟨s, hs, of_decide_eq_true hid⟩

end LineageDir

lemma map_root_of_similar (h : List.Forall₂ LineageDir.Similar dirs dirs') :
    dirs'.map LineageDir.root = dirs.map LineageDir.root := by
  induction h with
  | nil => rfl
  | cons hdir _ ih => rw [List.map_cons, List.map_cons, hdir.root, ih]

lemma flatMap_ids_of_similar (h : List.Forall₂ LineageDir.Similar dirs dirs') :
    dirs'.flatMap LineageDir.ids = dirs.flatMap LineageDir.ids := by
  induction h with
  | nil => rfl
  | cons hdir _ ih => rw [List.flatMap_cons, List.flatMap_cons, hdir.ids, ih]

lemma exists_similar_of_mem (h : List.Forall₂ LineageDir.Similar dirs dirs') (hmem : dir' ∈ dirs') :
    ∃ dir ∈ dirs, dir.Similar dir' := by
  induction h with
  | nil => cases hmem
  | cons hdir _ ih =>
    rcases List.mem_cons.mp hmem with rfl | hrest
    · exact ⟨_, List.mem_cons_self, hdir⟩
    · obtain ⟨dir, hin, hsimilar⟩ := ih hrest
      exact ⟨dir, List.mem_cons_of_mem _ hin, hsimilar⟩

namespace Disk

variable {d : Disk} {root : ℕ} {f : LineageDir → LineageDir}

lemma mem_modifyDir (h : dir' ∈ (d.modifyDir root f).lineages) :
    (∃ dir ∈ d.lineages, dir.root = root ∧ dir' = f dir) ∨
      (dir' ∈ d.lineages ∧ dir'.root ≠ root) := by
  obtain ⟨dir, hdir, rfl⟩ := List.mem_map.mp h
  split
  · rename_i hroot
    exact .inl ⟨dir, hdir, hroot, rfl⟩
  · rename_i hroot
    exact .inr ⟨hdir, hroot⟩

lemma similar_modifyDir (h : ∀ dir ∈ d.lineages, dir.root = root → dir.Similar (f dir)) :
    List.Forall₂ LineageDir.Similar d.lineages (d.modifyDir root f).lineages := by
  refine List.forall₂_map_right_iff.mpr (List.forall₂_same.mpr fun dir hdir => ?_)
  split
  · rename_i hroot
    exact h dir hdir hroot
  · exact LineageDir.Similar.refl dir

end Disk

/-! ## The invariant of the disk -/

structure Shape where
  links : ℕ → List Links → Prop
  kept : ℕ → Prop := fun _ => False

/-- Roots and ids are unique and were given out, an eviction that was committed is final, and every
directory that counts has the properties `S` of its links and `Q` of its files.  A lineage that is
kept is there, unless its eviction was committed. -/
structure DiskInv (used : List ℕ) (S : Shape) (Q : SessionFiles → Prop) (d : Disk) :
    Prop where
  roots : ((d.lineages ++ d.trash).map LineageDir.root).Nodup
  ids : ((d.lineages ++ d.trash).flatMap LineageDir.ids).Nodup
  used_root : ∀ dir ∈ d.lineages ++ d.trash, dir.root ∈ used
  used_id : ∀ dir ∈ d.lineages ++ d.trash, ∀ id ∈ dir.ids, id ∈ used
  used_tombstone : ∀ root, d.tombstoned root = true → root ∈ used
  standing : ∀ dir ∈ d.lineages, d.tombstoned dir.root = false
  links : ∀ dir ∈ d.lineages, dir.sessions ≠ [] → S.links dir.root dir.links
  files : ∀ dir ∈ d.lineages, ∀ s ∈ dir.sessions, Q s
  trash : ∀ dir ∈ d.trash, d.tombstoned dir.root = true ∨
    dir.sessions ≠ [] ∧ S.links dir.root dir.links ∧ ∀ s ∈ dir.sessions, Q s
  kept : ∀ root, S.kept root → d.tombstoned root = true ∨
    root ∈ (d.lineages ++ d.trash).map LineageDir.root
  full : ∀ dir ∈ d.lineages, S.kept dir.root → dir.sessions ≠ []

namespace DiskInv

variable {used : List ℕ} {S : Shape} {Q : SessionFiles → Prop} {d d' : Disk}

lemma of_similar (h : DiskInv used S Q d)
    (hlineages : List.Forall₂ LineageDir.Similar d.lineages d'.lineages)
    (htrash : List.Forall₂ LineageDir.Similar d.trash d'.trash)
    (htombstones : d'.tombstones = d.tombstones)
    (hfiles : ∀ dir ∈ d'.lineages, ∀ s ∈ dir.sessions, Q s)
    (hrest : ∀ dir ∈ d'.trash, d.tombstoned dir.root = true ∨ ∀ s ∈ dir.sessions, Q s) :
    DiskInv used S Q d' := by
  have hall : List.Forall₂ LineageDir.Similar (d.lineages ++ d.trash) (d'.lineages ++ d'.trash) :=
    List.rel_append hlineages htrash
  have htombstoned : ∀ root, d'.tombstoned root = d.tombstoned root := by
    intro root
    rw [Disk.tombstoned, Disk.tombstoned, htombstones]
  constructor
  · rw [map_root_of_similar hall]
    exact h.roots
  · rw [flatMap_ids_of_similar hall]
    exact h.ids
  · intro dir' hdir'
    obtain ⟨dir, hdir, hsimilar⟩ := exists_similar_of_mem hall hdir'
    rw [hsimilar.root]
    exact h.used_root dir hdir
  · intro dir' hdir'
    obtain ⟨dir, hdir, hsimilar⟩ := exists_similar_of_mem hall hdir'
    rw [hsimilar.ids]
    exact h.used_id dir hdir
  · intro root hroot
    rw [htombstoned] at hroot
    exact h.used_tombstone root hroot
  · intro dir' hdir'
    obtain ⟨dir, hdir, hsimilar⟩ := exists_similar_of_mem hlineages hdir'
    rw [htombstoned, hsimilar.root]
    exact h.standing dir hdir
  · intro dir' hdir' hne
    obtain ⟨dir, hdir, hsimilar⟩ := exists_similar_of_mem hlineages hdir'
    rw [hsimilar.root, hsimilar.links]
    exact h.links dir hdir (mt hsimilar.sessions_eq_nil.mpr hne)
  · exact hfiles
  · intro dir' hdir'
    obtain ⟨dir, hdir, hsimilar⟩ := exists_similar_of_mem htrash hdir'
    rw [htombstoned]
    rcases hrest dir' hdir' with hgone | hQ
    · exact .inl hgone
    · rcases h.trash dir hdir with hgone | ⟨hne, hS, -⟩
      · rw [hsimilar.root]
        exact .inl hgone
      · rw [hsimilar.root, hsimilar.links]
        exact .inr ⟨mt hsimilar.sessions_eq_nil.mp hne, hS, hQ⟩
  · intro root hroot
    rw [htombstoned, map_root_of_similar hall]
    exact h.kept root hroot
  · intro dir' hdir' hkept
    obtain ⟨dir, hdir, hsimilar⟩ := exists_similar_of_mem hlineages hdir'
    rw [hsimilar.root] at hkept
    exact mt hsimilar.sessions_eq_nil.mp (h.full dir hdir hkept)

lemma of_same (h : DiskInv used S Q d) (hlineages : d'.lineages = d.lineages)
    (htrash : d'.trash = d.trash) (htombstones : d'.tombstones = d.tombstones) :
    DiskInv used S Q d' := by
  have hsame : ∀ dirs : List LineageDir, List.Forall₂ LineageDir.Similar dirs dirs := fun dirs =>
    List.forall₂_same.mpr fun dir _ => LineageDir.Similar.refl dir
  refine h.of_similar (hlineages ▸ hsame _) (htrash ▸ hsame _) htombstones ?_ ?_
  · rw [hlineages]
    exact h.files
  · intro dir hdir
    rw [htrash] at hdir
    exact (h.trash dir hdir).imp_right fun hkept => hkept.2.2

variable {root : ℕ} {record : SessionRecord}

lemma modify (h : DiskInv used S Q d) {id : ℕ} {f : SessionFiles → SessionFiles}
    (hf : ∀ dir ∈ d.lineages, dir.root = root → ∀ s ∈ dir.sessions, s.record.id = id →
      (f s).record.links = s.record.links ∧ Q (f s)) :
    DiskInv used S Q (d.modifyDir root fun dir => dir.modify id f) := by
  refine h.of_similar (d := d) ?_ ?_ rfl ?_ ?_
  · refine Disk.similar_modifyDir fun dir hdir hroot => ?_
    exact LineageDir.similar_modify fun s hs hid => (hf dir hdir hroot s hs hid).1
  · exact List.forall₂_same.mpr fun dir _ => LineageDir.Similar.refl dir
  · intro dir' hdir' s hs
    rcases Disk.mem_modifyDir hdir' with ⟨dir, hdir, hroot, rfl⟩ | ⟨hdir, -⟩
    · rcases LineageDir.mem_modify hs with ⟨s', hs', hid, rfl⟩ | ⟨hs', -⟩
      · exact (hf dir hdir hroot s' hs' hid).2
      · exact h.files dir hdir s hs'
    · exact h.files dir' hdir s hs
  · intro dir hdir
    exact (h.trash dir hdir).imp_right fun hkept => hkept.2.2

lemma mono {used' : List ℕ} (h : DiskInv used S Q d) (hused : ∀ id ∈ used, id ∈ used') :
    DiskInv used' S Q d :=
  { h with
    used_root := fun dir hdir => hused _ (h.used_root dir hdir)
    used_id := fun dir hdir id hid => hused _ (h.used_id dir hdir id hid)
    used_tombstone := fun root hroot => hused _ (h.used_tombstone root hroot) }

lemma imp_files (h : DiskInv used S Q d)
    (hQ : ∀ dir ∈ d.lineages ++ d.trash, ∀ s ∈ dir.sessions, Q s → Q' s) : DiskInv used S Q' d:=
  { h with
    files := fun dir hdir s hs => hQ dir (List.mem_append_left _ hdir) s hs (h.files dir hdir s hs)
    trash := fun dir hdir => (h.trash dir hdir).imp_right fun hkept =>
      ⟨hkept.1, hkept.2.1, fun s hs => hQ dir (List.mem_append_right _ hdir) s hs (hkept.2.2 s hs)⟩ }

lemma and_files (h : DiskInv used S Q d) (h' : DiskInv used S Q' d) :
    DiskInv used S (fun s => Q s ∧ Q' s) d := by
  refine { h with files := fun dir hdir s hs => ⟨h.files dir hdir s hs, h'.files dir hdir s hs⟩, trash := ?_ }
  intro dir hdir
  rcases h'.trash dir hdir with hgone | ⟨-, -, hall⟩
  · exact .inl hgone
  · refine (h.trash dir hdir).imp_right fun hkept => ⟨hkept.1, hkept.2.1, fun s hs => ?_⟩
    exact ⟨hkept.2.2 s hs, hall s hs⟩

lemma makeLineage (h : DiskInv used S Q d) (hroot : root ∈ used)
    (hnew : root ∉ (d.lineages ++ d.trash).map LineageDir.root)
    (hstanding : d.tombstoned root = false) :
    DiskInv used S Q { d with lineages := d.lineages ++ [{ root }] } := by
  have hfree : ¬ S.kept root := by
    intro hkept
    rcases h.kept root hkept with hgone | hthere
    · rw [hstanding] at hgone
      cases hgone
    · exact hnew hthere
  let new : LineageDir := { root := root }
  have hperm : (d.lineages ++ [new] ++ d.trash).Perm (new :: (d.lineages ++ d.trash)) := by
    rw [List.append_assoc]
    exact List.perm_middle
  have hmem : ∀ {dir : LineageDir}, dir ∈ d.lineages ++ [new] ++ d.trash →
      dir = new ∨ dir ∈ d.lineages ++ d.trash := fun hdir =>
    List.mem_cons.mp (hperm.subset hdir)
  constructor
  · refine (hperm.map _).nodup_iff.mpr ?_
    exact List.nodup_cons.mpr ⟨hnew, h.roots⟩
  · exact (hperm.flatMap_right _).nodup_iff.mpr h.ids
  · intro dir hdir
    rcases hmem hdir with rfl | hold
    · exact hroot
    · exact h.used_root dir hold
  · intro dir hdir id hid
    rcases hmem hdir with rfl | hold
    · cases hid
    · exact h.used_id dir hold id hid
  · exact h.used_tombstone
  · intro dir hdir
    rcases List.mem_append.mp hdir with hold | hnew
    · exact h.standing dir hold
    · rw [List.mem_singleton.mp hnew]
      exact hstanding
  · intro dir hdir hne
    rcases List.mem_append.mp hdir with hold | hnew
    · exact h.links dir hold hne
    · rw [List.mem_singleton.mp hnew] at hne
      exact absurd rfl hne
  · intro dir hdir s hs
    rcases List.mem_append.mp hdir with hold | hnew
    · exact h.files dir hold s hs
    · rw [List.mem_singleton.mp hnew] at hs
      cases hs
  · exact h.trash
  · intro root' hkept
    refine (h.kept root' hkept).imp_right fun hthere => ?_
    exact (hperm.map _).mem_iff.mpr (List.mem_cons_of_mem _ hthere)
  · intro dir hdir hkept
    rcases List.mem_append.mp hdir with hold | hnew
    · exact h.full dir hold hkept
    · rw [List.mem_singleton.mp hnew] at hkept
      exact absurd hkept hfree

lemma perm_flatMap_ids_put (hroots : (dirs.map LineageDir.root).Nodup)
    (hroot : root ∈ dirs.map LineageDir.root) (hnew : ∀ dir ∈ dirs, record.id ∉ dir.ids) :
    ((dirs.map fun dir => if dir.root = root then dir.put record else dir).flatMap
      LineageDir.ids).Perm (record.id :: dirs.flatMap LineageDir.ids) := by
  induction dirs with
  | nil => cases hroot
  | cons dir rest ih =>
    obtain ⟨hnot, hnodup⟩ := List.nodup_cons.mp hroots
    rw [List.map_cons, List.flatMap_cons, List.flatMap_cons]
    by_cases hdir : dir.root = root
    · have hkeep : (rest.map fun dir => if dir.root = root then dir.put record else dir) = rest := by
        refine (List.map_congr_left fun dir' hdir' => ?_).trans (List.map_id rest)
        refine if_neg fun heq => hnot ?_
        exact List.mem_map.mpr ⟨dir', hdir', heq.trans hdir.symm⟩
      have hids : (dir.put record).ids = dir.ids ++ [record.id] := by
        rw [LineageDir.put_of_notMem (hnew dir List.mem_cons_self)]
        simp [LineageDir.ids]
      rw [if_pos hdir, hkeep, hids, List.append_assoc]
      exact List.perm_middle
    · have hrest : root ∈ rest.map LineageDir.root :=
        (List.mem_cons.mp hroot).resolve_left fun heq => hdir heq.symm
      rw [if_neg hdir]
      have hperm := ih hnodup hrest fun dir' hdir' => hnew dir' (List.mem_cons_of_mem _ hdir')
      exact (hperm.append_left dir.ids).trans List.perm_middle

lemma putNew (h : DiskInv used S Q d) (hid : record.id ∈ used)
    (hfresh : ∀ dir ∈ d.lineages ++ d.trash, record.id ∉ dir.ids)
    (hroot : root ∈ d.lineages.map LineageDir.root)
    (hS : ∀ dir ∈ d.lineages, dir.root = root → S.links root (dir.links ++ [record.links]))
    (hQ : Q { record }) : DiskInv used S Q (Effect.apply d (.writeRecord root record)) := by
  have hnew : ∀ dir ∈ d.lineages, record.id ∉ dir.ids := fun dir hdir =>
    hfresh dir (List.mem_append_left _ hdir)
  have hput : ∀ dir ∈ d.lineages,
      dir.put record = { dir with sessions := dir.sessions ++ [{ record }] } := fun dir hdir =>
    LineageDir.put_of_notMem (hnew dir hdir)
  have hcases : ∀ dir' ∈ (Effect.apply d (.writeRecord root record)).lineages,
      (∃ dir ∈ d.lineages, dir.root = root ∧
        dir' = { dir with sessions := dir.sessions ++ [{ record }] }) ∨ dir' ∈ d.lineages := by
    intro dir' hdir'
    rcases Disk.mem_modifyDir hdir' with ⟨dir, hdir, heq, rfl⟩ | ⟨hdir, -⟩
    · exact .inl ⟨dir, hdir, heq, hput dir hdir⟩
    · exact .inr hdir
  have hroots : (Effect.apply d (.writeRecord root record)).lineages.map LineageDir.root =
      d.lineages.map LineageDir.root := by
    change (d.lineages.map _).map LineageDir.root = _
    rw [List.map_map]
    refine List.map_congr_left fun dir hdir => ?_
    change (if dir.root = root then dir.put record else dir).root = dir.root
    split
    · rw [hput dir hdir]
    · rfl
  have hnodup := h.roots
  rw [List.map_append] at hnodup
  constructor
  · rw [List.map_append, hroots, ← List.map_append]
    exact h.roots
  · have hperm := perm_flatMap_ids_put ((List.sublist_append_left ..).nodup hnodup) hroot hnew
    rw [List.flatMap_append]
    refine (hperm.append_right _).nodup_iff.mpr ?_
    rw [List.cons_append, ← List.flatMap_append]
    refine List.nodup_cons.mpr ⟨fun hmem => ?_, h.ids⟩
    obtain ⟨dir, hdir, hin⟩ := List.mem_flatMap.mp hmem
    exact hfresh dir hdir hin
  · intro dir' hdir'
    rcases List.mem_append.mp hdir' with hl | ht
    · rcases hcases dir' hl with ⟨dir, hdir, -, rfl⟩ | hdir
      · exact h.used_root dir (List.mem_append_left _ hdir)
      · exact h.used_root dir' (List.mem_append_left _ hdir)
    · exact h.used_root dir' (List.mem_append_right _ ht)
  · intro dir' hdir' id hin
    rcases List.mem_append.mp hdir' with hl | ht
    · rcases hcases dir' hl with ⟨dir, hdir, -, rfl⟩ | hdir
      · rw [LineageDir.ids, List.map_append] at hin
        rcases List.mem_append.mp hin with hold | hlast
        · exact h.used_id dir (List.mem_append_left _ hdir) id hold
        · rw [List.mem_singleton.mp hlast]
          exact hid
      · exact h.used_id dir' (List.mem_append_left _ hdir) id hin
    · exact h.used_id dir' (List.mem_append_right _ ht) id hin
  · exact h.used_tombstone
  · intro dir' hdir'
    rcases hcases dir' hdir' with ⟨dir, hdir, -, rfl⟩ | hdir
    · exact h.standing dir hdir
    · exact h.standing dir' hdir
  · intro dir' hdir' hne
    rcases hcases dir' hdir' with ⟨dir, hdir, heq, rfl⟩ | hdir
    · rw [LineageDir.links, List.map_append]
      subst heq
      exact hS dir hdir rfl
    · exact h.links dir' hdir hne
  · intro dir' hdir' s hs
    rcases hcases dir' hdir' with ⟨dir, hdir, -, rfl⟩ | hdir
    · rcases List.mem_append.mp hs with hold | hlast
      · exact h.files dir hdir s hold
      · rw [List.mem_singleton.mp hlast]
        exact hQ
    · exact h.files dir' hdir s hs
  · exact h.trash
  · intro root' hkept
    rw [List.map_append, hroots, ← List.map_append]
    exact h.kept root' hkept
  · intro dir' hdir' hkept
    rcases hcases dir' hdir' with ⟨dir, hdir, -, rfl⟩ | hdir
    · exact List.append_ne_nil_of_right_ne_nil _ (List.cons_ne_nil _ _)
    · exact h.full dir' hdir hkept

lemma moveToTrash (h : DiskInv used S Q d) (root : ℕ)
    (hne : ∀ dir ∈ d.lineages, dir.root = root → dir.sessions ≠ []) :
    DiskInv used S Q (Effect.apply d (.moveToTrash root)) := by
  have hperm : ((d.lineages.filter fun dir => dir.root ≠ root) ++
      (d.trash ++ d.lineages.filter fun dir => dir.root = root)).Perm (d.lineages ++ d.trash) := by
    have hsplit := List.filter_append_perm (fun dir : LineageDir => dir.root = root) d.lineages
    have hnot : (d.lineages.filter fun dir => !decide (dir.root = root)) =
        d.lineages.filter fun dir => dir.root ≠ root := by
      simp
    rw [hnot] at hsplit
    refine List.Perm.trans ?_ (hsplit.append_right d.trash)
    rw [← List.append_assoc]
    refine List.Perm.trans List.perm_append_comm ?_
    rw [← List.append_assoc]
  constructor
  · exact (hperm.map _).nodup_iff.mpr h.roots
  · exact (hperm.flatMap_right _).nodup_iff.mpr h.ids
  · exact fun dir hdir => h.used_root dir (hperm.subset hdir)
  · exact fun dir hdir => h.used_id dir (hperm.subset hdir)
  · exact h.used_tombstone
  · exact fun dir hdir => h.standing dir (List.mem_filter.mp hdir).1
  · exact fun dir hdir => h.links dir (List.mem_filter.mp hdir).1
  · exact fun dir hdir => h.files dir (List.mem_filter.mp hdir).1
  · intro dir hdir
    rcases List.mem_append.mp hdir with hold | hnew
    · exact h.trash dir hold
    · obtain ⟨hin, hroot⟩ := List.mem_filter.mp hnew
      have hsome := hne dir hin (of_decide_eq_true hroot)
      exact .inr ⟨hsome, h.links dir hin hsome, h.files dir hin⟩
  · intro root' hkept
    exact (h.kept root' hkept).imp_right fun hthere => (hperm.map _).mem_iff.mpr hthere
  · exact fun dir hdir => h.full dir (List.mem_filter.mp hdir).1

lemma tombstoned_writeTombstone : (Effect.apply d (.writeTombstone t)).tombstoned root = true ↔
      root = t.rootSessionId ∨ d.tombstoned root = true := by
  simp only [Effect.apply, Disk.tombstoned, List.any_append, List.any_cons, List.any_nil,
    Bool.or_false, Bool.or_eq_true, decide_eq_true_eq, List.any_eq_true, List.mem_filter]
  constructor
  · rintro (⟨t', ⟨ht', -⟩, hroot⟩ | hroot)
    · exact .inr ⟨t', ht', hroot⟩
    · exact .inl hroot.symm
  · rintro (rfl | ⟨t', ht', hroot⟩)
    · exact .inr rfl
    · by_cases heq : t'.rootSessionId = t.rootSessionId
      · exact .inr (heq.symm.trans hroot)
      · exact .inl ⟨t', ⟨ht', heq⟩, hroot⟩

lemma writeTombstone (h : DiskInv used S Q d) (hroot : t.rootSessionId ∈ used)
    (hmoved : ∀ dir ∈ d.lineages, dir.root ≠ t.rootSessionId) :
    DiskInv used S Q (Effect.apply d (.writeTombstone t)) := by
  refine ⟨h.roots, h.ids, h.used_root, h.used_id, ?_, ?_, h.links, h.files, ?_, ?_, h.full⟩
  · intro root hwritten
    rcases tombstoned_writeTombstone.mp hwritten with rfl | hold
    · exact hroot
    · exact h.used_tombstone root hold
  · intro dir hdir
    refine Bool.eq_false_iff.mpr fun hwritten => ?_
    rcases tombstoned_writeTombstone.mp hwritten with heq | hold
    · exact hmoved dir hdir heq
    · rw [h.standing dir hdir] at hold
      cases hold
  · intro dir hdir
    rcases h.trash dir hdir with hgone | hkept
    · exact .inl (tombstoned_writeTombstone.mpr (.inr hgone))
    · exact .inr hkept
  · intro root hkept
    exact (h.kept root hkept).imp_left fun hgone => tombstoned_writeTombstone.mpr (.inr hgone)

lemma of_trash {trash : List LineageDir} (h : DiskInv used S Q d)
    (hroots : (trash.map LineageDir.root).Sublist (d.trash.map LineageDir.root))
    (hids : (trash.flatMap LineageDir.ids).Sublist (d.trash.flatMap LineageDir.ids))
    (hmem : ∀ dir ∈ trash, dir ∈ d.trash ∨ d.tombstoned dir.root = true)
    (hkept : ∀ root ∈ d.trash.map LineageDir.root, d.tombstoned root = true ∨
      root ∈ trash.map LineageDir.root) :
    DiskInv used S Q { d with trash } := by
  constructor
  · rw [List.map_append]
    have hroots' := h.roots
    rw [List.map_append] at hroots'
    exact (hroots.append_left _).nodup hroots'
  · rw [List.flatMap_append]
    have hids' := h.ids
    rw [List.flatMap_append] at hids'
    exact (hids.append_left _).nodup hids'
  · intro dir hdir
    rcases List.mem_append.mp hdir with hold | hleft
    · exact h.used_root dir (List.mem_append_left _ hold)
    · obtain ⟨dir', hdir', heq⟩ := List.mem_map.mp (hroots.subset (List.mem_map_of_mem hleft))
      rw [← heq]
      exact h.used_root dir' (List.mem_append_right _ hdir')
  · intro dir hdir id hid
    rcases List.mem_append.mp hdir with hold | hleft
    · exact h.used_id dir (List.mem_append_left _ hold) id hid
    · obtain ⟨dir', hdir', hid'⟩ :=
        List.mem_flatMap.mp (hids.subset (List.mem_flatMap.mpr ⟨dir, hleft, hid⟩))
      exact h.used_id dir' (List.mem_append_right _ hdir') id hid'
  · exact h.used_tombstone
  · exact h.standing
  · exact h.links
  · exact h.files
  · intro dir hdir
    rcases hmem dir hdir with hold | hgone
    · exact h.trash dir hold
    · exact .inl hgone
  · intro root hroot
    rcases h.kept root hroot with hgone | hthere
    · exact .inl hgone
    · rw [List.map_append] at hthere ⊢
      rcases List.mem_append.mp hthere with hold | hleft
      · exact .inr (List.mem_append_left _ hold)
      · exact (hkept root hleft).imp_right fun hin => List.mem_append_right _ hin
  · exact h.full

lemma removeTrash (h : DiskInv used S Q d) (hgone : d.tombstoned root = true) :
    DiskInv used S Q (Effect.apply d (.removeTrash root)) := by
  refine h.of_trash (List.filter_sublist.map _) (List.filter_sublist.flatMap _) ?_ ?_
  · exact fun dir hdir => .inl (List.mem_filter.mp hdir).1
  · intro root' hroot'
    by_cases heq : root' = root
    · exact .inl (heq ▸ hgone)
    · obtain ⟨dir, hdir, rfl⟩ := List.mem_map.mp hroot'
      exact .inr (List.mem_map_of_mem (List.mem_filter.mpr ⟨hdir, decide_eq_true heq⟩))

lemma removeTrash_torn (h : DiskInv used S Q d) {cut : ℕ} (hgone : d.tombstoned root = true) :
    DiskInv used S Q (Effect.torn cut d (.removeTrash root)) := by
  have hroots : ((d.trash.map fun dir => if dir.root = root then
      { dir with sessions := dir.sessions.drop cut } else dir).map LineageDir.root) =
      d.trash.map LineageDir.root := by
    rw [List.map_map]
    refine List.map_congr_left fun dir _ => ?_
    change (if dir.root = root then { dir with sessions := dir.sessions.drop cut } else dir).root = _
    split
    · rfl
    · rfl
  refine h.of_trash (hroots ▸ List.Sublist.refl _) ?_ ?_ fun root' hroot' => .inr (hroots ▸ hroot')
  · induction d.trash with
    | nil => exact List.Sublist.refl _
    | cons dir rest ih =>
      rw [List.map_cons, List.flatMap_cons, List.flatMap_cons]
      refine List.Sublist.append ?_ ih
      split
      · exact (List.drop_sublist ..).map _
      · exact List.Sublist.refl _
  · intro dir hdir
    obtain ⟨dir', hdir', rfl⟩ := List.mem_map.mp hdir
    split
    · rename_i hroot
      exact .inr (hroot ▸ hgone)
    · exact .inl hdir'

lemma restore (h : DiskInv used S Q d) (hnot : d.tombstoned root = false) :
    DiskInv used S Q (Effect.apply d (.restore root)) := by
  have hperm : (d.lineages ++ (d.trash.filter fun dir => dir.root = root) ++
      d.trash.filter fun dir => dir.root ≠ root).Perm (d.lineages ++ d.trash) := by
    have hsplit := List.filter_append_perm (fun dir : LineageDir => dir.root = root) d.trash
    have hnot : (d.trash.filter fun dir => !decide (dir.root = root)) =
        d.trash.filter fun dir => dir.root ≠ root := by
      simp
    rw [hnot] at hsplit
    rw [List.append_assoc]
    exact hsplit.append_left d.lineages
  have hback : ∀ dir ∈ d.lineages ++ d.trash.filter (fun dir => dir.root = root),
      dir ∈ d.lineages ∨ dir ∈ d.trash ∧ dir.root = root := by
    intro dir hdir
    rcases List.mem_append.mp hdir with hold | hnew
    · exact .inl hold
    · obtain ⟨hin, hroot⟩ := List.mem_filter.mp hnew
      exact .inr ⟨hin, of_decide_eq_true hroot⟩
  have hkept : ∀ dir ∈ d.trash, dir.root = root →
      dir.sessions ≠ [] ∧ S.links dir.root dir.links ∧ ∀ s ∈ dir.sessions, Q s := by
    intro dir hdir hroot
    refine (h.trash dir hdir).resolve_left fun hgone => ?_
    rw [hroot, hnot] at hgone
    cases hgone
  constructor
  · exact (hperm.map _).nodup_iff.mpr h.roots
  · exact (hperm.flatMap_right _).nodup_iff.mpr h.ids
  · exact fun dir hdir => h.used_root dir (hperm.subset hdir)
  · exact fun dir hdir => h.used_id dir (hperm.subset hdir)
  · exact h.used_tombstone
  · intro dir hdir
    rcases hback dir hdir with hold | ⟨-, hroot⟩
    · exact h.standing dir hold
    · rw [hroot]
      exact hnot
  · intro dir hdir hne
    rcases hback dir hdir with hold | ⟨hin, hroot⟩
    · exact h.links dir hold hne
    · exact (hkept dir hin hroot).2.1
  · intro dir hdir
    rcases hback dir hdir with hold | ⟨hin, hroot⟩
    · exact h.files dir hold
    · exact (hkept dir hin hroot).2.2
  · intro dir hdir
    exact h.trash dir (List.mem_filter.mp hdir).1
  · intro root' hroot'
    exact (h.kept root' hroot').imp_right fun hthere => (hperm.map _).mem_iff.mpr hthere
  · intro dir hdir hroot'
    rcases hback dir hdir with hold | ⟨hin, hroot⟩
    · exact h.full dir hold hroot'
    · exact (hkept dir hin hroot).1

lemma quarantineLineage (h : DiskInv used S Q d) (hfree : ¬ S.kept root) :
    DiskInv used S Q (Effect.apply d (.quarantineLineage root)) := by
  have hsub : ((d.lineages.filter fun dir => dir.root ≠ root) ++ d.trash).Sublist
      (d.lineages ++ d.trash) := List.filter_sublist.append_right _
  constructor
  · exact (hsub.map _).nodup h.roots
  · exact (hsub.flatMap _).nodup h.ids
  · exact fun dir hdir => h.used_root dir (hsub.subset hdir)
  · exact fun dir hdir => h.used_id dir (hsub.subset hdir)
  · exact h.used_tombstone
  · exact fun dir hdir => h.standing dir (List.mem_filter.mp hdir).1
  · exact fun dir hdir => h.links dir (List.mem_filter.mp hdir).1
  · exact fun dir hdir => h.files dir (List.mem_filter.mp hdir).1
  · exact h.trash
  · intro root' hkept
    refine (h.kept root' hkept).imp_right fun hthere => ?_
    obtain ⟨dir, hdir, rfl⟩ := List.mem_map.mp hthere
    refine List.mem_map_of_mem ?_
    rcases List.mem_append.mp hdir with hold | htrash
    · refine List.mem_append_left _ (List.mem_filter.mpr ⟨hold, decide_eq_true fun heq => ?_⟩)
      exact hfree (heq ▸ hkept)
    · exact List.mem_append_right _ htrash
  · exact fun dir hdir => h.full dir (List.mem_filter.mp hdir).1

end DiskInv

end VacancyRadar.Sessions
