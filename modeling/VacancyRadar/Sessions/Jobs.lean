import Mathlib.Algebra.Order.BigOperators.Group.List
import Mathlib.Algebra.Order.Group.Nat
import VacancyRadar.Sessions.Walk

/-!
# Operations keep the invariants

While the daemon runs, what it has in memory agrees with the disk: the same lineages with the same
sessions in the same order.  The relation `R` between a session in memory and its files is a
parameter again.  The operations are put together from a few basic ones: a record is rewritten, a
line is appended, a lineage is evicted, and a session is registered.
-/

namespace VacancyRadar.Sessions

open Data

lemma forall₂_map_of_mem {α β γ δ : Type} {R : α → β → Prop} {R' : γ → δ → Prop} {f : α → γ}
    {g : β → δ} {as : List α} {bs : List β} (h : List.Forall₂ R as bs)
    (hfg : ∀ a ∈ as, ∀ b ∈ bs, R a b → R' (f a) (g b)) : List.Forall₂ R' (as.map f) (bs.map g) := by
  induction h with
  | nil => exact .nil
  | cons hab _ ih =>
    refine .cons (hfg _ List.mem_cons_self _ List.mem_cons_self hab) (ih fun a ha b hb => ?_)
    exact hfg a (List.mem_cons_of_mem _ ha) b (List.mem_cons_of_mem _ hb)

variable {α β : Type} {f : SessionFiles → SessionFiles} {g : Session → Session} {e : Effect} {l : Lineage}
  {dir : LineageDir} {m' : Session} {G : LineageDir → LineageDir} {s : SessionFiles}
  {policy : RetentionPolicy}

variable {R : α → β → Prop} {as : List α} {bs : List β} {root : ℕ} {store : Store}
  {excluded : Option ℕ}

lemma forall₂_imp_of_mem {R' : α → β → Prop} (h : List.Forall₂ R as bs)
    (himp : ∀ a ∈ as, ∀ b ∈ bs, R a b → R' a b) : List.Forall₂ R' as bs:= by
  have hmap := forall₂_map_of_mem (f := id) (g := id) h himp
  rwa [List.map_id, List.map_id] at hmap

lemma exists_right_of_mem {a : α} (h : List.Forall₂ R as bs) (ha : a ∈ as) : ∃ b ∈ bs, R a b:= by
  induction h with
  | nil => cases ha
  | cons hab _ ih =>
    rcases List.mem_cons.mp ha with rfl | hrest
    · exact ⟨_, List.mem_cons_self, hab⟩
    · obtain ⟨b, hb, hR⟩ := ih hrest
      exact ⟨b, List.mem_cons_of_mem _ hb, hR⟩

lemma exists_left_of_mem {b : β} (h : List.Forall₂ R as bs) (hb : b ∈ bs) : ∃ a ∈ as, R a b:=
  exists_right_of_mem h.flip hb

lemma map_eq_of_forall₂ {α β γ : Type} {R : α → β → Prop} {f : α → γ} {g : β → γ} {as : List α}
    {bs : List β} (h : List.Forall₂ R as bs) (hfg : ∀ a b, R a b → f a = g b) :
    as.map f = bs.map g := by
  induction h with
  | nil => rfl
  | cons hab _ ih => rw [List.map_cons, List.map_cons, hfg _ _ hab, ih]

lemma forall₂_of_map_eq {α β γ : Type} {f : α → γ} {g : β → γ} {as : List α} {bs : List β}
    (h : as.map f = bs.map g) : List.Forall₂ (fun a b => f a = g b) as bs := by
  induction as generalizing bs with
  | nil =>
    rw [List.map_eq_nil_iff.mp h.symm]
    exact .nil
  | cons a rest ih =>
    cases bs with
    | nil => cases h
    | cons b bs =>
      obtain ⟨hab, hrest⟩ := List.cons.inj h
      exact .cons hab (ih hrest)

/-! ## Along a job -/

structure Along (P : Disk → Prop) (d₀ : Disk) (j : Job) : Prop where
  disk : j.disk = applyAll j.effects d₀
  killed : ∀ k cut, P (kill j.effects k cut d₀)

lemma kill_length (effects : List Effect) (cut : ℕ) (d : Disk) :
    kill effects effects.length cut d = applyAll effects d := by
  induction effects generalizing d with
  | nil => rfl
  | cons e rest ih => exact ih _

lemma forall_kill_concat {P : Disk → Prop} {effects : List Effect} {d : Disk}
    (h : ∀ k cut, P (kill effects k cut d)) (htorn : ∀ cut, P (e.torn cut (applyAll effects d)))
    (happly : P (e.apply (applyAll effects d))) (k cut : ℕ) : P (kill (effects ++ [e]) k cut d):= by
  induction effects generalizing d k with
  | nil =>
    cases k with
    | zero => exact htorn cut
    | succ k => exact happly
  | cons e' rest ih =>
    cases k with
    | zero => exact h 0 cut
    | succ k => exact ih (fun k cut => h (k + 1) cut) htorn happly k

namespace Along

variable {P : Disk → Prop} {d₀ : Disk} {j : Job}

lemma start (h : P d₀) : Along P d₀ { store, disk := d₀ } :=
  ⟨rfl, fun _ _ => h⟩

lemma now (h : Along P d₀ j) : P j.disk := by
  rw [h.disk, ← kill_length _ 0]
  exact h.killed _ _

lemma set (h : Along P d₀ j) (store : Store) : Along P d₀ (j.set store) := ⟨h.disk, h.killed⟩

lemma emit (h : Along P d₀ j) (htorn : ∀ cut, P (e.torn cut j.disk)) (happly : P (e.apply j.disk)) :
    Along P d₀ (j.emit e) where
  disk := by
    change e.apply j.disk = applyAll (j.effects ++ [e]) d₀
    rw [applyAll, List.foldl_append, h.disk]
    rfl
  killed := forall_kill_concat h.killed (h.disk ▸ htorn) (h.disk ▸ happly)

end Along

/-! ## Memory and disk -/

variable {Content : Type}

structure LineageRel (format : Format Content) (exact : Prop) (R : Session → SessionFiles → Prop)
    (l : Lineage) (dir : LineageDir) : Prop where
  root : l.root = dir.root
  sessions : List.Forall₂ (fun m s => m.record.links = s.record.links ∧ R m s) l.sessions
    dir.sessions
  bytes : exact → l.bytes = Job.measure format dir

def Agrees (format : Format Content) (exact : Prop) (R : Session → SessionFiles → Prop)
    (store : Store) (disk : Disk) : Prop :=
  List.Forall₂ (LineageRel format exact R) store.lineages disk.lineages

def IndexExact (store : Store) : Prop :=
  ∀ id root, store.sessionIndex.lookup id = some root ↔ (root, id) ∈ Job.places store

lemma mem_places {id : ℕ} : (root, id) ∈ Job.places store ↔
      ∃ l ∈ store.lineages, l.root = root ∧ ∃ m ∈ l.sessions, m.record.id = id := by
  simp only [Job.places, List.mem_flatMap, List.mem_map, Prod.mk.injEq]
  constructor
  · rintro ⟨l, hl, m, hm, hroot, hid⟩
    exact ⟨l, hl, hroot, m, hm, hid⟩
  · rintro ⟨l, hl, hroot, m, hm, hid⟩
    exact ⟨l, hl, m, hm, hroot, hid⟩

structure Distinct (store : Store) : Prop where
  roots : (store.lineages.map Lineage.root).Nodup
  ids : (store.lineages.flatMap fun l => l.sessions.map fun m => m.record.id).Nodup

section

variable {format : Format Content} {exact : Prop} {R : Session → SessionFiles → Prop}
  {store : Store} {disk : Disk}

lemma LineageRel.ids (h : LineageRel format exact R l dir) :
    (l.sessions.map fun m => m.record.id) = dir.ids :=
  map_eq_of_forall₂ h.sessions fun _ _ hms => congrArg Links.id hms.1

lemma Agrees.roots (h : Agrees format exact R store disk) :
    store.lineages.map Lineage.root = disk.lineages.map LineageDir.root :=
  map_eq_of_forall₂ h fun _ _ hl => hl.root

lemma Agrees.ids (h : Agrees format exact R store disk) :
    (store.lineages.flatMap fun l => l.sessions.map fun m => m.record.id) =
      disk.lineages.flatMap LineageDir.ids := by
  rw [List.flatMap_def, List.flatMap_def, map_eq_of_forall₂ h fun _ _ hl => hl.ids]

lemma Agrees.distinct {used : List ℕ} {S : Shape} {Q : SessionFiles → Prop}
    (h : Agrees format exact R store disk) (hdisk : DiskInv used S Q disk) : Distinct store where
  roots := by
    rw [h.roots]
    have hroots := hdisk.roots
    rw [List.map_append] at hroots
    exact (List.sublist_append_left ..).nodup hroots
  ids := by
    rw [h.ids]
    have hids := hdisk.ids
    rw [List.flatMap_append] at hids
    exact (List.sublist_append_left ..).nodup hids

lemma Distinct.lineage_eq (h : Distinct store) {l' : Lineage} (hl : l ∈ store.lineages)
    (hl' : l' ∈ store.lineages) (hroot : l.root = l'.root) : l = l' :=
  List.inj_on_of_nodup_map h.roots hl hl' hroot

variable {m : Session} {id root : ℕ}

lemma Distinct.session_eq (h : Distinct store) (hl : l ∈ store.lineages) (hm : m ∈ l.sessions)
    (hm' : m' ∈ l.sessions) (hid : m.record.id = m'.record.id) : m = m':= by
  have hsub := List.sublist_flatten_of_mem (List.mem_map_of_mem (f := fun l : Lineage =>
    l.sessions.map fun m => m.record.id) hl)
  have hnodup := hsub.nodup (List.flatMap_def ▸ h.ids)
  exact List.inj_on_of_nodup_map hnodup hm hm' hid

lemma session?_eq_some (h : store.session? root id = some m) :
    ∃ l ∈ store.lineages, l.root = root ∧ m ∈ l.sessions ∧ m.record.id = id := by
  obtain ⟨l, hl, hm⟩ := Option.bind_eq_some_iff.mp h
  refine ⟨l, List.mem_of_find?_eq_some hl, ?_, List.mem_of_find?_eq_some hm, ?_⟩
  · simpa using List.find?_some hl
  · simpa using List.find?_some hm

lemma Distinct.session?_of_mem (h : Distinct store) (hl : l ∈ store.lineages) (hm : m ∈ l.sessions) :
    store.session? l.root m.record.id = some m:= by
  have hfound : store.lineages.find? (fun l' => l'.root = l.root) = some l := by
    cases hfind : store.lineages.find? (fun l' => l'.root = l.root) with
    | none => exact absurd (List.find?_eq_none.mp hfind l hl) (by simp)
    | some l' =>
      have hroot : l'.root = l.root := by simpa using List.find?_some hfind
      rw [h.lineage_eq (List.mem_of_find?_eq_some hfind) hl hroot]
  rw [Store.session?, hfound, Option.bind_some]
  cases hfind : l.sessions.find? (fun m' => m'.record.id = m.record.id) with
  | none => exact absurd (List.find?_eq_none.mp hfind m hm) (by simp)
  | some m' =>
    have hid : m'.record.id = m.record.id := by simpa using List.find?_some hfind
    rw [h.session_eq hl (List.mem_of_find?_eq_some hfind) hm hid]

def Disk.places (d : Disk) : List (ℕ × ℕ) :=
  d.lineages.flatMap fun dir => dir.ids.map fun id => (dir.root, id)

lemma Agrees.places (h : Agrees format exact R store disk) : Job.places store = disk.places := by
  rw [Job.places, Disk.places, List.flatMap_def, List.flatMap_def]
  refine congrArg List.flatten (map_eq_of_forall₂ h fun l dir hl => ?_)
  rw [← hl.ids, List.map_map, ← hl.root]
  rfl

lemma places_of_similar {d d' : Disk}
    (h : List.Forall₂ LineageDir.Similar d.lineages d'.lineages) : d'.places = d.places := by
  rw [Disk.places, Disk.places, List.flatMap_def, List.flatMap_def]
  refine (congrArg List.flatten (map_eq_of_forall₂ h fun dir dir' hdir => ?_)).symm
  rw [hdir.root, hdir.ids]

lemma Agrees.modify {F : Lineage → Lineage} (h : Agrees format exact R store disk)
    (hFG : ∀ l ∈ store.lineages, ∀ dir ∈ disk.lineages, l.root = root →
      LineageRel format exact R l dir → LineageRel format exact R (F l) (G dir)) :
    Agrees format exact R (store.modifyLineage root F) (disk.modifyDir root G) := by
  refine forall₂_map_of_mem h fun l hl dir hdir hrel => ?_
  by_cases hroot : l.root = root
  · rw [if_pos hroot, if_pos (hrel.root ▸ hroot)]
    exact hFG l hl dir hdir hroot hrel
  · rw [if_neg hroot, if_neg (hrel.root ▸ hroot)]
    exact hrel

lemma LineageRel.modify {bytes : ℕ} (h : LineageRel format exact R l dir)
    (hgf : ∀ m ∈ l.sessions, ∀ s ∈ dir.sessions, m.record.id = id → m.record.links = s.record.links →
      R m s → (g m).record.links = (f s).record.links ∧ R (g m) (f s))
    (hbytes : exact → bytes = Job.measure format (dir.modify id f)) : LineageRel format exact R
      { l with sessions := l.sessions.map fun m => if m.record.id = id then g m else m, bytes }
      (dir.modify id f) where
  root := h.root
  sessions := by
    refine forall₂_map_of_mem h.sessions fun m hm s hs hms => ?_
    have hid : m.record.id = s.record.id := congrArg Links.id hms.1
    by_cases hmid : m.record.id = id
    · rw [if_pos hmid, if_pos (hid ▸ hmid)]
      exact hgf m hm s hs hmid hms.1 hms.2
    · rw [if_neg hmid, if_neg (hid ▸ hmid)]
      exact hms
  bytes := hbytes

lemma measure_modify (format : Format Content) (f : SessionFiles → SessionFiles) (hids : dir.ids.Nodup)
    (hs : s ∈ dir.sessions) :
    Job.measure format (dir.modify s.record.id f) + (format.size s.record + s.log.length) =
      Job.measure format dir + (format.size (f s).record + (f s).log.length) := by
  obtain ⟨root, sessions⟩ := dir
  change (sessions.map fun s => s.record.id).Nodup at hids
  simp only [Job.measure, LineageDir.modify]
  induction sessions with
  | nil => cases hs
  | cons s' rest ih =>
    obtain ⟨hnot, hrest⟩ := List.nodup_cons.mp hids
    simp only [List.map_cons, List.sum_cons]
    rcases List.mem_cons.mp hs with rfl | hin
    · have hkeep : (rest.map fun s' => if s'.record.id = s.record.id then f s' else s') = rest := by
        refine (List.map_congr_left fun s' hs' => ?_).trans (List.map_id rest)
        refine if_neg fun hid => hnot ?_
        exact List.mem_map.mpr ⟨s', hs', hid⟩
      rw [if_pos rfl, hkeep]
      omega
    · have hne : s'.record.id ≠ s.record.id := fun hid => hnot (List.mem_map.mpr ⟨s, hin, hid.symm⟩)
      have hstep := ih hin hrest
      rw [if_neg hne]
      omega

end

lemma find?_map_of_find? {key : α → ℕ} {k : ℕ} {g : α → α} {xs : List α} {x : α}
    (h : xs.find? (fun x => key x = k) = some x) (hg : key (g x) = k) :
    (xs.map fun x => if key x = k then g x else x).find? (fun x => key x = k) = some (g x) := by
  induction xs with
  | nil => cases h
  | cons y rest ih =>
    rw [List.map_cons]
    by_cases hy : key y = k
    · rw [List.find?_cons_of_pos (by simpa using hy)] at h
      cases h
      rw [if_pos hy, List.find?_cons_of_pos (by simpa using hg)]
    · rw [List.find?_cons_of_neg (by simpa using hy)] at h
      rw [if_neg hy, List.find?_cons_of_neg (by simpa using hy)]
      exact ih h

lemma session?_modifySession {id : ℕ} {m : Session} (h : store.session? root id = some m)
    (hg : (g m).record.id = id) :
    (store.modifySession root id g).session? root id = some (g m) := by
  obtain ⟨l, hl, hm⟩ := Option.bind_eq_some_iff.mp h
  have hroot : l.root = root := by simpa using List.find?_some hl
  rw [Store.session?, Store.modifySession, Store.modifyLineage]
  rw [find?_map_of_find? hl (by exact hroot), Option.bind_some]
  exact find?_map_of_find? hm hg

lemma modifyLineage_modifyLineage (store : Store) (root : ℕ) (F G : Lineage → Lineage)
    (hF : ∀ l, (F l).root = l.root) :
    (store.modifyLineage root F).modifyLineage root G = store.modifyLineage root (G ∘ F) := by
  rw [Store.modifyLineage, Store.modifyLineage, Store.modifyLineage, List.map_map]
  refine congrArg (fun lineages => { store with lineages }) (List.map_congr_left fun l _ => ?_)
  by_cases hroot : l.root = root
  · simp [hroot, hF]
  · simp [hroot]

/-! ## Basic operations -/

structure Invariants (Content : Type) where
  format : Format Content
  used : List ℕ
  S : Shape
  Q : SessionFiles → Prop
  R : Session → SessionFiles → Prop
  exact : Prop

namespace Invariants

def Sound (I : Invariants Content) (d : Disk) : Prop := DiskInv I.used I.S I.Q d

structure Good (I : Invariants Content) (d₀ : Disk) (j : Job) : Prop where
  along : Along I.Sound d₀ j
  agrees : Agrees I.format I.exact I.R j.store j.disk
  full : ∀ dir ∈ j.disk.lineages, dir.sessions ≠ []
  trash : j.disk.trash = []
  index : IndexExact j.store

variable {I : Invariants Content} {d₀ : Disk} {j : Job} {root id : ℕ} {m : Session}

lemma Good.sound (h : I.Good d₀ j) : DiskInv I.used I.S I.Q j.disk := h.along.now

lemma Good.distinct (h : I.Good d₀ j) : Distinct j.store := h.agrees.distinct h.sound

lemma Good.eq_of_place (h : I.Good d₀ j) (hm : j.store.session? root id = some m)
    (hl : l ∈ j.store.lineages) (hroot : l.root = root) (hm' : m' ∈ l.sessions) (hid : m'.record.id = id) :
    m' = m:= by
  have hsome := h.distinct.session?_of_mem hl hm'
  rw [hroot, hid, hm] at hsome
  exact (Option.some.inj hsome).symm

lemma Good.files (h : I.Good d₀ j) (hm : j.store.session? root id = some m) (hdir : dir ∈ j.disk.lineages)
    (hroot : dir.root = root) (hs : s ∈ dir.sessions) (hid : s.record.id = id) :
    m.record.links = s.record.links ∧ I.R m s ∧ I.Q s := by
  obtain ⟨l, hl, hrel⟩ := exists_left_of_mem h.agrees hdir
  obtain ⟨m', hm', hlinks, hR⟩ := exists_left_of_mem hrel.sessions hs
  have hid' : m'.record.id = id := (congrArg Links.id hlinks).trans hid
  rw [← h.eq_of_place hm hl (hrel.root.trans hroot) hm' hid']
  exact ⟨hlinks, hR, h.sound.files dir hdir s hs⟩

lemma Good.exists_files (h : I.Good d₀ j) (hm : j.store.session? root id = some m) :
    ∃ dir ∈ j.disk.lineages, dir.root = root ∧ ∃ s ∈ dir.sessions, s.record.id = id := by
  obtain ⟨l, hl, hroot, hml, hid⟩ := session?_eq_some hm
  obtain ⟨dir, hdir, hrel⟩ := exists_right_of_mem h.agrees hl
  obtain ⟨s, hs, hlinks, -⟩ := exists_right_of_mem hrel.sessions hml
  exact ⟨dir, hdir, hrel.root.symm.trans hroot, s, hs, (congrArg Links.id hlinks).symm.trans hid⟩

lemma Good.dir_eq (h : I.Good d₀ j) {dir' : LineageDir} (hdir : dir ∈ j.disk.lineages)
    (hdir' : dir' ∈ j.disk.lineages) (hroot : dir.root = dir'.root) : dir = dir' := by
  have hnodup := h.sound.roots
  rw [List.map_append] at hnodup
  exact List.inj_on_of_nodup_map ((List.sublist_append_left ..).nodup hnodup) hdir hdir' hroot

lemma Good.nodup_ids (h : I.Good d₀ j) (hdir : dir ∈ j.disk.lineages) : dir.ids.Nodup:= by
  have hnodup := h.sound.ids
  rw [List.flatMap_append] at hnodup
  have hsub := List.sublist_flatten_of_mem (List.mem_map_of_mem (f := LineageDir.ids) hdir)
  exact hsub.nodup (List.flatMap_def ▸ (List.sublist_append_left ..).nodup hnodup)

lemma Good.mem_ids (h : I.Good d₀ j) (hm : j.store.session? root id = some m) (hdir : dir ∈ j.disk.lineages)
    (hroot : dir.root = root) : id ∈ dir.ids:= by
  obtain ⟨dir', hdir', hroot', s, hs, hid⟩ := h.exists_files hm
  rw [h.dir_eq hdir hdir' (hroot.trans hroot'.symm)]
  exact List.mem_map.mpr ⟨s, hs, hid⟩

lemma Good.files?_eq (h : I.Good d₀ j) (hdir : dir ∈ j.disk.lineages) (hs : s ∈ dir.sessions) :
    j.disk.files? dir.root s.record.id = some s := by
  have hfound : j.disk.dir? dir.root = some dir := by
    cases hfind : j.disk.dir? dir.root with
    | none => exact absurd (List.find?_eq_none.mp hfind dir hdir) (by simp)
    | some dir' =>
      have hroot : dir'.root = dir.root := by simpa using List.find?_some hfind
      rw [h.dir_eq (List.mem_of_find?_eq_some hfind) hdir hroot]
  rw [Disk.files?, hfound, Option.bind_some]
  cases hfind : dir.sessions.find? (fun s' => s'.record.id = s.record.id) with
  | none => exact absurd (List.find?_eq_none.mp hfind s hs) (by simp)
  | some s' =>
    have hid : s'.record.id = s.record.id := by simpa using List.find?_some hfind
    rw [List.inj_on_of_nodup_map (h.nodup_ids hdir) (List.mem_of_find?_eq_some hfind) hs hid]

lemma le_measure (format : Format Content) (hs : s ∈ dir.sessions) :
    format.size s.record + s.log.length ≤ Job.measure format dir:=
  List.le_sum_of_mem
    (List.mem_map_of_mem (f := fun s : SessionFiles => format.size s.record + s.log.length) hs)

variable {b : ℕ → ℕ}

lemma Good.modify (h : I.Good d₀ j) (hm : j.store.session? root id = some m)
    (happly : e.apply j.disk = j.disk.modifyDir root fun dir => dir.modify id f)
    (htorn : ∀ cut, I.Sound (e.torn cut j.disk))
    (hgf : ∀ s, m.record.links = s.record.links → I.R m s → I.Q s →
      (g m).record.links = m.record.links ∧ (f s).record.links = s.record.links ∧
        I.R (g m) (f s) ∧ I.Q (f s))
    (hbytes : I.exact → ∀ s, j.disk.files? root id = some s → ∀ bytes,
      I.format.size s.record + s.log.length ≤ bytes →
      b bytes + (I.format.size s.record + s.log.length) =
        bytes + (I.format.size (f s).record + (f s).log.length)) :
    I.Good d₀ ((j.emit e).set (j.store.modifyLineage root fun l =>
      { l with
        sessions := l.sessions.map fun m => if m.record.id = id then g m else m
        bytes := b l.bytes })) := by
  have hfiles : ∀ dir ∈ j.disk.lineages, dir.root = root → ∀ s ∈ dir.sessions, s.record.id = id →
      (f s).record.links = s.record.links ∧ I.Q (f s) := by
    intro dir hdir hroot s hs hid
    obtain ⟨hlinks, hR, hQ⟩ := h.files hm hdir hroot hs hid
    obtain ⟨-, hf, -, hQ'⟩ := hgf s hlinks hR hQ
    exact ⟨hf, hQ'⟩
  have hsimilar : List.Forall₂ LineageDir.Similar j.disk.lineages (e.apply j.disk).lineages := by
    rw [happly]
    refine Disk.similar_modifyDir fun dir hdir hroot => ?_
    exact LineageDir.similar_modify fun s hs hid => (hfiles dir hdir hroot s hs hid).1
  have hagrees : Agrees I.format I.exact I.R (j.store.modifyLineage root fun l =>
      { l with
        sessions := l.sessions.map fun m => if m.record.id = id then g m else m
        bytes := b l.bytes }) (e.apply j.disk) := by
    rw [happly]
    refine h.agrees.modify fun l hl dir hdir hroot hrel => ?_
    refine hrel.modify (fun m' hm' s _ hid hlinks hR => ?_) fun hexact => ?_
    · obtain rfl := h.eq_of_place hm hl hroot hm' hid
      have hQ := h.sound.files dir hdir s ‹_›
      obtain ⟨hg, hf, hR', -⟩ := hgf s hlinks hR hQ
      exact ⟨hg.trans (hlinks.trans hf.symm), hR'⟩
    · obtain ⟨s, hs, rfl⟩ := List.mem_map.mp (h.mem_ids hm hdir (hrel.root ▸ hroot))
      have hmeasure := measure_modify I.format f (h.nodup_ids hdir) hs
      have hle := le_measure I.format hs
      have hfound := h.files?_eq hdir hs
      rw [← hrel.root, hroot] at hfound
      have hb := hbytes hexact s hfound l.bytes (hrel.bytes hexact ▸ hle)
      have heq := hrel.bytes hexact
      omega
  constructor
  · refine Along.set (h.along.emit htorn ?_) _
    rw [happly]
    exact h.sound.modify hfiles
  · exact hagrees
  · intro dir hdir
    obtain ⟨dir', hdir', hsim⟩ := exists_similar_of_mem hsimilar hdir
    exact mt hsim.sessions_eq_nil.mp (h.full dir' hdir')
  · change (e.apply j.disk).trash = []
    rw [happly]
    exact h.trash
  · have hplaces := (hagrees.places.trans (places_of_similar hsimilar)).trans h.agrees.places.symm
    intro id' root'
    exact (h.index id' root').trans (iff_of_eq (congrArg ((root', id') ∈ ·) hplaces.symm))

lemma Good.id_eq (_ : I.Good d₀ j) (hm : j.store.session? root id = some m) : m.record.id = id := by
  obtain ⟨-, -, -, -, hid⟩ := session?_eq_some hm
  exact hid

/-- A record is rewritten. -/
theorem Good.writeRecord (h : I.Good d₀ j) (hm : j.store.session? root id = some m)
    {f : SessionRecord → SessionRecord} (hlinks : (f m.record).links = m.record.links)
    (hf : ∀ s, I.R m s → I.Q s →
      I.R { m with record := f m.record } { s with record := f m.record } ∧
        I.Q { s with record := f m.record }) :
    I.Good d₀ (j.writeRecord I.format root id f) := by
  have hid := h.id_eq hm
  have hnew : (f m.record).id = id := (congrArg Links.id hlinks).trans hid
  have hafter := session?_modifySession (g := fun m => { m with record := f m.record }) hm hnew
  let before := ((j.disk.files? root id).map fun s => I.format.size s.record).getD 0
  have heq : j.writeRecord I.format root id f =
      (j.emit (.writeRecord root (f m.record))).set (j.store.modifyLineage root fun l =>
        { l with
          sessions := l.sessions.map fun m =>
            if m.record.id = id then { m with record := f m.record } else m
          bytes := l.bytes + I.format.size (f m.record) - before }) := by
    simp only [Job.writeRecord, Job.set, hafter, Job.emit]
    rw [Store.modifySession, modifyLineage_modifyLineage]
    · rfl
    · exact fun _ => rfl
  rw [heq]
  refine h.modify (f := fun s => { s with record := f m.record })
    (b := fun bytes => bytes + I.format.size (f m.record) - before) hm ?_ ?_ ?_ ?_
  · change j.disk.modifyDir root _ = _
    refine congrArg (fun lineages => { j.disk with lineages }) (List.map_congr_left fun dir hdir => ?_)
    split
    · rename_i hroot
      have hin := h.mem_ids hm hdir hroot
      rw [← hnew] at hin
      exact (LineageDir.put_of_mem hin).trans (by rw [hnew])
    · rfl
  · exact fun cut => h.sound.of_same rfl rfl rfl
  · intro s hms hR hQ
    exact ⟨hlinks, hlinks.trans hms, hf s hR hQ⟩
  · intro _ s hs bytes hle
    have hbefore : before = I.format.size s.record := by simp [before, hs]
    rw [hbefore]
    dsimp only
    omega

/-- A text is appended to a log, of which a crash may leave the beginning. -/
lemma Good.appendText (h : I.Good d₀ j) (hm : j.store.session? root id = some m) {text : List UInt8}
    (hg : (g m).record.links = m.record.links)
    (hb : I.exact → ∀ bytes, b bytes = bytes + text.length)
    (hf : ∀ s, I.R m s → I.Q s → I.R (g m) { s with log := s.log ++ text } ∧
      ∀ cut, I.Q { s with log := s.log ++ text.take cut }) :
    I.Good d₀ ((j.emit (.append root id text)).set (j.store.modifyLineage root fun l =>
      { l with
        sessions := l.sessions.map fun m => if m.record.id = id then g m else m
        bytes := b l.bytes })) := by
  refine h.modify (f := fun s => { s with log := s.log ++ text }) hm rfl ?_ ?_ ?_
  · intro cut
    refine h.sound.modify fun dir hdir hroot s hs hid => ?_
    obtain ⟨-, hR, hQ⟩ := h.files hm hdir hroot hs hid
    exact ⟨rfl, (hf s hR hQ).2 cut⟩
  · intro s _ hR hQ
    obtain ⟨hR', hQ'⟩ := hf s hR hQ
    have hwhole := hQ' text.length
    rw [List.take_of_length_le (Nat.le_refl _)] at hwhole
    exact ⟨hg, rfl, hR', hwhole⟩
  · intro hexact s _ bytes hle
    dsimp only
    rw [List.length_append, hb hexact]
    omega

/-- A line is appended as a whole. -/
theorem Good.appendLine (h : I.Good d₀ j) (hm : j.store.session? root id = some m)
    {entry : EventRecord Content}
    (hf : ∀ s, I.R m s → I.Q s →
      I.R { m with lines := m.lines + 1 } { s with log := s.log ++ I.format.code.line entry } ∧
        ∀ cut, I.Q { s with log := s.log ++ (I.format.code.line entry).take cut }) :
    I.Good d₀ (j.appendLine I.format root id entry none) := by
  let line := I.format.code.line entry
  have heq : j.appendLine I.format root id entry none =
      (j.emit (.append root id line)).set (j.store.modifyLineage root fun l =>
        { l with
          sessions := l.sessions.map fun m =>
            if m.record.id = id then { m with lines := m.lines + 1 } else m
          bytes := l.bytes + line.length }) := by
    simp only [Job.appendLine, Job.set, Job.emit]
    rw [Store.modifySession, modifyLineage_modifyLineage]
    · rfl
    · exact fun _ => rfl
  rw [heq]
  exact h.appendText (g := fun m => { m with lines := m.lines + 1 }) hm rfl (fun _ _ => rfl) hf

/-! ## Evictions -/

lemma lookup_filter_fst {p : ℕ → Bool} {xs : List (ℕ × ℕ)} {k : ℕ} :
    (xs.filter fun x => p x.1).lookup k = if p k then xs.lookup k else none := by
  induction xs with
  | nil => simp
  | cons x rest ih =>
    obtain ⟨k', v⟩ := x
    by_cases hk : k = k'
    · subst hk
      by_cases hp : p k
      · simp [hp]
      · simp [hp, ih]
    · have hne : (k == k') = false := by simpa using hk
      by_cases hp : p k'
      · simp [hp, List.lookup_cons, hne, ih]
      · simp [hp, List.lookup_cons, hne, ih]

/-- A lineage is evicted. -/
theorem Good.evictLineage (h : I.Good d₀ j) (now : ℕ) (reason : EvictionReason) (hl : l ∈ j.store.lineages) :
    I.Good d₀ (j.evictLineage now reason l):= by
  have hroot : l.root ∈ I.used := by
    obtain ⟨dir, hdir, hrel⟩ := exists_right_of_mem h.agrees hl
    rw [hrel.root]
    exact h.sound.used_root dir (List.mem_append_left _ hdir)
  have hmoved := h.sound.moveToTrash l.root fun dir hdir _ => h.full dir hdir
  have hnot : ∀ dir ∈ (Effect.apply j.disk (.moveToTrash l.root)).lineages, dir.root ≠ l.root :=
    fun dir hdir => by simpa using (List.mem_filter.mp hdir).2
  let ids := l.sessions.map fun m => m.record.id
  let t : Tombstone :=
    { rootSessionId := l.root, evictedAt := now, reason, sessionIds := ids
      records := l.sessions.length, bytes := l.bytes }
  have hcommitted := hmoved.writeTombstone (t := t) hroot hnot
  have hgone := (DiskInv.tombstoned_writeTombstone (t := t)
    (d := Effect.apply j.disk (.moveToTrash l.root))).mpr (.inl rfl)
  have halong : Along I.Sound d₀ (((j.emit (.moveToTrash l.root)).emit (.writeTombstone t)).emit
      (.removeTrash l.root)) := by
    have hfirst := h.along.emit (e := .moveToTrash l.root) (fun _ => h.sound) hmoved
    refine (hfirst.emit (fun cut => ?_) hcommitted).emit (fun cut => ?_) (hcommitted.removeTrash hgone)
    · exact hmoved.of_same rfl rfl rfl
    · exact hcommitted.removeTrash_torn hgone
  have hagrees : Agrees I.format I.exact I.R
      { j.store with
        lineages := j.store.lineages.filter fun l' => l'.root ≠ l.root
        sessionIndex := j.store.sessionIndex.filter fun p => p.1 ∉ ids }
      (((j.emit (.moveToTrash l.root)).emit (.writeTombstone t)).emit (.removeTrash l.root)).disk := by
    refine List.rel_filter (fun l' dir hrel => ?_) h.agrees
    simp [hrel.root]
  refine ⟨halong.set _, hagrees, ?_, ?_, ?_⟩
  · exact fun dir hdir => h.full dir (List.mem_filter.mp hdir).1
  · change ((j.disk.trash ++ j.disk.lineages.filter fun dir => dir.root = l.root).filter
      fun dir => dir.root ≠ l.root) = []
    rw [h.trash, List.nil_append, List.filter_filter]
    simp
  · intro id root
    change (j.store.sessionIndex.filter fun p => p.1 ∉ ids).lookup id = some root ↔ _
    rw [lookup_filter_fst (p := fun id => id ∉ ids), mem_places]
    constructor
    · intro hlookup
      split at hlookup
      · rename_i hid
        obtain ⟨l', hl', hroot', m, hm, hmid⟩ := mem_places.mp ((h.index id root).mp hlookup)
        refine ⟨l', List.mem_filter.mpr ⟨hl', ?_⟩, hroot', m, hm, hmid⟩
        refine decide_eq_true fun heq => of_decide_eq_true hid ?_
        rw [h.distinct.lineage_eq hl' hl heq] at hm
        exact List.mem_map.mpr ⟨m, hm, hmid⟩
      · cases hlookup
    · rintro ⟨l', hl', hroot', m, hm, hmid⟩
      obtain ⟨hin, hne⟩ := List.mem_filter.mp hl'
      have hlookup := (h.index id root).mpr (mem_places.mpr ⟨l', hin, hroot', m, hm, hmid⟩)
      rw [if_pos]
      · exact hlookup
      · refine decide_eq_true fun hid => of_decide_eq_true hne ?_
        obtain ⟨m', hm', hmid'⟩ := List.mem_map.mp hid
        have hother := (h.index id l.root).mpr (mem_places.mpr ⟨l, hl, rfl, m', hm', hmid'⟩)
        rw [hlookup] at hother
        exact hroot'.trans (Option.some.inj hother)

end Invariants

structure Evicted (excluded : Option ℕ) (store store' : Store) : Prop where
  sub : store'.lineages.Sublist store.lineages
  kept : ∀ l ∈ store.lineages, (some l.root = excluded ∨ l.isActive = true) → l ∈ store'.lineages

lemma Evicted.refl (excluded : Option ℕ) (store : Store) : Evicted excluded store store :=
  ⟨List.Sublist.refl _, fun _ hl _ => hl⟩

lemma Evicted.trans {store' store'' : Store} (h : Evicted excluded store store')
    (h' : Evicted excluded store' store'') : Evicted excluded store store'' :=
  ⟨h'.sub.trans h.sub, fun l hl hkeep => h'.kept l (h.kept l hl hkeep) hkeep⟩

lemma mem_evictionCandidates : l ∈ store.evictionCandidates excluded ↔
      l ∈ store.lineages ∧ some l.root ≠ excluded ∧ l.isActive = false := by
  rw [Store.evictionCandidates, (List.perm_insertionSort _ _).mem_iff, List.mem_filter]
  simp

lemma nodup_evictionCandidates (h : (store.lineages.map Lineage.root).Nodup) :
    ((store.evictionCandidates excluded).map Lineage.root).Nodup := by
  refine ((List.perm_insertionSort _ _).map _).nodup_iff.mpr ?_
  exact (List.filter_sublist.map _).nodup h

lemma evicted_evictLineage {j : Job} (now : ℕ) (reason : EvictionReason) {victim : Lineage}
    (hdistinct : Distinct j.store) (hvictim : victim ∈ j.store.lineages)
    (hexcluded : some victim.root ≠ excluded) (hactive : victim.isActive = false) :
    Evicted excluded j.store (j.evictLineage now reason victim).store := by
  refine ⟨List.filter_sublist, fun l hl hkeep => List.mem_filter.mpr ⟨hl, ?_⟩⟩
  refine decide_eq_true fun hroot => ?_
  rw [hdistinct.lineage_eq hl hvictim hroot] at hkeep
  rcases hkeep with hkeep | hkeep
  · exact hexcluded hkeep
  · rw [hactive] at hkeep
    cases hkeep

namespace Invariants

variable {I : Invariants Content} {d₀ : Disk} {j : Job} {now : ℕ} {excluded : Option ℕ}

variable (now) in
lemma Good.foldl_evictLineage (reason : EvictionReason) (victims : List Lineage) (h : I.Good d₀ j)
    (hvictims : ∀ l ∈ victims, l ∈ j.store.evictionCandidates excluded)
    (hnodup : (victims.map Lineage.root).Nodup) :
    I.Good d₀ (victims.foldl (Job.evictLineage now reason) j) ∧
      Evicted excluded j.store (victims.foldl (Job.evictLineage now reason) j).store := by
  induction victims generalizing j with
  | nil => exact ⟨h, Evicted.refl _ _⟩
  | cons victim rest ih =>
    obtain ⟨hnot, hrest⟩ := List.nodup_cons.mp hnodup
    obtain ⟨hin, hexcluded, hactive⟩ :=
      mem_evictionCandidates.mp (hvictims victim List.mem_cons_self)
    have hevicted := evicted_evictLineage now reason h.distinct hin hexcluded hactive
    have hstay : ∀ l ∈ rest,
        l ∈ (j.evictLineage now reason victim).store.evictionCandidates excluded := by
      intro l hl
      obtain ⟨hlin, hl'⟩ := mem_evictionCandidates.mp (hvictims l (List.mem_cons_of_mem _ hl))
      refine mem_evictionCandidates.mpr ⟨List.mem_filter.mpr ⟨hlin, ?_⟩, hl'⟩
      refine decide_eq_true fun hroot => hnot ?_
      exact List.mem_map.mpr ⟨l, hl, hroot⟩
    obtain ⟨hgood, hmore⟩ := ih (h.evictLineage now reason hin) hstay hrest
    exact ⟨hgood, hevicted.trans hmore⟩

lemma Good.evictWhile {tooMuch : Store → Bool} {reason : EvictionReason} {fuel : ℕ}
    (h : I.Good d₀ j) :
    I.Good d₀ (Job.evictWhile now tooMuch reason excluded fuel j) ∧
      Evicted excluded j.store (Job.evictWhile now tooMuch reason excluded fuel j).store := by
  induction fuel generalizing j with
  | zero => exact ⟨h, Evicted.refl _ _⟩
  | succ fuel ih =>
    unfold Job.evictWhile
    split
    · split
      · exact ⟨h, Evicted.refl _ _⟩
      · rename_i victim rest hcandidates
        obtain ⟨hin, hexcluded, hactive⟩ := mem_evictionCandidates.mp
          (hcandidates ▸ List.mem_cons_self : victim ∈ j.store.evictionCandidates excluded)
        obtain ⟨hgood, hmore⟩ := ih (h.evictLineage now reason hin)
        exact ⟨hgood, (evicted_evictLineage now reason h.distinct hin hexcluded hactive).trans hmore⟩
    · exact ⟨h, Evicted.refl _ _⟩

theorem Good.enforceRetention (h : I.Good d₀ j) :
    I.Good d₀ (j.enforceRetention policy now excluded) ∧
      Evicted excluded j.store (j.enforceRetention policy now excluded).store := by
  have haged := h.foldl_evictLineage now .retentionAge
    ((j.store.evictionCandidates excluded).filter (Job.expired policy now))
    (fun l hl => (List.mem_filter.mp hl).1)
    ((List.filter_sublist.map _).nodup (nodup_evictionCandidates h.distinct.roots))
  obtain ⟨hgood, hevicted⟩ := haged
  obtain ⟨hgood', hevicted'⟩ := hgood.evictWhile
  obtain ⟨hgood'', hevicted''⟩ := hgood'.evictWhile
  exact ⟨hgood'', (hevicted.trans hevicted').trans hevicted''⟩

theorem Good.makeRoomForOneMore (h : I.Good d₀ j) :
    I.Good d₀ (j.makeRoomForOneMore policy now root).1 ∧
      Evicted (some root) j.store (j.makeRoomForOneMore policy now root).1.store := by
  obtain ⟨hgood, hevicted⟩ := h.enforceRetention
  unfold Job.makeRoomForOneMore
  dsimp only
  generalize j.enforceRetention policy now (some root) = kept at *
  obtain ⟨hgood', hevicted'⟩ := hgood.evictWhile
  generalize Job.evictWhile now _ .quotaRecords (some root) _ kept = counted at *
  split
  · exact ⟨hgood', hevicted.trans hevicted'⟩
  · obtain ⟨hgood'', hevicted''⟩ := hgood'.evictWhile
    exact ⟨hgood'', (hevicted.trans hevicted').trans hevicted''⟩

end Invariants

end VacancyRadar.Sessions
