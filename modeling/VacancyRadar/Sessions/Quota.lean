import VacancyRadar.Sessions.FixedPoint

/-!
# Room for a new session

`create` evicts lineages until there is room for one more record.  It gives up if the lineages that it
may not evict leave no room by themselves; but when it finds that out, all others are gone.
-/

namespace VacancyRadar.Sessions

open Data

variable {store : Store} {j : Job} {F : Lineage → Lineage}

variable {Content : Type} {format : Format Content} {policy : RetentionPolicy} {now root : ℕ}

/-! ## Budgets -/

def records (ls : List Lineage) : ℕ := (ls.map fun l => l.sessions.length).sum

def bytes (ls : List Lineage) : ℕ := (ls.map Lineage.bytes).sum

def NoRoom (policy : RetentionPolicy) (ls : List Lineage) : Prop :=
  policy.maxRecords < records ls + 1 ∨ policy.maxBytes ≤ bytes ls

def Evictable (root : ℕ) (l : Lineage) : Prop := l.root ≠ root ∧ l.isActive = false

instance (root : ℕ) (l : Lineage) : Decidable (Evictable root l) :=
  inferInstanceAs (Decidable (_ ∧ _))

def pinned (root : ℕ) (ls : List Lineage) : List Lineage := ls.filter fun l => ¬ Evictable root l

def without (ls : List Lineage) (victim : Lineage) : List Lineage :=
  ls.filter fun l => l.root ≠ victim.root

lemma noRoom_of_sublist {ls ls' : List Lineage} (h : ls'.Sublist ls) (hfull : NoRoom policy ls') :
    NoRoom policy ls := by
  have hrecords : records ls' ≤ records ls := (h.map _).sum_le_sum fun _ _ => Nat.zero_le _
  have hbytes : bytes ls' ≤ bytes ls := (h.map _).sum_le_sum fun _ _ => Nat.zero_le _
  unfold NoRoom at hfull ⊢
  omega

/-! ## Evictions -/

/-- Lineages are evicted one by one.  Each may be evicted, and is past its age, or there is no room
for one more record and none that may be evicted was used less recently. -/
inductive Evicts (policy : RetentionPolicy) (now root : ℕ) : List Lineage → List Lineage → Prop
  | done (ls : List Lineage) : Evicts policy now root ls ls
  | evict {ls ls' : List Lineage} {victim : Lineage} : victim ∈ ls → Evictable root victim →
      (Job.expired policy now victim = true ∨
        NoRoom policy ls ∧ ∀ l ∈ ls, Evictable root l → victim.recency ≤ l.recency) →
      Evicts policy now root (without ls victim) ls' → Evicts policy now root ls ls'

namespace Evicts

variable {ls ls' ls'' : List Lineage}

lemma trans (h : Evicts policy now root ls ls') (h' : Evicts policy now root ls' ls'') :
    Evicts policy now root ls ls'' := by
  induction h with
  | done ls => exact h'
  | evict hin hevictable hwhy _ ih => exact .evict hin hevictable hwhy (ih h')

lemma sublist (h : Evicts policy now root ls ls') : ls'.Sublist ls := by
  induction h with
  | done ls => exact List.Sublist.refl ls
  | evict _ _ _ _ ih => exact ih.trans List.filter_sublist

lemma pinned_eq (h : Evicts policy now root ls ls') (hroots : (ls.map Lineage.root).Nodup) :
    pinned root ls' = pinned root ls := by
  induction h with
  | done ls => rfl
  | @evict ls ls' victim hin hevictable _ _ ih =>
    have hsub : (without ls victim).Sublist ls := List.filter_sublist
    rw [ih ((hsub.map _).nodup hroots), pinned, pinned, without, List.filter_filter]
    refine List.filter_congr fun l hl => ?_
    by_cases hl' : Evictable root l
    · simp [hl']
    · have hother : l.root ≠ victim.root := by
        intro heq
        rw [List.inj_on_of_nodup_map hroots hl hin heq] at hl'
        exact hl' hevictable
      simp [hl', hother]

lemma eq_self (h : Evicts policy now root ls ls') (hnone : ∀ l ∈ ls, ¬ Evictable root l) :
    ls' = ls := by
  cases h with
  | done => rfl
  | evict hin hevictable _ _ => exact absurd hevictable (hnone _ hin)

end Evicts

lemma pinned_eq_self {ls : List Lineage} (h : ∀ l ∈ ls, ¬ Evictable root l) : pinned root ls = ls :=
  List.filter_eq_self.mpr fun l hl => decide_eq_true (h l hl)

/-! ## The loops -/

lemma mem_candidates {l : Lineage} :
    l ∈ store.evictionCandidates (some root) ↔ l ∈ store.lineages ∧ Evictable root l := by
  rw [mem_evictionCandidates, Evictable, ne_eq, Option.some_inj]

variable (policy now root)

lemma evicts_foldl (reason : EvictionReason) {victims : List Lineage}
    (hvictims : ∀ l ∈ victims, l ∈ j.store.lineages ∧ Evictable root l ∧
      Job.expired policy now l = true) (hnodup : (victims.map Lineage.root).Nodup) :
    Evicts policy now root j.store.lineages
      (victims.foldl (Job.evictLineage now reason) j).store.lineages := by
  induction victims generalizing j with
  | nil => exact .done _
  | cons victim rest ih =>
    obtain ⟨hnot, hrest⟩ := List.nodup_cons.mp hnodup
    obtain ⟨hin, hevictable, hexpired⟩ := hvictims victim List.mem_cons_self
    refine .evict hin hevictable (.inl hexpired) (ih (j := j.evictLineage now reason victim) ?_ hrest)
    intro l hl
    obtain ⟨hlin, hl'⟩ := hvictims l (List.mem_cons_of_mem _ hl)
    refine ⟨List.mem_filter.mpr ⟨hlin, decide_eq_true fun heq => hnot ?_⟩, hl'⟩
    exact List.mem_map.mpr ⟨l, hl, heq⟩

lemma evicts_evictWhile (j : Job) (reason : EvictionReason) {tooMuch : Store → Bool}
    (hmuch : ∀ store, tooMuch store = true → NoRoom policy store.lineages) (fuel : ℕ) :
    Evicts policy now root j.store.lineages
      (j.evictWhile now tooMuch reason (some root) fuel).store.lineages := by
  induction fuel generalizing j with
  | zero => exact .done _
  | succ fuel ih =>
    unfold Job.evictWhile
    split
    · rename_i htoo
      split
      · exact .done _
      · rename_i victim rest hcandidates
        have hsorted : (victim :: rest).Pairwise fun a b => a.recency ≤ b.recency := by
          rw [← hcandidates]
          exact List.pairwise_insertionSort _ _
        obtain ⟨hin, hevictable⟩ := mem_candidates.mp (hcandidates ▸ List.mem_cons_self)
        refine .evict hin hevictable (.inr ⟨hmuch _ htoo, fun l hl hl' => ?_⟩)
          (ih (j.evictLineage now reason victim))
        have hcandidate : l ∈ victim :: rest := hcandidates ▸ mem_candidates.mpr ⟨hl, hl'⟩
        rcases List.mem_cons.mp hcandidate with rfl | hrest
        · exact Nat.le_refl _
        · exact (List.pairwise_cons.mp hsorted).1 l hrest
    · exact .done _

lemma evictWhile_ends (j : Job) (reason : EvictionReason) (tooMuch : Store → Bool) {fuel : ℕ}
    (hfuel : j.store.lineages.length ≤ fuel) :
    let j' := j.evictWhile now tooMuch reason (some root) fuel
    tooMuch j'.store = false ∨ ∀ l ∈ j'.store.lineages, ¬ Evictable root l := by
  induction fuel generalizing j with
  | zero =>
    refine .inr fun l hl => ?_
    have hnil : j.store.lineages = [] := List.eq_nil_of_length_eq_zero (Nat.le_zero.mp hfuel)
    change l ∈ j.store.lineages at hl
    rw [hnil] at hl
    cases hl
  | succ fuel ih =>
    unfold Job.evictWhile
    split
    · split
      · rename_i hnone
        refine .inr fun l hl hl' => ?_
        have hcandidate := mem_candidates.mpr ⟨hl, hl'⟩
        rw [hnone] at hcandidate
        cases hcandidate
      · rename_i victim rest hcandidates
        obtain ⟨hin, -⟩ := mem_candidates.mp (hcandidates ▸ List.mem_cons_self :
          victim ∈ j.store.evictionCandidates (some root))
        refine ih (j.evictLineage now reason victim) ?_
        change (without j.store.lineages victim).length ≤ fuel
        have hless : (without j.store.lineages victim).length < j.store.lineages.length :=
          List.length_filter_lt_length_iff_exists.mpr ⟨victim, hin, by simp⟩
        omega
    · rename_i hmuch
      exact .inl (Bool.eq_false_iff.mpr hmuch)

lemma evicts_enforceRetention (hroots : (j.store.lineages.map Lineage.root).Nodup) :
    Evicts policy now root j.store.lineages
      (j.enforceRetention policy now (some root)).store.lineages := by
  refine (evicts_foldl policy now root .retentionAge ?_ ?_).trans
    (.trans (evicts_evictWhile policy now root _ .quotaRecords ?_ _)
      (evicts_evictWhile policy now root _ .quotaBytes ?_ _))
  · intro l hl
    obtain ⟨hcandidate, hexpired⟩ := List.mem_filter.mp hl
    obtain ⟨hin, hevictable⟩ := mem_candidates.mp hcandidate
    exact ⟨hin, hevictable, hexpired⟩
  · exact (List.filter_sublist.map _).nodup (nodup_evictionCandidates hroots)
  · intro store hmuch
    have hless : policy.maxRecords < records store.lineages := of_decide_eq_true hmuch
    exact .inl (Nat.lt_succ_of_lt hless)
  · intro store hmuch
    have hless : policy.maxBytes < bytes store.lineages := of_decide_eq_true hmuch
    exact .inr hless.le

structure MadeRoom (ls ls' : List Lineage) (ok : Bool) : Prop where
  evicts : Evicts policy now root ls ls'
  room : ok = true → ¬ NoRoom policy ls'
  full : ok = false → NoRoom policy ls' ∧ ∀ l ∈ ls', ¬ Evictable root l

lemma madeRoom (hroots : (j.store.lineages.map Lineage.root).Nodup) :
    MadeRoom policy now root j.store.lineages (j.makeRoomForOneMore policy now root).1.store.lineages
      (j.makeRoomForOneMore policy now root).2 := by
  have hkept := evicts_enforceRetention policy now root hroots
  unfold Job.makeRoomForOneMore
  dsimp only
  generalize j.enforceRetention policy now (some root) = kept at hkept ⊢
  have hcounted := evicts_evictWhile policy now root kept .quotaRecords
    (fun store (hmuch : decide (policy.maxRecords < store.recordCount + 1) = true) =>
      .inl (of_decide_eq_true hmuch)) kept.store.lineages.length
  have hends := evictWhile_ends now root kept .quotaRecords
    (fun s => policy.maxRecords < s.recordCount + 1) (Nat.le_refl _)
  generalize Job.evictWhile now _ .quotaRecords (some root) _ kept = counted at hcounted hends ⊢
  split
  · rename_i hmuch
    refine ⟨hkept.trans hcounted, fun h => (Bool.false_ne_true h).elim, fun _ => ⟨.inl hmuch, ?_⟩⟩
    exact hends.resolve_left fun h => of_decide_eq_false h hmuch
  · rename_i hcount
    have hsized := evicts_evictWhile policy now root counted .quotaBytes
      (fun store (hmuch : decide (policy.maxBytes ≤ store.totalBytes) = true) =>
        .inr (of_decide_eq_true hmuch)) counted.store.lineages.length
    have hends' := evictWhile_ends now root counted .quotaBytes
      (fun s => policy.maxBytes ≤ s.totalBytes) (Nat.le_refl _)
    generalize Job.evictWhile now _ .quotaBytes (some root) _ counted = sized at hsized hends' ⊢
    have hrecords : records sized.store.lineages ≤ records counted.store.lineages :=
      recordCount_le_of_sublist hsized.sublist
    have hcount' : ¬ policy.maxRecords < records counted.store.lineages + 1 := hcount
    refine ⟨(hkept.trans hcounted).trans hsized, fun h => ?_, fun h => ?_⟩
    · have hless : bytes sized.store.lineages < policy.maxBytes := of_decide_eq_true h
      change ¬ (policy.maxRecords < records sized.store.lineages + 1 ∨
        policy.maxBytes ≤ bytes sized.store.lineages)
      omega
    · have hmuch : ¬ bytes sized.store.lineages < policy.maxBytes := of_decide_eq_false h
      refine ⟨.inr (Nat.le_of_not_lt hmuch), hends'.resolve_left fun h' => ?_⟩
      exact of_decide_eq_false h' (Nat.le_of_not_lt hmuch)

/-! ## The new record -/

variable {policy now}

lemma others_modifyLineage (store : Store) (hF : ∀ l, (F l).root = l.root) :
    ((store.modifyLineage root F).lineages.filter fun l => l.root ≠ root) =
      store.lineages.filter fun l => l.root ≠ root := by
  have hroot : ∀ l : Lineage, (if l.root = root then F l else l).root = l.root := by
    intro l
    split
    · exact hF l
    · rfl
  rw [Store.modifyLineage, List.filter_map]
  have hpred : ((fun l : Lineage => decide (l.root ≠ root)) ∘ fun l =>
      if l.root = root then F l else l) = fun l => decide (l.root ≠ root) := by
    funext l
    simp only [Function.comp_apply, hroot]
  rw [hpred]
  refine (List.map_congr_left fun l hl => ?_).trans (List.map_id _)
  exact if_neg (of_decide_eq_true (List.mem_filter.mp hl).2)

lemma roots_modifyLineage (store : Store) (hF : ∀ l, (F l).root = l.root) :
    (store.modifyLineage root F).lineages.map Lineage.root = store.lineages.map Lineage.root := by
  rw [Store.modifyLineage, List.map_map]
  refine List.map_congr_left fun l _ => ?_
  rw [Function.comp_apply]
  split
  · exact hF l
  · rfl

lemma records_modifyLineage (store : Store) (hF : ∀ l, (F l).sessions.length = l.sessions.length) :
    records (store.modifyLineage root F).lineages = records store.lineages := by
  rw [records, records, Store.modifyLineage, List.map_map]
  refine congrArg List.sum (List.map_congr_left fun l _ => ?_)
  rw [Function.comp_apply]
  split
  · exact hF l
  · rfl

lemma records_add (ls : List Lineage) (m : Session) :
    records (ls.map fun l => if l.root = root then { l with sessions := l.sessions ++ [m] } else l) =
      records ls + (ls.map Lineage.root).count root := by
  induction ls with
  | nil => rfl
  | cons l rest ih =>
    rw [records] at ih ⊢
    rw [records, List.map_cons, List.map_cons, List.map_cons, List.sum_cons, List.sum_cons, ih,
      List.map_cons, List.count_cons]
    rw [records]
    by_cases hl : l.root = root
    · simp only [hl, if_true, List.length_append, List.length_singleton, beq_self_eq_true]
      omega
    · have hbeq : (l.root == root) = false := by simpa using hl
      rw [if_neg hl, hbeq, if_neg Bool.false_ne_true]
      omega

lemma nodup_opened (h : (store.lineages.map Lineage.root).Nodup) :
    ((opened store root).map Lineage.root).Nodup := by
  unfold opened
  split
  · exact h
  · rename_i hnone
    rw [List.map_append, List.map_singleton]
    refine h.append (List.nodup_singleton _) (List.disjoint_singleton.mpr fun hmem => hnone ?_)
    obtain ⟨l, hl, hroot⟩ := List.mem_map.mp hmem
    exact List.any_eq_true.mpr ⟨l, hl, decide_eq_true hroot⟩

lemma others_opened (store : Store) :
    ((opened store root).filter fun l => l.root ≠ root) =
      store.lineages.filter fun l => l.root ≠ root := by
  unfold opened
  split
  · rfl
  · simp

lemma records_opened (store : Store) : records (opened store root) = records store.lineages := by
  unfold opened records
  split
  · rfl
  · simp

structure Registered (root : ℕ) (ls ls' : List Lineage) : Prop where
  others : (ls'.filter fun l => l.root ≠ root) = ls.filter fun l => l.root ≠ root
  roots : ∀ l ∈ ls, l.root ∈ ls'.map Lineage.root
  records : records ls' ≤ records ls + 1

variable (format) in
lemma registered_register (record : SessionRecord) (hroots : (j.store.lineages.map Lineage.root).Nodup) :
    Registered root j.store.lineages (j.register format root record).store.lineages := by
  let added : Store :=
    { lineages := (opened j.store root).map fun l =>
        if l.root = root then { l with sessions := l.sessions ++ [⟨record, 0⟩] } else l
      sessionIndex := (record.id, root) :: j.store.sessionIndex
      logTerminals := j.store.logTerminals }
  obtain ⟨b, hb⟩ : ∃ b : Lineage → ℕ, (j.register format root record).store =
      (added.modifySession root record.id fun m => { m with record := id m.record }).modifyLineage
        root fun l => { l with bytes := b l } :=
    writeRecord_store (j := (j.emit (.makeLineage root)).set added)
  let opening : Store := { j.store with lineages := opened j.store root }
  rw [hb]
  constructor
  · refine Eq.trans (others_modifyLineage root _ fun _ => rfl) ?_
    refine Eq.trans (others_modifyLineage root _ fun _ => rfl) ?_
    refine Eq.trans (others_modifyLineage root opening fun _ => rfl) ?_
    exact others_opened root j.store
  · intro l hl
    have hsame : ((added.modifySession root record.id fun m =>
        { m with record := id m.record }).modifyLineage root fun l =>
          { l with bytes := b l }).lineages.map Lineage.root =
            (opened j.store root).map Lineage.root := by
      refine Eq.trans (roots_modifyLineage root _ fun _ => rfl) ?_
      refine Eq.trans (roots_modifyLineage root _ fun _ => rfl) ?_
      exact roots_modifyLineage root opening fun _ => rfl
    rw [hsame]
    exact List.mem_map_of_mem (mem_opened_of_mem hl)
  · have hone := List.nodup_iff_count_le_one.mp (nodup_opened root hroots) root
    have hadded : records added.lineages = records j.store.lineages + _ :=
      (records_add root (opened j.store root) ⟨record, 0⟩).trans
        (congrArg (· + _) (records_opened root j.store))
    refine Nat.le_trans (Nat.le_of_eq ?_) (hadded.trans_le (Nat.add_le_add_left hone _))
    refine Eq.trans (records_modifyLineage root _ fun _ => rfl) ?_
    exact records_modifyLineage root _ fun _ => List.length_map _

/-! ## Creation -/

def Job.rootOf (j : Job) (new : NewSession) : ℕ :=
  (((new.resumeProviderSessionId.filter (· ≠ "")).bind j.store.findByProviderSessionId).map
    SessionRecord.rootSessionId).getD new.id

def Job.created (format : Format Content) (policy : RetentionPolicy) (now : ℕ) (new : Job.NewSession)
    (j : Job) : List Lineage :=
  (j.create format policy now new).1.store.lineages

/-- What `create` is to do under its budgets.  It gives up, and keeps all lineages, if those that
may not be evicted leave no room by themselves.  Else it is within the number of records, and evicts
only what may be evicted, for its age or as the least recent one while there is no room. -/
structure CreatesUnderQuota (format : Format Content) (policy : RetentionPolicy) (now : ℕ)
    (new : Job.NewSession) (j : Job) : Prop where
  throws : (j.create format policy now new).2 = false ↔
    NoRoom policy (pinned (j.rootOf new) j.store.lineages)
  records : (j.create format policy now new).2 = true →
    records (j.created format policy now new) ≤ policy.maxRecords
  evicts : (j.create format policy now new).2 = true → ∃ kept,
    Evicts policy now (j.rootOf new) j.store.lineages kept ∧
      ((j.created format policy now new).filter fun l => l.root ≠ j.rootOf new) =
        (kept.filter fun l => l.root ≠ j.rootOf new) ∧
      ∀ l ∈ kept, l.root ∈ (j.created format policy now new).map Lineage.root
  retained : (j.create format policy now new).2 = false →
    ∀ l ∈ j.store.lineages, l ∈ j.created format policy now new

variable (format policy now) in
/-- What `create` does when room was made. -/
lemma create_madeRoom (new : Job.NewSession) (hroots : (j.store.lineages.map Lineage.root).Nodup) :
    ∃ kept, MadeRoom policy now (j.rootOf new) j.store.lineages kept
        (j.create format policy now new).2 ∧
      ((j.create format policy now new).2 = false → j.created format policy now new = kept) ∧
      ((j.create format policy now new).2 = true →
        Registered (j.rootOf new) kept (j.created format policy now new)) := by
  have hmade := madeRoom policy now (j.rootOf new) hroots
  refine ⟨(j.makeRoomForOneMore policy now (j.rootOf new)).1.store.lineages, ?_⟩
  have hkept := ((hmade.evicts.sublist).map Lineage.root).nodup hroots
  unfold Job.created Job.create
  unfold Job.rootOf at hmade hkept ⊢
  dsimp only
  generalize Option.bind _ j.store.findByProviderSessionId = parent at hmade hkept ⊢
  generalize Job.makeRoomForOneMore policy now _ j = made at hmade hkept ⊢
  obtain ⟨j', ok⟩ := made
  cases ok with
  | false => exact ⟨hmade, fun _ => rfl, fun h => (Bool.false_ne_true h).elim⟩
  | true =>
    refine ⟨hmade, fun h => (Bool.false_ne_true h.symm).elim, fun _ => ?_⟩
    exact registered_register format _ _ hkept

def rootRecord (id : ℕ) (status : SessionStatus) (completedAt : Option ℕ) : SessionRecord where
  id := id
  status := status
  startedAt := 5
  completedAt := completedAt
  acceptedWork := .accepted
  rootSessionId := id
  parentSessionId := none
  scope := sampleScope

def grownJob : Job where
  store :=
    { lineages :=
        [⟨1, [⟨{ rootRecord 1 .starting none with eventCount := 3000 }, 3000⟩], 64 * 1024 * 1024⟩,
          ⟨2, [⟨rootRecord 2 .completed (some 6), 0⟩], 600⟩]
      sessionIndex := [(2, 2), (1, 1)] }
  disk :=
    { manifest := some persistedSchemaVersion
      lineages :=
        [⟨1, [⟨rootRecord 1 .starting none, List.replicate (64 * 1024 * 1024 - 600) 32⟩]⟩,
          ⟨2, [⟨rootRecord 2 .completed (some 6), []⟩]⟩] }

/-- **Creation under quota.**  `create` does what it is to do exactly if, whenever it has to give
up, there is no lineage that may be evicted. -/
theorem createsUnderQuota_iff {j : Job} {new : Job.NewSession}
    (hroots : (j.store.lineages.map Lineage.root).Nodup) :
    CreatesUnderQuota format policy now new j ↔
      (NoRoom policy (pinned (j.rootOf new) j.store.lineages) →
        ∀ l ∈ j.store.lineages, ¬ Evictable (j.rootOf new) l) := by
  obtain ⟨kept, hmade, hfull, hregistered⟩ := create_madeRoom format policy now new hroots
  have hpinned := hmade.evicts.pinned_eq hroots
  have hthrows : (j.create format policy now new).2 = false ↔
      NoRoom policy (pinned (j.rootOf new) j.store.lineages) := by
    constructor
    · intro h
      obtain ⟨hnone, hall⟩ := hmade.full h
      rw [← hpinned, pinned_eq_self hall]
      exact hnone
    · intro h
      rw [← hpinned] at h
      refine Bool.eq_false_iff.mpr fun hok => hmade.room hok ?_
      exact noRoom_of_sublist List.filter_sublist h
  constructor
  · intro h hnone l hl hevictable
    have hfalse := hthrows.mpr hnone
    have hstay := h.retained hfalse l hl
    rw [hfull hfalse] at hstay
    exact (hmade.full hfalse).2 l hstay hevictable
  · intro h
    refine ⟨hthrows, fun hok => ?_, fun hok => ?_, fun hfalse l hl => ?_⟩
    · have hroom := hmade.room hok
      have hrecords := (hregistered hok).records
      unfold NoRoom at hroom
      omega
    · exact ⟨kept, hmade.evicts, (hregistered hok).others, (hregistered hok).roots⟩
    · rw [hfull hfalse, hmade.evicts.eq_self (h (hthrows.mp hfalse))]
      exact hl

theorem createsUnderQuota_iff_grown :
    CreatesUnderQuota textFormat {} 9 ⟨3, 9, sampleScope, none⟩ grownJob ↔
      (NoRoom {} (pinned 3 grownJob.store.lineages) →
        ∀ l ∈ grownJob.store.lineages, ¬ Evictable 3 l) :=
  createsUnderQuota_iff (by decide)

theorem not_createsUnderQuota_grown :
    ¬ CreatesUnderQuota textFormat {} 9 ⟨3, 9, sampleScope, none⟩ grownJob := by
  intro h
  have hleft : (grownJob.created textFormat {} 9 ⟨3, 9, sampleScope, none⟩).map Lineage.root = [1] := by
    decide
  have hstay := h.retained (by decide) _ (List.mem_cons_of_mem _ List.mem_cons_self)
  have hroot := List.mem_map_of_mem (f := Lineage.root) hstay
  rw [hleft] at hroot
  exact absurd hroot (by decide)

end VacancyRadar.Sessions
