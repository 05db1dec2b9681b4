import VacancyRadar.SearchPlan.Ledger

/-!
# The shares of a pass

The shares of the providers of a pass and its pool make up its limit, whatever is given back and
borrowed, and in whatever order.
-/

namespace VacancyRadar.SearchPlan

open Data

def shared (quotas : Assoc String ProviderQuota) : ℕ :=
  Assoc.total ProviderQuota.limit quotas

def spent (quotas : Assoc String ProviderQuota) : ℕ :=
  Assoc.total ProviderQuota.used quotas

structure Split (pass : Pass) (quotas : Assoc String ProviderQuota) : Prop where
  limit : pass.limit = some (shared quotas + pass.pool)
  used : pass.used = spent quotas
  within : ∀ entry ∈ quotas, entry.2.used ≤ entry.2.limit

structure PassOk (pass : Pass) : Prop where
  used_le : ∀ limit ∈ pass.limit, pass.used ≤ limit
  split : ∀ quotas ∈ pass.quotas, Split pass quotas

variable {pass : Pass} {quotas : Assoc String ProviderQuota} {provider : String}
  {quota : ProviderQuota}

lemma spent_le_shared (h : ∀ entry ∈ quotas, entry.2.used ≤ entry.2.limit) :
    spent quotas ≤ shared quotas :=
  Assoc.total_le_total h

lemma PassOk.of_split (h : ∀ quotas ∈ pass.quotas, Split pass quotas) (hsome : pass.quotas.isSome) :
    PassOk pass where
  used_le limit hlimit := by
    obtain ⟨quotas, hquotas⟩ := Option.isSome_iff_exists.mp hsome
    have hsplit := h quotas hquotas
    have := spent_le_shared hsplit.within
    rw [hsplit.limit, Option.mem_some_iff] at hlimit
    rw [hsplit.used]
    omega
  split := h

lemma PassOk.unsplit (hle : ∀ limit ∈ pass.limit, pass.used ≤ limit) (hnone : pass.quotas = none) :
    PassOk pass where
  used_le := hle
  split quotas hquotas := by
    rw [hnone] at hquotas
    cases hquotas

/-! ## New passes -/

/-- The shares of the providers from an index on, of which the first `limit % n` get one more. -/
lemma shared_shares (limit n : ℕ) (providers : List String) (hnodup : providers.Nodup) (index : ℕ)
    (quotas : Assoc String ProviderQuota) (hnone : ∀ p ∈ providers, quotas.get? p = none) :
    shared (shares limit n index providers quotas) =
      shared quotas + providers.length * (limit / n) +
        (min (limit % n) (index + providers.length) - min (limit % n) index) := by
  induction providers generalizing index quotas with
  | nil => simp [shares]
  | cons first rest ih =>
    obtain ⟨hfirst, hrest⟩ := List.nodup_cons.mp hnodup
    have hset : ∀ quota : ProviderQuota,
        shared (quotas.set first quota) = shared quotas + quota.limit := fun quota =>
      Assoc.total_set_of_none _ (hnone first (List.mem_cons_self ..))
    rw [shares, ih hrest]
    · rw [hset]
      simp only [List.length_cons, Nat.add_mul, Nat.one_mul]
      split <;> omega
    · intro p hp
      rw [Assoc.get?_set_of_ne (by rintro rfl; exact hfirst hp)]
      exact hnone p (List.mem_cons_of_mem _ hp)

lemma used_of_mem_shares (limit n : ℕ) (providers : List String) (index : ℕ)
    (quotas : Assoc String ProviderQuota) (hused : ∀ entry ∈ quotas, entry.2.used = 0) :
    ∀ entry ∈ shares limit n index providers quotas, entry.2.used = 0 := by
  induction providers generalizing index quotas with
  | nil => exact hused
  | cons first rest ih =>
    refine ih _ _ fun entry hentry => ?_
    rcases Assoc.mem_set hentry with rfl | hentry
    · rfl
    · exact hused entry hentry

lemma spent_eq_zero (h : ∀ entry ∈ quotas, entry.2.used = 0) : spent quotas = 0 := by
  induction quotas with
  | nil => rfl
  | cons entry rest ih =>
    have hfirst := h entry (List.mem_cons_self ..)
    have hrest := ih fun e he => h e (List.mem_cons_of_mem _ he)
    show entry.2.used + spent rest = 0
    omega

lemma passOk_literalPass : PassOk literalPass :=
  .unsplit (fun _ h => by cases h) rfl

lemma passOk_variantPass (id : String) (limit : ℕ) {providers : List String}
    (hnodup : providers.Nodup) : PassOk (variantPass id limit providers) := by
  by_cases hnil : providers = []
  · refine .unsplit (fun _ _ => Nat.zero_le _) ?_
    rw [variantPass, if_pos hnil]
  · refine .of_split ?_ (by rw [variantPass, if_neg hnil]; rfl)
    intro quotas hquotas
    rw [variantPass, if_neg hnil, Option.mem_some_iff] at hquotas
    subst hquotas
    have hused := used_of_mem_shares limit providers.length providers 0 [] nofun
    refine ⟨?_, (spent_eq_zero hused).symm, fun entry hentry => by rw [hused entry hentry]; omega⟩
    rw [shared_shares _ _ _ hnodup _ _ fun _ _ => rfl]
    have hpos : 0 < providers.length := List.length_pos_iff.mpr hnil
    have hmod := Nat.mod_lt limit hpos
    have hdiv := Nat.div_add_mod limit providers.length
    show some limit = some (0 + _ + _ + 0)
    rw [Nat.zero_add, Nat.min_eq_left (by omega), Nat.min_zero]
    exact congrArg some (by omega)

/-! ## What providers leave and borrow -/

lemma shared_set (h : quotas.get? provider = some quota) (next : ProviderQuota) :
    shared (quotas.set provider next) + quota.limit = shared quotas + next.limit :=
  Assoc.total_set_of_some _ h

lemma spent_set (h : quotas.get? provider = some quota) (next : ProviderQuota) :
    spent (quotas.set provider next) + quota.used = spent quotas + next.used :=
  Assoc.total_set_of_some _ h

lemma within_set {next : ProviderQuota} (h : ∀ entry ∈ quotas, entry.2.used ≤ entry.2.limit)
    (hnext : next.used ≤ next.limit) :
    ∀ entry ∈ quotas.set provider next, entry.2.used ≤ entry.2.limit := by
  intro entry hentry
  rcases Assoc.mem_set hentry with rfl | hentry
  · exact hnext
  · exact h entry hentry

lemma quotas_finishProvider (pass : Pass) (provider : String) :
    (pass.finishProvider provider).quotas.isSome = pass.quotas.isSome := by
  rw [Pass.finishProvider]
  split
  · rfl
  · next quotas hquotas =>
    rw [hquotas]
    split
    · exact congrArg _ hquotas
    · split
      · exact congrArg _ hquotas
      · rfl

lemma PassOk.finishProvider (h : PassOk pass) (provider : String) :
    PassOk (pass.finishProvider provider) := by
  rw [Pass.finishProvider]
  split
  · exact h
  · next quotas hquotas =>
    split
    · exact h
    · next quota hquota =>
      split
      · exact h
      · obtain ⟨hlimit, hused, hwithin⟩ := h.split quotas hquotas
        have hle := hwithin _ (Assoc.mem_of_get? hquota)
        have hshared := shared_set hquota { quota with done := true, limit := quota.used }
        have hspent := spent_set hquota { quota with done := true, limit := quota.used }
        dsimp only at hle hshared hspent
        refine .of_split ?_ rfl
        rintro _ ⟨⟩
        refine ⟨?_, ?_, within_set hwithin (Nat.le_refl _)⟩
        · show pass.limit = some (shared (quotas.set provider _) + (pass.pool + _))
          rw [hlimit]
          exact congrArg some (by omega)
        · show pass.used = spent _
          omega

lemma PassOk.draw (h : PassOk pass) (hsome : pass.quotas.isSome)
    (hpool : ∀ quotas ∈ pass.quotas, Pass.UsedUp quotas provider → 0 < pass.pool) :
    PassOk (pass.draw (some provider)) ∧
      ∃ quotas quota, (pass.draw (some provider)).quotas = some quotas ∧
        quotas.get? provider = some quota ∧ quota.used < quota.limit := by
  obtain ⟨quotas, hquotas⟩ := Option.isSome_iff_exists.mp hsome
  obtain ⟨hlimit, hused, hwithin⟩ := h.split quotas hquotas
  simp only [Pass.draw, hquotas]
  by_cases hup : Pass.UsedUp quotas provider
  · have hpos := hpool quotas hquotas hup
    rw [if_pos hup]
    cases hquota : quotas.get? provider with
    | none =>
      have hshared : ∀ next : ProviderQuota,
          shared (quotas.set provider next) = shared quotas + next.limit := fun next =>
        Assoc.total_set_of_none _ hquota
      have hspent : ∀ next : ProviderQuota,
          spent (quotas.set provider next) = spent quotas + next.used := fun next =>
        Assoc.total_set_of_none _ hquota
      refine ⟨.of_split ?_ rfl, _, _, rfl, Assoc.get?_set_self, Nat.zero_lt_one⟩
      rintro _ ⟨⟩
      refine ⟨?_, ?_, within_set hwithin (Nat.zero_le _)⟩
      · show pass.limit = some (shared _ + (pass.pool - 1))
        rw [hlimit, hshared]
        exact congrArg some (by dsimp only; omega)
      · show pass.used = spent _
        rw [hspent]
        exact hused
    | some quota =>
      dsimp only
      have hle := hwithin _ (Assoc.mem_of_get? hquota)
      have hshared := shared_set hquota { quota with limit := quota.limit + 1 }
      have hspent := spent_set hquota { quota with limit := quota.limit + 1 }
      dsimp only at hle hshared hspent
      refine ⟨.of_split ?_ rfl, _, _, rfl, Assoc.get?_set_self, Nat.lt_succ_of_le hle⟩
      rintro _ ⟨⟩
      refine ⟨?_, ?_, within_set hwithin (Nat.le_succ_of_le hle)⟩
      · show pass.limit = some (shared _ + (pass.pool - 1))
        rw [hlimit]
        exact congrArg some (by omega)
      · show pass.used = spent _
        omega
  · rw [if_neg hup]
    simp only [Pass.UsedUp, not_forall] at hup
    obtain ⟨quota, hquota, hlt⟩ := hup
    exact ⟨h, quotas, quota, hquotas, hquota, by omega⟩

lemma PassOk.charge (h : PassOk pass)
    (hquotas : ∃ quotas quota, pass.quotas = some quotas ∧
      quotas.get? provider = some quota ∧ quota.used < quota.limit) :
    PassOk (pass.charge (some provider)) := by
  obtain ⟨quotas, quota, hquotas, hquota, hlt⟩ := hquotas
  obtain ⟨hlimit, hused, hwithin⟩ := h.split quotas hquotas
  have hshared := shared_set hquota { quota with used := quota.used + 1 }
  have hspent := spent_set hquota { quota with used := quota.used + 1 }
  dsimp only at hshared hspent
  simp only [Pass.charge, hquotas, hquota]
  refine .of_split ?_ rfl
  rintro _ ⟨⟩
  refine ⟨?_, ?_, within_set hwithin hlt⟩
  · show pass.limit = some (shared _ + pass.pool)
    rw [hlimit]
    exact congrArg some (by omega)
  · show pass.used + 1 = spent _
    omega

/-! ## Refusals -/

def Exhausted (pass : Pass) (provider : Option String) : Prop :=
  match provider, pass.quotas with
  | some provider, some quotas => Pass.UsedUp quotas provider ∧ pass.pool = 0
  | _, _ => pass.limit = some pass.used

variable {ledger : Ledger} {asked : Option String}

lemma PassOk.exhausted (h : PassOk pass) (hrefused : ledger.refusalOf pass asked = some .request) :
    ledger.maxRequests ≤ ledger.attempts ∨ Exhausted pass asked := by
  unfold Ledger.refusalOf at hrefused
  split at hrefused
  · cases hrefused
  split at hrefused
  · next hmax => exact .inl hmax
  right
  split at hrefused
  · next hpass =>
    obtain ⟨limit, hlimit, hle⟩ := hpass
    unfold Exhausted
    split
    · next provider quotas hquotas =>
      obtain ⟨hsplit, hused, hwithin⟩ := h.split quotas hquotas
      have hspent := spent_le_shared hwithin
      rw [hsplit, Option.mem_some_iff] at hlimit
      refine ⟨fun quota hquota => ?_, by omega⟩
      have hall := Assoc.le_of_total_le (g := ProviderQuota.limit) hwithin
        (show shared quotas ≤ spent quotas by omega)
      exact hall _ (Assoc.mem_of_get? hquota)
    · rw [Option.mem_def.mp hlimit]
      exact congrArg some (Nat.le_antisymm hle (h.used_le limit hlimit))
  · split at hrefused
    · next quotas hquotas =>
      split at hrefused
      · next hup =>
        unfold Exhausted
        simpa only [hquotas] using hup
      · cases hrefused
    · cases hrefused

lemma PassOk.admitted (h : PassOk pass) (hadmitted : ledger.refusalOf pass asked = none)
    (hasked : pass.quotas.isSome → asked.isSome) : PassOk ((pass.draw asked).charge asked) := by
  unfold Ledger.refusalOf at hadmitted
  split at hadmitted
  · cases hadmitted
  split at hadmitted
  · cases hadmitted
  split at hadmitted
  · cases hadmitted
  next hroom =>
  by_cases hsome : pass.quotas.isSome
  · obtain ⟨provider, rfl⟩ := Option.isSome_iff_exists.mp (hasked hsome)
    obtain ⟨quotas, hquotas⟩ := Option.isSome_iff_exists.mp hsome
    simp only [hquotas] at hadmitted
    split at hadmitted
    · cases hadmitted
    next hpool =>
    have hleft : ∀ quotas ∈ pass.quotas, Pass.UsedUp quotas provider → 0 < pass.pool := by
      intro quotas' hquotas' hup
      rw [hquotas, Option.mem_some_iff] at hquotas'
      subst hquotas'
      by_contra hzero
      exact hpool ⟨hup, by omega⟩
    obtain ⟨hdraw, hroom⟩ := h.draw hsome hleft
    exact hdraw.charge hroom
  · rw [Option.not_isSome_iff_eq_none] at hsome
    have hdraw : pass.draw asked = pass := by
      unfold Pass.draw
      rw [hsome]
      cases asked <;> rfl
    rw [hdraw]
    refine .unsplit ?_ (by simp only [Pass.charge, hsome])
    intro limit hlimit
    show pass.used + 1 ≤ limit
    by_contra hlt
    exact hroom ⟨limit, hlimit, by omega⟩

end VacancyRadar.SearchPlan
