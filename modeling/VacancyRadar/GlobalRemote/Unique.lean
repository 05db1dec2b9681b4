import Mathlib.Data.List.Pairwise
import VacancyRadar.Data.Grouping
import VacancyRadar.GlobalRemote.Row

/-!
# One row for each vacancy

`pipeline/global-remote.ts`: the rows of discovery that are about one vacancy are merged.  One of them
survives, and takes the sources, the places and the texts of all of them, and the salary of one.
-/

namespace VacancyRadar.GlobalRemote

open Data DiscoveryVacancyAudit

variable {ρ : Type}

/-! ## Merging -/

def identityMergePriority : DiscoveryProvider → ℕ
  | .workableGlobal => 0
  | .atsRosterGreenhouse | .atsRosterLever | .atsRosterAshby | .atsRosterRecruitee | .atsRosterPersonio => 1
  | _ => 2

/-- The order of the rows of a group, which have their places in the list with them. -/
def MergesBefore (left right : DiscoveryVacancyAudit ρ × ℕ) : Prop :=
  identityMergePriority left.1.provider < identityMergePriority right.1.provider ∨
    identityMergePriority left.1.provider = identityMergePriority right.1.provider ∧ left.2 ≤ right.2

instance : DecidableRel (MergesBefore (ρ := ρ)) := fun left right =>
  inferInstanceAs (Decidable (identityMergePriority left.1.provider < identityMergePriority right.1.provider ∨
    identityMergePriority left.1.provider = identityMergePriority right.1.provider ∧ left.2 ≤ right.2))

instance : Std.Total (MergesBefore (ρ := ρ)) := ⟨by
  intro left right
  rw [MergesBefore, MergesBefore]
  omega⟩

instance : IsTrans (DiscoveryVacancyAudit ρ × ℕ) MergesBefore := ⟨by
  intro left middle right h₁ h₂
  rw [MergesBefore] at h₁ h₂ ⊢
  omega⟩

def mergeQueryProvenance (provenances : List (Option LeadQueryProvenance)) : Option LeadQueryProvenance :=
  match provenances.filterMap id with
  | [] => none
  | first :: rest =>
    some ⟨first.planRevision, lasts (fun origin => origin.variantId ++ "::" ++ origin.provider.name)
      ((first :: rest).flatMap LeadQueryProvenance.fetchedBy), []⟩

def VacancySourceReference.dedupeKey (reference : VacancySourceReference) : String :=
  reference.provider.name ++ "::" ++ reference.key

def salaryEvidence (ordered : List (DiscoveryVacancyAudit ρ)) : Option (DiscoveryVacancyAudit ρ) :=
  (ordered.find? fun vacancy => vacancy.normalizedAnnualMinimum ≠ none ∧
    vacancy.salaryProvenance = some .reviewedStructured).or
  (ordered.find? fun vacancy => vacancy.advertisedMinimum ≠ none)

def withSalaryOf (primary : DiscoveryVacancyAudit ρ) :
    Option (DiscoveryVacancyAudit ρ) → DiscoveryVacancyAudit ρ
  | none => primary
  | some evidence =>
    { primary with
      currency := evidence.currency
      salaryPeriod := evidence.salaryPeriod
      advertisedMinimum := evidence.advertisedMinimum
      annualizedMinimumUsd := evidence.annualizedMinimumUsd
      normalizedAnnualMinimum := evidence.normalizedAnnualMinimum
      normalizedCurrency := evidence.normalizedCurrency
      normalizationMethod := evidence.normalizationMethod
      assumptionProvenance := evidence.assumptionProvenance
      salaryProvenance := evidence.salaryProvenance
      salaryProvider := evidence.salaryProvider
      salarySourceKey := evidence.salarySourceKey
      salarySourceUrl := evidence.salarySourceUrl }

section

variable (platform : Platform)

def mergeOrdered (primary : DiscoveryVacancyAudit ρ) (others : List (DiscoveryVacancyAudit ρ)) :
    DiscoveryVacancyAudit ρ :=
  let ordered := primary :: others
  let identity := vacancyIdentityFor platform primary.identityInput
  { withSalaryOf primary (salaryEvidence ordered) with
    locations := some (firsts id (ordered.flatMap ownLocations))
    searchableText := some (firsts id (ordered.flatMap fun vacancy =>
      vacancy.searchableText.getD [trim vacancy.titleAndDescription]))
    employmentTypes := some (firsts id (ordered.flatMap ownEmploymentTypes))
    sourceUrl := some (primary.sourceUrl.getD primary.url)
    identity := some identity
    applyUrl := some (resolveApplyUrl identity primary.url)
    sources := some (firsts VacancySourceReference.dedupeKey (ordered.flatMap ownSourceReferences))
    queryProvenance := (mergeQueryProvenance (ordered.map queryProvenance)).or primary.queryProvenance }

/-- `mergeIdentityGroup`.  There is no empty group. -/
def mergeIdentityGroup (group : List (DiscoveryVacancyAudit ρ × ℕ)) : Option (DiscoveryVacancyAudit ρ) :=
  match (group.insertionSort MergesBefore).map Prod.fst with
  | [] => none
  | primary :: others => some (mergeOrdered platform primary others)

def rowKey (vacancy : DiscoveryVacancyAudit ρ) : String :=
  (vacancyIdentityFor platform vacancy.identityInput).groupKey

def compareRows : DiscoveryVacancyAudit ρ → DiscoveryVacancyAudit ρ → Ordering :=
  compareLex (fun left right => platform.localeCompare left.company right.company)
    (fun left right => platform.localeCompare left.title right.title)

def mergedGroups (vacancies : List (DiscoveryVacancyAudit ρ)) : List (DiscoveryVacancyAudit ρ) :=
  (groupBy (fun entry => rowKey platform entry.1) vacancies.zipIdx).filterMap fun group =>
    mergeIdentityGroup platform group.2

def uniqueDiscovery (vacancies : List (DiscoveryVacancyAudit ρ)) : List (DiscoveryVacancyAudit ρ) :=
  (mergedGroups platform vacancies).insertionSort fun left right => (compareRows platform left right).isLE = true

end

/-! ## A merged row -/

variable {platform : Platform} {primary : DiscoveryVacancyAudit ρ} {others : List (DiscoveryVacancyAudit ρ)}

lemma mem_of_salaryEvidence {ordered : List (DiscoveryVacancyAudit ρ)} {evidence : DiscoveryVacancyAudit ρ}
    (h : salaryEvidence ordered = some evidence) : evidence ∈ ordered := by
  rw [salaryEvidence, Option.or_eq_some_iff] at h
  rcases h with h | ⟨-, h⟩
  · exact List.mem_of_find?_eq_some h
  · exact List.mem_of_find?_eq_some h

lemma withSalaryOf_identityInput (evidence : Option (DiscoveryVacancyAudit ρ)) :
    (withSalaryOf primary evidence).identityInput = primary.identityInput := by
  cases evidence <;> rfl

/-- What identifies the survivor is left as it is. -/
@[simp] lemma mergeOrdered_identityInput :
    (mergeOrdered platform primary others).identityInput = primary.identityInput :=
  withSalaryOf_identityInput (salaryEvidence (primary :: others))

@[simp] lemma rowKey_mergeOrdered :
    rowKey platform (mergeOrdered platform primary others) = rowKey platform primary :=
  congrArg (fun input => (vacancyIdentityFor platform input).groupKey) mergeOrdered_identityInput

lemma mergeOrdered_toSalaryFields : ∃ row ∈ primary :: others,
    (mergeOrdered platform primary others).toSalaryFields = row.toSalaryFields := by
  cases h : salaryEvidence (primary :: others) with
  | none =>
    refine ⟨primary, List.mem_cons_self, ?_⟩
    show (withSalaryOf primary (salaryEvidence (primary :: others))).toSalaryFields = _
    rw [h, withSalaryOf]
  | some evidence =>
    refine ⟨evidence, mem_of_salaryEvidence h, ?_⟩
    show (withSalaryOf primary (salaryEvidence (primary :: others))).toSalaryFields = _
    rw [h, withSalaryOf]

lemma dedupeKey_inj {a b : VacancySourceReference} :
    a.dedupeKey = b.dedupeKey ↔ (a.provider, a.key) = (b.provider, b.key) := by
  constructor
  · intro h
    obtain ⟨hname, hkey⟩ := colons_inj a.provider.colon_not_mem_name b.provider.colon_not_mem_name h
    exact Prod.ext (DiscoveryProvider.name_inj hname) hkey
  · intro h
    obtain ⟨hprovider, hkey⟩ := Prod.ext_iff.mp h
    show a.provider.name ++ "::" ++ a.key = b.provider.name ++ "::" ++ b.key
    rw [show a.provider = b.provider from hprovider, show a.key = b.key from hkey]

variable {reference : DiscoveryProvider × String} {group : List (DiscoveryVacancyAudit ρ × ℕ)}
  {merged : DiscoveryVacancyAudit ρ}

lemma mem_references_mergeOrdered :
    reference ∈ (mergeOrdered platform primary others).references ↔
      ∃ row ∈ primary :: others, reference ∈ row.references := by
  constructor
  · intro h
    obtain ⟨source, hsource, rfl⟩ := List.mem_map.mp h
    obtain ⟨row, hrow, hmem⟩ := List.mem_flatMap.mp (mem_of_mem_firsts hsource)
    exact ⟨row, hrow, List.mem_map_of_mem hmem⟩
  · rintro ⟨row, hrow, h⟩
    obtain ⟨source, hsource, rfl⟩ := List.mem_map.mp h
    have hall : source ∈ (primary :: others).flatMap ownSourceReferences :=
      List.mem_flatMap.mpr ⟨row, hrow, hsource⟩
    obtain ⟨kept, hkept, heq⟩ : ∃ kept ∈ firsts VacancySourceReference.dedupeKey
        ((primary :: others).flatMap ownSourceReferences), kept.dedupeKey = source.dedupeKey := exists_mem_firsts hall
    rw [← dedupeKey_inj.mp heq]
    exact List.mem_map_of_mem (f := fun reference => (reference.provider, reference.key)) hkept

lemma nodup_references_mergeOrdered : (mergeOrdered platform primary others).references.Nodup := by
  have hkeys : ((firsts VacancySourceReference.dedupeKey
      ((primary :: others).flatMap ownSourceReferences)).map VacancySourceReference.dedupeKey).Nodup :=
    nodup_keys_firsts
  have hpairs := List.inj_on_of_nodup_map hkeys
  refine List.Nodup.map_on ?_ (List.Nodup.of_map _ hkeys)
  intro a ha b hb heq
  exact hpairs ha hb (dedupeKey_inj.mpr heq)

/-! ## Merging again -/

structure Settled (platform : Platform) (row : DiscoveryVacancyAudit ρ) : Prop where
  locations : ∃ texts : List String, texts.Nodup ∧ row.locations = some texts
  searchableText : ∃ texts : List String, texts.Nodup ∧ row.searchableText = some texts
  employmentTypes : ∃ texts : List String, texts.Nodup ∧ row.employmentTypes = some texts
  sources : ∃ sources : List VacancySourceReference,
    (sources.map VacancySourceReference.dedupeKey).Nodup ∧ row.sources = some sources
  sourceUrl : row.sourceUrl = some (row.sourceUrl.getD row.url)
  identity : row.identity = some (vacancyIdentityFor platform row.identityInput)
  applyUrl : row.applyUrl = some (resolveApplyUrl (vacancyIdentityFor platform row.identityInput) row.url)
  queryProvenance : (mergeQueryProvenance [row.queryProvenance]).or row.queryProvenance = row.queryProvenance

lemma nodup_firsts_id (texts : List String) : (firsts id texts).Nodup := by
  have hkeys : ((firsts id texts).map id).Nodup := nodup_keys_firsts
  rwa [List.map_id] at hkeys

lemma mergeQueryProvenance_mergeQueryProvenance (provenances : List (Option LeadQueryProvenance)) :
    mergeQueryProvenance [mergeQueryProvenance provenances] = mergeQueryProvenance provenances := by
  rw [mergeQueryProvenance]
  cases h : mergeQueryProvenance provenances with
  | none => rfl
  | some merged =>
    obtain ⟨hmatches, hfetched⟩ : merged.matchedLocally = [] ∧
        lasts (fun origin => origin.variantId ++ "::" ++ origin.provider.name) merged.fetchedBy =
          merged.fetchedBy := by
      rw [mergeQueryProvenance] at h
      split at h
      · cases h
      · cases h
        exact ⟨rfl, lasts_lasts⟩
    show some (LeadQueryProvenance.mk merged.planRevision (lasts _ (merged.fetchedBy ++ [])) []) = some merged
    rw [List.append_nil, hfetched, ← hmatches]

lemma mergeQueryProvenance_or (provenances : List (Option LeadQueryProvenance)) :
    ((mergeQueryProvenance [(mergeQueryProvenance (primary.queryProvenance :: provenances)).or
      primary.queryProvenance]).or ((mergeQueryProvenance (primary.queryProvenance :: provenances)).or
        primary.queryProvenance)) =
      (mergeQueryProvenance (primary.queryProvenance :: provenances)).or primary.queryProvenance := by
  cases h : mergeQueryProvenance (primary.queryProvenance :: provenances) with
  | some merged =>
    rw [Option.some_or, ← h, mergeQueryProvenance_mergeQueryProvenance, h, Option.some_or]
  | none =>
    -- then the survivor has none
    cases hprimary : primary.queryProvenance with
    | none => rfl
    | some own =>
      rw [hprimary] at h
      cases h

lemma mergeOrdered_settled : Settled platform (mergeOrdered platform primary others) where
  locations := ⟨_, nodup_firsts_id _, rfl⟩
  searchableText := ⟨_, nodup_firsts_id _, rfl⟩
  employmentTypes := ⟨_, nodup_firsts_id _, rfl⟩
  sources := ⟨_, nodup_keys_firsts, rfl⟩
  sourceUrl := rfl
  identity := by
    rw [mergeOrdered_identityInput]
    rfl
  applyUrl := by
    have hinput := @mergeOrdered_identityInput ρ platform primary others
    have hurl : (mergeOrdered platform primary others).url = primary.url := congrArg IdentityInput.url hinput
    rw [hinput, hurl]
    rfl
  queryProvenance := mergeQueryProvenance_or (others.map DiscoveryVacancyAudit.queryProvenance)

lemma withSalaryOf_salaryEvidence_singleton (row : DiscoveryVacancyAudit ρ) :
    withSalaryOf row (salaryEvidence [row]) = row := by
  cases h : salaryEvidence [row] with
  | none => rfl
  | some evidence =>
    obtain rfl := List.mem_singleton.mp (mem_of_salaryEvidence h)
    rfl

lemma Settled.mergeOrdered_nil {row : DiscoveryVacancyAudit ρ} (h : Settled platform row) :
    mergeOrdered platform row [] = row := by
  obtain ⟨places, hplaces, hlocations⟩ := h.locations
  obtain ⟨texts, htexts, hsearchable⟩ := h.searchableText
  obtain ⟨labels, hlabels, hemployment⟩ := h.employmentTypes
  obtain ⟨sources, hsources, hown⟩ := h.sources
  have hid : ∀ l : List String, l.Nodup → firsts id l = l := by
    intro l hl
    exact firsts_of_nodup (by rwa [List.map_id])
  rw [mergeOrdered, withSalaryOf_salaryEvidence_singleton]
  simp only [List.flatMap_singleton, ownLocations, hlocations, hsearchable, ownEmploymentTypes, hemployment,
    ownSourceReferences, hown, Option.getD_some, hid places hplaces, hid texts htexts, hid labels hlabels,
    firsts_of_nodup hsources]
  rw [← hlocations, ← hsearchable, ← hemployment, ← hown, ← h.sourceUrl, ← h.identity, ← h.applyUrl]
  show { row with queryProvenance := (mergeQueryProvenance [row.queryProvenance]).or row.queryProvenance } = row
  rw [h.queryProvenance]

/-! ## The groups -/

def Survives (platform : Platform) (vacancies : List (DiscoveryVacancyAudit ρ)) (row : DiscoveryVacancyAudit ρ) :
    Prop :=
  ∃ i, vacancies[i]? = some row ∧ ∀ j other, vacancies[j]? = some other →
    rowKey platform other = rowKey platform row → MergesBefore (row, i) (other, j)

variable {vacancies : List (DiscoveryVacancyAudit ρ)} {row other : DiscoveryVacancyAudit ρ}

lemma Survives.unique (h : Survives platform vacancies row) (hother : Survives platform vacancies other)
    (hkey : rowKey platform other = rowKey platform row) : row = other := by
  obtain ⟨i, hrow, hfirst⟩ := h
  obtain ⟨j, hget, hbefore⟩ := hother
  have hij := hfirst j other hget hkey
  have hji := hbefore i row hrow hkey.symm
  have hindex : i = j := by
    rw [MergesBefore] at hij hji
    omega
  rw [hindex, hget] at hrow
  exact (Option.some.inj hrow).symm

structure MergesInto (platform : Platform) (vacancies : List (DiscoveryVacancyAudit ρ))
    (primary : DiscoveryVacancyAudit ρ) (others : List (DiscoveryVacancyAudit ρ)) : Prop where
  mem_iff : ∀ row, row ∈ primary :: others ↔ row ∈ vacancies ∧ rowKey platform row = rowKey platform primary
  survives : Survives platform vacancies primary

lemma mergeIdentityGroup_of_mem {key : String}
    (h : (key, group) ∈ groupBy (fun entry => rowKey platform entry.1) vacancies.zipIdx) :
    ∃ primary others, mergeIdentityGroup platform group = some (mergeOrdered platform primary others) ∧
      rowKey platform primary = key ∧ MergesInto platform vacancies primary others := by
  obtain ⟨hgroup, -⟩ := mem_groupBy.mp h
  have hmem : ∀ entry, entry ∈ group ↔ vacancies[entry.2]? = some entry.1 ∧ rowKey platform entry.1 = key := by
    intro entry
    rw [hgroup, List.mem_filter, List.mem_zipIdx_iff_getElem?, decide_eq_true_iff]
  have hperm := List.perm_insertionSort MergesBefore group
  have hsorted := List.pairwise_insertionSort MergesBefore group
  rcases hordered : group.insertionSort MergesBefore with _ | ⟨first, rest⟩
  · rw [hordered] at hperm
    exact absurd hperm.symm.eq_nil (ne_nil_of_mem_groupBy h)
  rw [hordered] at hperm hsorted
  have hfirst := (hmem first).mp (hperm.mem_iff.mp List.mem_cons_self)
  refine ⟨first.1, rest.map Prod.fst, ?_, hfirst.2, ⟨fun row => ?_, first.2, hfirst.1, fun j other hget hkey => ?_⟩⟩
  · rw [mergeIdentityGroup, hordered]
    rfl
  · rw [← List.map_cons, List.mem_map, List.mem_iff_getElem?, hfirst.2]
    constructor
    · rintro ⟨entry, hentry, rfl⟩
      obtain ⟨hget, hkey⟩ := (hmem entry).mp (hperm.mem_iff.mp hentry)
      exact ⟨⟨entry.2, hget⟩, hkey⟩
    · rintro ⟨⟨i, hget⟩, hkey⟩
      exact ⟨(row, i), hperm.mem_iff.mpr ((hmem (row, i)).mpr ⟨hget, hkey⟩), rfl⟩
  · rw [hfirst.2] at hkey
    rcases List.mem_cons.mp (hperm.mem_iff.mpr ((hmem (other, j)).mpr ⟨hget, hkey⟩)) with heq | hrest
    · rw [heq]
      exact .inr ⟨rfl, le_rfl⟩
    · exact List.rel_of_pairwise_cons hsorted hrest

lemma map_rowKey_mergedGroups : (mergedGroups platform vacancies).map (rowKey platform) =
    (groupBy (fun entry => rowKey platform entry.1) vacancies.zipIdx).map Prod.fst := by
  rw [mergedGroups, List.map_filterMap, ← List.filterMap_eq_map']
  refine List.filterMap_congr ?_
  rintro ⟨key, group⟩ h
  obtain ⟨primary, others, hmerge, hkey, -⟩ := mergeIdentityGroup_of_mem h
  rw [hmerge, Option.map_some, rowKey_mergeOrdered, hkey]

lemma mem_uniqueDiscovery :
    merged ∈ uniqueDiscovery platform vacancies ↔ merged ∈ mergedGroups platform vacancies := by
  rw [uniqueDiscovery, List.mem_insertionSort]

lemma exists_mergesInto (h : merged ∈ uniqueDiscovery platform vacancies) :
    ∃ primary others, merged = mergeOrdered platform primary others ∧
      MergesInto platform vacancies primary others := by
  rw [mem_uniqueDiscovery, mergedGroups, List.mem_filterMap] at h
  obtain ⟨⟨key, group⟩, hgroup, hmerge⟩ := h
  obtain ⟨primary, others, hmerged, -, hinto⟩ := mergeIdentityGroup_of_mem hgroup
  exact ⟨primary, others, Option.some.inj (hmerge.symm.trans hmerged), hinto⟩

lemma nodup_rowKey_uniqueDiscovery : ((uniqueDiscovery platform vacancies).map (rowKey platform)).Nodup := by
  have hperm := (List.perm_insertionSort (fun left right => (compareRows platform left right).isLE = true)
    (mergedGroups platform vacancies)).map (rowKey platform)
  refine hperm.nodup_iff.mpr ?_
  rw [map_rowKey_mergedGroups]
  exact nodup_keys_groupBy

lemma exists_mem_uniqueDiscovery (h : row ∈ vacancies) :
    ∃ merged ∈ uniqueDiscovery platform vacancies, rowKey platform merged = rowKey platform row := by
  have hkey : rowKey platform row ∈ (mergedGroups platform vacancies).map (rowKey platform) := by
    obtain ⟨i, hget⟩ := List.mem_iff_getElem?.mp h
    rw [map_rowKey_mergedGroups]
    have hgroup : (rowKey platform row, _) ∈ groupBy (fun entry => rowKey platform entry.1) vacancies.zipIdx :=
      mem_groupBy.mpr ⟨rfl, (row, i), List.mem_zipIdx_iff_getElem?.mpr hget, rfl⟩
    exact List.mem_map_of_mem (f := Prod.fst) hgroup
  obtain ⟨merged, hmerged, heq⟩ := List.mem_map.mp hkey
  exact ⟨merged, mem_uniqueDiscovery.mpr hmerged, heq⟩

/-! ## The result of a result -/

lemma mergedGroups_of_nodup (hkeys : (vacancies.map (rowKey platform)).Nodup)
    (hsettled : ∀ row ∈ vacancies, Settled platform row) : mergedGroups platform vacancies = vacancies := by
  have hentries : (vacancies.zipIdx.map fun entry => rowKey platform entry.1).Nodup := by
    have hrows : (vacancies.zipIdx.map Prod.fst).map (rowKey platform) = vacancies.map (rowKey platform) := by
      rw [List.zipIdx_map_fst]
    rw [List.map_map] at hrows
    exact hrows ▸ hkeys
  rw [mergedGroups, groupBy_of_nodup hentries, List.filterMap_map]
  conv_rhs => rw [← List.zipIdx_map_fst 0 vacancies, ← List.filterMap_eq_map']
  refine List.filterMap_congr ?_
  rintro ⟨row, i⟩ h
  have hrow : row ∈ vacancies := List.mem_of_getElem? (List.mem_zipIdx_iff_getElem?.mp h)
  exact congrArg some (hsettled row hrow).mergeOrdered_nil

lemma compareRows_trans : Std.TransCmp (compareRows platform (ρ := ρ)) := by
  have hconsistent := platform.localeCompare_consistent
  have hcompany : Std.TransCmp fun left right : DiscoveryVacancyAudit ρ =>
      platform.localeCompare left.company right.company :=
    { eq_swap := Std.OrientedCmp.eq_swap, isLE_trans := Std.TransCmp.isLE_trans }
  have htitle : Std.TransCmp fun left right : DiscoveryVacancyAudit ρ =>
      platform.localeCompare left.title right.title :=
    { eq_swap := Std.OrientedCmp.eq_swap, isLE_trans := Std.TransCmp.isLE_trans }
  exact inferInstanceAs (Std.TransCmp (compareLex _ _))

lemma sorted_uniqueDiscovery : (uniqueDiscovery platform vacancies).Pairwise fun left right =>
    (compareRows platform left right).isLE = true := by
  have htrans := @compareRows_trans ρ platform
  have htotal : Std.Total fun left right : DiscoveryVacancyAudit ρ =>
      (compareRows platform left right).isLE = true := by
    refine ⟨fun left right => ?_⟩
    have hswap : compareRows platform right left = (compareRows platform left right).swap :=
      Std.OrientedCmp.eq_swap
    rw [hswap]
    cases compareRows platform left right <;> decide
  have hcompare : IsTrans (DiscoveryVacancyAudit ρ) fun left right =>
      (compareRows platform left right).isLE = true := ⟨fun _ _ _ => htrans.isLE_trans⟩
  exact List.pairwise_insertionSort _ _

lemma uniqueDiscovery_uniqueDiscovery :
    uniqueDiscovery platform (uniqueDiscovery platform vacancies) = uniqueDiscovery platform vacancies := by
  have hsettled : ∀ row ∈ uniqueDiscovery platform vacancies, Settled platform row := by
    intro row hrow
    obtain ⟨primary, others, rfl, -⟩ := exists_mergesInto hrow
    exact mergeOrdered_settled
  conv_lhs => rw [uniqueDiscovery, mergedGroups_of_nodup nodup_rowKey_uniqueDiscovery hsettled]
  exact sorted_uniqueDiscovery.insertionSort_eq

/-! ## Nothing is lost or repeated -/

def vacancyKey (platform : Platform) (vacancy : DiscoveryVacancyAudit ρ) : VacancyIdentityKind × String :=
  ((vacancyIdentityFor platform vacancy.identityInput).kind, (vacancyIdentityFor platform vacancy.identityInput).key)

lemma vacancyKey_eq_iff : vacancyKey platform row = vacancyKey platform other ↔
    rowKey platform row = rowKey platform other := by
  rw [rowKey, rowKey, VacancyIdentity.groupKey_inj, vacancyKey, vacancyKey, Prod.ext_iff]

def allReferences (vacancies : List (DiscoveryVacancyAudit ρ)) : List (DiscoveryProvider × String) :=
  vacancies.flatMap references

lemma mem_references_uniqueDiscovery (h : merged ∈ uniqueDiscovery platform vacancies) :
    reference ∈ merged.references ↔
      ∃ row ∈ vacancies, vacancyKey platform row = vacancyKey platform merged ∧ reference ∈ row.references := by
  obtain ⟨primary, others, rfl, hinto⟩ := exists_mergesInto h
  rw [mem_references_mergeOrdered]
  constructor
  · rintro ⟨row, hrow, hmem⟩
    obtain ⟨hvacancy, hkey⟩ := (hinto.mem_iff row).mp hrow
    exact ⟨row, hvacancy, vacancyKey_eq_iff.mpr (hkey.trans rowKey_mergeOrdered.symm), hmem⟩
  · rintro ⟨row, hvacancy, hkey, hmem⟩
    exact ⟨row, (hinto.mem_iff row).mpr ⟨hvacancy, (vacancyKey_eq_iff.mp hkey).trans rowKey_mergeOrdered⟩, hmem⟩

lemma exists_mem_vacancyKey (h : row ∈ vacancies) :
    ∃ merged ∈ uniqueDiscovery platform vacancies, vacancyKey platform row = vacancyKey platform merged := by
  obtain ⟨merged, hmerged, hkey⟩ := @exists_mem_uniqueDiscovery ρ platform _ _ h
  exact ⟨merged, hmerged, vacancyKey_eq_iff.mpr hkey.symm⟩

lemma nodup_vacancyKey_uniqueDiscovery : ((uniqueDiscovery platform vacancies).map (vacancyKey platform)).Nodup := by
  have hkeys := @nodup_rowKey_uniqueDiscovery ρ platform vacancies
  refine List.Nodup.map_on (fun a ha b hb heq => ?_) (List.Nodup.of_map _ hkeys)
  exact List.inj_on_of_nodup_map hkeys ha hb (vacancyKey_eq_iff.mp heq)

lemma nodup_allReferences_uniqueDiscovery_iff : (allReferences (uniqueDiscovery platform vacancies)).Nodup ↔
    ∀ row ∈ vacancies, ∀ other ∈ vacancies, ∀ reference ∈ row.references, reference ∈ other.references →
      vacancyKey platform row = vacancyKey platform other := by
  have hkeys := @nodup_vacancyKey_uniqueDiscovery ρ platform vacancies
  rw [allReferences, List.nodup_flatMap]
  constructor
  · rintro ⟨-, hpairs⟩ row hrow other hother reference hmem hmem'
    by_contra hne
    obtain ⟨merged, hmerged, hkey⟩ := @exists_mem_vacancyKey ρ platform _ _ hrow
    obtain ⟨merged', hmerged', hkey'⟩ := @exists_mem_vacancyKey ρ platform _ _ hother
    have hdifferent : merged ≠ merged' := by
      rintro rfl
      exact hne (hkey.trans hkey'.symm)
    have hsymm : Std.Symm (Function.onFun List.Disjoint (references (ρ := ρ))) :=
      ⟨fun _ _ h _ hmem hmem' => h hmem' hmem⟩
    have hdisjoint := hpairs.forall hmerged hmerged' hdifferent
    exact hdisjoint ((mem_references_uniqueDiscovery hmerged).mpr ⟨row, hrow, hkey, hmem⟩)
      ((mem_references_uniqueDiscovery hmerged').mpr ⟨other, hother, hkey', hmem'⟩)
  · intro h
    refine ⟨fun merged hmerged => ?_, ?_⟩
    · obtain ⟨primary, others, rfl, -⟩ := exists_mergesInto hmerged
      exact nodup_references_mergeOrdered
    · refine List.Pairwise.imp_of_mem ?_ (List.pairwise_map.mp hkeys)
      intro merged merged' hmerged hmerged' hne reference hmem hmem'
      obtain ⟨row, hrow, hkey, hreference⟩ := (mem_references_uniqueDiscovery hmerged).mp hmem
      obtain ⟨other, hother, hkey', hreference'⟩ := (mem_references_uniqueDiscovery hmerged').mp hmem'
      exact hne (hkey.symm.trans ((h row hrow other hother reference hreference hreference').trans hkey'))

/-- **Merging loses and repeats nothing.**  The result has one row for each identity of the list,
with each of its sources once and a salary of one of its rows; and the result of a result is the
result. -/
theorem uniqueDiscovery_spec (platform : Platform) (vacancies : List (DiscoveryVacancyAudit ρ)) :
    ((uniqueDiscovery platform vacancies).map (vacancyKey platform)).Nodup ∧
    (∀ key, key ∈ (uniqueDiscovery platform vacancies).map (vacancyKey platform) ↔
      key ∈ vacancies.map (vacancyKey platform)) ∧
    (∀ reference, reference ∈ allReferences (uniqueDiscovery platform vacancies) ↔
      reference ∈ allReferences vacancies) ∧
    (∀ merged ∈ uniqueDiscovery platform vacancies, merged.references.Nodup ∧
      ∀ reference, reference ∈ merged.references ↔ ∃ row ∈ vacancies,
        vacancyKey platform row = vacancyKey platform merged ∧ reference ∈ row.references) ∧
    ((allReferences (uniqueDiscovery platform vacancies)).Nodup ↔
      ∀ row ∈ vacancies, ∀ other ∈ vacancies, ∀ reference ∈ row.references, reference ∈ other.references →
        vacancyKey platform row = vacancyKey platform other) ∧
    (∀ merged ∈ uniqueDiscovery platform vacancies, ∃ row ∈ vacancies,
      vacancyKey platform row = vacancyKey platform merged ∧ merged.toSalaryFields = row.toSalaryFields) ∧
    uniqueDiscovery platform (uniqueDiscovery platform vacancies) = uniqueDiscovery platform vacancies := by
  refine ⟨nodup_vacancyKey_uniqueDiscovery, fun key => ⟨fun h => ?_, fun h => ?_⟩, fun reference => ⟨fun h => ?_,
    fun h => ?_⟩, fun merged hmerged => ⟨?_, fun reference => mem_references_uniqueDiscovery hmerged⟩,
    nodup_allReferences_uniqueDiscovery_iff, fun merged hmerged => ?_, uniqueDiscovery_uniqueDiscovery⟩
  · obtain ⟨merged, hmerged, rfl⟩ := List.mem_map.mp h
    obtain ⟨primary, others, rfl, hinto⟩ := exists_mergesInto hmerged
    have hprimary := (hinto.mem_iff primary).mp List.mem_cons_self
    have hkey : vacancyKey platform (mergeOrdered platform primary others) = vacancyKey platform primary :=
      vacancyKey_eq_iff.mpr rowKey_mergeOrdered
    exact hkey ▸ List.mem_map_of_mem hprimary.1
  · obtain ⟨row, hrow, rfl⟩ := List.mem_map.mp h
    obtain ⟨merged, hmerged, hkey⟩ := @exists_mem_vacancyKey ρ platform _ _ hrow
    exact hkey ▸ List.mem_map_of_mem hmerged
  · obtain ⟨merged, hmerged, hmem⟩ := List.mem_flatMap.mp h
    obtain ⟨row, hrow, -, hreference⟩ := (mem_references_uniqueDiscovery hmerged).mp hmem
    exact List.mem_flatMap.mpr ⟨row, hrow, hreference⟩
  · obtain ⟨row, hrow, hreference⟩ := List.mem_flatMap.mp h
    obtain ⟨merged, hmerged, hkey⟩ := @exists_mem_vacancyKey ρ platform _ _ hrow
    exact List.mem_flatMap.mpr ⟨merged, hmerged,
      (mem_references_uniqueDiscovery hmerged).mpr ⟨row, hrow, hkey, hreference⟩⟩
  · obtain ⟨primary, others, rfl, -⟩ := exists_mergesInto hmerged
    exact nodup_references_mergeOrdered
  · obtain ⟨primary, others, rfl, hinto⟩ := exists_mergesInto hmerged
    obtain ⟨row, hrow, hsalary⟩ := @mergeOrdered_toSalaryFields ρ platform primary others
    obtain ⟨hvacancy, hkey⟩ := (hinto.mem_iff row).mp hrow
    exact ⟨row, hvacancy, vacancyKey_eq_iff.mpr (hkey.trans rowKey_mergeOrdered.symm), hsalary⟩

/-! ## A source that is listed twice -/

def asciiPlatform : Platform where
  parseUrl input :=
    if "https://".toList.isPrefixOf input.toList then
      let rest := input.toList.drop 8
      some { hostname := String.ofList (rest.takeWhile fun c => c ≠ '/')
             pathname := String.ofList (rest.dropWhile fun c => c ≠ '/') }
    else none
  setPathname url path := { url with pathname := if path = "" then "/" else path }
  href url := "https://" ++ url.hostname ++ url.pathname
  toLowerCase text := String.ofList (text.toList.map Char.toLower)
  toUpperCase text := String.ofList (text.toList.map Char.toUpper)
  toLocaleLowerCase text := String.ofList (text.toList.map Char.toLower)
  toEnglishLowerCase text := String.ofList (text.toList.map Char.toLower)
  markupText text := text
  compose text := text
  localeCompare := compare
  localeCompare_consistent := inferInstance

/-- One entry of a source, which has moved to another page between two requests. -/
def relistedRows : List (DiscoveryVacancyAudit Unit) :=
  [{ key := "jobicy:1", provider := .jobicy, company := "Acme", title := "Engineer", location := "Remote",
     url := "https://jobicy.com/jobs/1-engineer", rest := () },
   { key := "jobicy:1", provider := .jobicy, company := "Acme", title := "Senior Engineer", location := "Remote",
     url := "https://jobicy.com/jobs/1-senior", rest := () }]

/-- A source is on two rows if it lists one entry at two URLs. -/
theorem not_nodup_allReferences_relistedRows :
    ¬ (allReferences (uniqueDiscovery asciiPlatform relistedRows)).Nodup := by
  rw [nodup_allReferences_uniqueDiscovery_iff]
  decide +kernel

end VacancyRadar.GlobalRemote
