import Mathlib.Data.List.Infix
import VacancyRadar.GlobalRemote.Unique

/-!
# The filter of a focused scan

`global-remote/focused-scan.ts`: which rows are kept, whatever a source was asked for.  The role that was
typed may be anywhere in the texts of a row; a title that was approved has to be in its title.
-/

namespace VacancyRadar.GlobalRemote

open Data DiscoveryVacancyAudit

variable {ρ : Type}

/-! ## Criteria -/

structure SalaryFilterCriteria where
  minimumAnnual : ℚ
  currency : String
  includeUnknown : Bool

structure FocusedScanCriteria where
  role : String
  roleAlternatives : Option (List String) := none
  country : Option String := none
  employment : Option String := none
  salary : Option SalaryFilterCriteria := none

/-- `SalaryAssessment`, without the amounts and reasons. -/
inductive SalaryAssessment where
  | notApplicable
  | comparable
  | belowFloor
  | unknown

structure FilterCounts where
  unknownEmployment : ℕ := 0
  explicitEmploymentMismatch : ℕ := 0
  salaryComparable : ℕ := 0
  salaryUnknown : ℕ := 0
  salaryBelowMinimum : ℕ := 0

section

variable (platform : Platform) (normalizeCountry : String → Option String)

def normalized (value : String) : String := platform.toLocaleLowerCase (trim value)

def isUnspecifiedCountry (value : String) : Bool :=
  normalized platform value == normalized platform "Unspecified location"

def canonicalCountry (value : String) : Option String :=
  if isUnspecifiedCountry platform value then none else normalizeCountry value

def countryMatches (locations : List String) (requested : String) : Bool :=
  if isUnspecifiedCountry platform requested then locations.all fun location => normalizeCountry location = none
  else
    match canonicalCountry platform normalizeCountry requested with
    | none => false
    | some canonical => locations.any fun location => normalizeCountry location = some canonical

/-- `replace(/[\s-]+/gu, '_')`.  The flag says that an underscore was just written. -/
def underscored : Bool → List Char → List Char
  | _, [] => []
  | written, c :: rest =>
    if isTrimmed c || c == '-' then (if written then underscored true rest else '_' :: underscored true rest)
    else c :: underscored false rest

def canonicalEmployment (value : String) : String :=
  String.ofList (underscored false (normalized platform value).toList)

def assessSalary (salary : SalaryFields) : Option SalaryFilterCriteria → SalaryAssessment
  | none => .notApplicable
  | some criteria =>
    match salary.salaryProvenance, salary.normalizedAnnualMinimum, salary.normalizedCurrency with
    | some .reviewedStructured, some minimum, some currency =>
      if platform.toUpperCase currency ≠ platform.toUpperCase criteria.currency then .unknown
      else if criteria.minimumAnnual ≤ minimum then .comparable
      else .belowFloor
    | _, _, _ => .unknown

def includes (text wanted : String) : Bool := decide (wanted.toList <:+: text.toList)

def searchTexts (vacancy : DiscoveryVacancyAudit ρ) : List String :=
  vacancy.searchableText.getD [vacancy.titleAndDescription]

def vacancyMatchesRole (vacancy : DiscoveryVacancyAudit ρ) (query : String) : Bool :=
  let wanted := normalized platform query
  wanted ≠ "" && (searchTexts vacancy).any fun text => includes (normalized platform text) wanted

def vacancyTitleMatches (vacancy : DiscoveryVacancyAudit ρ) (query : String) : Bool :=
  let wanted := normalized platform query
  wanted ≠ "" && includes (normalized platform vacancy.title) wanted

def FocusedScanCriteria.alternatives (criteria : FocusedScanCriteria) : List String :=
  (criteria.roleAlternatives.getD []).filter fun entry => normalized platform entry ≠ ""

def matchesRoles (criteria : FocusedScanCriteria) (vacancy : DiscoveryVacancyAudit ρ) : Bool :=
  (normalized platform criteria.role = "" && criteria.alternatives platform = []) ||
    vacancyMatchesRole platform vacancy criteria.role ||
    (criteria.alternatives platform).any (vacancyTitleMatches platform vacancy)

def employmentStep (criteria : FocusedScanCriteria) (vacancy : DiscoveryVacancyAudit ρ) (counts : FilterCounts) :
    Bool × FilterCounts :=
  -- what is empty, or is so after it is trimmed, is no criterion
  match (criteria.employment.map (canonicalEmployment platform)).filter fun employment => employment ≠ "" with
  | none => (true, counts)
  | some employment =>
    if vacancy.ownEmploymentTypes = [] then
      (false, { counts with unknownEmployment := counts.unknownEmployment + 1 })
    else if vacancy.ownEmploymentTypes.any fun type =>
        canonicalEmployment platform type = employment then (true, counts)
    else (false, { counts with explicitEmploymentMismatch := counts.explicitEmploymentMismatch + 1 })

def salaryStep (criteria : FocusedScanCriteria) (vacancy : DiscoveryVacancyAudit ρ) (counts : FilterCounts) :
    Bool × FilterCounts :=
  match assessSalary platform vacancy.toSalaryFields criteria.salary with
  | .notApplicable => (true, counts)
  | .comparable => (true, { counts with salaryComparable := counts.salaryComparable + 1 })
  | .belowFloor =>
    (false, { counts with
      salaryComparable := counts.salaryComparable + 1
      salaryBelowMinimum := counts.salaryBelowMinimum + 1 })
  | .unknown =>
    ((criteria.salary.map SalaryFilterCriteria.includeUnknown).getD true,
      { counts with salaryUnknown := counts.salaryUnknown + 1 })

def filterStep (criteria : FocusedScanCriteria) (vacancy : DiscoveryVacancyAudit ρ) (counts : FilterCounts) :
    Bool × FilterCounts :=
  if !matchesRoles platform criteria vacancy then (false, counts)
  else if (criteria.country.filter fun country => country ≠ "").any fun country =>
      !countryMatches platform normalizeCountry vacancy.ownLocations country then (false, counts)
  else
    let (kept, counts) := employmentStep platform criteria vacancy counts
    if kept then salaryStep platform criteria vacancy counts else (false, counts)

/-- The loop of `applyFocusedScanCriteria`. -/
def filterFrom (criteria : FocusedScanCriteria) :
    FilterCounts → List (DiscoveryVacancyAudit ρ) → List (DiscoveryVacancyAudit ρ) × FilterCounts
  | counts, [] => ([], counts)
  | counts, vacancy :: rest =>
    let (kept, counts) := filterStep platform normalizeCountry criteria vacancy counts
    let (vacancies, counts) := filterFrom criteria counts rest
    (if kept then vacancy :: vacancies else vacancies, counts)

def applyFocusedScanCriteria (vacancies : List (DiscoveryVacancyAudit ρ)) (criteria : FocusedScanCriteria) :
    List (DiscoveryVacancyAudit ρ) × FilterCounts :=
  filterFrom platform normalizeCountry criteria {} vacancies

/-- `resolveFocusedLeads` without a plan: the rows that are merged, and the ones of them that are kept. -/
def resolveFocusedLeads (vacancies : List (DiscoveryVacancyAudit ρ)) (criteria : FocusedScanCriteria) :
    List (DiscoveryVacancyAudit ρ) × List (DiscoveryVacancyAudit ρ) :=
  let discoveryAudit := uniqueDiscovery platform vacancies
  (discoveryAudit, (applyFocusedScanCriteria platform normalizeCountry discoveryAudit criteria).1)

end

/-! ## Which rows are kept -/

variable {platform : Platform} {normalizeCountry : String → Option String} {criteria : FocusedScanCriteria}

lemma filterStep_fst (vacancy : DiscoveryVacancyAudit ρ) (counts : FilterCounts) :
    (filterStep platform normalizeCountry criteria vacancy counts).1 =
      (filterStep platform normalizeCountry criteria vacancy {}).1 := by
  have hemployment : (employmentStep platform criteria vacancy counts).1 =
      (employmentStep platform criteria vacancy {}).1 := by
    rw [employmentStep, employmentStep]
    split
    · rfl
    · split
      · rfl
      · split <;> rfl
  have hsalary : ∀ counts other, (salaryStep platform criteria vacancy counts).1 =
      (salaryStep platform criteria vacancy other).1 := by
    intro counts other
    rw [salaryStep, salaryStep]
    split <;> rfl
  rw [filterStep, filterStep]
  split
  · rfl
  · split
    · rfl
    · simp only [hemployment]
      split
      · exact hsalary _ _
      · rfl

lemma filterFrom_fst (vacancies : List (DiscoveryVacancyAudit ρ)) (counts : FilterCounts) :
    (filterFrom platform normalizeCountry criteria counts vacancies).1 =
      vacancies.filter fun vacancy => (filterStep platform normalizeCountry criteria vacancy {}).1 := by
  induction vacancies generalizing counts with
  | nil => rfl
  | cons vacancy rest ih =>
    have hstep := @filterStep_fst ρ platform normalizeCountry criteria vacancy counts
    have hrest := ih (filterStep platform normalizeCountry criteria vacancy counts).2
    rw [List.filter_cons, ← hstep, ← hrest]
    rfl

lemma applyFocusedScanCriteria_roles (vacancies : List (DiscoveryVacancyAudit ρ)) (role : String)
    (roleAlternatives : Option (List String)) :
    (applyFocusedScanCriteria platform normalizeCountry vacancies
      { role := role, roleAlternatives := roleAlternatives }).1 =
      vacancies.filter (matchesRoles platform { role := role, roleAlternatives := roleAlternatives }) := by
  rw [applyFocusedScanCriteria, filterFrom_fst]
  refine List.filter_congr fun vacancy _ => ?_
  rw [filterStep]
  cases matchesRoles platform { role := role, roleAlternatives := roleAlternatives } vacancy with
  | false => rfl
  | true => rfl

/-! ## Merged rows -/

variable {primary : DiscoveryVacancyAudit ρ} {others vacancies : List (DiscoveryVacancyAudit ρ)}

variable {vacancy : DiscoveryVacancyAudit ρ} {query : String}

lemma vacancyMatchesRole_iff :
    vacancyMatchesRole platform vacancy query = true ↔ normalized platform query ≠ "" ∧
      ∃ text ∈ searchTexts vacancy, includes (normalized platform text) (normalized platform query) = true := by
  rw [vacancyMatchesRole, Bool.and_eq_true, decide_eq_true_iff, List.any_eq_true]

lemma normalized_trim (text : String) : normalized platform (trim text) = normalized platform text := by
  rw [normalized, normalized, trim_trim]

lemma searchTexts_mergeOrdered : searchTexts (mergeOrdered platform primary others) =
    firsts id ((primary :: others).flatMap fun vacancy =>
      vacancy.searchableText.getD [trim vacancy.titleAndDescription]) := rfl

lemma vacancyMatchesRole_mergeOrdered :
    vacancyMatchesRole platform (mergeOrdered platform primary others) query = true ↔
      ∃ row ∈ primary :: others, vacancyMatchesRole platform row query = true := by
  have htexts : ∀ row : DiscoveryVacancyAudit ρ, (∃ text ∈ row.searchableText.getD [trim row.titleAndDescription],
      includes (normalized platform text) (normalized platform query) = true) ↔
      ∃ text ∈ searchTexts row, includes (normalized platform text) (normalized platform query) = true := by
    intro row
    rw [searchTexts]
    cases row.searchableText with
    | none => simp [normalized_trim]
    | some texts => rw [Option.getD_some, Option.getD_some]
  simp only [vacancyMatchesRole_iff, searchTexts_mergeOrdered, mem_firsts_id, List.mem_flatMap]
  constructor
  · rintro ⟨hquery, text, ⟨row, hrow, hown⟩, hincludes⟩
    exact ⟨row, hrow, hquery, (htexts row).mp ⟨text, hown, hincludes⟩⟩
  · rintro ⟨row, hrow, hquery, hmatch⟩
    obtain ⟨text, hown, hincludes⟩ := (htexts row).mpr hmatch
    exact ⟨hquery, text, ⟨row, hrow, hown⟩, hincludes⟩

lemma vacancyTitleMatches_mergeOrdered (query : String) :
    vacancyTitleMatches platform (mergeOrdered platform primary others) query =
      vacancyTitleMatches platform primary query := by
  have hinput := @mergeOrdered_identityInput ρ platform primary others
  have htitle : (mergeOrdered platform primary others).title = primary.title := congrArg IdentityInput.title hinput
  rw [vacancyTitleMatches, htitle, vacancyTitleMatches]

/-! ## Matches that are lost -/

def TitleApproved (platform : Platform) (roleAlternatives : Option (List String))
    (vacancy : DiscoveryVacancyAudit ρ) : Prop :=
  ∃ alternative ∈ roleAlternatives.getD [], vacancyTitleMatches platform vacancy alternative = true

lemma any_vacancyTitleMatches_iff :
    (criteria.alternatives platform).any (vacancyTitleMatches platform vacancy) = true ↔
      TitleApproved platform criteria.roleAlternatives vacancy := by
  rw [List.any_eq_true, TitleApproved]
  constructor
  · rintro ⟨alternative, hmem, hmatch⟩
    exact ⟨alternative, (List.mem_filter.mp hmem).1, hmatch⟩
  · rintro ⟨alternative, hmem, hmatch⟩
    refine ⟨alternative, List.mem_filter.mpr ⟨hmem, ?_⟩, hmatch⟩
    -- what is in a title says something
    rw [vacancyTitleMatches, Bool.and_eq_true] at hmatch
    exact hmatch.1

lemma matchesRoles_iff : matchesRoles platform criteria vacancy = true ↔
    (normalized platform criteria.role = "" ∧ criteria.alternatives platform = []) ∨
      vacancyMatchesRole platform vacancy criteria.role = true ∨
      TitleApproved platform criteria.roleAlternatives vacancy := by
  rw [matchesRoles, Bool.or_eq_true, Bool.or_eq_true, any_vacancyTitleMatches_iff, or_assoc, Bool.and_eq_true,
    decide_eq_true_iff, decide_eq_true_iff]

lemma TitleApproved.alternatives_ne_nil (h : TitleApproved platform criteria.roleAlternatives vacancy) :
    criteria.alternatives platform ≠ []:= by
  intro hnil
  have hany := any_vacancyTitleMatches_iff.mpr h
  rw [hnil] at hany
  cases hany

lemma matchesRoles_mergeOrdered : matchesRoles platform criteria (mergeOrdered platform primary others) = true ↔
    (normalized platform criteria.role = "" ∧ criteria.alternatives platform = []) ∨
      (∃ row ∈ primary :: others, vacancyMatchesRole platform row criteria.role = true) ∨
      TitleApproved platform criteria.roleAlternatives primary := by
  simp only [matchesRoles_iff, vacancyMatchesRole_mergeOrdered, TitleApproved, vacancyTitleMatches_mergeOrdered]

/-- **When merging hides no match.**  A row that the filter keeps alone is kept where it is merged,
for every row of a list, exactly if in each identity with an approved title the typed role is in a
text of one of its rows or the surviving row has an approved title. -/
theorem keepsMatches_iff (platform : Platform) (normalizeCountry : String → Option String)
    (vacancies : List (DiscoveryVacancyAudit ρ)) (role : String) (roleAlternatives : Option (List String)) :
    (∀ row ∈ vacancies,
      row ∈ (applyFocusedScanCriteria platform normalizeCountry [row]
        { role := role, roleAlternatives := roleAlternatives }).1 →
      ∃ merged ∈ (resolveFocusedLeads platform normalizeCountry vacancies
        { role := role, roleAlternatives := roleAlternatives }).2,
        vacancyKey platform merged = vacancyKey platform row) ↔
    ∀ row ∈ vacancies, TitleApproved platform roleAlternatives row →
      ∃ other ∈ vacancies, vacancyKey platform other = vacancyKey platform row ∧
        (vacancyMatchesRole platform other role = true ∨
          Survives platform vacancies other ∧ TitleApproved platform roleAlternatives other) := by
  simp only [resolveFocusedLeads, applyFocusedScanCriteria_roles, List.mem_filter, List.mem_singleton, true_and]
  constructor
  · intro h row hrow happroved
    obtain ⟨merged, ⟨hmerged, hkept⟩, hkey⟩ := h row hrow (matchesRoles_iff.mpr (.inr (.inr happroved)))
    obtain ⟨primary, others, rfl, hinto⟩ := exists_mergesInto hmerged
    have hgroup : ∀ other ∈ primary :: others,
        other ∈ vacancies ∧ vacancyKey platform other = vacancyKey platform row := by
      intro other hother
      obtain ⟨hvacancy, hprimary⟩ := (hinto.mem_iff other).mp hother
      exact ⟨hvacancy, (vacancyKey_eq_iff.mpr (hprimary.trans rowKey_mergeOrdered.symm)).trans hkey⟩
    rcases matchesRoles_mergeOrdered.mp hkept with ⟨-, hnil⟩ | ⟨other, hother, hmatch⟩ | hprimary
    · exact absurd hnil happroved.alternatives_ne_nil
    · exact ⟨other, (hgroup other hother).1, (hgroup other hother).2, .inl hmatch⟩
    · obtain ⟨hvacancy, hown⟩ := hgroup primary List.mem_cons_self
      exact ⟨primary, hvacancy, hown, .inr ⟨hinto.survives, hprimary⟩⟩
  · intro h row hrow hkept
    obtain ⟨merged, hmerged, hkey⟩ := @exists_mem_vacancyKey ρ platform _ _ hrow
    refine ⟨merged, ⟨hmerged, ?_⟩, hkey.symm⟩
    obtain ⟨primary, others, rfl, hinto⟩ := exists_mergesInto hmerged
    have hgroup : ∀ other ∈ vacancies, vacancyKey platform other = vacancyKey platform row →
        other ∈ primary :: others := by
      intro other hother hsame
      refine (hinto.mem_iff other).mpr ⟨hother, ?_⟩
      exact (vacancyKey_eq_iff.mp (hsame.trans hkey)).trans rowKey_mergeOrdered
    rw [matchesRoles_mergeOrdered]
    rcases matchesRoles_iff.mp hkept with hnothing | hmatch | happroved
    · exact .inl hnothing
    · exact .inr (.inl ⟨row, hgroup row hrow rfl, hmatch⟩)
    · obtain ⟨other, hother, hsame, hmatch | ⟨hsurvives, htitle⟩⟩ := h row hrow happroved
      · exact .inr (.inl ⟨other, hgroup other hother hsame, hmatch⟩)
      · have hprimary := ((hinto.mem_iff other).mp (hgroup other hother hsame)).2
        rw [hinto.survives.unique hsurvives hprimary]
        exact .inr (.inr htitle)

def retitledRows : List (DiscoveryVacancyAudit Unit) :=
  [{ key := "jobicy:1", provider := .jobicy, company := "Acme", title := "UI Engineer", location := "Remote",
     url := "https://apply.workable.com/j/A1", rest := () },
   { key := "workable_global:A1", provider := .workableGlobal, company := "Acme", title := "Engineer II",
     location := "Remote", url := "https://apply.workable.com/j/A1", rest := () }]

/-- The row with the approved title is kept alone, and is lost when the other one survives. -/
theorem not_keepsMatches_retitledRows : ¬ ∀ row ∈ retitledRows,
    row ∈ (applyFocusedScanCriteria asciiPlatform (fun _ => none) [row]
      { role := "react", roleAlternatives := some ["UI engineer"] }).1 →
    ∃ merged ∈ (resolveFocusedLeads asciiPlatform (fun _ => none) retitledRows
      { role := "react", roleAlternatives := some ["UI engineer"] }).2,
      vacancyKey asciiPlatform merged = vacancyKey asciiPlatform row := by
  have hnone : (resolveFocusedLeads asciiPlatform (fun _ => none) retitledRows
      { role := "react", roleAlternatives := some ["UI engineer"] }).2 = [] := by
    decide +kernel
  rw [hnone]
  intro h
  obtain ⟨merged, hmerged, -⟩ := h _ List.mem_cons_self (by decide +kernel)
  exact List.not_mem_nil hmerged

end VacancyRadar.GlobalRemote
