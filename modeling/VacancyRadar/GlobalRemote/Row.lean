import Mathlib.Data.Rat.Defs
import VacancyRadar.GlobalRemote.Identity

/-!
# Rows of discovery

`global-remote/models.ts`: what a source of discovery tells of a vacancy, and where it comes from.
-/

namespace VacancyRadar.GlobalRemote

/-! ## Sources -/

inductive DiscoveryProvider where
  | himalayas
  | jobicy
  | remotive
  | freehire
  | jobOpportunities
  | remoteLanders
  | jobgether
  | weWorkRemotely
  | remoteFirstJobs
  | jobRemotely
  | remoteOk
  | arbeitnow
  | startupJobs
  | devitjobsNl
  | jobsCollider
  | workingNomads
  | realWorkFromAnywhere
  | devitjobsUk
  | dice
  | remoote
  | aiDevJobs
  | taiwanJobs
  | philJobnet
  | mpsvCz
  | theMuse
  | jobspresso
  | remoteFrontendJobs
  | unCareers
  | jobtechSweden
  | workableGlobal
  | adzuna
  | jooble
  | reed
  | jobspipe
  | aiWebSearch
  | atsRosterGreenhouse
  | atsRosterLever
  | atsRosterAshby
  | atsRosterRecruitee
  | atsRosterPersonio
  | navArbeidsplassen
  | theirstack
deriving DecidableEq

def DiscoveryProvider.name : DiscoveryProvider → String
  | .himalayas => "himalayas"
  | .jobicy => "jobicy"
  | .remotive => "remotive"
  | .freehire => "freehire"
  | .jobOpportunities => "job_opportunities"
  | .remoteLanders => "remote_landers"
  | .jobgether => "jobgether"
  | .weWorkRemotely => "we_work_remotely"
  | .remoteFirstJobs => "remote_first_jobs"
  | .jobRemotely => "job_remotely"
  | .remoteOk => "remote_ok"
  | .arbeitnow => "arbeitnow"
  | .startupJobs => "startup_jobs"
  | .devitjobsNl => "devitjobs_nl"
  | .jobsCollider => "jobs_collider"
  | .workingNomads => "working_nomads"
  | .realWorkFromAnywhere => "real_work_from_anywhere"
  | .devitjobsUk => "devitjobs_uk"
  | .dice => "dice"
  | .remoote => "remoote"
  | .aiDevJobs => "ai_dev_jobs"
  | .taiwanJobs => "taiwan_jobs"
  | .philJobnet => "phil_jobnet"
  | .mpsvCz => "mpsv_cz"
  | .theMuse => "the_muse"
  | .jobspresso => "jobspresso"
  | .remoteFrontendJobs => "remote_frontend_jobs"
  | .unCareers => "un_careers"
  | .jobtechSweden => "jobtech_sweden"
  | .workableGlobal => "workable_global"
  | .adzuna => "adzuna"
  | .jooble => "jooble"
  | .reed => "reed"
  | .jobspipe => "jobspipe"
  | .aiWebSearch => "ai_web_search"
  | .atsRosterGreenhouse => "ats_roster_greenhouse"
  | .atsRosterLever => "ats_roster_lever"
  | .atsRosterAshby => "ats_roster_ashby"
  | .atsRosterRecruitee => "ats_roster_recruitee"
  | .atsRosterPersonio => "ats_roster_personio"
  | .navArbeidsplassen => "nav_arbeidsplassen"
  | .theirstack => "theirstack"

def DiscoveryProvider.all : List DiscoveryProvider :=
  [.himalayas, .jobicy, .remotive, .freehire, .jobOpportunities, .remoteLanders, .jobgether, .weWorkRemotely,
    .remoteFirstJobs, .jobRemotely, .remoteOk, .arbeitnow, .startupJobs, .devitjobsNl, .jobsCollider,
    .workingNomads, .realWorkFromAnywhere, .devitjobsUk, .dice, .remoote, .aiDevJobs, .taiwanJobs, .philJobnet,
    .mpsvCz, .theMuse, .jobspresso, .remoteFrontendJobs, .unCareers, .jobtechSweden, .workableGlobal, .adzuna,
    .jooble, .reed, .jobspipe, .aiWebSearch, .atsRosterGreenhouse, .atsRosterLever, .atsRosterAshby,
    .atsRosterRecruitee, .atsRosterPersonio, .navArbeidsplassen, .theirstack]

lemma DiscoveryProvider.mem_all (provider : DiscoveryProvider) : provider ∈ all := by
  cases provider <;> decide

lemma DiscoveryProvider.nodup_names : (all.map name).Nodup := by decide +kernel

lemma DiscoveryProvider.name_inj {a b : DiscoveryProvider} (h : a.name = b.name) : a = b :=
  List.inj_on_of_nodup_map nodup_names a.mem_all b.mem_all h

lemma DiscoveryProvider.colon_not_mem_name (provider : DiscoveryProvider) : ':' ∉ provider.name.toList := by
  cases provider <;> decide +kernel

structure VacancySourceReference where
  provider : DiscoveryProvider
  key : String
  url : String
deriving DecidableEq

/-! ## Salaries -/

inductive SalaryProvenance where
  | reviewedStructured
  | looseText
  | estimated
  | ambiguous
  | unreviewed
deriving DecidableEq

inductive SalaryNormalizationMethod where
  | advertisedAnnual
  | monthlyToAnnual
  | hourlyToAnnual
  | missing
  | invalidAmount
  | missingCurrency
  | unsupportedPeriod
  | ambiguousPeriod
  | unreviewedSource
  | estimatedSource
  | ambiguousSource
deriving DecidableEq

structure SalaryFields where
  currency : Option String := none
  salaryPeriod : Option String := none
  advertisedMinimum : Option ℚ := none
  annualizedMinimumUsd : Option ℚ := none
  normalizedAnnualMinimum : Option ℚ := none
  normalizedCurrency : Option String := none
  normalizationMethod : Option SalaryNormalizationMethod := none
  assumptionProvenance : Option String := none
  salaryProvenance : Option SalaryProvenance := none
  salaryProvider : Option DiscoveryProvider := none
  salarySourceKey : Option String := none
  salarySourceUrl : Option String := none
deriving DecidableEq

/-! ## Queries -/

/-- An entry of `fetchedBy`. -/
structure FetchOrigin where
  variantId : String
  query : String
  language : Option String
  provider : DiscoveryProvider
deriving DecidableEq

inductive MatchField where
  | title
  | description
deriving DecidableEq

/-- An entry of `matchedLocally`. -/
structure LocalMatch where
  variantId : String
  query : String
  language : Option String
  field : Option MatchField
deriving DecidableEq

structure LeadQueryProvenance where
  planRevision : ℕ
  fetchedBy : List FetchOrigin
  matchedLocally : List LocalMatch
deriving DecidableEq

/-! ## Rows -/

/-- `DiscoveryVacancyAudit`.  What is not read here is in `rest`. -/
structure DiscoveryVacancyAudit (ρ : Type) extends SalaryFields where
  key : String
  provider : DiscoveryProvider
  company : String
  title : String
  url : String
  location : String
  locations : Option (List String) := none
  searchableText : Option (List String) := none
  employmentTypes : Option (List String) := none
  employmentType : Option String := none
  description : Option String := none
  identity : Option VacancyIdentity := none
  sourceUrl : Option String := none
  applyUrl : Option ApplyUrlEvidence := none
  sources : Option (List VacancySourceReference) := none
  queryProvenance : Option LeadQueryProvenance := none
  rest : ρ
deriving DecidableEq

namespace DiscoveryVacancyAudit

variable {ρ : Type}

def ownSourceReferences (vacancy : DiscoveryVacancyAudit ρ) : List VacancySourceReference :=
  vacancy.sources.getD [⟨vacancy.provider, vacancy.key, vacancy.url⟩]

/-- The sources of a row, without their URLs. -/
def references (vacancy : DiscoveryVacancyAudit ρ) : List (DiscoveryProvider × String) :=
  vacancy.ownSourceReferences.map fun reference => (reference.provider, reference.key)

def ownLocations (vacancy : DiscoveryVacancyAudit ρ) : List String :=
  vacancy.locations.getD [vacancy.location]

def ownEmploymentTypes (vacancy : DiscoveryVacancyAudit ρ) : List String :=
  vacancy.employmentTypes.getD (vacancy.employmentType.filter fun type => type ≠ "").toList

def titleAndDescription (vacancy : DiscoveryVacancyAudit ρ) : String :=
  vacancy.title ++ " " ++ vacancy.description.getD ""

def identityInput (vacancy : DiscoveryVacancyAudit ρ) : IdentityInput :=
  ⟨vacancy.url, vacancy.company, vacancy.title, vacancy.location, some vacancy.provider.name, some vacancy.key⟩

end DiscoveryVacancyAudit

end VacancyRadar.GlobalRemote
