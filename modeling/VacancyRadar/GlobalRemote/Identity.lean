import VacancyRadar.Data.Text

/-!
# Identities of vacancies

`vacancies/identity.ts`: a row of discovery is the vacancy of a requisition at an employer, or else of a URL
that looks like a single posting, or else of a company, a title and a place.  The URLs and the alphabets are
the ones of the platform.
-/

namespace VacancyRadar.GlobalRemote

open Data

/-! ## The platform -/

/-- A `URL`, with the components that are read or written here. -/
structure Url where
  /-- With the colon. -/
  protocol : String := "https:"
  username : String := ""
  password : String := ""
  hostname : String
  port : String := ""
  pathname : String := "/"
  /-- The names and values of the query, decoded, in its order. -/
  searchParams : List (String × String) := []
  hash : String := ""

/-- What the code takes from its runtime and from its parser of markup.  `localeCompare` is a consistent
comparison. -/
structure Platform where
  /-- `new URL(input)`. -/
  parseUrl : String → Option Url
  /-- `url.pathname = path`. -/
  setPathname : Url → String → Url
  /-- `url.toString()`. -/
  href : Url → String
  toLowerCase : String → String
  toUpperCase : String → String
  toLocaleLowerCase : String → String
  /-- `toLocaleLowerCase('en')`. -/
  toEnglishLowerCase : String → String
  /-- `cheerio.load(input).root().text()`. -/
  markupText : String → String
  /-- `normalize('NFKC')`. -/
  compose : String → String
  localeCompare : String → String → Ordering
  localeCompare_consistent : Std.TransCmp localeCompare

/-! ## Requisitions -/

inductive AtsTenantProvider where
  | greenhouse
  | lever
  | ashby
  | personio
  | recruitee
  | rippling
deriving DecidableEq

def AtsTenantProvider.name : AtsTenantProvider → String
  | .greenhouse => "greenhouse"
  | .lever => "lever"
  | .ashby => "ashby"
  | .personio => "personio"
  | .recruitee => "recruitee"
  | .rippling => "rippling"

structure TenantRequisition where
  tenant : String
  requisitionId : String

def pathSegments (url : Url) : List String :=
  ((url.pathname.toList.splitOn '/').filter fun segment => segment ≠ []).map String.ofList

def lowerHost (url : Url) : String := String.ofList (url.hostname.toList.map Char.toLower)

def tenantRequisition (tenant requisitionId : Option String) : Option TenantRequisition := do
  return ⟨← tenant, ← requisitionId⟩

def greenhouseRequisition (url : Url) : Option TenantRequisition :=
  if lowerHost url ∉ ["job-boards.greenhouse.io", "boards.greenhouse.io", "boards-api.greenhouse.io"] then none
  else
    let parts := pathSegments url
    match parts.idxOf? "jobs" with
    | none => none
    | some jobsIndex =>
      tenantRequisition (if 0 < jobsIndex then parts[jobsIndex - 1]? else none) parts[jobsIndex + 1]?

def leverRequisition (url : Url) : Option TenantRequisition :=
  if lowerHost url ∉ ["jobs.lever.co", "jobs.eu.lever.co", "api.lever.co", "api.eu.lever.co"] then none
  else
    let parts := pathSegments url
    let startIndex :=
      if "api.".toList.isPrefixOf (lowerHost url).toList then
        match parts.idxOf? "postings" with
        | some index => index + 1
        | none => 0
      else 0
    tenantRequisition parts[startIndex]? parts[startIndex + 1]?

def ashbyRequisition (url : Url) : Option TenantRequisition :=
  if lowerHost url ≠ "jobs.ashbyhq.com" then none
  else tenantRequisition (pathSegments url)[0]? (pathSegments url)[1]?

def isHostLabel (label : List Char) : Bool :=
  label.length ≤ 63 && label.all (fun c => ('a' ≤ c && c ≤ 'z') || ('0' ≤ c && c ≤ '9') || c == '-') &&
    label.head? ≠ none && label.head? ≠ some '-' && label.getLast? ≠ some '-'

def withoutSuffix (suffix : String) (text : String) : Option String :=
  if suffix.toList.isSuffixOf text.toList then
    some (String.ofList (text.toList.take (text.toList.length - suffix.toList.length)))
  else none

def personioTenant (hostname : String) : Option String :=
  ((withoutSuffix ".jobs.personio.de" hostname).or (withoutSuffix ".jobs.personio.com" hostname)).filter
    fun tenant => isHostLabel tenant.toList

def segmentAfter (marker : String) (url : Url) : Option String :=
  if (pathSegments url)[0]? = some marker then (pathSegments url)[1]? else none

def personioRequisition (url : Url) : Option TenantRequisition :=
  tenantRequisition (personioTenant (lowerHost url)) (segmentAfter "job" url)

def recruiteeRequisition (url : Url) : Option TenantRequisition :=
  tenantRequisition ((withoutSuffix ".recruitee.com" (lowerHost url)).filter fun tenant => tenant ≠ "")
    (segmentAfter "o" url)

/-- `ripplingRequisition`.  A path is in ASCII. -/
def ripplingRequisition (url : Url) : Option TenantRequisition :=
  if lowerHost url ≠ "ats.rippling.com" then none
  else
    match (pathSegments url)[1]? with
    | none => none
    | some jobsMarker =>
      if jobsMarker.toList.map Char.toLower = "jobs".toList then
        tenantRequisition (pathSegments url)[0]? (pathSegments url)[2]?
      else none

def requisitionExtractors : List (AtsTenantProvider × (Url → Option TenantRequisition)) :=
  [(.greenhouse, greenhouseRequisition), (.lever, leverRequisition), (.ashby, ashbyRequisition),
    (.personio, personioRequisition), (.recruitee, recruiteeRequisition), (.rippling, ripplingRequisition)]

section

variable (platform : Platform)

def atsRequisitionFor (rawUrl : String) : Option (AtsTenantProvider × TenantRequisition) := do
  let url ← platform.parseUrl rawUrl
  requisitionExtractors.findSome? fun extractor =>
    ((extractor.2 url).filter fun found => found.tenant ≠ "" ∧ found.requisitionId ≠ "").map fun found =>
      (extractor.1, found)

/-! ## URLs of postings -/

def genericListingLastSegments : List String :=
  ["careers", "career", "jobs", "job", "job-openings", "openings", "open-positions", "open-roles", "positions",
    "vacancies", "vacancy", "search", "job-search", "find-jobs", "browse", "opportunities", "apply",
    "work-with-us", "join-us", "hiring", "talent", "jobboard", "job-board"]

def specificQueryKeys : List String :=
  ["job", "jobid", "jobsid", "job_id", "gh_jid", "posting", "postingid", "req", "reqid", "requisition",
    "requisitionid", "id"]

/-- Letters that the flags `iu` do not tell apart. -/
def foldCase (c : Char) : Char :=
  if c = '\u017f' then 's' else if c = '\u212a' then 'k' else c.toLower

def isGenericListingUrl (rawUrl : String) : Bool :=
  match platform.parseUrl rawUrl with
  | none => true
  | some url =>
    if url.searchParams.any fun param => String.ofList (param.1.toList.map foldCase) ∈ specificQueryKeys then false
    else if lowerHost url = "apply.workable.com" ∧ ¬ "/j/".toList.isPrefixOf url.pathname.toList then true
    else if lowerHost url = "data.mpsv.cz" then true
    else
      match (pathSegments url).getLast? with
      | none => true
      | some last => String.ofList (last.toList.map Char.toLower) ∈ genericListingLastSegments

def trackingParameters : List String :=
  ["fbclid", "gclid", "msclkid", "ref", "referrer", "source", "trk", "trackingid"]

def isTrackingParameter (name : String) : Bool :=
  "utm_".toList.isPrefixOf (platform.toLowerCase name).toList || platform.toLowerCase name ∈ trackingParameters

/-- `canonicalizeVacancyUrl`, which throws for what is no URL. -/
def canonicalizeVacancyUrl (input : String) : Option String := do
  let url ← platform.parseUrl input
  let kept := url.searchParams.filter fun param => !isTrackingParameter platform param.1
  let sorted := kept.insertionSort fun a b => codeUnits a.1 ≤ codeUnits b.1
  let url := { url with hash := "", searchParams := sorted }
  let url :=
    if url.pathname ≠ "/" then
      platform.setPathname url (String.ofList (url.pathname.toList.rdropWhile fun c => c == '/'))
    else url
  return platform.href url

/-! ## The identity -/

/-- `replace(/\s+/g, ' ')`.  The flag says that a space was just written for the spaces before. -/
def squeezed : Bool → List Char → List Char
  | _, [] => []
  | written, c :: rest =>
    if isTrimmed c then (if written then squeezed true rest else ' ' :: squeezed true rest)
    else c :: squeezed false rest

/-- `normalizeVacancyText`.  The spaces that it replaces on their own are white space as well. -/
def normalizeVacancyText (input : String) : String :=
  platform.toEnglishLowerCase
    (trim (String.ofList (squeezed false (platform.compose (platform.markupText input)).toList)))

def semanticIdentityKey (company title location : String) : String :=
  " :: ".intercalate [normalizeVacancyText platform company, normalizeVacancyText platform title,
    normalizeVacancyText platform location]

inductive VacancyIdentityKind where
  | requisition
  | canonicalUrl
  | semantic
deriving DecidableEq

def VacancyIdentityKind.name : VacancyIdentityKind → String
  | .requisition => "requisition"
  | .canonicalUrl => "canonical_url"
  | .semantic => "semantic"

structure VacancyIdentity where
  kind : VacancyIdentityKind
  key : String
  employerKey : Option String
  requisitionId : Option String
deriving DecidableEq

def mpsvCzIdentityScope : String := "mpsv_cz:snapshot"

/-- `/^mpsv_cz:(\d+)$/u`. -/
def portalId (key : String) : Option String :=
  let digits := key.toList.drop "mpsv_cz:".length
  if "mpsv_cz:".toList.isPrefixOf key.toList ∧ digits ≠ [] ∧ digits.all Char.isDigit then
    some (String.ofList digits)
  else none

structure IdentityInput where
  url : String
  company : String
  title : String
  location : String
  provider : Option String
  key : Option String

/-- The last two ways of `vacancyIdentityFor`. -/
def linkIdentityFor (input : IdentityInput) : VacancyIdentity :=
  let canonical :=
    if isGenericListingUrl platform input.url then none else canonicalizeVacancyUrl platform input.url
  match canonical with
  | some key => ⟨.canonicalUrl, key, none, none⟩
  | none => ⟨.semantic, semanticIdentityKey platform input.company input.title input.location, none, none⟩

def vacancyIdentityFor (input : IdentityInput) : VacancyIdentity :=
  let snapshot := if input.provider = some "mpsv_cz" then portalId (input.key.getD "") else none
  match snapshot with
  | some id => ⟨.requisition, "mpsv_cz:" ++ id, some mpsvCzIdentityScope, some id⟩
  | none =>
    match atsRequisitionFor platform input.url with
    | some (provider, found) =>
      let employerKey := provider.name ++ ":" ++ String.ofList (found.tenant.toList.map Char.toLower)
      ⟨.requisition, employerKey ++ ":" ++ found.requisitionId, some employerKey, some found.requisitionId⟩
    | none => linkIdentityFor platform input

end

/-! ## Apply URLs -/

inductive ApplyUrlStatus where
  | verified
  | unresolved
  | blocked
deriving DecidableEq

structure ApplyUrlEvidence where
  status : ApplyUrlStatus
  url : Option String
  reasons : List String
deriving DecidableEq

def resolveApplyUrl (identity : VacancyIdentity) (url : String) : ApplyUrlEvidence :=
  match identity.kind with
  | .requisition =>
    if identity.employerKey = some mpsvCzIdentityScope then
      ⟨.unresolved, some url, ["This row comes from the Czech open vacancy snapshot, which has no per-vacancy " ++
        "application page; the link is not a verified application target."]⟩
    else
      ⟨.verified, some url, ["Resolved to " ++ identity.employerKey.getD "an ATS" ++ " requisition " ++
        identity.requisitionId.getD "(unknown)" ++ "."]⟩
  | .canonicalUrl =>
    ⟨.unresolved, some url, ["No ATS requisition ID could be extracted from this URL; treated as an " ++
      "unresolved application target pending review."]⟩
  | .semantic =>
    ⟨.unresolved, some url, ["No requisition ID or specific-posting URL was found; this row is grouped by " ++
      "company, title and location similarity only, which does not verify an application target."]⟩

/-! ## Keys of groups -/

def VacancyIdentity.groupKey (identity : VacancyIdentity) : String :=
  identity.kind.name ++ "::" ++ identity.key

lemma append_separator_inj {s t v w : List Char} {c : Char} (hs : c ∉ s) (ht : c ∉ t)
    (h : s ++ c :: v = t ++ c :: w) : s = t ∧ v = w := by
  induction s generalizing t with
  | nil =>
    cases t with
    | nil => exact ⟨rfl, (List.cons.inj h).2⟩
    | cons d t => exact absurd (List.cons.inj h).1 fun heq => ht (heq ▸ List.mem_cons_self)
  | cons d s ih =>
    cases t with
    | nil => exact absurd (List.cons.inj h).1 fun heq => hs (heq ▸ List.mem_cons_self)
    | cons e t =>
      obtain ⟨rfl, hrest⟩ := List.cons.inj h
      obtain ⟨rfl, rfl⟩ := ih (fun hmem => hs (List.mem_cons_of_mem _ hmem))
        (fun hmem => ht (List.mem_cons_of_mem _ hmem)) hrest
      exact ⟨rfl, rfl⟩

lemma colons_inj {s t v w : String} (hs : ':' ∉ s.toList) (ht : ':' ∉ t.toList)
    (h : s ++ "::" ++ v = t ++ "::" ++ w) : s = t ∧ v = w := by
  have hlist := congrArg String.toList h
  simp only [String.toList_append, List.append_assoc] at hlist
  obtain ⟨hname, hrest⟩ := append_separator_inj hs ht hlist
  exact ⟨String.toList_inj.mp hname, String.toList_inj.mp (List.cons.inj hrest).2⟩

lemma VacancyIdentityKind.colon_not_mem_name (kind : VacancyIdentityKind) : ':' ∉ kind.name.toList := by
  cases kind <;> decide

lemma VacancyIdentityKind.name_inj {a b : VacancyIdentityKind} (h : a.name = b.name) : a = b := by
  cases a <;> cases b <;> first | rfl | exact absurd h (by decide)

lemma VacancyIdentity.groupKey_inj {a b : VacancyIdentity} :
    a.groupKey = b.groupKey ↔ a.kind = b.kind ∧ a.key = b.key := by
  constructor
  · intro h
    obtain ⟨hkind, hkey⟩ := colons_inj a.kind.colon_not_mem_name b.kind.colon_not_mem_name h
    exact ⟨VacancyIdentityKind.name_inj hkind, hkey⟩
  · rintro ⟨hkind, hkey⟩
    rw [VacancyIdentity.groupKey, VacancyIdentity.groupKey, hkind, hkey]

end VacancyRadar.GlobalRemote
