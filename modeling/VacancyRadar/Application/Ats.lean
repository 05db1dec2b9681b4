import VacancyRadar.Application.Checkpoint
import VacancyRadar.Application.UrlKey

/-!
# Employers in apply URLs

`workspace/application-identity.ts` reads the employer of a posting from the URL in two places.
`parseAtsRequisition` finds the employer and the opening, `parseAtsTenant` only the employer.  The rules for the
hosts and for the paths are written down in each of them.
-/

namespace VacancyRadar.Application

open Data

/-! ## Tokens and hosts -/

def isAlphanumeric (c : Char) : Bool := ('a' ≤ c && c ≤ 'z') || ('A' ≤ c && c ≤ 'Z') || ('0' ≤ c && c ≤ '9')

/-- `/^[A-Za-z0-9](?:[A-Za-z0-9._-]{0,126}[A-Za-z0-9])?$/u`. -/
def isToken (text : List Char) : Bool :=
  text.head?.any isAlphanumeric && text.getLast?.any isAlphanumeric && text.length ≤ 128 &&
    text.all fun c => isAlphanumeric c || c = '.' || c = '_' || c = '-'

def token (value : Option String) : Option String :=
  (value.map fun value => trim (decodeSegment value)).filter fun trimmed => isToken trimmed.toList

/-- `(^|\.)` and a domain and `$`. -/
def isUnder (domain host : String) : Bool := host = domain || ("." ++ domain).toList.isSuffixOf host.toList

def beforeSuffix (host suffix : String) : List Char := host.toList.take (host.toList.length - suffix.toList.length)

/-- `^[^.]+` and a suffix and `$`. -/
def isLabelUnder (suffix host : String) : Bool :=
  suffix.toList.isSuffixOf host.toList && beforeSuffix host suffix ≠ [] && '.' ∉ beforeSuffix host suffix

def firstLabel (host : String) : String := String.ofList (host.toList.takeWhile (· ≠ '.'))

/-- `/^[a-z0-9-]+\.wd\d+\.myworkdayjobs\.com$/u`. -/
def isWorkday (host : String) : Bool :=
  match host.toList.splitOn '.' with
  | [tenant, 'w' :: 'd' :: digits, domain, top] =>
    tenant ≠ [] && tenant.all (fun c => ('a' ≤ c && c ≤ 'z') || ('0' ≤ c && c ≤ '9') || c = '-') &&
      digits ≠ [] && digits.all (fun c => '0' ≤ c && c ≤ '9') && domain = "myworkdayjobs".toList &&
      top = "com".toList
  | _ => false

def subdomainBoard (host suffix : String) : Option String :=
  if suffix.toList.isSuffixOf host.toList then token (some (String.ofList (beforeSuffix host suffix))) else none

/-- `searchParams.get`. -/
def paramOf (url : Url) (name : String) : Option String :=
  (url.searchParams.find? fun param => param.1 = name).map Prod.snd

/-! ## The opening -/

structure AtsRequisition where
  provider : String
  board : String
  requisitionId : String
deriving DecidableEq

def requisition (provider : String) (board requisitionId : Option String) : Option AtsRequisition := do
  return ⟨provider, ← board, ← requisitionId⟩

def tokenAt (url : Url) (index : ℕ) : Option String := token (pathSegments url)[index]?

def tokenAfter (url : Url) (marker : String) : Option String :=
  let segments := pathSegments url
  if marker ∈ segments then token segments[segments.idxOf marker + 1]? else none

def leadingDigits (posting : String) : String :=
  let digits := posting.toList.takeWhile fun c => '0' ≤ c && c ≤ '9'
  if digits = [] then posting else String.ofList digits

def afterUnderscore (tail : String) : Option String :=
  if '_' ∈ tail.toList then some (String.ofList (tail.toList.reverse.takeWhile (· ≠ '_')).reverse) else none

def parseAtsRequisition (url : Url) : Option AtsRequisition :=
  let host := hostKey url
  if isUnder "greenhouse.io" host then
    (requisition "greenhouse" (tokenAt url 0) (tokenAfter url "jobs")).or
      (requisition "greenhouse" (token (paramOf url "for")) (token (paramOf url "token")))
  else if isUnder "lever.co" host then requisition "lever" (tokenAt url 0) (tokenAt url 1)
  else if isUnder "ashbyhq.com" host then requisition "ashby" (tokenAt url 0) (tokenAt url 1)
  else if isUnder "rippling.com" host then requisition "rippling" (tokenAt url 0) (tokenAfter url "jobs")
  else if isUnder "smartrecruiters.com" host then
    requisition "smartrecruiters" (tokenAt url 0) ((tokenAt url 1).map leadingDigits)
  else if isUnder "workable.com" host then
    requisition "workable" (tokenAt url 0) ((tokenAfter url "j").or (tokenAfter url "jobs"))
  else if isUnder "recruitee.com" host then
    requisition "recruitee" (subdomainBoard host ".recruitee.com") (tokenAfter url "o")
  else if isUnder "personio.com" host || isUnder "personio.de" host then
    requisition "personio" (token (some (firstLabel host))) (tokenAfter url "job")
  else if isUnder "teamtailor.com" host then
    requisition "teamtailor" (subdomainBoard host ".teamtailor.com") (tokenAfter url "jobs")
  else if isWorkday host then
    requisition "workday" (token (some (firstLabel host)))
      (((pathSegments url).getLast?.bind afterUnderscore).bind fun id => token (some id))
  else none

/-! ## The employer -/

structure AtsTenant where
  provider : String
  /-- In lower case. -/
  board : String
deriving DecidableEq

section

variable (locale : Locale) (parser : UrlParser)

def tenant (provider : String) (board : Option String) : Option AtsTenant :=
  board.map fun board => ⟨provider, locale.toLowerCase board⟩

def tenantOf (url : Url) : Option AtsTenant :=
  let host := hostKey url
  let first := tokenAt url 0
  if isUnder "greenhouse.io" host then
    let embedded := if (pathSegments url)[0]? = some "embed" then token (paramOf url "for") else none
    tenant locale "greenhouse" ((embedded.or first).or (token (paramOf url "for")))
  else if isUnder "lever.co" host then tenant locale "lever" first
  else if isUnder "ashbyhq.com" host then tenant locale "ashby" first
  else if isUnder "rippling.com" host then tenant locale "rippling" first
  else if isUnder "smartrecruiters.com" host then tenant locale "smartrecruiters" first
  else if isUnder "workable.com" host then tenant locale "workable" first
  else if isLabelUnder ".recruitee.com" host then
    tenant locale "recruitee" (subdomainBoard host ".recruitee.com")
  else if isLabelUnder ".jobs.personio.com" host || isLabelUnder ".jobs.personio.de" host then
    tenant locale "personio" (token (some (firstLabel host)))
  else if isLabelUnder ".teamtailor.com" host then
    tenant locale "teamtailor" (subdomainBoard host ".teamtailor.com")
  else if isWorkday host then tenant locale "workday" (token (some (firstLabel host)))
  else none

def parseAtsTenant (value : String) : Option AtsTenant :=
  (parser.parse (trim value)).bind fun url =>
    if url.protocol ≠ "https:" ∨ url.username ≠ "" ∨ url.password ≠ "" ∨ (url.port ≠ "" ∧ url.port ≠ "443") then
      none
    else if url.hostname.toList.getLast? = some '.' then none
    else tenantOf locale url

/-! ## The identity -/

/-- `normalizeEmployerName`.  What is between letters and digits becomes one hyphen. -/
def normalizeEmployerName (company : String) : String :=
  let folded := (locale.decompose company).toList.filter fun c => !locale.isDiacritic c
  let lower := (locale.toLowerCase (String.ofList folded)).toList
  let pieces := lower.splitOnP fun c => !(('a' ≤ c && c ≤ 'z') || ('0' ≤ c && c ≤ '9'))
  "-".intercalate ((pieces.filter fun piece => piece ≠ []).map String.ofList)

structure ApplicationIdentityInput where
  company : String
  canonicalUrl : Option String := none
  requisitionId : Option String := none

def deriveApplicationIdentity (input : ApplicationIdentityInput) : ApplicationIdentity :=
  let canonicalUrlKey := normalizeCanonicalUrlKey locale parser (input.canonicalUrl.getD "")
  match (parseHttpUrl parser (trim (input.canonicalUrl.getD ""))).bind parseAtsRequisition with
  | some ats =>
    { employerKey := ats.provider ++ ":" ++ locale.toLowerCase ats.board
      requisitionId := some ats.requisitionId
      canonicalUrlKey }
  | none =>
    let supplied := trim (input.requisitionId.getD "")
    { employerKey := normalizeEmployerName locale input.company
      requisitionId := if supplied = "" then none else some supplied
      canonicalUrlKey }

end

/-! ## Where they disagree -/

/-- The two readings of a URL name the same employer. -/
structure SameEmployer (locale : Locale) (identity : ApplicationIdentity) (found : AtsRequisition)
    (located : AtsTenant) : Prop where
  provider : found.provider = located.provider
  board : locale.toLowerCase found.board = located.board
  key : identity.employerKey = located.provider ++ ":" ++ located.board

def OtherBoard (locale : Locale) (board : String) (url : Url) : Prop :=
  ∃ embedded, token (paramOf url "for") = some embedded ∧
    locale.toLowerCase board ≠ locale.toLowerCase embedded

/-- The URL of a Greenhouse board has one board in the path and another one in the query, and the
readings take different ones: under `embed` if the opening stands in the path, and elsewhere if it
stands in the query. -/
def TwoBoards (locale : Locale) (url : Url) : Prop :=
  isUnder "greenhouse.io" (hostKey url) ∧
    (((pathSegments url)[0]? = some "embed" ∧ (tokenAfter url "jobs").isSome ∧ OtherBoard locale "embed" url) ∨
      ((pathSegments url)[0]? ≠ some "embed" ∧ tokenAfter url "jobs" = none ∧
        (token (paramOf url "token")).isSome ∧ ∃ board, tokenAt url 0 = some board ∧ OtherBoard locale board url))

/-! ## Hosts of one provider -/

variable {locale : Locale} {parser : UrlParser} {url : Url} {found : AtsRequisition} {located : AtsTenant}

def EndsIn (domain host : String) : Prop := domain.toList <:+ host.toList

variable {domain host suffix : String}

lemma endsIn_of_isUnder (h : isUnder domain host) : EndsIn domain host := by
  simp only [isUnder, Bool.or_eq_true, decide_eq_true_eq, List.isSuffixOf_iff_suffix] at h
  rcases h with rfl | h
  · exact List.suffix_refl _
  · have hdot : domain.toList <:+ ("." ++ domain).toList := by
      rw [String.toList_append]
      exact List.suffix_append _ _
    exact hdot.trans h

lemma endsIn_of_isLabelUnder (hsuffix : domain.toList <:+ suffix.toList)
    (h : isLabelUnder suffix host) : EndsIn domain host := by
  simp only [isLabelUnder, Bool.and_eq_true, List.isSuffixOf_iff_suffix] at h
  exact hsuffix.trans h.1.1

lemma isUnder_of_isLabelUnder (hsuffix : ("." ++ domain).toList <:+ suffix.toList)
    (h : isLabelUnder suffix host) : isUnder domain host := by
  simp only [isLabelUnder, Bool.and_eq_true, List.isSuffixOf_iff_suffix] at h
  rw [isUnder, Bool.or_eq_true, List.isSuffixOf_iff_suffix]
  exact .inr (hsuffix.trans h.1.1)

lemma endsIn_of_isWorkday (h : isWorkday host) : EndsIn "myworkdayjobs.com" host := by
  unfold isWorkday at h
  split at h
  · next tenant digits domain top hsplit =>
    simp only [Bool.and_eq_true, decide_eq_true_eq] at h
    have hhost : host.toList = ['.'].intercalate (host.toList.splitOn '.') :=
      (List.intercalate_splitOn '.').symm
    rw [EndsIn, hhost, hsplit, h.1.2, h.2]
    exact ⟨tenant ++ '.' :: 'w' :: 'd' :: digits ++ ['.'], by simp⟩
  · simp at h

lemma not_endsIn_of_endsIn {domain' : String} (h : EndsIn domain host)
    (hne : ¬ domain.toList <:+ domain'.toList) (hne' : ¬ domain'.toList <:+ domain.toList) :
    ¬ EndsIn domain' host := by
  intro h'
  rcases List.suffix_or_suffix_of_suffix h h' with hsuffix | hsuffix
  · exact hne hsuffix
  · exact hne' hsuffix

/-! ## What is read -/

variable {provider : String} {board requisitionId : Option String}

lemma requisition_eq_some (h : requisition provider board requisitionId = some found) :
    found.provider = provider ∧ board = some found.board ∧ requisitionId = some found.requisitionId := by
  simp only [requisition, Option.bind_eq_bind, Option.bind_eq_some_iff] at h
  obtain ⟨b, rfl, id, rfl, heq⟩ := h
  obtain rfl := Option.some.inj heq
  exact ⟨rfl, rfl, rfl⟩

lemma tenant_eq_some (h : tenant locale provider board = some located) :
    located.provider = provider ∧ ∃ b, board = some b ∧ located.board = locale.toLowerCase b := by
  obtain ⟨b, hb, rfl⟩ := Option.map_eq_some_iff.mp h
  exact ⟨rfl, b, hb, rfl⟩

def Reads (locale : Locale) (found : AtsRequisition) (located : AtsTenant) : Prop :=
  found.provider = located.provider ∧ locale.toLowerCase found.board = located.board

lemma reads_of_board (h : requisition provider board requisitionId = some found)
    (h' : tenant locale provider board = some located) : Reads locale found located:= by
  obtain ⟨hprovider, hboard, -⟩ := requisition_eq_some h
  obtain ⟨hprovider', b, hb, hlower⟩ := tenant_eq_some h'
  obtain rfl : found.board = b := Option.some.inj (hboard.symm.trans hb)
  exact ⟨hprovider.trans hprovider'.symm, hlower.symm⟩

lemma isLabelUnder_eq_false (h : EndsIn domain host) (other suffix : String)
    (hsuffix : other.toList <:+ suffix.toList) (hne : ¬ domain.toList <:+ other.toList)
    (hne' : ¬ other.toList <:+ domain.toList) : isLabelUnder suffix host = false :=
  Bool.eq_false_iff.mpr fun hlabel =>
    not_endsIn_of_endsIn h hne hne' (endsIn_of_isLabelUnder hsuffix hlabel)

lemma isWorkday_eq_false (h : EndsIn domain host)
    (hne : ¬ domain.toList <:+ "myworkdayjobs.com".toList)
    (hne' : ¬ "myworkdayjobs.com".toList <:+ domain.toList) : isWorkday host = false :=
  Bool.eq_false_iff.mpr fun hworkday => not_endsIn_of_endsIn h hne hne' (endsIn_of_isWorkday hworkday)

lemma reads_of_host
    (h : (if isUnder "recruitee.com" (hostKey url) then
        requisition "recruitee" (subdomainBoard (hostKey url) ".recruitee.com") (tokenAfter url "o")
      else if isUnder "personio.com" (hostKey url) || isUnder "personio.de" (hostKey url) then
        requisition "personio" (token (some (firstLabel (hostKey url)))) (tokenAfter url "job")
      else if isUnder "teamtailor.com" (hostKey url) then
        requisition "teamtailor" (subdomainBoard (hostKey url) ".teamtailor.com") (tokenAfter url "jobs")
      else if isWorkday (hostKey url) then
        requisition "workday" (token (some (firstLabel (hostKey url))))
          (((pathSegments url).getLast?.bind afterUnderscore).bind fun id => token (some id))
      else none) = some found)
    (h' : (if isLabelUnder ".recruitee.com" (hostKey url) then
        tenant locale "recruitee" (subdomainBoard (hostKey url) ".recruitee.com")
      else if isLabelUnder ".jobs.personio.com" (hostKey url) || isLabelUnder ".jobs.personio.de" (hostKey url) then
        tenant locale "personio" (token (some (firstLabel (hostKey url))))
      else if isLabelUnder ".teamtailor.com" (hostKey url) then
        tenant locale "teamtailor" (subdomainBoard (hostKey url) ".teamtailor.com")
      else if isWorkday (hostKey url) then tenant locale "workday" (token (some (firstLabel (hostKey url))))
      else none) = some located) :
    Reads locale found located := by
  generalize hostKey url = host at h h'
  by_cases hrecruitee : isUnder "recruitee.com" host
  · have hends := endsIn_of_isUnder hrecruitee
    have hpersonio := isLabelUnder_eq_false hends "personio.com" ".jobs.personio.com" (by decide) (by decide) (by decide)
    have hpersonio' := isLabelUnder_eq_false hends "personio.de" ".jobs.personio.de" (by decide) (by decide) (by decide)
    have hteam := isLabelUnder_eq_false hends "teamtailor.com" ".teamtailor.com" (by decide) (by decide) (by decide)
    have hworkday := isWorkday_eq_false hends (by decide) (by decide)
    rw [if_pos hrecruitee] at h
    simp only [hpersonio, hpersonio', hteam, hworkday, Bool.or_false, Bool.false_eq_true, if_false] at h'
    split at h'
    · exact reads_of_board h h'
    · simp at h'
  have hrecruitee' : ¬ isLabelUnder ".recruitee.com" host := mt (isUnder_of_isLabelUnder (by decide)) hrecruitee
  rw [if_neg hrecruitee] at h
  rw [if_neg hrecruitee'] at h'
  by_cases hpersonio : isUnder "personio.com" host || isUnder "personio.de" host
  · have hfalse : isLabelUnder ".teamtailor.com" host = false ∧ isWorkday host = false := by
      rcases (Bool.or_eq_true _ _).mp hpersonio with hcom | hde
      · have hends := endsIn_of_isUnder hcom
        exact ⟨isLabelUnder_eq_false hends "teamtailor.com" _ (by decide) (by decide) (by decide),
          isWorkday_eq_false hends (by decide) (by decide)⟩
      · have hends := endsIn_of_isUnder hde
        exact ⟨isLabelUnder_eq_false hends "teamtailor.com" _ (by decide) (by decide) (by decide),
          isWorkday_eq_false hends (by decide) (by decide)⟩
    rw [if_pos hpersonio] at h
    simp only [hfalse.1, hfalse.2, Bool.false_eq_true, if_false] at h'
    split at h'
    · exact reads_of_board h h'
    · simp at h'
  have hpersonio' : ¬ (isLabelUnder ".jobs.personio.com" host || isLabelUnder ".jobs.personio.de" host) := by
    intro hlabel
    rcases (Bool.or_eq_true _ _).mp hlabel with hcom | hde
    · exact hpersonio ((Bool.or_eq_true _ _).mpr (.inl (isUnder_of_isLabelUnder (by decide) hcom)))
    · exact hpersonio ((Bool.or_eq_true _ _).mpr (.inr (isUnder_of_isLabelUnder (by decide) hde)))
  rw [if_neg hpersonio] at h
  rw [if_neg hpersonio'] at h'
  by_cases hteam : isUnder "teamtailor.com" host
  · have hworkday := isWorkday_eq_false (endsIn_of_isUnder hteam) (by decide) (by decide)
    rw [if_pos hteam] at h
    simp only [hworkday, Bool.false_eq_true, if_false] at h'
    split at h'
    · exact reads_of_board h h'
    · simp at h'
  have hteam' : ¬ isLabelUnder ".teamtailor.com" host := mt (isUnder_of_isLabelUnder (by decide)) hteam
  rw [if_neg hteam] at h
  rw [if_neg hteam'] at h'
  split at h
  · next hworkday =>
    rw [if_pos hworkday] at h'
    exact reads_of_board h h'
  · simp at h

lemma reads_of_not_greenhouse (hgreenhouse : ¬ isUnder "greenhouse.io" (hostKey url))
    (h : parseAtsRequisition url = some found) (h' : tenantOf locale url = some located) :
    Reads locale found located := by
  simp only [parseAtsRequisition, tenantOf, if_neg hgreenhouse] at h h'
  -- boards in the path: the rules for the hosts are the same
  by_cases hlever : isUnder "lever.co" (hostKey url)
  · rw [if_pos hlever] at h h'
    exact reads_of_board h h'
  rw [if_neg hlever] at h h'
  by_cases hashby : isUnder "ashbyhq.com" (hostKey url)
  · rw [if_pos hashby] at h h'
    exact reads_of_board h h'
  rw [if_neg hashby] at h h'
  by_cases hrippling : isUnder "rippling.com" (hostKey url)
  · rw [if_pos hrippling] at h h'
    exact reads_of_board h h'
  rw [if_neg hrippling] at h h'
  by_cases hsmart : isUnder "smartrecruiters.com" (hostKey url)
  · rw [if_pos hsmart] at h h'
    exact reads_of_board h h'
  rw [if_neg hsmart] at h h'
  by_cases hworkable : isUnder "workable.com" (hostKey url)
  · rw [if_pos hworkable] at h h'
    exact reads_of_board h h'
  rw [if_neg hworkable] at h h'
  exact reads_of_host h h'

/-- A board is what a URL under `embed` begins with, if it is read from the path. -/
lemma tokenAt_embed (h : (pathSegments url)[0]? = some "embed") : tokenAt url 0 = some "embed" := by
  rw [tokenAt, h]
  decide

lemma of_greenhouse {job embedded opening : Option String}
    (h : (requisition "greenhouse" board job).or (requisition "greenhouse" embedded opening) = some found) :
    found.provider = "greenhouse" ∧ ((board = some found.board ∧ job.isSome) ∨
      ((board = none ∨ job = none) ∧ embedded = some found.board ∧ opening.isSome)) := by
  rcases Option.or_eq_some_iff.mp h with hpath | ⟨hnone, hquery⟩
  · obtain ⟨hprovider, hboard, hjob⟩ := requisition_eq_some hpath
    exact ⟨hprovider, .inl ⟨hboard, by simp [hjob]⟩⟩
  · obtain ⟨hprovider, hboard, hopening⟩ := requisition_eq_some hquery
    have hmissing : board = none ∨ job = none := by
      cases board with
      | none => exact .inl rfl
      | some b =>
        cases job with
        | none => exact .inr rfl
        | some j => simp [requisition] at hnone
    exact ⟨hprovider, .inr ⟨hmissing, hboard, by simp [hopening]⟩⟩

lemma reads_iff_of_greenhouse (hgreenhouse : isUnder "greenhouse.io" (hostKey url))
    (h : parseAtsRequisition url = some found) (h' : tenantOf locale url = some located) :
    Reads locale found located ↔ ¬ TwoBoards locale url := by
  simp only [parseAtsRequisition, tenantOf, if_pos hgreenhouse] at h h'
  obtain ⟨hprovider, hfound⟩ := of_greenhouse h
  obtain ⟨hprovider', board, hboard, hlower⟩ := tenant_eq_some h'
  rw [Reads, hprovider, hprovider', hlower, TwoBoards]
  simp only [hgreenhouse, true_and]
  by_cases hembed : (pathSegments url)[0]? = some "embed"
  · have hat := tokenAt_embed hembed
    rw [if_pos hembed, hat] at hboard
    rw [hat] at hfound
    rcases hfound with ⟨hpath, hjob⟩ | ⟨hmissing, hquery, -⟩
    · -- the board of the path is `embed`, the other one is that of the query
      have hfoundBoard : found.board = "embed" := (Option.some.inj hpath).symm
      rw [hfoundBoard]
      cases hfor : token (paramOf url "for") with
      | none =>
        rw [hfor] at hboard
        obtain rfl : "embed" = board := by simpa using hboard
        simp [hembed, hfor, OtherBoard]
      | some embedded =>
        rw [hfor] at hboard
        obtain rfl : embedded = board := by simpa using hboard
        simp [hembed, hjob, hfor, OtherBoard]
    · have hjob : tokenAfter url "jobs" = none := hmissing.resolve_left (by simp)
      rw [hquery] at hboard
      obtain rfl : found.board = board := by simpa using hboard
      simp [hembed, hjob]
  · rw [if_neg hembed, Option.none_or] at hboard
    rcases hfound with ⟨hpath, hjob⟩ | ⟨hmissing, hquery, hopening⟩
    · have hnone : tokenAfter url "jobs" ≠ none := Option.isSome_iff_ne_none.mp hjob
      rw [hpath] at hboard
      obtain rfl : found.board = board := by simpa using hboard
      simp [hembed, hnone]
    · cases hat : tokenAt url 0 with
      | none =>
        rw [hat, hquery] at hboard
        obtain rfl : found.board = board := by simpa using hboard
        simp [hembed]
      | some first =>
        have hjob : tokenAfter url "jobs" = none := hmissing.resolve_left (by simp [hat])
        rw [hat] at hboard
        obtain rfl : first = board := by simpa using hboard
        simp [hembed, hjob, hquery, hopening, OtherBoard, eq_comm]

/-- **The two readings name the same employer, unless there are two boards.**  Where both recognise
one, the provider and the board are the same up to the case, if and only if the URL is not one of a
Greenhouse board with another board in its query that only one of them reads. -/
theorem sameEmployer_iff (locale : Locale) (parser : UrlParser) (company value : String)
    (requisitionId : Option String) (url : Url) (found : AtsRequisition) (located : AtsTenant)
    (hurl : parser.parse (trim value) = some url) (hfound : parseAtsRequisition url = some found)
    (hlocated : parseAtsTenant locale parser value = some located) :
    SameEmployer locale (deriveApplicationIdentity locale parser ⟨company, some value, requisitionId⟩) found located ↔
      ¬ TwoBoards locale url := by
  obtain ⟨hhttps, htenant⟩ : url.protocol = "https:" ∧ tenantOf locale url = some located := by
    simp only [parseAtsTenant, hurl, Option.bind_some] at hlocated
    split at hlocated
    · simp at hlocated
    · next hplain =>
      split at hlocated
      · simp at hlocated
      · exact ⟨by_contra fun hnot => hplain (.inl hnot), hlocated⟩
  have hparsed : parseHttpUrl parser (trim value) = some url := by
    simp [parseHttpUrl, hurl, Option.filter, hhttps]
  have hkey : (deriveApplicationIdentity locale parser ⟨company, some value, requisitionId⟩).employerKey =
      found.provider ++ ":" ++ locale.toLowerCase found.board := by
    simp [deriveApplicationIdentity, hparsed, hfound]
  have hsame : SameEmployer locale (deriveApplicationIdentity locale parser ⟨company, some value, requisitionId⟩)
      found located ↔ Reads locale found located := by
    constructor
    · exact fun h => ⟨h.provider, h.board⟩
    · rintro ⟨hprovider, hboard⟩
      exact ⟨hprovider, hboard, by rw [hkey, hprovider, hboard]⟩
  rw [hsame]
  by_cases hgreenhouse : isUnder "greenhouse.io" (hostKey url)
  · exact reads_iff_of_greenhouse hgreenhouse hfound htenant
  · have hreads := reads_of_not_greenhouse hgreenhouse hfound htenant
    simp [hreads, TwoBoards, hgreenhouse]

/-! ## A board that is embedded -/

def embeddedOpening : Url where
  protocol := "https:"
  hostname := "boards.greenhouse.io"
  pathname := "/embed/jobs/4211"
  searchParams := [("for", "acme")]
  hostname_plain := by decide

def oneUrl : UrlParser where
  parse := fun input =>
    if input = "https://boards.greenhouse.io/embed/jobs/4211?for=acme" then some embeddedOpening else none
  parse_empty := by decide

lemma parse_embeddedOpening :
    oneUrl.parse (trim "https://boards.greenhouse.io/embed/jobs/4211?for=acme") = some embeddedOpening := by rfl

lemma parseAtsRequisition_embeddedOpening :
    parseAtsRequisition embeddedOpening = some ⟨"greenhouse", "embed", "4211"⟩ := by decide

lemma parseAtsTenant_embeddedOpening :
    parseAtsTenant asciiLocale oneUrl "https://boards.greenhouse.io/embed/jobs/4211?for=acme" =
      some ⟨"greenhouse", "acme"⟩ := by decide

/-- The readings of this URL are told by the boards that it has. -/
theorem sameEmployer_embeddedOpening_iff :
    SameEmployer asciiLocale
        (deriveApplicationIdentity asciiLocale oneUrl
          ⟨"Acme", some "https://boards.greenhouse.io/embed/jobs/4211?for=acme", none⟩)
        ⟨"greenhouse", "embed", "4211"⟩ ⟨"greenhouse", "acme"⟩ ↔
      ¬ TwoBoards asciiLocale embeddedOpening :=
  sameEmployer_iff asciiLocale oneUrl "Acme" _ none embeddedOpening _ _ parse_embeddedOpening
    parseAtsRequisition_embeddedOpening parseAtsTenant_embeddedOpening

/-- The opening is said to be one of an employer that is called `embed`. -/
theorem not_sameEmployer_embeddedOpening :
    ¬ ∀ (locale : Locale) (parser : UrlParser) (company value : String) (requisitionId : Option String) (url : Url)
        (found : AtsRequisition) (located : AtsTenant), parser.parse (trim value) = some url →
      url.protocol = "https:" → url.username = "" → url.password = "" → url.port = "" →
        parseAtsRequisition url = some found → parseAtsTenant locale parser value = some located →
          SameEmployer locale (deriveApplicationIdentity locale parser ⟨company, some value, requisitionId⟩) found
            located := by
  intro hall
  have hsame := hall asciiLocale oneUrl "Acme" _ none embeddedOpening _ _ parse_embeddedOpening rfl rfl rfl rfl
    parseAtsRequisition_embeddedOpening parseAtsTenant_embeddedOpening
  have hboard : asciiLocale.toLowerCase "embed" ≠ "acme" := by decide
  exact hboard hsame.board

end VacancyRadar.Application
