import VacancyRadar.Data.Text

/-!
# Which URLs are public

`crawler/url-safety.ts`: a URL is fetched only if it is a public HTTP or HTTPS URL without
credentials.  An address in the place of the host has to be a public one, and every address that the
resolver returns for a name has to be.  The parser of URLs is the one of the platform.
-/

namespace VacancyRadar.Crawler

/-! ## URLs and errors -/

/-- A `URL`, with the components that the crawler reads. -/
structure Url where
  href : String
  origin : String
  /-- With the colon. -/
  protocol : String
  username : String := ""
  password : String := ""
  host : String
  /-- The host without the port.  An IPv6 address is in brackets. -/
  hostname : String
  pathname : String := "/"
  search : String := ""
deriving DecidableEq

structure UrlParser where
  parse : String → Option Url → Option Url
  clearHash : Url → Url
  reparse : ∀ {input base url}, parse input base = some url → parse url.href none = some url
  reparse_clearHash : ∀ {input base url},
    parse input base = some url → parse (clearHash url).href none = some (clearHash url)
  origin_clearHash : ∀ url, (clearHash url).origin = url.origin
  protocol_clearHash : ∀ url, (clearHash url).protocol = url.protocol
  username_clearHash : ∀ url, (clearHash url).username = url.username
  password_clearHash : ∀ url, (clearHash url).password = url.password

namespace Url

def bareHost (url : Url) : String :=
  if url.hostname.startsWith "[" then String.ofList url.hostname.toList.tail.dropLast
  else url.hostname

/-- `redactUrl`. -/
def redact (url : Url) : String :=
  let path := if url.pathname = "/" ∨ url.pathname = "" then "/" else "/[REDACTED]"
  let query := if url.search = "" then "" else "?[REDACTED]"
  url.protocol ++ "//" ++ url.host ++ path ++ query

end Url

/-- `CrawlerHttpErrorCategory`. -/
inductive ErrorCategory where
  | networkError
  | timeout
  | blocked
  | rateLimited
  | unsafeUrl
  | httpError
deriving DecidableEq

/-- `CrawlerHttpErrorCode`. -/
inductive ErrorCode where
  | invalidUrl
  | unsupportedProtocol
  | credentialedUrl
  | nonPublicHostname
  | privateAddress
  | dnsResolutionFailed
  | requestTimeout
  | requestFailed
  | invalidRedirect
  | postRedirectNotPreserved
  | disallowedRedirectOrigin
  | redirectLimit
  | responseTooLarge
  | unexpectedNotModified
  | blockedStatus
  | rateLimitedStatus
  | httpStatus
deriving DecidableEq

/-- `CrawlerHttpError`, and what else the client throws. -/
inductive HttpError where
  | crawler (category : ErrorCategory) (code : ErrorCode) (safeUrl detail : String)
      (status : Option ℕ := none) (retryAfterMs : Option ℕ := none)
  | range (message : String)
  /-- The reason of an aborted signal. -/
  | aborted
  /-- What the admission threw. -/
  | refused
  /-- What the consumer of a stream threw, or the parser of a URL. -/
  | thrown (message : String)
deriving DecidableEq

/-! ## Addresses -/

def decimal (digits : List Char) : ℕ := digits.foldl (fun n c => 10 * n + (c.toNat - '0'.toNat)) 0

def parseIpv4 (address : List Char) : Option (List ℕ) :=
  let parts := address.splitOn '.'
  if parts.length ≠ 4 then none
  else if parts.all fun part => 1 ≤ part.length && part.length ≤ 3 && part.all Char.isDigit &&
      decimal part ≤ 255 then
    some (parts.map decimal)
  else none

def ipv4Value (octets : List ℕ) : BitVec 32 :=
  BitVec.ofNat 32 (octets.foldl (fun value octet => 256 * value + octet) 0)

def ipv4InCidr (octets network : List ℕ) (prefixLength : ℕ) : Bool :=
  let mask : BitVec 32 := BitVec.allOnes 32 <<< (32 - prefixLength)
  (ipv4Value octets &&& mask) == (ipv4Value network &&& mask)

def nonPublicIpv4Ranges : List (List ℕ × ℕ) :=
  [([0, 0, 0, 0], 8), ([10, 0, 0, 0], 8), ([100, 64, 0, 0], 10), ([127, 0, 0, 0], 8),
    ([169, 254, 0, 0], 16), ([172, 16, 0, 0], 12), ([192, 0, 0, 0], 24), ([192, 0, 2, 0], 24),
    ([192, 88, 99, 0], 24), ([192, 168, 0, 0], 16), ([198, 18, 0, 0], 15), ([198, 51, 100, 0], 24),
    ([203, 0, 113, 0], 24), ([224, 0, 0, 0], 4), ([240, 0, 0, 0], 4)]

def knownMetadataIpv4 : List String := ["168.63.129.16"]

def isPublicIpv4 (address : List Char) : Bool :=
  match parseIpv4 address with
  | none => false
  | some octets =>
    !knownMetadataIpv4.contains (String.ofList address) &&
      !nonPublicIpv4Ranges.any fun (network, prefixLength) => ipv4InCidr octets network prefixLength

def splitDouble : List Char → List (List Char)
  | ':' :: ':' :: rest => [] :: splitDouble rest
  | c :: rest =>
    match splitDouble rest with
    | part :: parts => (c :: part) :: parts
    | [] => [[c]]
  | [] => [[]]

def hexDigit (c : Char) : Option ℕ :=
  if c.isDigit then some (c.toNat - '0'.toNat)
  else if 'a' ≤ c ∧ c ≤ 'f' then some (c.toNat - 'a'.toNat + 10)
  else none

def parseGroup (group : List Char) : Option ℕ :=
  if 1 ≤ group.length ∧ group.length ≤ 4 then
    (group.mapM hexDigit).map fun digits => digits.foldl (fun value digit => 16 * value + digit) 0
  else none

def groupsOf (side : List Char) : List (List Char) := if side = [] then [] else side.splitOn ':'

/-- The dotted end of an address is written in hexadecimal. -/
def undotTail (normalized : List Char) : Option (List Char) :=
  let tail := (normalized.reverse.takeWhile (· ≠ ':')).reverse
  if '.' ∈ normalized ∧ ':' ∈ normalized then
    (parseIpv4 tail).map fun octets =>
      let high := 256 * octets.getD 0 0 + octets.getD 1 0
      let low := 256 * octets.getD 2 0 + octets.getD 3 0
      normalized.take (normalized.length - tail.length) ++ Nat.toDigits 16 high ++
        ':' :: Nat.toDigits 16 low
  else some normalized

/-- `parseIpv6`: the sixteen bytes. -/
def parseIpv6 (address : List Char) : Option (List ℕ) :=
  let lower := address.map Char.toLower
  let bare :=
    if lower.head? = some '[' ∧ lower.getLast? = some ']' then lower.tail.dropLast else lower
  if '%' ∈ bare then none
  else
    (undotTail bare).bind fun normalized =>
      let compressed := splitDouble normalized
      let head := groupsOf (compressed.getD 0 [])
      let tail := groupsOf (compressed.getD 1 [])
      let given := head.length + tail.length
      if 2 < compressed.length then none
      else if compressed.length = 1 ∧ given ≠ 8 ∨ compressed.length = 2 ∧ 7 < given then none
      else
        ((head ++ List.replicate (8 - given) ['0'] ++ tail).mapM parseGroup).map fun groups =>
          groups.flatMap fun value => [value / 256, value % 256]

def hasIpv6Prefix (address network : List ℕ) (bits : ℕ) : Bool :=
  let fullBytes := bits / 8
  let mask := 0xff <<< (8 - bits % 8) &&& 0xff
  ((List.range fullBytes).all fun index => address[index]? == network[index]?) &&
    (bits % 8 == 0 || address.getD fullBytes 0 &&& mask == network.getD fullBytes 0 &&& mask)

/-- `isPublicIpv6`. -/
def isPublicIpv6 (address : List Char) : Bool :=
  match parseIpv6 address with
  | none => false
  | some bytes =>
    if bytes.take 12 = List.replicate 10 0 ++ [0xff, 0xff] then
      isPublicIpv4 (['.'].intercalate ((bytes.drop 12).map (Nat.toDigits 10)))
    else
      hasIpv6Prefix bytes [0x20] 3 &&
        !(hasIpv6Prefix bytes [0x20, 0x01, 0x00] 23 || hasIpv6Prefix bytes [0x20, 0x01, 0x0d, 0xb8] 32 ||
          hasIpv6Prefix bytes [0x20, 0x02] 16 || hasIpv6Prefix bytes [0x3f, 0xfe] 16 ||
          hasIpv6Prefix bytes [0x3f, 0xff] 20)

def isIPv4 (address : List Char) : Bool :=
  (parseIpv4 address).isSome &&
    (address.splitOn '.').all fun part => part.length = 1 || part.head? ≠ some '0'

def groupCount (side : List Char) (dotted : Bool) : Option ℕ :=
  let groups := groupsOf (side.map Char.toLower)
  let last := groups.getLast?.getD []
  if dotted && isIPv4 last then
    if groups.dropLast.all fun group => (parseGroup group).isSome then some (groups.length + 1) else none
  else if groups.all fun group => (parseGroup group).isSome then some groups.length
  else none

def isIPv6 (text : List Char) : Bool :=
  let address := text.takeWhile (· ≠ '%')
  let zone := text.drop address.length
  let zoned := zone = [] || 2 ≤ zone.length && zone.tail.all fun c =>
    c.isAlphanum || c == '-' || c == '.' || c == ':'
  zoned &&
    match splitDouble address with
    | [whole] => groupCount whole true == some 8
    | [left, right] =>
      match groupCount left false, groupCount right true with
      | some l, some r => l + r ≤ 7
      | _, _ => false
    | _ => false

/-- `isIP` of `node:net`. -/
def isIP (address : List Char) : ℕ := if isIPv4 address then 4 else if isIPv6 address then 6 else 0

def isPublicIpAddress (address : List Char) : Bool :=
  let normalized :=
    if address.head? = some '[' ∧ address.getLast? = some ']' then address.tail.dropLast else address
  match isIP normalized with
  | 4 => isPublicIpv4 normalized
  | 6 => isPublicIpv6 normalized
  | _ => false

def isClearlyNonPublicHostname (hostname : String) : Bool :=
  let lower := hostname.toLower
  let normalized :=
    if lower.toList.getLast? = some '.' then String.ofList lower.toList.dropLast else lower
  normalized == "localhost" || [".localhost", ".local", ".internal", ".home", ".lan"].any fun suffix =>
    normalized.endsWith suffix

def containsControlOrSpace (value : String) : Bool :=
  value.toList.any fun c => c.toNat ≤ 0x20 || c.toNat == 0x7f

/-! ## The check -/

structure ResolvedAddress where
  address : String
  family : ℕ

/-- What the resolver returns: the addresses of a name, unless it fails. -/
abbrev Resolution := Option (List ResolvedAddress)

def ResolvedAddress.isPublic (result : ResolvedAddress) : Bool :=
  isIP result.address.toList == result.family && isPublicIpAddress result.address.toList

/-- `unsafeUrl`, and the other refusals of a URL. -/
def refuseUrl (category : ErrorCategory) (code : ErrorCode) (safeUrl detail : String) :
    Except HttpError Url :=
  .error (.crawler category code safeUrl detail)

/-- `validatePublicHttpUrl`, of the text of a URL. -/
def validatePublicHttpUrl (parser : UrlParser) (rawInput : String) (resolution : Resolution) :
    Except HttpError Url :=
  match if containsControlOrSpace rawInput then none else parser.parse rawInput none with
  | none => refuseUrl .unsafeUrl .invalidUrl "[invalid URL]" "Rejected an invalid URL"
  | some parsed =>
    if parsed.protocol ≠ "http:" ∧ parsed.protocol ≠ "https:" then
      refuseUrl .unsafeUrl .unsupportedProtocol parsed.redact "Only HTTP and HTTPS URLs are allowed"
    else if parsed.username ≠ "" ∨ parsed.password ≠ "" then
      refuseUrl .unsafeUrl .credentialedUrl parsed.redact "Credential-bearing URLs are not allowed"
    else
      let url := parser.clearHash parsed
      if url.bareHost = "" ∨ isClearlyNonPublicHostname url.bareHost then
        refuseUrl .unsafeUrl .nonPublicHostname url.redact "The URL hostname is not public"
      else if isIP url.bareHost.toList ≠ 0 then
        if isPublicIpAddress url.bareHost.toList then .ok url
        else
          refuseUrl .unsafeUrl .privateAddress url.redact "The URL resolves to a non-public address"
      else
        match resolution with
        | none => refuseUrl .networkError .dnsResolutionFailed url.redact "DNS resolution failed"
        | some [] =>
          refuseUrl .networkError .dnsResolutionFailed url.redact
            "DNS resolution returned no addresses"
        | some addresses =>
          if addresses.all ResolvedAddress.isPublic then .ok url
          else
            refuseUrl .unsafeUrl .privateAddress url.redact "The URL resolves to a non-public address"

structure IsPublic (url : Url) (resolution : Resolution) : Prop where
  protocol : url.protocol = "http:" ∨ url.protocol = "https:"
  username : url.username = ""
  password : url.password = ""
  host : url.bareHost ≠ "" ∧ isClearlyNonPublicHostname url.bareHost = false
  address : isPublicIpAddress url.bareHost.toList = true ∨
    ∃ addresses, resolution = some addresses ∧ addresses ≠ [] ∧
      ∀ result ∈ addresses, isPublicIpAddress result.address.toList = true

variable {parser : UrlParser} {rawInput : String} {resolution : Resolution} {url : Url}

lemma isPublic_of_isPublic {result : ResolvedAddress} (h : result.isPublic = true) :
    isPublicIpAddress result.address.toList = true := (Bool.and_eq_true_iff.mp h).2

lemma validated (h : validatePublicHttpUrl parser rawInput resolution = .ok url) :
    IsPublic url resolution ∧
      ∃ parsed, parser.parse rawInput none = some parsed ∧ url = parser.clearHash parsed := by
  unfold validatePublicHttpUrl at h
  split at h
  · cases h
  · next parsed hparse =>
    have hparsed : parser.parse rawInput none = some parsed := by
      split at hparse
      · cases hparse
      · exact hparse
    split at h
    · cases h
    · next hprotocol =>
      split at h
      · cases h
      · next hcredentials =>
        dsimp only at h
        split at h
        · cases h
        · next hhost =>
          have hnext : url = parser.clearHash parsed ∧
              (isPublicIpAddress url.bareHost.toList = true ∨ ∃ addresses,
                resolution = some addresses ∧ addresses ≠ [] ∧
                  ∀ result ∈ addresses, isPublicIpAddress result.address.toList = true) := by
            split at h
            · split at h
              · next hpublic =>
                cases h
                exact ⟨rfl, .inl hpublic⟩
              · cases h
            · split at h
              · cases h
              · cases h
              · next addresses hne =>
                split at h
                · next hall =>
                  cases h
                  refine ⟨rfl, .inr ⟨addresses, rfl, hne, fun result hresult => ?_⟩⟩
                  exact isPublic_of_isPublic (List.all_eq_true.mp hall result hresult)
                · cases h
          obtain ⟨rfl, haddress⟩ := hnext
          rw [not_or] at hcredentials hhost
          refine ⟨⟨?_, ?_, ?_, ⟨hhost.1, by simpa using hhost.2⟩, haddress⟩, parsed, hparsed, rfl⟩
          · rw [parser.protocol_clearHash]
            by_contra hne
            exact hprotocol (not_or.mp hne)
          · rw [parser.username_clearHash]
            exact not_not.mp hcredentials.1
          · rw [parser.password_clearHash]
            exact not_not.mp hcredentials.2

end VacancyRadar.Crawler
