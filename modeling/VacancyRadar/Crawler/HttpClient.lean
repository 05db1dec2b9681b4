import Mathlib.Algebra.Group.Int.Defs
import VacancyRadar.Crawler.UrlSafety
import VacancyRadar.Data.Assoc

/-!
# The HTTP client of the crawler

`crawler/http-client.ts`: a request is tried several times, and each attempt follows redirects.  A
redirect is followed only to a URL that is public and within the origins of the request, and the
sensitive headers of the caller stay with the origin that they were given for.

What the client does is written down as it happens: the URLs that it checked, the admissions that it
asked for and the fetches that it made, attempt by attempt.  What the network, the resolver, the clock
and the callbacks do is up to the world.
-/

namespace VacancyRadar.Crawler

open Data

/-! ## Headers -/

/-- `Headers`, whose names are in lower case. -/
abbrev Headers : Type := Assoc String String

namespace Headers

def append (headers : Headers) (name value : String) : Headers :=
  match headers.get? name.toLower with
  | none => headers.set name.toLower value
  | some old => headers.set name.toLower (old ++ ", " ++ value)

def ofInit (init : List (String × String)) : Headers :=
  init.foldl (fun headers entry => headers.append entry.1 entry.2) []

def setDefault (headers : Headers) (name value : String) : Headers :=
  headers.set name ((headers.get? name).getD value)

end Headers

def sensitiveRequestHeaders : List String :=
  ["authorization", "cookie", "proxy-authorization", "x-subscription-token"]

def withoutSensitive (headers : Headers) : Headers :=
  sensitiveRequestHeaders.foldl (fun headers name => headers.erase name) headers

/-! ## Requests and the world -/

/-- `SafeHttpMethod`. -/
inductive Method where
  | get
  | post
deriving DecidableEq

structure Fetch where
  url : Url
  method : Method
  headers : Headers
  body : Option String

/-- What the client does that can be seen from outside. -/
inductive Event where
  /-- `validatePublicHttpUrl` returned the URL, for what the resolver had said. -/
  | validated (url : Url) (resolution : Resolution)
  /-- `admitNetworkRequest` was called, and it let the request through or refused it. -/
  | admission (safeUrl : String) (retryIndex redirectIndex : ℕ) (admitted : Bool)
  | fetch (request : Fetch)

structure CachedHttpResponse where
  finalUrl : String
  status : ℕ := 200
  etag : Option String := none
  lastModified : Option String := none

/-- Why an `await` of the client ends before what it waits for. -/
inductive Interrupt where
  | timeout
  | abort
deriving DecidableEq

/-- How the check of a URL goes. -/
structure Lookup where
  resolution : Resolution := none
  interrupt : Option Interrupt := none

/-- What `admitNetworkRequest` does.  A signal that is aborted already refuses like an error. -/
inductive Admission where
  | admits
  | aborted
  | throws

structure Response where
  status : ℕ
  location : Option String := none
  /-- `parsedRetryAfter`. -/
  retryAfterMs : Option ℕ := none
  body : Except HttpError Unit := .ok ()

structure Turn where
  callerAborted : Bool := false
  /-- The domain is cooling down, after an answer with a status. -/
  cooldown : Option ℕ := none
  /-- No time is left. -/
  late : Bool := false
  admission : Admission := .admits
  /-- The answer, unless the fetch fails, is aborted or takes too long. -/
  answer : Except HttpError Response
  /-- The request did not wait for the task. -/
  interrupt : Option Interrupt := none

inductive Pause where
  | over
  /-- It would last until after the deadline. -/
  | tooLong
  | interrupted (interrupt : Interrupt)

/-- All that a request depends on, by attempt and redirect.  The check before the first attempt is
the one at redirect zero. -/
structure World where
  parser : UrlParser
  /-- The signal of the caller is aborted before the request. -/
  abortedBefore : Bool := false
  cached : Option CachedHttpResponse := none
  lookup : ℕ → ℕ → Lookup
  turns : ℕ → ℕ → List Turn
  pause : ℕ → Pause

/-- The part of a `SafeHttpClient` that is fixed by its constructor. -/
structure SafeHttpClient where
  maxRetries : ℕ
  maxRedirects : ℕ := 5
  timeoutMs : ℕ
  maxStreamTimeoutMs : ℕ
  maxStreamResponseBytes : ℕ
  userAgent : String
  /-- There is an `admitNetworkRequest`. -/
  admission : Bool := false

/-- `SafeHttpGetOptions`. -/
structure GetOptions where
  headers : List (String × String) := []
  allowedOrigins : Option (List String) := none
  noStore : Bool := false
  maxRetries : Option ℤ := none
  /-- There is a signal of the caller. -/
  signal : Bool := false
  maxRedirects : Option ℤ := none

structure RequestControls where
  signal : Bool := false
  maxRedirects : ℕ

structure Request where
  inputHeaders : List (String × String)
  cached : Option CachedHttpResponse := none
  allowedOrigins : Option (List String) := none
  method : Method
  body : Option String := none
  /-- `readBody` takes only a complete answer, as `streamGet` does. -/
  onlyOk : Bool := false
  timeoutMs : ℕ
  controls : RequestControls

inductive HopResult where
  | redirect (status : ℕ) (location : String)
  | retryable (status : ℕ) (retryAfterMs : Option ℕ)
  | notModified (url : String)
  | success (url : String) (status : ℕ)
  | error (status : ℕ)

/-! ## Errors -/

def timeoutError (safeUrl : String) (requestTimeoutMs : ℕ) : HttpError :=
  .crawler .timeout .requestTimeout safeUrl
    ("Request timed out after " ++ toString requestTimeoutMs ++ "ms")

def blockedHttpStatuses : List ℕ := [401, 403, 406, 407, 451]

def statusError (url : Url) (status : ℕ) (retryAfterMs : Option ℕ := none) : HttpError :=
  if status = 429 then
    .crawler .rateLimited .rateLimitedStatus url.redact
      "Remote server remained rate-limited after bounded retries" (some status) retryAfterMs
  else if status ∈ blockedHttpStatuses then
    .crawler .blocked .blockedStatus url.redact "Remote server blocked or requires access" (some status)
  else
    .crawler .httpError .httpStatus url.redact
      ("Remote server returned HTTP " ++ toString status) (some status) retryAfterMs

def awaitBeforeDeadline {α : Type} (signal : Bool) (timeoutMs : ℕ) (safeUrl : String)
    (interrupt : Option Interrupt) (operation : Except HttpError α) : Except HttpError α :=
  match interrupt with
  | none => operation
  | some .timeout => .error (timeoutError safeUrl timeoutMs)
  | some .abort => if signal then .error .aborted else operation

/-! ## A hop -/

def redirectHttpStatuses : List ℕ := [301, 302, 303, 307, 308]

def transientHttpStatuses : List ℕ := [500, 502, 503, 504]

def hopResult (request : Request) (url : Url) (response : Response) : Except HttpError HopResult :=
  if response.status ∈ redirectHttpStatuses then
    match response.location with
    | none =>
      .error (.crawler .httpError .invalidRedirect url.redact
        "Redirect response is missing a Location header" (some response.status))
    | some location =>
      if trim location = "" then
        .error (.crawler .httpError .invalidRedirect url.redact
          "Redirect response is missing a Location header" (some response.status))
      else .ok (.redirect response.status location)
  else if response.status = 304 then .ok (.notModified url.href)
  else if response.status = 429 ∨ response.status ∈ transientHttpStatuses then
    .ok (.retryable response.status response.retryAfterMs)
  else if response.status < 200 ∨ 299 < response.status then .ok (.error response.status)
  else if request.onlyOk ∧ response.status ≠ 200 then .error (statusError url response.status)
  else response.body.map fun _ => .success url.href response.status

/-- The task of a hop that has its slot: what it does and how it ends, which is with nothing if the
domain is cooling down. -/
def Turn.run (turn : Turn) (client : SafeHttpClient) (request : Request) (retryIndex redirectIndex : ℕ)
    (fetch : Fetch) : List Event × Except HttpError (Option HopResult) :=
  if request.controls.signal && turn.callerAborted then ([], .error .aborted)
  else if turn.cooldown.isSome then ([], .ok none)
  else if turn.late then ([], .error (timeoutError fetch.url.redact request.timeoutMs))
  else
    let answered := turn.answer.bind fun response =>
      (hopResult request fetch.url response).map some
    if client.admission then
      let asked := Event.admission fetch.url.redact retryIndex redirectIndex
      match turn.admission with
      | .throws => ([asked false], .error .refused)
      | .aborted => ([asked false], .error .aborted)
      | .admits => ([asked true, .fetch fetch], answered)
    else ([.fetch fetch], answered)

/-- `#networkHop`: its tasks one after the other, until one is not put off. -/
def networkHop (client : SafeHttpClient) (request : Request) (retryIndex redirectIndex : ℕ)
    (fetch : Fetch) : List Turn → List Event × Except HttpError HopResult
  | [] => ([], .error (timeoutError fetch.url.redact request.timeoutMs))
  | turn :: turns =>
    let (log, result) := turn.run client request retryIndex redirectIndex fetch
    match awaitBeforeDeadline request.controls.signal request.timeoutMs fetch.url.redact
        turn.interrupt result with
    | .error error => (log, .error error)
    | .ok (some result) => (log, .ok result)
    | .ok none => networkHop client request retryIndex redirectIndex fetch turns

/-! ## An attempt -/

def cachedFinalUrl (parser : UrlParser) (cached : Option CachedHttpResponse) : Option String :=
  cached.bind fun entry => (parser.parse entry.finalUrl none).map fun url => (parser.clearHash url).href

def firstHeaders (client : SafeHttpClient) (request : Request) : Headers :=
  ((Headers.ofInit request.inputHeaders).setDefault "accept"
    "application/json,text/html;q=0.9,*/*;q=0.8").set "user-agent" client.userAgent

def hopHeaders (parser : UrlParser) (request : Request) (url : Url) (redirectHeaders : Headers) :
    Headers :=
  match request.cached with
  | none => redirectHeaders
  | some entry =>
    if cachedFinalUrl parser request.cached = some url.href then
      let tagged := match entry.etag with
        | none => redirectHeaders
        | some etag => redirectHeaders.set "if-none-match" etag
      match entry.lastModified with
      | none => tagged
      | some lastModified => tagged.set "if-modified-since" lastModified
    else redirectHeaders

def validate (world : World) (signal : Bool) (timeoutMs : ℕ) (rawInput safeUrl : String)
    (lookup : Lookup) : List Event × Except HttpError Url :=
  match awaitBeforeDeadline signal timeoutMs safeUrl lookup.interrupt
      (validatePublicHttpUrl world.parser rawInput lookup.resolution) with
  | .error error => ([], .error error)
  | .ok url => ([.validated url lookup.resolution], .ok url)

def Request.validate (request : Request) (world : World) (url : Url) (lookup : Lookup) :
    List Event × Except HttpError Url :=
  Crawler.validate world request.controls.signal request.timeoutMs url.href url.redact lookup

def Request.allows (request : Request) (url : Url) : Bool :=
  request.allowedOrigins.all fun origins => url.origin ∈ origins

/-- `#executeAttempt`, with the number of redirects that may still be followed. -/
def executeAttempt (client : SafeHttpClient) (world : World) (request : Request) (retryIndex : ℕ) :
    (left redirectCount : ℕ) → (currentUrl : Url) → (redirectHeaders : Headers) →
      List Event × Except HttpError HopResult
  | left, redirectCount, currentUrl, redirectHeaders =>
    let fetch : Fetch :=
      { url := currentUrl
        method := request.method
        headers := hopHeaders world.parser request currentUrl redirectHeaders
        body := request.body }
    let (log, result) := networkHop client request retryIndex redirectCount fetch
      (world.turns retryIndex redirectCount)
    match result with
    | .ok (.redirect status location) =>
      if request.method = .post ∧ status ≠ 307 ∧ status ≠ 308 then
        (log, .error (.crawler .httpError .postRedirectNotPreserved currentUrl.redact
          "Read-only JSON POST received a redirect that would change its method" (some status)))
      else
        match left with
        | 0 =>
          (log, .error (.crawler .httpError .redirectLimit currentUrl.redact
            ("Redirect limit of " ++ toString request.controls.maxRedirects ++ " exceeded")
            (some status)))
        | left + 1 =>
          match world.parser.parse location (some currentUrl) with
          | none =>
            (log, .error (.crawler .httpError .invalidRedirect currentUrl.redact
              "Redirect response contains an invalid Location header" (some status)))
          | some redirectTarget =>
            if request.allows redirectTarget then
              let (checked, validatedTarget) := request.validate world redirectTarget
                (world.lookup retryIndex (redirectCount + 1))
              match validatedTarget with
              | .error error => (log ++ checked, .error error)
              | .ok validatedTarget =>
                let (rest, final) := executeAttempt client world request retryIndex left
                  (redirectCount + 1) validatedTarget
                  (if validatedTarget.origin ≠ currentUrl.origin then withoutSensitive redirectHeaders
                    else redirectHeaders)
                (log ++ checked ++ rest, final)
            else
              (log, .error (.crawler .unsafeUrl .disallowedRedirectOrigin redirectTarget.redact
                "Redirect target is outside the configured origin boundary" (some status)))
    | result => (log, result)

/-! ## A request -/

/-- What `#executeWithRetries` returns. -/
inductive Final where
  | notModified (url : String)
  | success (url : String) (status : ℕ)

def executeWithRetries (client : SafeHttpClient) (world : World) (request : Request)
    (requestedUrl : Url) (preflight : List Event) :
    (left retry : ℕ) → List (List Event) × Except HttpError Final
  | left, retry =>
    let (checked, initialUrl) :=
      if retry = 0 then (preflight, .ok requestedUrl)
      else request.validate world requestedUrl (world.lookup retry 0)
    match initialUrl with
    | .error error => ([checked], .error error)
    | .ok initialUrl =>
      let (log, result) := executeAttempt client world request retry request.controls.maxRedirects 0
        initialUrl (firstHeaders client request)
      match result with
      | .error error => ([checked ++ log], .error error)
      | .ok (.retryable status retryAfterMs) =>
        match left with
        | 0 => ([checked ++ log], .error (statusError requestedUrl status retryAfterMs))
        | left + 1 =>
          match world.pause retry with
          | .tooLong => ([checked ++ log], .error (statusError requestedUrl status retryAfterMs))
          | .interrupted interrupt =>
            -- Without a signal a pause ends early only at the deadline.
            ([checked ++ log], .error (if interrupt = .abort ∧ request.controls.signal then .aborted
              else timeoutError requestedUrl.redact request.timeoutMs))
          | .over =>
            let (rest, final) :=
              executeWithRetries client world request requestedUrl preflight left (retry + 1)
            ((checked ++ log) :: rest, final)
      | .ok (.error status) => ([checked ++ log], .error (statusError requestedUrl status))
      | .ok (.notModified url) => ([checked ++ log], .ok (.notModified url))
      | .ok (.success url status) => ([checked ++ log], .ok (.success url status))
      -- An attempt does not end with a redirect.
      | .ok (.redirect status _) => ([checked ++ log], .error (statusError requestedUrl status))

def positiveInteger (value : ℤ) (name : String) (allowZero : Bool) : Except HttpError ℕ :=
  if 2 ^ 53 - 1 < value ∨ value < (if allowZero then 0 else 1) then
    .error (.range (name ++ " must be " ++
      (if allowZero then "a non-negative" else "a positive") ++ " integer"))
  else .ok value.toNat

def boundedInteger (value : ℤ) (name : String) (allowZero : Bool) (maximum : ℕ) :
    Except HttpError ℕ :=
  (positiveInteger value name allowZero).bind fun n =>
    if maximum < n then .error (.range (name ++ " must not exceed " ++ toString maximum)) else .ok n

/-- The origin of an entry of `allowedOrigins`. -/
def allowedOrigin (parser : UrlParser) (value : String) : Except HttpError String :=
  match parser.parse value none with
  | none => .error (.thrown "Invalid URL")
  | some url =>
    if (url.protocol ≠ "http:" ∧ url.protocol ≠ "https:") ∨ url.username ≠ "" ∨ url.password ≠ "" then
      .error (.range "allowedOrigins entries must be credential-free HTTP(S) URLs")
    else .ok url.origin

def normalizeAllowedOrigins (parser : UrlParser) :
    Option (List String) → Except HttpError (Option (List String))
  | none => .ok none
  | some [] => .error (.range "allowedOrigins must not be empty")
  | some values => (values.mapM (allowedOrigin parser)).map some

inductive Call where
  | get (input : String) (options : GetOptions)
  | streamGet (input : String) (options : GetOptions) (timeoutMs maxResponseBytes : ℤ)
  /-- Without a body that can be serialized there is no request. -/
  | postJson (input : String) (body : Option String) (options : GetOptions)
  | postForm (input : String) (body : String) (options : GetOptions)

/-- What a call returns: a `SafeHttpResponse` or a `SafeHttpStreamResponse`, without the body. -/
structure Answer where
  requestedUrl : String
  url : String
  status : ℕ
  fromCache : Bool := false
  revalidated : Bool := false

/-- `redactUrl`, of a text. -/
def redactInput (parser : UrlParser) (input : String) : String :=
  ((parser.parse input none).map Url.redact).getD "[invalid URL]"

def preflight (world : World) (signal : Bool) (timeoutMs : ℕ) (input : String)
    (allowedOrigins : Option (List String)) :
    List Event × Except HttpError (Url × Option (List String)) :=
  let (checked, requestedUrl) :=
    validate world signal timeoutMs input (redactInput world.parser input) (world.lookup 0 0)
  (checked, requestedUrl.bind fun requestedUrl =>
    (normalizeAllowedOrigins world.parser allowedOrigins).bind fun origins =>
      if origins.all fun origins => requestedUrl.origin ∈ origins then .ok (requestedUrl, origins)
      else
        .error (.crawler .unsafeUrl .disallowedRedirectOrigin requestedUrl.redact
          "Request URL is outside the configured origin boundary"))

def attempts (client : SafeHttpClient) (world : World) (maxRetries : ℕ)
    (checks : List Event × Except HttpError (Url × Option (List String)))
    (request : Option (List String) → Request)
    (answer : Url → Final → Except HttpError Answer) : List (List Event) × Except HttpError Answer :=
  match checks with
  | (checked, .error error) => ([checked], .error error)
  | (checked, .ok (requestedUrl, origins)) =>
    let (trace, final) :=
      executeWithRetries client world (request origins) requestedUrl checked maxRetries 0
    (trace, final.bind (answer requestedUrl))

def SafeHttpClient.request (client : SafeHttpClient) (world : World) (input : String)
    (method : Method) (body : Option String) (headers : List (String × String)) (options : GetOptions)
    (useCache : Bool) : List (List Event) × Except HttpError Answer :=
  match boundedInteger (options.maxRetries.getD client.maxRetries) "maxRetries" true
      client.maxRetries with
  | .error error => ([], .error error)
  | .ok maxRetries =>
    match boundedInteger (options.maxRedirects.getD client.maxRedirects) "maxRedirects" true
        client.maxRedirects with
    | .error error => ([], .error error)
    | .ok maxRedirects =>
      if options.signal && world.abortedBefore then ([], .error .aborted)
      else
        let cached := if useCache then world.cached else none
        attempts client world maxRetries
          (preflight world options.signal client.timeoutMs input options.allowedOrigins)
          (fun allowedOrigins =>
            { inputHeaders := headers, cached, allowedOrigins, method, body
              timeoutMs := client.timeoutMs
              controls := { signal := options.signal, maxRedirects } })
          fun requestedUrl final =>
            match final with
            | .success url status => .ok { requestedUrl := requestedUrl.href, url, status }
            | .notModified url =>
              match cached with
              | some entry =>
                if cachedFinalUrl world.parser cached = some url then
                  .ok { requestedUrl := requestedUrl.href, url, status := entry.status
                        fromCache := true, revalidated := true }
                else
                  .error (.crawler .httpError .unexpectedNotModified (redactInput world.parser url)
                    "Received 304 without a reusable cached response" (some 304))
              | none =>
                .error (.crawler .httpError .unexpectedNotModified (redactInput world.parser url)
                  "Received 304 without a reusable cached response" (some 304))

def SafeHttpClient.streamGet (client : SafeHttpClient) (world : World) (input : String)
    (options : GetOptions) (timeoutMs maxResponseBytes : ℤ) :
    List (List Event) × Except HttpError Answer :=
  match boundedInteger timeoutMs "timeoutMs" false client.maxStreamTimeoutMs with
  | .error error => ([], .error error)
  | .ok timeoutMs =>
    match boundedInteger maxResponseBytes "maxResponseBytes" false client.maxStreamResponseBytes with
    | .error error => ([], .error error)
    | .ok _ =>
      match boundedInteger (options.maxRetries.getD client.maxRetries) "maxRetries" true
          client.maxRetries with
      | .error error => ([], .error error)
      | .ok maxRetries =>
        attempts client world maxRetries
          (preflight world false timeoutMs input options.allowedOrigins)
          (fun allowedOrigins =>
            { inputHeaders := options.headers, allowedOrigins, method := .get, onlyOk := true
              timeoutMs
              controls := { maxRedirects := client.maxRedirects } })
          fun requestedUrl final =>
            match final with
            | .success url status => .ok { requestedUrl := requestedUrl.href, url, status }
            | .notModified url => .ok { requestedUrl := requestedUrl.href, url, status := 304 }

def postHeaders (headers : List (String × String)) (contentType accept : String) :
    List (String × String) :=
  Headers.setDefault ((Headers.ofInit headers).set "content-type" contentType) "accept" accept

/-- A call of a client: what it does, attempt by attempt, and what it returns. -/
def SafeHttpClient.run (client : SafeHttpClient) (world : World) :
    Call → List (List Event) × Except HttpError Answer
  | .get input options => client.request world input .get none options.headers options !options.noStore
  | .streamGet input options timeoutMs maxResponseBytes =>
    client.streamGet world input options timeoutMs maxResponseBytes
  | .postJson _ none _ => ([], .error (.thrown "JSON body is not serializable"))
  | .postJson input (some body) options =>
    client.request world input .post (some body)
      (postHeaders options.headers "application/json" "application/json") options false
  | .postForm input body options =>
    client.request world input .post (some body)
      (postHeaders options.headers "application/x-www-form-urlencoded" "text/html") options false

end VacancyRadar.Crawler
