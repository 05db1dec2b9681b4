import VacancyRadar.Crawler.Attempts

/-!
# Redirects are safe

Every URL that the client fetches was checked in the same attempt, the sensitive headers of the caller
do not follow a redirect to another origin, the attempts and their fetches are bounded, and every
fetch was admitted.  The one thing that is not as promised is the bound on the redirects of
`streamGet`, which does not look at the `maxRedirects` of its options.
-/

namespace VacancyRadar.Crawler

open Data

variable {client : SafeHttpClient} {world : World} {request : Request}
variable {retryIndex redirectIndex : ℕ} {fetch : Fetch}

/-! ## The checks of a call -/

lemma eq_of_boundedInteger {value : ℤ} {name : String} {allowZero : Bool} {maximum n : ℕ}
    (h : boundedInteger value name allowZero maximum = .ok n) : n = value.toNat ∧ n ≤ maximum := by
  unfold boundedInteger positiveInteger at h
  by_cases houtside : 2 ^ 53 - 1 < value ∨ value < if allowZero then 0 else 1
  · rw [if_pos houtside] at h
    cases h
  · rw [if_neg houtside] at h
    change (if maximum < value.toNat then _ else Except.ok value.toNat) = Except.ok n at h
    split at h
    · cases h
    · next hle =>
      cases h
      exact ⟨rfl, Nat.not_lt.mp hle⟩

variable {parser : UrlParser} {signal : Bool} {timeoutMs : ℕ} {input : String}
  {allowedOrigins : Option (List String)} {headers : List (String × String)}

lemma origin_of_allowedOrigin {value origin : String} (h : allowedOrigin parser value = .ok origin) :
    (parser.parse value none).map Url.origin = some origin := by
  unfold allowedOrigin at h
  split at h
  · cases h
  · next url hparse =>
    split at h
    · cases h
    · cases h
      rw [hparse]
      rfl

lemma mapM_allowedOrigin {values origins : List String}
    (h : values.mapM (allowedOrigin parser) = .ok origins) :
    origins = values.filterMap fun value => (parser.parse value none).map Url.origin := by
  induction values generalizing origins with
  | nil =>
    cases h
    rfl
  | cons value values ih =>
    rw [List.mapM_cons] at h
    cases hvalue : allowedOrigin parser value with
    | error error =>
      rw [hvalue] at h
      cases h
    | ok origin =>
      rw [hvalue] at h
      cases hrest : values.mapM (allowedOrigin parser) with
      | error error =>
        rw [hrest] at h
        cases h
      | ok rest =>
        rw [hrest] at h
        cases h
        rw [List.filterMap_cons, origin_of_allowedOrigin hvalue, ih hrest]

lemma eq_of_normalizeAllowedOrigins {values origins : Option (List String)}
    (h : normalizeAllowedOrigins parser values = .ok origins) : origins = originsOf parser values:= by
  unfold normalizeAllowedOrigins at h
  split at h
  · cases h
    rfl
  · cases h
  · next values _ =>
    cases hmap : values.mapM (allowedOrigin parser) with
    | error error =>
      rw [hmap] at h
      cases h
    | ok normalized =>
      rw [hmap] at h
      cases h
      rw [mapM_allowedOrigin hmap]
      rfl

lemma preflight_cases (world : World) (signal : Bool) (timeoutMs : ℕ) (input : String)
    (allowedOrigins : Option (List String)) :
    (∃ checked error, preflight world signal timeoutMs input allowedOrigins =
        (checked, .error error) ∧ (checked = [] ∨ ∃ url resolution,
          checked = [.validated url resolution])) ∨
      ∃ checked requestedUrl, preflight world signal timeoutMs input allowedOrigins =
          (checked, .ok (requestedUrl, originsOf world.parser allowedOrigins)) ∧
        ∀ request : Request, request.allowedOrigins = originsOf world.parser allowedOrigins →
          WasChecked world request requestedUrl checked := by
  unfold preflight validate
  cases hawait : awaitBeforeDeadline signal timeoutMs (redactInput world.parser input)
      (world.lookup 0 0).interrupt
      (validatePublicHttpUrl world.parser input (world.lookup 0 0).resolution) with
  | error error => exact .inl ⟨[], error, rfl, .inl rfl⟩
  | ok url =>
    obtain ⟨hpublic, parsed, hparsed, heq⟩ := validated (eq_ok_of_await hawait)
    cases horigins : normalizeAllowedOrigins world.parser allowedOrigins with
    | error error => exact .inl ⟨_, error, rfl, .inr ⟨url, _, rfl⟩⟩
    | ok origins =>
      cases eq_of_normalizeAllowedOrigins horigins
      dsimp only [Except.bind]
      by_cases hallowed : (originsOf world.parser allowedOrigins).all
          (fun origins => decide (url.origin ∈ origins)) = true
      · rw [if_pos hallowed]
        refine .inr ⟨_, url, rfl, fun request hrequest => ⟨⟨input, parsed, hparsed, heq⟩,
          ⟨_, rfl, hpublic⟩, ?_⟩⟩
        unfold Request.allows
        rw [hrequest]
        exact hallowed
      · rw [if_neg hallowed]
        exact .inl ⟨_, _, rfl, .inr ⟨url, _, rfl⟩⟩

section Checks

variable {admission : Bool} {origins : Option (List String)} {maxRetries maxRedirects : ℕ}

lemma redirectSafe_nil : RedirectSafe admission origins maxRetries maxRedirects [] :=
  ⟨Nat.zero_le _, nofun, nofun, nofun, fun _ => .nil⟩

lemma redirectSafe_checks {checked : List Event}
    (h : checked = [] ∨ ∃ url resolution, checked = [.validated url resolution]) :
    RedirectSafe admission origins maxRetries maxRedirects [checked] := by
  have hnone : fetches checked = [] := by
    rcases h with rfl | ⟨url, resolution, rfl⟩
    · rfl
    · rfl
  refine ⟨Nat.le_add_left .., ?_, ?_, ?_, ?_⟩
  · intro log hlog
    rw [List.mem_singleton.mp hlog]
    rcases h with rfl | ⟨url, resolution, rfl⟩
    · trivial
    · exact ⟨nofun, trivial⟩
  · intro log hlog
    rw [List.mem_singleton.mp hlog, hnone]
    trivial
  · intro log hlog
    rw [List.mem_singleton.mp hlog, hnone]
    exact Nat.zero_le _
  · intro _
    rcases h with rfl | ⟨url, resolution, rfl⟩
    · exact .nil
    · exact .validated .nil

end Checks

lemma redirectSafe_attempts {maxRetries maxRedirects : ℕ} {request : Option (List String) → Request}
    {answer : Url → Final → Except HttpError Answer}
    (horigins : ∀ origins, (request origins).allowedOrigins = origins)
    (hredirects : ∀ origins, (request origins).controls.maxRedirects = maxRedirects) :
    RedirectSafe client.admission (originsOf world.parser allowedOrigins) maxRetries maxRedirects
      (attempts client world maxRetries (preflight world signal timeoutMs input allowedOrigins)
        request answer).1 := by
  rcases preflight_cases world signal timeoutMs input allowedOrigins with
    ⟨checked, error, heq, hchecked⟩ | ⟨checked, requestedUrl, heq, hchecked⟩
  · rw [heq]
    exact redirectSafe_checks hchecked
  · rw [heq]
    have htrace : TraceLog client world _ maxRetries _ :=
      traceLog_executeWithRetries (hchecked _ (horigins _)) maxRetries 0
    have hsafe := htrace.safe
    rw [horigins, hredirects] at hsafe
    exact hsafe

/-! ## The redirects of a call -/

/-- The redirects that an attempt of a call follows at most: those that the options ask for, but those of
the client if the call is a `streamGet`. -/
def Call.followed (call : Call) (client : SafeHttpClient) : ℕ :=
  match call with
  | .streamGet .. => client.maxRedirects
  | _ => call.maxRedirects client

variable {options : GetOptions} {maxResponseBytes : ℤ}

lemma redirectSafe_request {method : Method} {body : Option String} {useCache : Bool} :
    RedirectSafe client.admission (originsOf world.parser options.allowedOrigins)
      (options.maxRetries.getD client.maxRetries).toNat
      (min (options.maxRedirects.getD client.maxRedirects).toNat client.maxRedirects)
      (client.request world input method body headers options useCache).1 := by
  unfold SafeHttpClient.request
  split
  · exact redirectSafe_nil
  · next maxRetries hretries =>
    obtain ⟨rfl, _⟩ := eq_of_boundedInteger hretries
    split
    · exact redirectSafe_nil
    · next maxRedirects hredirects =>
      obtain ⟨rfl, hle⟩ := eq_of_boundedInteger hredirects
      rw [Nat.min_eq_left hle]
      split
      · exact redirectSafe_nil
      · exact redirectSafe_attempts (fun _ => rfl) fun _ => rfl

lemma redirectSafe_streamGet {timeoutMs : ℤ} :
    RedirectSafe client.admission (originsOf world.parser options.allowedOrigins)
      (options.maxRetries.getD client.maxRetries).toNat client.maxRedirects
      (client.streamGet world input options timeoutMs maxResponseBytes).1 := by
  unfold SafeHttpClient.streamGet
  split
  · exact redirectSafe_nil
  · split
    · exact redirectSafe_nil
    · split
      · exact redirectSafe_nil
      · next maxRetries hretries =>
        obtain ⟨rfl, _⟩ := eq_of_boundedInteger hretries
        exact redirectSafe_attempts (fun _ => rfl) fun _ => rfl

/-- All is as promised, but for the number of redirects that a `streamGet` follows. -/
lemma redirectSafe_run (client : SafeHttpClient) (world : World) (call : Call) :
    RedirectSafe client.admission (originsOf world.parser call.options.allowedOrigins)
      (call.maxRetries client) (call.followed client) (client.run world call).1 := by
  cases call with
  | get input options => exact redirectSafe_request
  | streamGet input options timeoutMs maxResponseBytes => exact redirectSafe_streamGet
  | postJson input body options =>
    cases body with
    | none => exact redirectSafe_nil
    | some body => exact redirectSafe_request
  | postForm input body options => exact redirectSafe_request

/-- A `streamGet` that is not refused for its options and that asks for fewer redirects than the client
follows. -/
def Call.ExceedsRedirects (client : SafeHttpClient) : Call → Prop
  | .streamGet input options timeoutMs maxResponseBytes =>
    isOk (boundedInteger timeoutMs "timeoutMs" false client.maxStreamTimeoutMs) ∧
      isOk (boundedInteger maxResponseBytes "maxResponseBytes" false client.maxStreamResponseBytes) ∧
      isOk (boundedInteger (options.maxRetries.getD client.maxRetries) "maxRetries" true
        client.maxRetries) ∧
      containsControlOrSpace input = false ∧ options.allowedOrigins ≠ some [] ∧
      (options.maxRedirects.getD client.maxRedirects).toNat < client.maxRedirects
  | _ => False

lemma preflight_refused (h : containsControlOrSpace input = true ∨ allowedOrigins = some []) :
    ∃ checked error, preflight world signal timeoutMs input allowedOrigins =
      (checked, .error error) ∧ (checked = [] ∨ ∃ url resolution,
        checked = [.validated url resolution]) := by
  rcases preflight_cases world signal timeoutMs input allowedOrigins with
    hrefused | ⟨checked, requestedUrl, heq, _⟩
  · exact hrefused
  · refine absurd heq ?_
    unfold preflight validate
    dsimp only
    rcases h with hcontrol | rfl
    · have hrefused : validatePublicHttpUrl world.parser input (world.lookup 0 0).resolution =
          refuseUrl .unsafeUrl .invalidUrl "[invalid URL]" "Rejected an invalid URL" := by
        unfold validatePublicHttpUrl
        rw [if_pos hcontrol]
      split
      · exact fun heq => nomatch (Prod.mk.inj heq).2
      · next hok =>
        rw [hrefused] at hok
        exact nomatch eq_ok_of_await hok
    · split
      · exact fun heq => nomatch (Prod.mk.inj heq).2
      · exact fun heq => nomatch (Prod.mk.inj heq).2

lemma redirectSafe_of_not_exceeds (world : World) {call : Call}
    (h : ¬ call.ExceedsRedirects client) :
    RedirectSafe client.admission (originsOf world.parser call.options.allowedOrigins)
      (call.maxRetries client) (call.maxRedirects client) (client.run world call).1 := by
  have hsafe := redirectSafe_run client world call
  cases call with
  | get input options => exact hsafe
  | postJson input body options => exact hsafe
  | postForm input body options => exact hsafe
  | streamGet input options timeoutMs maxResponseBytes =>
    by_cases hfew : (options.maxRedirects.getD client.maxRedirects).toNat < client.maxRedirects
    · show RedirectSafe _ _ _ _ (client.streamGet world input options timeoutMs maxResponseBytes).1
      unfold SafeHttpClient.streamGet
      split
      · exact redirectSafe_nil
      · next htimeout =>
        split
        · exact redirectSafe_nil
        · next hbytes =>
          split
          · exact redirectSafe_nil
          · next hretries =>
            have hrefused : containsControlOrSpace input = true ∨ options.allowedOrigins = some [] := by
              by_contra hnot
              rw [not_or, Bool.not_eq_true] at hnot
              refine h ⟨?_, ?_, ?_, hnot.1, hnot.2, hfew⟩
              · rw [htimeout]
                rfl
              · rw [hbytes]
                rfl
              · rw [hretries]
                rfl
            obtain ⟨checked, error, heq, hchecked⟩ := preflight_refused hrefused
            rw [heq]
            exact redirectSafe_checks hchecked
    · rw [Nat.not_lt] at hfew
      have hsame : (Call.streamGet input options timeoutMs maxResponseBytes).maxRedirects client =
          client.maxRedirects := Nat.min_eq_right hfew
      rw [hsame]
      exact hsafe

/-! ## A server that redirects to itself -/

def loopUrl : Url where
  href := "http://93.184.216.34/"
  origin := "http://93.184.216.34"
  protocol := "http:"
  host := "93.184.216.34"
  hostname := "93.184.216.34"

def loopParser : UrlParser where
  parse _ _ := some loopUrl
  clearHash url := url
  reparse h := h
  reparse_clearHash h := h
  origin_clearHash _ := rfl
  protocol_clearHash _ := rfl
  username_clearHash _ := rfl
  password_clearHash _ := rfl

def loopTurn : Turn := { answer := .ok { status := 302, location := some loopUrl.href } }

/-- Every answer is a redirect. -/
def loopWorld : World where
  parser := loopParser
  lookup _ _ := {}
  turns _ _ := [loopTurn]
  pause _ := .over

lemma parser_loopWorld : loopWorld.parser = loopParser := rfl

lemma lookup_loopWorld (retryIndex redirectIndex : ℕ) : loopWorld.lookup retryIndex redirectIndex = {} := rfl

lemma validate_loop (h : containsControlOrSpace input = false) :
    validatePublicHttpUrl loopParser input none = .ok loopUrl := by
  have hsame : validatePublicHttpUrl loopParser input none = validatePublicHttpUrl loopParser "" none := by
    have hempty : containsControlOrSpace "" = false := by decide
    unfold validatePublicHttpUrl
    rw [h, hempty]
    rfl
  rw [hsame]
  decide +kernel

lemma hopResult_loop (request : Request) (url : Url) :
    hopResult request url { status := 302, location := some loopUrl.href } =
      .ok (.redirect 302 loopUrl.href) := by
  have hlocation : trim loopUrl.href ≠ "" := by decide
  unfold hopResult
  rw [if_pos (by decide)]
  dsimp only
  rw [if_neg hlocation]

lemma turn_loop : loopTurn.run client request retryIndex redirectIndex fetch =
    (hopEvents client retryIndex redirectIndex fetch, .ok (some (.redirect 302 loopUrl.href))) := by
  have hanswered : (loopTurn.answer.bind fun response =>
      (hopResult request fetch.url response).map some) =
        .ok (some (.redirect 302 loopUrl.href)) := by
    show (hopResult request fetch.url { status := 302, location := some loopUrl.href }).map some = _
    rw [hopResult_loop]
    rfl
  unfold Turn.run hopEvents
  rw [hanswered]
  simp only [loopTurn, Bool.and_false, Bool.false_eq_true, if_false, Option.isSome_none]
  split
  · rfl
  · rfl

lemma networkHop_loop :
    networkHop client request retryIndex redirectIndex fetch (loopWorld.turns retryIndex redirectIndex) =
      (hopEvents client retryIndex redirectIndex fetch, .ok (.redirect 302 loopUrl.href)) := by
  show networkHop client request retryIndex redirectIndex fetch [loopTurn] = _
  rw [networkHop, turn_loop]
  rfl

lemma executeAttempt_loop (hmethod : request.method = .get) (hallows : request.allows loopUrl = true)
    (left redirectCount : ℕ) (headers : Headers) :
    ∃ log error, executeAttempt client loopWorld request retryIndex left redirectCount loopUrl headers =
      (log, .error error) ∧ (fetches log).length = left + 1 := by
  have hkept : ¬ (request.method = .post ∧ 302 ≠ 307 ∧ 302 ≠ 308) := by
    rw [hmethod]
    exact fun h => by cases h.1
  induction left generalizing redirectCount headers with
  | zero =>
    rw [executeAttempt, networkHop_loop]
    dsimp only
    rw [if_neg hkept]
    exact ⟨_, _, rfl, by rw [fetches_hopEvents]; rfl⟩
  | succ left ih =>
    have hvalidate : request.validate loopWorld loopUrl (loopWorld.lookup retryIndex (redirectCount + 1)) =
        ([.validated loopUrl none], .ok loopUrl) := by
      unfold Request.validate validate
      rw [parser_loopWorld, lookup_loopWorld, validate_loop (by decide)]
      rfl
    obtain ⟨log, error, heq, hlength⟩ :=
      ih (redirectCount + 1) (nextHeaders loopUrl loopUrl headers)
    rw [executeAttempt, networkHop_loop]
    dsimp only
    rw [if_neg hkept]
    show ∃ log error, (if request.allows loopUrl then _ else _) = _ ∧ _
    rw [if_pos hallows, hvalidate]
    dsimp only
    rw [nextHeaders] at heq
    rw [heq]
    refine ⟨_, error, rfl, ?_⟩
    rw [fetches_append, fetches_append, fetches_hopEvents, List.length_append, List.length_append,
      hlength]
    show 1 + 0 + (left + 1) = left + 1 + 1
    omega

lemma normalizeAllowedOrigins_loop (h : allowedOrigins ≠ some []) : ∃ origins,
      normalizeAllowedOrigins loopParser allowedOrigins = .ok origins ∧
        ∀ allowed ∈ origins, loopUrl.origin ∈ allowed := by
  match allowedOrigins with
  | none => exact ⟨none, rfl, nofun⟩
  | some [] => exact absurd rfl h
  | some (value :: values) =>
    refine ⟨some ((value :: values).map fun _ => loopUrl.origin), ?_, ?_⟩
    · show (List.mapM (fun _ => allowedOrigin loopParser "") (value :: values)).map some = _
      have horigin : allowedOrigin loopParser "" = pure loopUrl.origin := rfl
      rw [horigin, List.mapM_pure]
      rfl
    · rintro allowed ⟨⟩
      exact List.mem_cons_self

lemma preflight_loop (hinput : containsControlOrSpace input = false) (horigins : allowedOrigins ≠ some []) :
    ∃ origins, preflight loopWorld false timeoutMs input allowedOrigins =
        ([.validated loopUrl none], .ok (loopUrl, origins)) ∧
      ∀ allowed ∈ origins, loopUrl.origin ∈ allowed := by
  obtain ⟨origins, hnormalized, hmem⟩ := normalizeAllowedOrigins_loop horigins
  have hall : origins.all (fun origins => decide (loopUrl.origin ∈ origins)) = true := by
    cases origins with
    | none => rfl
    | some allowed => exact decide_eq_true (hmem allowed rfl)
  refine ⟨origins, ?_, hmem⟩
  have hvalidate : validate loopWorld false timeoutMs input (redactInput loopWorld.parser input)
      (loopWorld.lookup 0 0) = ([.validated loopUrl none], .ok loopUrl) := by
    unfold validate
    rw [parser_loopWorld, lookup_loopWorld, validate_loop hinput]
    rfl
  unfold preflight
  rw [hvalidate]
  show (_, (normalizeAllowedOrigins loopParser allowedOrigins).bind _) = _
  rw [hnormalized]
  show (_, if origins.all (fun origins => decide (loopUrl.origin ∈ origins)) then _ else _) = _
  rw [if_pos hall]

lemma executeWithRetries_loop (hmethod : request.method = .get)
    (hallows : request.allows loopUrl = true) (left : ℕ) :
    ∃ log ∈ (executeWithRetries client loopWorld request loopUrl [.validated loopUrl none] left 0).1,
      (fetches log).length = request.controls.maxRedirects + 1 := by
  obtain ⟨log, error, heq, hlength⟩ : ∃ log error, executeAttempt client loopWorld request 0
      request.controls.maxRedirects 0 loopUrl (firstHeaders client request) = (log, .error error) ∧ _ :=
    executeAttempt_loop hmethod hallows request.controls.maxRedirects 0 (firstHeaders client request)
  refine ⟨.validated loopUrl none :: log, ?_, hlength⟩
  cases left with
  | zero =>
    rw [executeWithRetries, if_pos rfl]
    dsimp only
    rw [heq]
    exact List.mem_singleton.mpr rfl
  | succ left =>
    rw [executeWithRetries, if_pos rfl]
    dsimp only
    rw [heq]
    exact List.mem_singleton.mpr rfl

lemma streamGet_loop {timeoutMs : ℤ}
    (h : (Call.streamGet input options timeoutMs maxResponseBytes).ExceedsRedirects client) :
    ∃ log ∈ (client.streamGet loopWorld input options timeoutMs maxResponseBytes).1,
      (fetches log).length = client.maxRedirects + 1 := by
  obtain ⟨htimeout, hbytes, hretries, hinput, horigins, _⟩ := h
  unfold SafeHttpClient.streamGet
  split
  · next heq =>
    rw [heq] at htimeout
    cases htimeout
  · split
    · next heq =>
      rw [heq] at hbytes
      cases hbytes
    · split
      · next heq =>
        rw [heq] at hretries
        cases hretries
      · obtain ⟨origins, hpreflight, hmem⟩ := preflight_loop hinput horigins
        rw [hpreflight]
        refine executeWithRetries_loop rfl ?_ _
        cases origins with
        | none => rfl
        | some allowed => exact decide_eq_true (hmem allowed rfl)

/-! ## The redirects of every call -/

/-- The redirects of a call are safe in every world, unless it is a `streamGet` that asks for fewer
redirects than its client follows: then there is a world where they are not. -/
theorem redirects_safe (client : SafeHttpClient) (call : Call) :
    (∀ world : World, RedirectSafe client.admission
      (originsOf world.parser call.options.allowedOrigins) (call.maxRetries client)
      (call.maxRedirects client) (client.run world call).1) ↔ ¬ call.ExceedsRedirects client := by
  constructor
  · intro hsafe hexceeds
    cases call with
    | get input options => exact hexceeds
    | postJson input body options => exact hexceeds
    | postForm input body options => exact hexceeds
    | streamGet input options timeoutMs maxResponseBytes =>
      obtain ⟨log, hlog, hlength⟩ := streamGet_loop hexceeds
      have hbounded := (hsafe loopWorld).bounded log hlog
      have hfew : (Call.streamGet input options timeoutMs maxResponseBytes).maxRedirects client ≤
          (options.maxRedirects.getD client.maxRedirects).toNat := Nat.min_le_left _ _
      have hexceeded := hexceeds.2.2.2.2.2
      omega
  · exact fun h world => redirectSafe_of_not_exceeds world h

def firstPage : Url where
  href := "https://example.com/"
  origin := "https://example.com"
  protocol := "https:"
  host := "example.com"
  hostname := "example.com"

def secondPage : Url := { firstPage with href := "https://example.com/export", pathname := "/export" }

lemma find?_href {urls : List Url} {url : Url} (h : urls.find? (fun url => url.href = input) = some url) :
    urls.find? (fun other => other.href = url.href) = some url := by
  have hhref : url.href = input := by simpa using List.find?_some h
  rw [hhref]
  exact h

def pagesParser : UrlParser where
  parse input _ := [firstPage, secondPage].find? fun url => url.href = input
  clearHash url := url
  reparse h := find?_href h
  reparse_clearHash h := find?_href h
  origin_clearHash _ := rfl
  protocol_clearHash _ := rfl
  username_clearHash _ := rfl
  password_clearHash _ := rfl

def pagesWorld : World where
  parser := pagesParser
  lookup _ _ := { resolution := some [{ address := "93.184.216.34", family := 4 }] }
  turns _ redirectIndex :=
    if redirectIndex = 0 then
      [{ answer := .ok { status := 302, location := some secondPage.href } }]
    else [{ answer := .ok { status := 200 } }]
  pause _ := .over

def pagesClient : SafeHttpClient where
  maxRetries := 0
  timeoutMs := 15000
  maxStreamTimeoutMs := 300000
  maxStreamResponseBytes := 1000000
  userAgent := "open-vacancy-radar"

/-- Zero redirects are asked for, and one is followed. -/
theorem redirect_followed :
    let call := Call.streamGet firstPage.href { maxRedirects := some 0 } 60000 1000
    ¬ RedirectSafe pagesClient.admission (originsOf pagesParser call.options.allowedOrigins)
      (call.maxRetries pagesClient) (call.maxRedirects pagesClient)
      (pagesClient.run pagesWorld call).1 :=
  fun h => absurd h.bounded (by decide +kernel)

end VacancyRadar.Crawler
