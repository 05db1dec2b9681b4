import VacancyRadar.Crawler.HttpClient

/-!
# The attempts of a request

What is promised of the fetches of a request, and why its attempts keep to it: a description of all that
a hop, an attempt and a request can do, from which every promise follows by induction.
-/

namespace VacancyRadar.Crawler

open Data

variable {P : List Event → Fetch → Prop} {origins : Option (List String)} {mayRefuse : Bool}
  {requestedUrl : Url}

/-! ## What is promised -/

def Event.fetch? : Event → Option Fetch
  | .fetch request => some request
  | _ => none

def fetches (log : List Event) : List Fetch := log.filterMap Event.fetch?

def EveryFetch (P : List Event → Fetch → Prop) : List Event → List Event → Prop
  | _, [] => True
  | seen, event :: log =>
    (∀ request, event = .fetch request → P seen request) ∧ EveryFetch P (seen ++ [event]) log

def Checked (origins : Option (List String)) (seen : List Event) (url : Url) : Prop :=
  (∃ resolution, .validated url resolution ∈ seen ∧ IsPublic url resolution) ∧
    ∀ allowed ∈ origins, url.origin ∈ allowed

def NoSensitive (headers : Headers) : Prop :=
  ∀ name ∈ sensitiveRequestHeaders, headers.get? name = none

def Stripped : List Fetch → Prop
  | first :: second :: rest =>
    (first.url.origin ≠ second.url.origin →
      ∀ request ∈ second :: rest, NoSensitive request.headers) ∧ Stripped (second :: rest)
  | _ => True

inductive Admitted (mayRefuse : Bool) : List Event → Prop
  | nil : Admitted mayRefuse []
  | validated {url : Url} {resolution : Resolution} {log : List Event}
      (rest : Admitted mayRefuse log) : Admitted mayRefuse (.validated url resolution :: log)
  | fetched {request : Fetch} {retryIndex redirectIndex : ℕ} {log : List Event}
      (rest : Admitted mayRefuse log) :
      Admitted mayRefuse
        (.admission request.url.redact retryIndex redirectIndex true :: .fetch request :: log)
  | refused {safeUrl : String} {retryIndex redirectIndex : ℕ} (may : mayRefuse = true) :
      Admitted mayRefuse [.admission safeUrl retryIndex redirectIndex false]

def originsOf (parser : UrlParser) (allowedOrigins : Option (List String)) : Option (List String) :=
  allowedOrigins.map fun values => values.filterMap fun value =>
    (parser.parse value none).map Url.origin

def Call.options : Call → GetOptions
  | .get _ options | .streamGet _ options _ _ | .postJson _ _ options | .postForm _ _ options => options

def Call.maxRetries (call : Call) (client : SafeHttpClient) : ℕ :=
  (call.options.maxRetries.getD client.maxRetries).toNat

/-- The number of redirects that a call lets an attempt follow, which is not above that of the
client. -/
def Call.maxRedirects (call : Call) (client : SafeHttpClient) : ℕ :=
  min (call.options.maxRedirects.getD client.maxRedirects).toNat client.maxRedirects

structure RedirectSafe (admission : Bool) (origins : Option (List String))
    (maxRetries maxRedirects : ℕ) (trace : List (List Event)) : Prop where
  attempts : trace.length ≤ maxRetries + 1
  checked : ∀ log ∈ trace, EveryFetch (fun seen request => Checked origins seen request.url) [] log
  stripped : ∀ log ∈ trace, Stripped (fetches log)
  bounded : ∀ log ∈ trace, (fetches log).length ≤ maxRedirects + 1
  admitted : admission = true → Admitted true trace.flatten

variable {client : SafeHttpClient} {world : World} {request : Request}
variable {retryIndex redirectIndex : ℕ} {fetch : Fetch} {url : Url} {headers : Headers}
variable {log log' seen : List Event}

/-! ## Headers -/

lemma NoSensitive.set {name value : String} (h : NoSensitive headers)
    (hname : name ∉ sensitiveRequestHeaders) : NoSensitive (headers.set name value) := by
  intro other hother
  rw [Assoc.get?_set_of_ne (by rintro rfl; exact hname hother)]
  exact h other hother

lemma NoSensitive.hopHeaders (h : NoSensitive headers) (parser : UrlParser) (request : Request)
    (url : Url) : NoSensitive (hopHeaders parser request url headers) := by
  unfold Crawler.hopHeaders
  split
  · exact h
  · split
    · dsimp only
      have htagged : ∀ etag, NoSensitive (headers.set "if-none-match" etag) := fun etag =>
        h.set (by decide)
      split
      · split
        · exact h
        · exact htagged _
      · split
        · exact h.set (by decide)
        · exact (htagged _).set (by decide)
    · exact h

lemma get?_foldl_erase {names : List String} {name : String} (h : name ∈ names) :
    (names.foldl (fun headers name => Assoc.erase name headers) headers).get? name = none := by
  have hkept : ∀ (names : List String) (headers : Headers), headers.get? name = none →
      (names.foldl (fun headers name => Assoc.erase name headers) headers).get? name = none := by
    intro names
    induction names with
    | nil => exact fun _ hnone => hnone
    | cons first rest ih =>
      intro headers hnone
      refine ih _ ?_
      by_cases heq : name = first
      · rw [heq, Assoc.get?_erase_self]
      · rw [Assoc.get?_erase_of_ne heq]
        exact hnone
  induction names generalizing headers with
  | nil => cases h
  | cons first rest ih =>
    rcases List.mem_cons.mp h with rfl | hrest
    · exact hkept rest _ Assoc.get?_erase_self
    · exact ih hrest

lemma noSensitive_withoutSensitive (headers : Headers) : NoSensitive (withoutSensitive headers) :=
  fun _ hname => get?_foldl_erase hname

/-! ## What happens in a hop -/

def hopEvents (client : SafeHttpClient) (retryIndex redirectIndex : ℕ) (fetch : Fetch) : List Event :=
  if client.admission then
    [.admission fetch.url.redact retryIndex redirectIndex true, .fetch fetch]
  else [.fetch fetch]

inductive HopLog (client : SafeHttpClient) (retryIndex redirectIndex : ℕ) (fetch : Fetch) :
    (answered : Bool) → List Event → Prop
  | none : HopLog client retryIndex redirectIndex fetch false []
  | refused (admission : client.admission = true) :
      HopLog client retryIndex redirectIndex fetch false
        [.admission fetch.url.redact retryIndex redirectIndex false]
  | fetched {answered : Bool} :
      HopLog client retryIndex redirectIndex fetch answered
        (hopEvents client retryIndex redirectIndex fetch)

def isOk {α : Type} : Except HttpError α → Bool
  | .ok _ => true
  | .error _ => false

lemma eq_ok_of_await {α : Type} {signal : Bool} {timeoutMs : ℕ} {safeUrl : String}
    {interrupt : Option Interrupt} {operation : Except HttpError α} {a : α}
    (h : awaitBeforeDeadline signal timeoutMs safeUrl interrupt operation = .ok a) :
    operation = .ok a := by
  unfold awaitBeforeDeadline at h
  split at h
  · exact h
  · cases h
  · split at h
    · cases h
    · exact h

inductive TurnLog (client : SafeHttpClient) (retryIndex redirectIndex : ℕ) (fetch : Fetch) :
    List Event × Except HttpError (Option HopResult) → Prop
  | deferred : TurnLog client retryIndex redirectIndex fetch ([], .ok none)
  | failed {log : List Event} {error : HttpError}
      (hop : HopLog client retryIndex redirectIndex fetch false log) :
      TurnLog client retryIndex redirectIndex fetch (log, .error error)
  | answered {result : HopResult} : TurnLog client retryIndex redirectIndex fetch
      (hopEvents client retryIndex redirectIndex fetch, .ok (some result))

lemma turnLog_answered (answer : Except HttpError Response) :
    TurnLog client retryIndex redirectIndex fetch (hopEvents client retryIndex redirectIndex fetch,
      answer.bind fun response => (hopResult request fetch.url response).map some) := by
  cases answer with
  | error error => exact .failed .fetched
  | ok response =>
    show TurnLog client retryIndex redirectIndex fetch (_, Except.map some _)
    cases hopResult request fetch.url response with
    | error error => exact .failed .fetched
    | ok result => exact .answered

lemma turnLog_run (turn : Turn) : TurnLog client retryIndex redirectIndex fetch
    (turn.run client request retryIndex redirectIndex fetch) := by
  have hanswered : TurnLog client retryIndex redirectIndex fetch
      (hopEvents client retryIndex redirectIndex fetch, turn.answer.bind fun response =>
        (hopResult request fetch.url response).map some) := turnLog_answered turn.answer
  unfold Turn.run
  split
  · exact .failed .none
  · split
    · exact .deferred
    · split
      · exact .failed .none
      · dsimp only
        unfold hopEvents at hanswered
        split
        · next hadmission =>
          rw [if_pos hadmission] at hanswered
          split
          · exact .failed (.refused hadmission)
          · exact .failed (.refused hadmission)
          · exact hanswered
        · next hadmission =>
          rw [if_neg hadmission] at hanswered
          exact hanswered

lemma hopLog_networkHop (turns : List Turn) : HopLog client retryIndex redirectIndex fetch
    (isOk (networkHop client request retryIndex redirectIndex fetch turns).2)
    (networkHop client request retryIndex redirectIndex fetch turns).1 := by
  induction turns with
  | nil => exact .none
  | cons turn turns ih =>
    have hturn : TurnLog client retryIndex redirectIndex fetch
        (turn.run client request retryIndex redirectIndex fetch) := turnLog_run turn
    rw [networkHop]
    generalize turn.run client request retryIndex redirectIndex fetch = ran at hturn
    obtain ⟨log, result⟩ := ran
    dsimp only
    split
    · next error _ =>
      cases hturn with
      | deferred => exact .none
      | failed hop => exact hop
      | answered => exact .fetched
    · next final hok =>
      rw [eq_ok_of_await hok] at hturn
      cases hturn with
      | answered => exact .fetched
    · exact ih

/-! ## What happens in an attempt -/

def Request.fetchOf (request : Request) (world : World) (url : Url) (headers : Headers) : Fetch where
  url := url
  method := request.method
  headers := hopHeaders world.parser request url headers
  body := request.body

def nextHeaders (url target : Url) (headers : Headers) : Headers :=
  if target.origin ≠ url.origin then withoutSensitive headers else headers

inductive AttemptLog (client : SafeHttpClient) (world : World) (request : Request) (retryIndex : ℕ)
    (answered : Bool) : (left redirectCount : ℕ) → Url → Headers → List Event → Prop
  | last {left redirectCount : ℕ} {url : Url} {headers : Headers} {log : List Event}
      (hop : HopLog client retryIndex redirectCount (request.fetchOf world url headers) answered log) :
      AttemptLog client world request retryIndex answered left redirectCount url headers log
  | redirected {left redirectCount : ℕ} {url target : Url} {headers : Headers} {log : List Event}
      {resolution : Resolution} (isPublic : IsPublic target resolution)
      (allowed : request.allows target = true)
      (rest : AttemptLog client world request retryIndex answered left (redirectCount + 1) target
        (nextHeaders url target headers) log) :
      AttemptLog client world request retryIndex answered (left + 1) redirectCount url headers
        (hopEvents client retryIndex redirectCount (request.fetchOf world url headers) ++
          .validated target resolution :: log)

lemma validate_cases (world : World) (request : Request) (input : Url) (lookup : Lookup) :
    (∃ error, request.validate world input lookup = ([], .error error)) ∨
      ∃ target resolution parsed,
        request.validate world input lookup = ([.validated target resolution], .ok target) ∧
          IsPublic target resolution ∧ world.parser.parse input.href none = some parsed ∧
          target = world.parser.clearHash parsed := by
  unfold Request.validate validate
  split
  · next error _ => exact .inl ⟨error, rfl⟩
  · next target hok =>
    obtain ⟨hpublic, parsed, hparsed, heq⟩ := validated (eq_ok_of_await hok)
    exact .inr ⟨target, lookup.resolution, parsed, rfl, hpublic, hparsed, heq⟩

lemma allows_of_origin {target : Url} (h : request.allows url = true)
    (horigin : target.origin = url.origin) : request.allows target = true := by
  unfold Request.allows at h ⊢
  rw [horigin]
  exact h

variable {answered : Bool} {preflight : List Event}

lemma HopLog.weaken (h : HopLog client retryIndex redirectIndex fetch answered log) :
    HopLog client retryIndex redirectIndex fetch false log := by
  cases h with
  | none => exact .none
  | refused admission => exact .refused admission
  | fetched => exact .fetched

lemma HopLog.eq_of_answered (h : HopLog client retryIndex redirectIndex fetch true log) :
    log = hopEvents client retryIndex redirectIndex fetch := by
  cases h with
  | fetched => rfl

def Attempted (client : SafeHttpClient) (world : World) (request : Request)
    (retryIndex left redirectCount : ℕ) (url : Url) (headers : Headers)
    (attempt : List Event × Except HttpError HopResult) : Prop :=
  AttemptLog client world request retryIndex (isOk attempt.2) left redirectCount url headers attempt.1

lemma attempted_executeAttempt (left redirectCount : ℕ) (url : Url) (headers : Headers) :
    Attempted client world request retryIndex left redirectCount url headers
      (executeAttempt client world request retryIndex left redirectCount url headers) := by
  induction left using Nat.strongRecOn generalizing redirectCount url headers with
  | ind left ih =>
    rw [executeAttempt.eq_def]
    dsimp only
    have hhop : HopLog client retryIndex redirectCount (request.fetchOf world url headers)
        (isOk (networkHop client request _ _ _ _).2) (networkHop client request _ _ _ _).1 :=
      hopLog_networkHop (world.turns retryIndex redirectCount)
    unfold Request.fetchOf at hhop
    generalize networkHop client request retryIndex redirectCount _ _ = hop at hhop ⊢
    obtain ⟨log, result⟩ := hop
    dsimp only
    split
    · next status location =>
      have hlog : log = hopEvents client retryIndex redirectCount
          (request.fetchOf world url headers) := HopLog.eq_of_answered hhop
      split
      · exact .last hhop.weaken
      · cases left with
        | zero => exact .last hhop.weaken
        | succ left =>
          dsimp only
          split
          · exact .last hhop.weaken
          · next redirectTarget hparse =>
            split
            · next hallowed =>
              rcases validate_cases world request redirectTarget
                  (world.lookup retryIndex (redirectCount + 1)) with
                ⟨error, heq⟩ | ⟨target, resolution, parsed, heq, hpublic, hparsed, htarget⟩
              · rw [heq]
                exact .last (by rw [List.append_nil]; exact hhop.weaken)
              · rw [heq]
                -- Reading the target again gives the target.
                cases (world.parser.reparse hparse).symm.trans hparsed
                have hsame : request.allows target = true := by
                  rw [htarget]
                  exact allows_of_origin hallowed (world.parser.origin_clearHash _)
                have hrest := ih left (Nat.lt_succ_self left) (redirectCount + 1) target
                  (nextHeaders url target headers)
                have hfollowed := AttemptLog.redirected hpublic hsame hrest
                show AttemptLog client world request retryIndex _ (left + 1) redirectCount url headers
                  (log ++ [.validated target resolution] ++ _)
                rw [hlog, List.append_assoc]
                exact hfollowed
            · exact .last hhop.weaken
    · exact .last hhop

/-! ## What follows for an attempt -/

@[simp] lemma fetches_validated (resolution : Resolution) :
    fetches (.validated url resolution :: log) = fetches log := rfl

lemma fetches_append : fetches (log ++ log') = fetches log ++ fetches log' := List.filterMap_append

@[simp] lemma fetches_hopEvents : fetches (hopEvents client retryIndex redirectIndex fetch) = [fetch] := by
  unfold hopEvents
  split
  · rfl
  · rfl

lemma HopLog.fetches (h : HopLog client retryIndex redirectIndex fetch answered log) :
    fetches log = [] ∨ fetches log = [fetch] := by
  cases h with
  | none => exact .inl rfl
  | refused _ => exact .inl rfl
  | fetched => exact .inr fetches_hopEvents

section Attempt

variable {answered : Bool} {left redirectCount : ℕ}

lemma AttemptLog.bounded
    (h : AttemptLog client world request retryIndex answered left redirectCount url headers log) :
    (fetches log).length ≤ left + 1 := by
  induction h with
  | last hop =>
    rcases hop.fetches with hnone | hone
    · rw [hnone]
      exact Nat.zero_le _
    · rw [hone]
      exact Nat.le_add_left ..
  | redirected _ _ _ ih =>
    rw [fetches_append, fetches_hopEvents, fetches_validated, List.length_append,
      List.length_singleton]
    omega

lemma AttemptLog.first
    (h : AttemptLog client world request retryIndex answered left redirectCount url headers log) :
    fetches log = [] ∨ ∃ rest, fetches log = request.fetchOf world url headers :: rest := by
  cases h with
  | last hop =>
    rcases hop.fetches with hnone | hone
    · exact .inl hnone
    · exact .inr ⟨[], hone⟩
  | redirected _ _ _ =>
    rw [fetches_append, fetches_hopEvents, fetches_validated]
    exact .inr ⟨_, rfl⟩

lemma noSensitive_fetchOf (h : NoSensitive headers) :
    NoSensitive (request.fetchOf world url headers).headers := h.hopHeaders world.parser request url

lemma AttemptLog.noSensitive
    (h : AttemptLog client world request retryIndex answered left redirectCount url headers log)
    (hheaders : NoSensitive headers) : ∀ sent ∈ fetches log, NoSensitive sent.headers := by
  induction h with
  | last hop =>
    intro sent hsent
    rcases hop.fetches with hnone | hone
    · rw [hnone] at hsent
      cases hsent
    · rw [hone, List.mem_singleton] at hsent
      rw [hsent]
      exact noSensitive_fetchOf hheaders
  | @redirected _ _ url target headers _ _ _ _ _ ih =>
    intro sent hsent
    rw [fetches_append, fetches_hopEvents, fetches_validated, List.mem_append,
      List.mem_singleton] at hsent
    rcases hsent with rfl | hsent
    · exact noSensitive_fetchOf hheaders
    · refine ih ?_ sent hsent
      unfold nextHeaders
      split
      · exact noSensitive_withoutSensitive headers
      · exact hheaders

lemma AttemptLog.stripped
    (h : AttemptLog client world request retryIndex answered left redirectCount url headers log) :
    Stripped (fetches log) := by
  induction h with
  | last hop =>
    rcases hop.fetches with hnone | hone
    · rw [hnone]
      trivial
    · rw [hone]
      trivial
  | @redirected _ _ url target headers _ _ _ _ rest ih =>
    rw [fetches_append, fetches_hopEvents, fetches_validated]
    rcases rest.first with hnone | ⟨others, hrest⟩
    · rw [hnone]
      trivial
    · rw [hrest] at ih ⊢
      refine ⟨fun hcross => ?_, ih⟩
      have hstripped : NoSensitive (nextHeaders url target headers) := by
        have hother : target.origin ≠ url.origin := Ne.symm hcross
        rw [nextHeaders, if_pos hother]
        exact noSensitive_withoutSensitive headers
      rw [← hrest]
      exact rest.noSensitive hstripped

lemma everyFetch_append :
    EveryFetch P seen (log ++ log') ↔ EveryFetch P seen log ∧ EveryFetch P (seen ++ log) log' := by
  induction log generalizing seen with
  | nil => simp [EveryFetch]
  | cons event log ih =>
    rw [List.cons_append, EveryFetch, EveryFetch, ih, List.append_assoc, and_assoc]
    rfl

lemma Checked.mono (h : Checked origins seen url) : Checked origins (seen ++ log) url:= by
  obtain ⟨⟨resolution, hmem, hpublic⟩, hallowed⟩ := h
  exact ⟨⟨resolution, List.mem_append_left _ hmem, hpublic⟩, hallowed⟩

lemma checked_hopEvents (hchecked : Checked origins seen fetch.url) :
    EveryFetch (fun seen request => Checked origins seen request.url) seen
      (hopEvents client retryIndex redirectIndex fetch) := by
  unfold hopEvents
  split
  · refine ⟨nofun, ?_, trivial⟩
    rintro sent ⟨⟩
    exact hchecked.mono
  · refine ⟨?_, trivial⟩
    rintro sent ⟨⟩
    exact hchecked

lemma HopLog.checked (h : HopLog client retryIndex redirectIndex fetch answered log)
    (hchecked : Checked origins seen fetch.url) :
    EveryFetch (fun seen request => Checked origins seen request.url) seen log := by
  cases h with
  | none => trivial
  | refused _ => exact ⟨nofun, trivial⟩
  | fetched => exact checked_hopEvents hchecked

lemma AttemptLog.checked
    (h : AttemptLog client world request retryIndex answered left redirectCount url headers log)
    (hchecked : Checked request.allowedOrigins seen url) :
    EveryFetch (fun seen sent => Checked request.allowedOrigins seen sent.url) seen log := by
  induction h generalizing seen with
  | last hop => exact hop.checked hchecked
  | @redirected _ _ _ target _ _ resolution isPublic allowed _ ih =>
    refine everyFetch_append.mpr ⟨checked_hopEvents hchecked, nofun, ih ⟨?_, ?_⟩⟩
    · exact ⟨resolution, by simp, isPublic⟩
    · intro origins horigins
      unfold Request.allows at allowed
      rw [Option.mem_def.mp horigins] at allowed
      simpa using allowed

lemma Admitted.append (h : Admitted false log) (h' : Admitted mayRefuse log') :
    Admitted mayRefuse (log ++ log') := by
  induction h with
  | nil => exact h'
  | validated _ ih => exact .validated ih
  | fetched _ ih => exact .fetched ih
  | refused may => cases may

lemma Admitted.weaken (h : Admitted mayRefuse log) : Admitted true log:= by
  induction h with
  | nil => exact .nil
  | validated _ ih => exact .validated ih
  | fetched _ ih => exact .fetched ih
  | refused _ => exact .refused rfl

lemma admitted_hopEvents (hadmission : client.admission = true) :
    Admitted mayRefuse (hopEvents client retryIndex redirectIndex fetch) := by
  unfold hopEvents
  rw [if_pos hadmission]
  exact .fetched .nil

lemma HopLog.admitted (h : HopLog client retryIndex redirectIndex fetch answered log)
    (hadmission : client.admission = true) : Admitted (!answered) log := by
  cases h with
  | none => exact .nil
  | refused _ => exact .refused rfl
  | fetched => exact admitted_hopEvents hadmission

lemma AttemptLog.admitted
    (h : AttemptLog client world request retryIndex answered left redirectCount url headers log)
    (hadmission : client.admission = true) : Admitted (!answered) log := by
  induction h with
  | last hop => exact hop.admitted hadmission
  | redirected _ _ _ ih => exact (admitted_hopEvents hadmission).append (.validated ih)

end Attempt

/-! ## What happens in a request -/

inductive TraceLog (client : SafeHttpClient) (world : World) (request : Request) :
    ℕ → List (List Event) → Prop
  | unchecked {left : ℕ} : TraceLog client world request left [[]]
  | last {left retry : ℕ} {answered : Bool} {url : Url} {resolution : Resolution} {log : List Event}
      (isPublic : IsPublic url resolution) (allowed : request.allows url = true)
      (attempt : AttemptLog client world request retry answered request.controls.maxRedirects 0 url
        (firstHeaders client request) log) :
      TraceLog client world request left [.validated url resolution :: log]
  | retried {left retry : ℕ} {url : Url} {resolution : Resolution} {log : List Event}
      {trace : List (List Event)} (isPublic : IsPublic url resolution)
      (allowed : request.allows url = true)
      (attempt : AttemptLog client world request retry true request.controls.maxRedirects 0 url
        (firstHeaders client request) log)
      (rest : TraceLog client world request left trace) :
      TraceLog client world request (left + 1) ((.validated url resolution :: log) :: trace)

structure WasChecked (world : World) (request : Request) (url : Url) (checked : List Event) : Prop where
  read : ∃ input parsed, world.parser.parse input none = some parsed ∧
    url = world.parser.clearHash parsed
  event : ∃ resolution, checked = [.validated url resolution] ∧ IsPublic url resolution
  allowed : request.allows url = true

lemma wasChecked_initial (h : WasChecked world request requestedUrl preflight) (retry : ℕ) :
    (∃ error, (if retry = 0 then (preflight, .ok requestedUrl)
        else request.validate world requestedUrl (world.lookup retry 0)) = ([], .error error)) ∨
      ∃ checked initialUrl, (if retry = 0 then (preflight, .ok requestedUrl)
          else request.validate world requestedUrl (world.lookup retry 0)) =
            (checked, .ok initialUrl) ∧ WasChecked world request initialUrl checked := by
  by_cases hretry : retry = 0
  · rw [if_pos hretry]
    exact .inr ⟨preflight, requestedUrl, rfl, h⟩
  · rw [if_neg hretry]
    rcases validate_cases world request requestedUrl (world.lookup retry 0) with
      ⟨error, heq⟩ | ⟨target, resolution, parsed, heq, hpublic, hparsed, htarget⟩
    · exact .inl ⟨error, heq⟩
    · refine .inr ⟨_, target, heq, ⟨_, parsed, hparsed, htarget⟩, ⟨resolution, rfl, hpublic⟩, ?_⟩
      obtain ⟨input, first, hfirst, rfl⟩ := h.read
      cases (world.parser.reparse_clearHash hfirst).symm.trans hparsed
      refine allows_of_origin h.allowed ?_
      rw [htarget, world.parser.origin_clearHash]

lemma traceLog_executeWithRetries (h : WasChecked world request requestedUrl preflight)
    (left retry : ℕ) : TraceLog client world request left
      (executeWithRetries client world request requestedUrl preflight left retry).1 := by
  induction left using Nat.strongRecOn generalizing retry with
  | ind left ih =>
    rw [executeWithRetries.eq_def]
    dsimp only
    rcases wasChecked_initial h retry with ⟨error, heq⟩ | ⟨checked, initialUrl, heq, hchecked⟩
    · rw [heq]
      exact .unchecked
    · rw [heq]
      obtain ⟨resolution, rfl, hpublic⟩ := hchecked.event
      have hattempt : Attempted client world request retry request.controls.maxRedirects 0 initialUrl
          (firstHeaders client request) _ := attempted_executeAttempt ..
      dsimp only
      generalize executeAttempt client world request retry request.controls.maxRedirects 0
        initialUrl (firstHeaders client request) = attempt at hattempt ⊢
      obtain ⟨log, result⟩ := attempt
      dsimp only
      split
      · exact .last hpublic hchecked.allowed hattempt
      · cases left with
        | zero => exact .last hpublic hchecked.allowed hattempt
        | succ left =>
          dsimp only
          split
          · exact .last hpublic hchecked.allowed hattempt
          · exact .last hpublic hchecked.allowed hattempt
          · exact .retried hpublic hchecked.allowed hattempt (ih left (Nat.lt_succ_self left) (retry + 1))
      all_goals exact .last hpublic hchecked.allowed hattempt

section Trace

variable {left : ℕ} {trace : List (List Event)}

lemma TraceLog.length (h : TraceLog client world request left trace) : trace.length ≤ left + 1 := by
  induction h with
  | unchecked => exact Nat.le_add_left ..
  | last _ _ _ => exact Nat.le_add_left ..
  | retried _ _ _ _ ih =>
    rw [List.length_cons]
    omega

lemma TraceLog.each {P : List Event → Prop} (h : TraceLog client world request left trace)
    (hnil : P [])
    (hattempt : ∀ {retry answered url resolution log}, IsPublic url resolution →
      request.allows url = true →
      AttemptLog client world request retry answered request.controls.maxRedirects 0 url
        (firstHeaders client request) log → P (.validated url resolution :: log)) :
    ∀ log ∈ trace, P log := by
  induction h with
  | unchecked =>
    intro log hlog
    rw [List.mem_singleton.mp hlog]
    exact hnil
  | last isPublic allowed attempt =>
    intro log hlog
    rw [List.mem_singleton.mp hlog]
    exact hattempt isPublic allowed attempt
  | retried isPublic allowed attempt _ ih =>
    intro log hlog
    rcases List.mem_cons.mp hlog with rfl | hlog
    · exact hattempt isPublic allowed attempt
    · exact ih log hlog

lemma TraceLog.admitted (h : TraceLog client world request left trace)
    (hadmission : client.admission = true) : Admitted true trace.flatten := by
  induction h with
  | unchecked => exact .nil
  | last isPublic allowed attempt =>
    rw [List.flatten_singleton]
    refine .validated ?_
    exact (attempt.admitted hadmission).weaken
  | retried isPublic allowed attempt _ ih =>
    rw [List.flatten_cons]
    exact .validated ((attempt.admitted hadmission).append ih)

lemma TraceLog.safe (h : TraceLog client world request left trace) :
    RedirectSafe client.admission request.allowedOrigins left request.controls.maxRedirects trace := by
  refine ⟨h.length, h.each trivial ?_, h.each trivial ?_, h.each (Nat.zero_le _) ?_, h.admitted⟩
  · intro retry answered url resolution log isPublic allowed attempt
    refine ⟨nofun, attempt.checked ⟨⟨resolution, List.mem_singleton.mpr rfl, isPublic⟩, ?_⟩⟩
    intro origins horigins
    unfold Request.allows at allowed
    rw [Option.mem_def.mp horigins] at allowed
    simpa using allowed
  · intro retry answered url resolution log _ _ attempt
    exact attempt.stripped
  · intro retry answered url resolution log _ _ attempt
    exact attempt.bounded

end Trace

end VacancyRadar.Crawler
