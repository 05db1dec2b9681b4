import VacancyRadar.Data.Schema
import VacancyRadar.Data.Text
import VacancyRadar.Provider.Event

/-!
# Envelopes

The session manager numbers an event and sends it to the clients, and it writes a record of it that
holds no content.  Both are objects that are checked where they are read: the envelope by
`agentEventEnvelopeSchema`, and the record by `persistedEventRecordV1Schema`.
-/

namespace VacancyRadar.Provider

open Data

/-! ## Events as objects -/

def AgentEvent.type : AgentEvent → String
  | sessionStarted .. => "session.started"
  | status .. => "status"
  | assistantMessage _ => "assistant.message"
  | thinkingDelta _ => "thinking.delta"
  | toolStarted .. => "tool.started"
  | toolCompleted .. => "tool.completed"
  | usage .. => "usage"
  | rateLimits .. => "usage.rate_limits"
  | error .. => "error"
  | sessionCompleted _ => "session.completed"
  | sessionFailed _ => "session.failed"
  | sessionCancelled => "session.cancelled"

def RateLimitWindow.json (window : RateLimitWindow) : Json :=
  Json.objectOf [("usedPercent", some (.num window.usedPercent)),
    ("windowDurationMins", window.windowDurationMins.map .num),
    ("resetsAt", window.resetsAt.map .num)]

def AgentEvent.fields : AgentEvent → List (String × Option Json)
  | sessionStarted sessionId provider providerSessionId =>
    [("sessionId", some (.str sessionId)), ("provider", some (.str provider)),
      ("providerSessionId", providerSessionId.map .str)]
  | status label detail => [("status", some (.str label)), ("detail", detail.map .str)]
  | assistantMessage text => [("text", some (.str text))]
  | thinkingDelta text => [("text", some (.str text))]
  | toolStarted toolName toolCallId input =>
    [("toolName", some (.str toolName)), ("toolCallId", toolCallId.map .str), ("input", input)]
  | toolCompleted toolName toolCallId result isError =>
    [("toolName", toolName.map .str), ("toolCallId", toolCallId.map .str), ("result", result),
      ("isError", some (.bool isError))]
  | usage inputTokens outputTokens cachedInputTokens cost contextTokens contextWindowTokens =>
    [("inputTokens", inputTokens), ("outputTokens", outputTokens),
      ("cachedInputTokens", cachedInputTokens), ("cost", cost), ("contextTokens", contextTokens),
      ("contextWindowTokens", contextWindowTokens)]
  | rateLimits limitId limitName primary secondary =>
    [("limitId", limitId.map .str), ("limitName", limitName.map .str),
      ("primary", primary.map RateLimitWindow.json),
      ("secondary", secondary.map RateLimitWindow.json)]
  | error code message recoverable =>
    [("code", code.map .str), ("message", some (.str message)),
      ("recoverable", some (.bool recoverable))]
  | sessionCompleted providerSessionId => [("providerSessionId", providerSessionId.map .str)]
  | sessionFailed message => [("message", some (.str message))]
  | sessionCancelled => []

structure AttachmentId where
  text : String
  guid : isGuid text

/-- `AgentEventEnvelope`. -/
structure Envelope where
  event : AgentEvent
  sequence : ℕ
  timestamp : String
  resultAttachmentId : Option AttachmentId := none

def Envelope.json (envelope : Envelope) : Json :=
  Json.objectOf (("type", some (.str envelope.event.type)) :: envelope.event.fields ++
    [("sequence", some (.num (.finite envelope.sequence))),
      ("timestamp", some (.str envelope.timestamp)),
      ("resultAttachmentId", envelope.resultAttachmentId.map fun id => .str id.text)])

def attachResult (stored : Option AttachmentId) : AgentEvent → Option AttachmentId
  | .toolCompleted _ _ (some _) _ => stored
  | _ => none

def wrap (sequence : ℕ) (timestamp : String) (stored : Option AttachmentId) (event : AgentEvent) :
    Envelope :=
  { event, sequence, timestamp, resultAttachmentId := attachResult stored event }

/-! ## The schema of the envelopes -/

open Schema in
def rateLimitWindowSchema : Schema :=
  optional (object [("usedPercent", number), ("windowDurationMins", optional number),
    ("resetsAt", optional number)])

def providerIds : List String := ["claude", "codex"]

open Schema in
/-- An option of `agentEventEnvelopeSchema`: the base is extended. -/
def envelopeOption (type : String) (shape : List (String × Schema)) : String × Schema :=
  (type, object ([("sequence", count), ("timestamp", string), ("type", enum [type])] ++ shape))

open Schema in
def agentEventEnvelopeSchema : Schema := discriminatedUnion "type"
  [envelopeOption "session.started"
      [("sessionId", string), ("provider", enum providerIds),
        ("providerSessionId", optional string)],
    envelopeOption "status" [("status", string), ("detail", optional string)],
    envelopeOption "assistant.message" [("text", string)],
    envelopeOption "thinking.delta" [("text", string)],
    envelopeOption "tool.started"
      [("toolName", string), ("toolCallId", optional string), ("input", optional unknown)],
    envelopeOption "tool.completed"
      [("toolName", optional string), ("toolCallId", optional string),
        ("result", optional unknown), ("isError", optional boolean),
        ("resultAttachmentId", optional guid)],
    envelopeOption "usage"
      [("inputTokens", optional number), ("outputTokens", optional number),
        ("cachedInputTokens", optional number), ("cost", optional number),
        ("contextTokens", optional number), ("contextWindowTokens", optional number)],
    envelopeOption "usage.rate_limits"
      [("limitId", optional string), ("limitName", optional string),
        ("primary", rateLimitWindowSchema), ("secondary", rateLimitWindowSchema)],
    envelopeOption "error"
      [("code", optional string), ("message", string), ("recoverable", boolean)],
    envelopeOption "session.completed" [("providerSessionId", optional string)],
    envelopeOption "session.failed" [("message", string)],
    envelopeOption "session.cancelled" []]

/-! ## The record of an event -/

/-- How contents are described: `createHash('sha256')`, and `JSON.stringify`, which may throw. -/
structure Digests where
  sha256 : String → String
  stringify : Json → Option String

structure ContentDigest where
  bytes : ℕ
  sha256 : String

/-- `digestOfText`. -/
def Digests.ofText (digests : Digests) (text : String) : ContentDigest :=
  ⟨text.utf8ByteSize, digests.sha256 text⟩

/-- `digestOfUnknown`. -/
def Digests.ofUnknown (digests : Digests) (value : Json) : ContentDigest :=
  digests.ofText ((digests.stringify value).getD "<unserializable>")

def ContentDigest.fields (bytes sha256 : String) (digest : Option ContentDigest) :
    List (String × Option Json) :=
  [(bytes, digest.map fun digest => .num (.finite digest.bytes)),
    (sha256, digest.map fun digest => .str digest.sha256)]

/-- The characters that `ERROR_CODE_DISALLOWED` leaves. -/
def isCodeChar (c : Char) : Bool := c.isAlphanum || c == '.' || c == '_' || c == '-'

def recordedCode (code : String) : Option String :=
  some (truncateToBytes (String.ofList (code.toList.filter isCodeChar)) 128) |>.filter (· ≠ "")

/-- What `redactEnvelope` keeps of an event. -/
def AgentEvent.redacted (digests : Digests) (resultAttachmentId : Option AttachmentId) :
    AgentEvent → List (String × Option Json)
  | sessionStarted sessionId provider providerSessionId =>
    [("sessionId", some (.str sessionId)), ("provider", some (.str provider)),
      ("providerSessionId", providerSessionId.map fun id => .str (truncateToBytes id 256))]
  | status label detail =>
    ("status", some (.str (truncateToBytes label 256))) ::
      ContentDigest.fields "detailBytes" "detailSha256" (detail.map digests.ofText)
  | assistantMessage text => ContentDigest.fields "bytes" "sha256" (digests.ofText text)
  | thinkingDelta text => ContentDigest.fields "bytes" "sha256" (digests.ofText text)
  | toolStarted toolName toolCallId input =>
    [("toolName", some (.str (truncateToBytes toolName 256))),
      ("toolCallId", toolCallId.map fun id => .str (truncateToBytes id 256))] ++
      ContentDigest.fields "inputBytes" "inputSha256" (input.map digests.ofUnknown)
  | toolCompleted toolName toolCallId result isError =>
    [("toolName", toolName.map fun name => .str (truncateToBytes name 256)),
      ("toolCallId", toolCallId.map fun id => .str (truncateToBytes id 256)),
      ("isError", some (.bool isError))] ++
      ContentDigest.fields "resultBytes" "resultSha256" (result.map digests.ofUnknown) ++
      [("resultAttachmentId", resultAttachmentId.map fun id => .str id.text)]
  | usage inputTokens outputTokens cachedInputTokens cost contextTokens contextWindowTokens =>
    [("inputTokens", inputTokens), ("outputTokens", outputTokens),
      ("cachedInputTokens", cachedInputTokens), ("cost", cost), ("contextTokens", contextTokens),
      ("contextWindowTokens", contextWindowTokens)]
  | rateLimits limitId limitName primary secondary =>
    [("limitId", limitId.map fun id => .str (truncateToBytes id 256)),
      ("limitName", limitName.map fun name => .str (truncateToBytes name 256)),
      ("primary", primary.map RateLimitWindow.json),
      ("secondary", secondary.map RateLimitWindow.json)]
  | error code message recoverable =>
    [("code", (code.bind recordedCode).map .str), ("recoverable", some (.bool recoverable))] ++
      ContentDigest.fields "messageBytes" "messageSha256" (digests.ofText message)
  | sessionCompleted providerSessionId =>
    [("providerSessionId", providerSessionId.map fun id => .str (truncateToBytes id 256))]
  | sessionFailed message =>
    ContentDigest.fields "messageBytes" "messageSha256" (digests.ofText message)
  | sessionCancelled => []

def redactEnvelope (digests : Digests) (envelope : Envelope) : Json :=
  Json.objectOf ([("v", some (.num (.finite 1))),
      ("sequence", some (.num (.finite envelope.sequence))),
      ("timestamp", some (.str envelope.timestamp)),
      ("type", some (.str envelope.event.type))] ++
    envelope.event.redacted digests envelope.resultAttachmentId)

open Schema in
def recordOption (type : String) (shape : List (String × Schema)) : String × Schema :=
  (type, strict ([("v", literalNumber 1), ("sequence", count), ("timestamp", string),
    ("type", enum [type])] ++ shape))

open Schema in
def persistedEventRecordV1Schema : Schema := discriminatedUnion "type"
  [recordOption "session.started"
      [("sessionId", string), ("provider", enum providerIds),
        ("providerSessionId", optional string)],
    recordOption "status"
      [("status", string), ("detailBytes", optional count), ("detailSha256", optional string)],
    recordOption "assistant.message" [("bytes", count), ("sha256", string)],
    recordOption "thinking.delta" [("bytes", count), ("sha256", string)],
    recordOption "tool.started"
      [("toolName", string), ("toolCallId", optional string), ("inputBytes", optional count),
        ("inputSha256", optional string)],
    recordOption "tool.completed"
      [("toolName", optional string), ("toolCallId", optional string),
        ("isError", optional boolean), ("resultBytes", optional count),
        ("resultSha256", optional string), ("resultAttachmentId", optional guid)],
    recordOption "usage"
      [("inputTokens", optional number), ("outputTokens", optional number),
        ("cachedInputTokens", optional number), ("cost", optional number),
        ("contextTokens", optional number), ("contextWindowTokens", optional number)],
    recordOption "usage.rate_limits"
      [("limitId", optional string), ("limitName", optional string),
        ("primary", rateLimitWindowSchema), ("secondary", rateLimitWindowSchema)],
    recordOption "error"
      [("code", optional string), ("recoverable", boolean), ("messageBytes", count),
        ("messageSha256", string)],
    recordOption "session.completed" [("providerSessionId", optional string)],
    recordOption "session.failed" [("messageBytes", count), ("messageSha256", string)],
    recordOption "session.cancelled" [],
    recordOption "session.interrupted" [("reason", enum ["daemon_restart"])]]

/-! ## Which envelopes are accepted -/

def isCount : Option Json → Bool
  | none => true
  | some (.num value) => value.isFinite
  | some _ => false

def RateLimitWindow.conforms (window : RateLimitWindow) : Bool :=
  window.usedPercent.isFinite && window.windowDurationMins.all Number.isFinite &&
    window.resetsAt.all Number.isFinite

/-- The event has the types that `AgentEvent` declares. -/
def AgentEvent.conforms : AgentEvent → Bool
  | sessionStarted _ provider _ => providerIds.contains provider
  | usage inputTokens outputTokens cachedInputTokens cost contextTokens contextWindowTokens =>
    isCount inputTokens && isCount outputTokens && isCount cachedInputTokens && isCount cost &&
      isCount contextTokens && isCount contextWindowTokens
  | rateLimits _ _ primary secondary =>
    primary.all RateLimitWindow.conforms && secondary.all RateLimitWindow.conforms
  | _ => true

lemma optional_number_sent (value : Option Json) :
    Schema.optional Schema.number (value.map Json.sent) = isCount value := by
  cases value with
  | none => rfl
  | some value =>
    cases value with
    | num value => cases value <;> rfl
    | _ => rfl

lemma number_sent (value : Number) :
    Schema.number (some (Json.sent (.num value))) = value.isFinite := by
  cases value <;> rfl

lemma optional_number_num (value : Option Number) :
    Schema.optional Schema.number (value.map (Json.sent ∘ Json.num)) =
      value.all Number.isFinite := by
  cases value with
  | none => rfl
  | some value => exact number_sent value

lemma accepts_window (window : Option RateLimitWindow) :
    rateLimitWindowSchema (window.map (Json.sent ∘ RateLimitWindow.json)) =
      window.all RateLimitWindow.conforms := by
  cases window with
  | none => rfl
  | some window =>
    simp [rateLimitWindowSchema, RateLimitWindow.json, Schema.object_objectOf, number_sent,
      optional_number_num, RateLimitWindow.conforms, Bool.and_assoc]

lemma optional_string_sent (text : Option String) :
    Schema.optional Schema.string (text.map (Json.sent ∘ Json.str)) = true := by
  cases text <;> rfl

lemma optional_guid_sent (id : Option AttachmentId) :
    Schema.optional Schema.guid (id.map (Json.sent ∘ fun id => .str id.text)) = true := by
  cases id with
  | none => rfl
  | some id => exact id.guid

lemma accepts_envelope (envelope : Envelope) :
    agentEventEnvelopeSchema (some envelope.json.sent) = envelope.event.conforms := by
  obtain ⟨event, sequence, timestamp, resultAttachmentId⟩ := envelope
  rw [Envelope.json, Json.sent_objectOf, agentEventEnvelopeSchema]
  cases event
  all_goals
    rw [Schema.discriminatedUnion_objectOf rfl rfl]
    simp [Schema.object_objectOf, AgentEvent.fields, AgentEvent.type, Schema.enum,
      optional_string_sent, optional_guid_sent, optional_number_sent, accepts_window,
      AgentEvent.conforms, Bool.and_assoc]

lemma optional_digest_sent {α : Type} (value : Option α) (digest : α → ContentDigest) :
    Schema.optional Schema.count
        (value.map (Json.sent ∘ (fun digest => .num (.finite digest.bytes)) ∘ digest)) = true ∧
      Schema.optional Schema.string
        (value.map (Json.sent ∘ (fun digest => .str digest.sha256) ∘ digest)) = true := by
  cases value with
  | none => exact ⟨rfl, rfl⟩
  | some value => exact ⟨Schema.count_natCast (digest value).bytes, rfl⟩

lemma optional_text_sent {α : Type} (value : Option α) (text : α → String) :
    Schema.optional Schema.string (value.map (Json.sent ∘ fun value => .str (text value))) =
      true := by
  cases value <;> rfl

lemma accepts_record (digests : Digests) (envelope : Envelope) :
    persistedEventRecordV1Schema (some (redactEnvelope digests envelope).sent) =
      envelope.event.conforms := by
  obtain ⟨event, sequence, timestamp, resultAttachmentId⟩ := envelope
  rw [redactEnvelope, Json.sent_objectOf, persistedEventRecordV1Schema]
  cases event
  case error code message recoverable =>
    -- The code is recorded only if it is one of the codes that are known.
    rw [Schema.discriminatedUnion_objectOf rfl rfl, Schema.strict_objectOf (by
      simp [AgentEvent.redacted, ContentDigest.fields]), AgentEvent.redacted]
    generalize code.bind recordedCode = recorded
    cases recorded
    all_goals
      simp [Schema.object_objectOf, AgentEvent.type, Schema.enum, ContentDigest.fields,
        Schema.literalNumber, AgentEvent.conforms]
  all_goals
    rw [Schema.discriminatedUnion_objectOf rfl rfl, Schema.strict_objectOf (by
      simp [AgentEvent.redacted, ContentDigest.fields])]
    simp [Schema.object_objectOf, AgentEvent.redacted, AgentEvent.type, Schema.enum,
      ContentDigest.fields, Schema.literalNumber, optional_digest_sent, optional_text_sent,
      optional_guid_sent, optional_number_sent, accepts_window, AgentEvent.conforms, Bool.and_assoc]

end VacancyRadar.Provider
