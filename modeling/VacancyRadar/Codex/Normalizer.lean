import VacancyRadar.Provider.Event

/-!
# The events of a Codex app-server

`CodexAppServerNormalizer` translates the notifications of the app-server into the events of a
session, and it throws on a notification that does not have the shape it expects.  The parsers of
the responses of the handshake are here as well.
-/

namespace VacancyRadar.Codex

open Data Provider

inductive NotificationMethod where
  | accountRateLimitsUpdated
  | threadStarted
  | threadStatusChanged
  | threadTokenUsageUpdated
  | turnStarted
  | turnCompleted
  | turnPlanUpdated
  | turnDiffUpdated
  | itemStarted
  | itemCompleted
  | itemAgentMessageDelta
  | itemCommandExecutionOutputDelta
  | itemFileChangeOutputDelta
  | itemFileChangePatchUpdated
  | itemMcpToolCallProgress
  | itemReasoningSummaryTextDelta
  | itemReasoningSummaryPartAdded
  | itemReasoningTextDelta
  | serverRequestResolved
  | warning
  | error

/-- What the runtime knows about Unicode: the characters of the category `Cf`. -/
structure Unicode where
  isFormat : Char → Bool

def Unicode.isUnsafe (unicode : Unicode) (c : Char) : Bool :=
  c.toNat ≤ 0x1f || (0x7f ≤ c.toNat && c.toNat ≤ 0x9f) || unicode.isFormat c

/-- The characters of a text that fit into a number of bytes. -/
def fitting : List Char → ℕ → List Char
  | [], _ => []
  | c :: rest, room => if c.utf8Size ≤ room then c :: fitting rest (room - c.utf8Size) else []

def safeDisplay (unicode : Unicode) (value : Option Json) (maximumBytes : ℕ) (fallback : String) :
    String :=
  match Json.str? value with
  | some text =>
    if text = "" then fallback
    else
      let printable := text.toList.map fun c => if unicode.isUnsafe c then ' ' else c
      String.ofList (fitting printable maximumBytes)
  | none => fallback

def asObject (value : Option Json) (label : String) : Except String (List (String × Json)) :=
  match value with
  | some (.obj fields) => .ok fields
  | _ => .error s!"Invalid {label}"

def itemEvent (unicode : Unicode) (completed : Bool) (item : List (String × Json)) :
    Option AgentEvent :=
  let id := Json.str? (Json.field item "id")
  let status := Json.str? (Json.field item "status")
  let isError := status = some "failed" ∨ status = some "declined" ∨
    Json.isFalse (Json.field item "success")
  let tool := fun (toolName : String) (input result : Option Json) =>
    if completed then AgentEvent.toolCompleted (some toolName) id result isError
    else .toolStarted toolName id input
  let only := fun (keys : List String) =>
    some (Json.objectOf (keys.map fun key => (key, Json.field item key)))
  match Json.str? (Json.field item "type") with
  | some "agentMessage" =>
    match Json.str? (Json.field item "text") with
    | some text => if completed ∧ text ≠ "" then some (.assistantMessage text) else none
    | none => none
  | some "commandExecution" => some (tool "shell" (only ["command"]) (only ["command", "exitCode"]))
  | some "fileChange" => some (tool "file_change" (only ["changes"]) (only ["changes"]))
  | some "mcpToolCall" =>
    let server := safeDisplay unicode (Json.field item "server") 96 "mcp"
    let name := safeDisplay unicode (Json.field item "tool") 96 "tool"
    let qualified := Json.str ("mcp:" ++ server ++ "/" ++ name)
    let toolName := safeDisplay unicode (some qualified) 256 "mcp_tool"
    some (tool toolName (Json.field item "arguments") (Json.field item "result"))
  | _ => none

def extractRateLimitWindow (value : Option Json) : Option RateLimitWindow :=
  let number := fun key => Json.num? (Json.property key value)
  (number "usedPercent").map fun usedPercent =>
    ⟨usedPercent, number "windowDurationMins", number "resetsAt"⟩

/-- `normalize`.  The first component of the result is the thread id the normalizer remembers. -/
def normalize (unicode : Unicode) (providerSessionId : Option String)
    (method : NotificationMethod) (params : Option Json) :
    Except String (Option String × List AgentEvent) := do
  match method with
  | .threadStarted =>
    let fields ← asObject params "thread/started params"
    let thread ← asObject (Json.field fields "thread") "thread/started thread"
    match Json.str? (Json.field thread "id") with
    | some id => pure (if id = "" then providerSessionId else some id, [])
    | none => pure (providerSessionId, [])
  | .turnStarted => pure (providerSessionId, [.status "turn_started"])
  | .turnCompleted =>
    let fields ← asObject params "turn/completed params"
    let turn ← asObject (Json.field fields "turn") "turn/completed turn"
    match Json.str? (Json.field turn "status") with
    | some "completed" => pure (providerSessionId, [.sessionCompleted providerSessionId])
    | some "interrupted" => pure (providerSessionId, [.sessionCancelled])
    | some "failed" => pure (providerSessionId, [.sessionFailed "Codex turn failed"])
    | _ => throw "Invalid Codex turn status"
  | .itemStarted =>
    let fields ← asObject params "item/started params"
    let item ← asObject (Json.field fields "item") "started item"
    pure (providerSessionId, (itemEvent unicode false item).toList)
  | .itemCompleted =>
    let fields ← asObject params "item/completed params"
    let item ← asObject (Json.field fields "item") "completed item"
    pure (providerSessionId, (itemEvent unicode true item).toList)
  | .threadTokenUsageUpdated =>
    let fields ← asObject params "thread/tokenUsage/updated params"
    let tokenUsage ← asObject (Json.field fields "tokenUsage") "token usage"
    let last ← match Json.field tokenUsage "last" with
      | none => pure []
      | some last => asObject (some last) "last token usage"
    let number := fun value : Option Json => (Json.num? value).map Json.num
    let tokens := fun key => number (Json.field last key)
    pure (providerSessionId, [.usage (tokens "inputTokens") (tokens "outputTokens")
      (tokens "cachedInputTokens") none (tokens "totalTokens")
      (number (Json.field tokenUsage "modelContextWindow"))])
  | .accountRateLimitsUpdated =>
    let fields ← asObject params "account/rateLimits/updated params"
    let limits ← asObject (Json.field fields "rateLimits") "rate limits"
    let primary := extractRateLimitWindow (Json.field limits "primary")
    let secondary := extractRateLimitWindow (Json.field limits "secondary")
    if primary.isSome ∨ secondary.isSome then
      pure (providerSessionId, [.rateLimits (Json.str? (Json.field limits "limitId"))
        (Json.str? (Json.field limits "limitName")) primary secondary])
    else pure (providerSessionId, [])
  | .error =>
    let fields ← asObject params "error params"
    pure (providerSessionId, [.error none "Codex app-server reported an error"
      (Json.isTrue (Json.field fields "willRetry"))])
  | .threadStatusChanged | .turnPlanUpdated | .turnDiffUpdated | .itemAgentMessageDelta
  | .itemCommandExecutionOutputDelta | .itemFileChangeOutputDelta | .itemFileChangePatchUpdated
  | .itemMcpToolCallProgress | .itemReasoningSummaryTextDelta | .itemReasoningSummaryPartAdded
  | .itemReasoningTextDelta | .serverRequestResolved | .warning => pure (providerSessionId, [])

/-! ## Responses of the handshake -/

/-- An entry of `parseCodexModelCatalog`. -/
def parseModel (unicode : Unicode) (raw : Json) : Except String (String × Bool) := do
  let model ← asObject (some raw) "model"
  let id := match Json.field model "id" with
    | none | some .null => Json.field model "model"
    | some id => some id
  match Json.str? id with
  | none => throw "Invalid model id"
  | some id =>
    if id = "" ∨ 256 < id.utf8ByteSize ∨ id.toList.any unicode.isUnsafe then
      throw "Invalid model id"
    else pure (id, Json.isTrue (Json.field model "isDefault"))

/-- `parseCodexModelCatalog`: the models with whether each is the default. -/
def parseCodexModelCatalog (unicode : Unicode) (result : Json) :
    Except String (List (String × Bool)) := do
  let response ← asObject (some result) "model/list response"
  match Json.field response "data" with
  | some (.arr data) =>
    if 1024 < data.length then throw "Invalid Codex model catalog"
    else data.mapM (parseModel unicode)
  | _ => throw "Invalid Codex model catalog"

def resolveCodexSelectedModel (catalog : List (String × Bool)) (pinnedModel : Option String) :
    Except String String :=
  match pinnedModel.filter (· ≠ "") with
  | some pinned =>
    if catalog.any fun model => model.1 = pinned then .ok pinned
    else .error "Pinned Codex model is unavailable"
  | none =>
    match catalog.filter Prod.snd with
    | [model] => .ok model.1
    | _ => .error "Codex default model could not be determined exactly"

def extractId (result : Json) (response key invalid : String) : Except String String := do
  let fields ← asObject (some result) response
  let object ← asObject (Json.field fields key) key
  match Json.str? (Json.field object "id") with
  | some id => if id = "" then throw invalid else pure id
  | none => throw invalid

def extractThreadId (result : Json) : Except String String :=
  extractId result "thread start/resume response" "thread"
    "thread start/resume response has no valid thread id"

def extractTurnId (result : Json) : Except String String :=
  extractId result "turn/start response" "turn" "turn/start response has no valid turn id"

end VacancyRadar.Codex
