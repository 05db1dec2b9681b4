import VacancyRadar.Provider.Event

/-!
# The parsers of the provider output

`parseCodexLine` and `parseClaudeLine` turn one frame of the output of a CLI into events.  The frame
is any JSON value.  What a parser does not know it leaves out, and it only fails where it cannot
make a text of the type of an unknown frame.
-/

namespace VacancyRadar.Provider

open Data

structure ParsedLine where
  events : List AgentEvent
  providerSessionId : Option String := none
  unrecognized : Option String := none

/-- The `default` of a parser: the type of the frame is reported, if it can be made a text. -/
def unrecognized (numberText : Number → String) (type : Option Json) :
    Except String ParsedLine :=
  match type with
  | none => .ok { events := [], unrecognized := some "undefined" }
  | some type =>
    match Json.toText numberText type with
    | some eventType => .ok { events := [], unrecognized := some eventType }
    | none => .error "Cannot convert object to primitive value"

/-- `usageEvent`, which copies the token counts as they are. -/
def usageEvent (cachedKey : String) (usage : Option Json) (cost : Option Json) :
    Option AgentEvent :=
  if Json.isObject usage then
    some (.usage (Json.property "input_tokens" usage) (Json.property "output_tokens" usage)
      (Json.property cachedKey usage) cost none none)
  else none

/-! ## Codex -/

namespace Codex

def usageEvent (usage : Option Json) : Option AgentEvent :=
  Provider.usageEvent "cached_input_tokens" usage none

def itemEvent (completed : Bool) (item : Option Json) : Option AgentEvent :=
  let prop := fun key => Json.property key item
  let text := fun key => Json.str? (prop key)
  let id := text "id"
  let isError := text "status" = some "failed"
  let only := fun (fields : List (String × String)) =>
    some (Json.objectOf (fields.map fun field => (field.1, prop field.2)))
  let tool := fun (toolName : String) (input result : Option Json) =>
    if completed then AgentEvent.toolCompleted (some toolName) id result isError
    else .toolStarted toolName id input
  match text "type" with
  | some "agent_message" =>
    if completed then ((text "text").filter (· ≠ "")).map .assistantMessage else none
  | some "reasoning" => ((text "text").filter (· ≠ "")).map .thinkingDelta
  | some "error" =>
    -- The turn goes on after an error of an item.
    if completed then
      some (.error none ((text "message").getD "Codex reported an error") true)
    else none
  | some "command_execution" =>
    some (tool "shell" (only [("command", "command")])
      (only [("command", "command"), ("output", "aggregated_output"), ("exitCode", "exit_code")]))
  | some "file_change" =>
    some (tool "file_change" (only [("changes", "changes")]) (only [("changes", "changes")]))
  | some "mcp_tool_call" =>
    some (tool ((text "tool").getD "mcp_tool") (prop "arguments") (prop "result"))
  | _ => none

def itemEvents (completed : Bool) (item : Option Json) : List AgentEvent :=
  if Json.truthy item then (itemEvent completed item).toList else []

end Codex

def parseCodexLine (numberText : Number → String) (raw : Json) : Except String ParsedLine :=
  if Json.isObject (some raw) then
    let prop := fun key => Json.property key (some raw)
    match Json.str? (prop "type") with
    | some "thread.started" =>
      .ok { events := [.status "thread_started"]
            providerSessionId := Json.str? (prop "thread_id") }
    | some "turn.started" => .ok { events := [.status "turn_started"] }
    | some "item.started" => .ok { events := Codex.itemEvents false (prop "item") }
    | some "item.completed" => .ok { events := Codex.itemEvents true (prop "item") }
    | some "turn.completed" => .ok { events := (Codex.usageEvent (prop "usage")).toList }
    | some "turn.failed" =>
      let message := Json.str? (Json.property "message" (prop "error"))
      .ok { events := [.error none (message.getD "Codex turn failed") false] }
    | _ => unrecognized numberText (prop "type")
  else .ok { events := [] }

/-! ## Claude -/

namespace Claude

/-- `usageEvent`.  The costs are only copied if they are a number. -/
def usageEvent (usage cost : Option Json) : Option AgentEvent :=
  Provider.usageEvent "cache_read_input_tokens" usage ((Json.num? cost).map .num)

/-- An iteration of `parseContentBlocks`. -/
def blockEvent (block : Json) : Option AgentEvent :=
  if Json.isObject (some block) then
    let prop := fun key => Json.property key (some block)
    let text := fun key => Json.str? (prop key)
    match text "type" with
    | some "text" => ((text "text").filter (· ≠ "")).map .assistantMessage
    | some "thinking" => ((text "thinking").filter (· ≠ "")).map .thinkingDelta
    | some "tool_use" =>
      some (.toolStarted ((text "name").getD "unknown") (text "id") (prop "input"))
    | some "tool_result" =>
      some (.toolCompleted none (text "tool_use_id") (prop "content") (Json.isTrue (prop "is_error")))
    | _ => none
  else none

def parseContentBlocks : Option Json → List AgentEvent
  | some (.arr content) => content.filterMap blockEvent
  | _ => []

def messageEvents (message : Option Json) : List AgentEvent :=
  if Json.truthy message then
    parseContentBlocks (Json.property "content" message) ++
      (usageEvent (Json.property "usage" message) none).toList
  else []

def resultError (raw : Option Json) : List AgentEvent :=
  let text := fun key => Json.str? (Json.property key raw)
  if Json.isTrue (Json.property "is_error" raw) then
    [.error (text "subtype") ((text "result").getD "Claude Code reported an error result") false]
  else []

end Claude

def parseClaudeLine (numberText : Number → String) (raw : Json) : Except String ParsedLine :=
  if Json.isObject (some raw) then
    let prop := fun key => Json.property key (some raw)
    match Json.str? (prop "type") with
    | some "system" =>
      if Json.str? (prop "subtype") = some "init" then
        .ok { events := [.status "initialized"]
              providerSessionId := Json.str? (prop "session_id") }
      else .ok { events := [] }
    | some "assistant" => .ok { events := Claude.messageEvents (prop "message") }
    | some "user" => .ok { events := Claude.messageEvents (prop "message") }
    | some "result" =>
      .ok { events := Claude.resultError (some raw) ++
              (Claude.usageEvent (prop "usage") (prop "total_cost_usd")).toList
            providerSessionId := Json.str? (prop "session_id") }
    | _ => unrecognized numberText (prop "type")
  else .ok { events := [] }

/-! ## The events of a parser are inner events -/

def ParsedLine.Inner (parsed : ParsedLine) : Prop := ∀ event ∈ parsed.events, event.isInner

def Plain (events : List AgentEvent) : Prop := ∀ event ∈ events, event.isPlain

variable {numberText : Number → String} {raw : Json} {parsed : ParsedLine} {event : AgentEvent}

lemma plain_nil : Plain [] := fun _ hevent => nomatch hevent

lemma plain_singleton (h : event.isPlain) : Plain [event] :=
  fun _ hevent => List.mem_singleton.mp hevent ▸ h

lemma Plain.inner (h : Plain parsed.events) : parsed.Inner :=
  fun event hevent => AgentEvent.isInner_of_isPlain (h event hevent)

lemma events_unrecognized {type : Option Json} (h : unrecognized numberText type = .ok parsed) :
    parsed.events = [] := by
  unfold unrecognized at h
  split at h
  · cases h
    rfl
  · split at h
    · cases h
      rfl
    · cases h

lemma isInner_usageEvent {cachedKey : String} {usage cost : Option Json}
    (h : usageEvent cachedKey usage cost = some event) : event.isInner := by
  unfold usageEvent at h
  split at h
  · cases h
    rfl
  · cases h

lemma isPlain_itemEvent {completed : Bool} {item : Option Json}
    (h : Codex.itemEvent completed item = some event) : event.isPlain := by
  unfold Codex.itemEvent at h
  simp only at h
  split at h
  · split at h
    · obtain ⟨text, -, rfl⟩ := Option.map_eq_some_iff.mp h
      rfl
    · cases h
  · obtain ⟨text, -, rfl⟩ := Option.map_eq_some_iff.mp h
    rfl
  · split at h <;> cases h
    rfl
  all_goals cases completed <;> cases h <;> rfl

lemma plain_itemEvents (completed : Bool) (item : Option Json) :
    Plain (Codex.itemEvents completed item) := by
  unfold Codex.itemEvents
  split
  · exact fun event hevent => isPlain_itemEvent (Option.mem_toList.mp hevent)
  · exact plain_nil

lemma isPlain_blockEvent {block : Json} (h : Claude.blockEvent block = some event) :
    event.isPlain := by
  unfold Claude.blockEvent at h
  split at h
  · simp only at h
    split at h
    · obtain ⟨text, -, rfl⟩ := Option.map_eq_some_iff.mp h
      rfl
    · obtain ⟨text, -, rfl⟩ := Option.map_eq_some_iff.mp h
      rfl
    all_goals cases h
    all_goals rfl
  · cases h

lemma plain_parseContentBlocks (content : Option Json) :
    Plain (Claude.parseContentBlocks content) := by
  unfold Claude.parseContentBlocks
  split
  · intro event hevent
    obtain ⟨block, -, hblock⟩ := List.mem_filterMap.mp hevent
    exact isPlain_blockEvent hblock
  · exact plain_nil

lemma plain_resultError (raw : Option Json) : Plain (Claude.resultError raw) := by
  unfold Claude.resultError
  split
  · exact plain_singleton rfl
  · exact plain_nil

lemma isInner_messageEvents {message : Option Json} (h : event ∈ Claude.messageEvents message) :
    event.isInner := by
  unfold Claude.messageEvents at h
  split at h
  · rcases List.mem_append.mp h with hcontent | husage
    · exact AgentEvent.isInner_of_isPlain (plain_parseContentBlocks _ _ hcontent)
    · exact isInner_usageEvent (Option.mem_toList.mp husage)
  · cases h

/-- What `parseCodexLine` may return. -/
lemma parseCodexLine_cases (h : parseCodexLine numberText raw = .ok parsed) :
    Plain parsed.events ∨
      Json.str? (Json.property "type" (some raw)) = some "turn.completed" ∧
        parsed.events = (Codex.usageEvent (Json.property "usage" (some raw))).toList := by
  unfold parseCodexLine at h
  split at h
  · simp only at h
    split at h
    case h_5 htype =>
      cases h
      exact .inr ⟨htype, rfl⟩
    case h_7 => exact .inl (events_unrecognized h ▸ plain_nil)
    all_goals
      cases h
      left
    · exact plain_singleton rfl
    · exact plain_singleton rfl
    · exact plain_itemEvents false _
    · exact plain_itemEvents true _
    · exact plain_singleton rfl
  · cases h
    exact .inl plain_nil

/-- What `parseClaudeLine` may return. -/
lemma parseClaudeLine_cases (h : parseClaudeLine numberText raw = .ok parsed) :
    let prop := fun key => Json.property key (some raw)
    let type := Json.str? (prop "type")
    Plain parsed.events ∨
      (type = some "assistant" ∨ type = some "user") ∧
        parsed.events = Claude.messageEvents (prop "message") ∨
      type = some "result" ∧
        parsed.events = Claude.resultError (some raw) ++
          (Claude.usageEvent (prop "usage") (prop "total_cost_usd")).toList := by
  unfold parseClaudeLine at h
  simp only at h ⊢
  split at h
  · split at h
    case h_1 =>
      left
      split at h
      · cases h
        exact plain_singleton rfl
      · cases h
        exact plain_nil
    case h_2 htype =>
      cases h
      exact .inr (.inl ⟨.inl htype, rfl⟩)
    case h_3 htype =>
      cases h
      exact .inr (.inl ⟨.inr htype, rfl⟩)
    case h_4 htype =>
      cases h
      exact .inr (.inr ⟨htype, rfl⟩)
    case h_5 => exact .inl (events_unrecognized h ▸ plain_nil)
  · cases h
    exact .inl plain_nil

lemma inner_parseCodexLine (h : parseCodexLine numberText raw = .ok parsed) : parsed.Inner := by
  rcases parseCodexLine_cases h with hplain | ⟨-, hevents⟩
  · exact hplain.inner
  · intro event hevent
    rw [hevents] at hevent
    exact isInner_usageEvent (Option.mem_toList.mp hevent)

lemma inner_parseClaudeLine (h : parseClaudeLine numberText raw = .ok parsed) : parsed.Inner := by
  rcases parseClaudeLine_cases h with hplain | ⟨-, hevents⟩ | ⟨-, hevents⟩
  · exact hplain.inner
  · intro event hevent
    exact isInner_messageEvents (hevents ▸ hevent)
  · intro event hevent
    rw [hevents] at hevent
    rcases List.mem_append.mp hevent with herror | husage
    · exact AgentEvent.isInner_of_isPlain (plain_resultError _ _ herror)
    · exact isInner_usageEvent (Option.mem_toList.mp husage)

end VacancyRadar.Provider
