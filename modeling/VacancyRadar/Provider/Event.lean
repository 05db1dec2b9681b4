import VacancyRadar.Data.Json

/-!
# The events of a session

`AgentEvent` is what every provider adapter makes of the output of its CLI.  A field of an event
holds what the object holds at run time: the token counts are copied from the output of a CLI, so
they are any JSON value here, whatever type they are declared with.
-/

namespace VacancyRadar.Provider

open Data

structure RateLimitWindow where
  usedPercent : Number
  windowDurationMins : Option Number
  resetsAt : Option Number

inductive AgentEvent where
  | sessionStarted (sessionId provider : String) (providerSessionId : Option String := none)
  | status (status : String) (detail : Option String := none)
  | assistantMessage (text : String)
  | thinkingDelta (text : String)
  | toolStarted (toolName : String) (toolCallId : Option String) (input : Option Json)
  | toolCompleted (toolName toolCallId : Option String) (result : Option Json) (isError : Bool)
  | usage (inputTokens outputTokens cachedInputTokens cost contextTokens
      contextWindowTokens : Option Json)
  | rateLimits (limitId limitName : Option String) (primary secondary : Option RateLimitWindow)
  | error (code : Option String) (message : String) (recoverable : Bool)
  | sessionCompleted (providerSessionId : Option String)
  | sessionFailed (message : String)
  | sessionCancelled

namespace AgentEvent

def isTerminal : AgentEvent → Bool
  | sessionCompleted _ | sessionFailed _ | sessionCancelled => true
  | _ => false

def isFailure : AgentEvent → Bool
  | sessionFailed _ => true
  | _ => false

def isStarted : AgentEvent → Bool
  | sessionStarted .. => true
  | _ => false

def isInner (event : AgentEvent) : Bool := !event.isStarted && !event.isTerminal

def isPlain : AgentEvent → Bool
  | status .. | assistantMessage _ | thinkingDelta _ | toolStarted .. | toolCompleted ..
  | error .. => true
  | _ => false

lemma isInner_of_isPlain {event : AgentEvent} (h : event.isPlain) : event.isInner := by
  cases event <;> first | rfl | cases h

end AgentEvent

def failure (code message : String) : List AgentEvent :=
  [.error (some code) message false, .sessionFailed message]

def overflowTerminalEvents : List AgentEvent :=
  failure "EVENT_OVERFLOW" "session event buffer overflowed"

/-- `StartSessionOptions`, as far as the model depends on it. -/
structure StartSessionOptions where
  sessionId : String
  cwd : String
  prompt : String
  resumeProviderSessionId : Option String := none
  model : Option String := none

end VacancyRadar.Provider
