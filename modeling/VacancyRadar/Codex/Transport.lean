import VacancyRadar.Codex.Normalizer
import VacancyRadar.Data.Channel

/-!
# The transports of a Codex session

`createCodexTransportWithFallback` tries the app-server first and starts the exec transport when the
app-server failed before any work was handed to it.  Two chains of awaits run next to each other:
the loop that watches the events of the app-server, and the handshake of the app-server itself.
Everything that can happen to the session is an event: the answers of the processes, and the moments
at which the one chain or the other resumes.
-/

namespace VacancyRadar.Codex

open Data Provider

/-! ## What the session depends on -/

structure ProviderStatus where
  executablePath : Option String
  version : Option String
  authenticated : String
  apiKey : Bool

/-- The methods of the frames that are written to the app-server. -/
inductive Outgoing where
  | initializeRequest
  | initialized
  | modelList
  | threadStart
  | threadResume
  | turnStart
  | turnInterrupt
deriving DecidableEq

structure Machine where
  unicode : Unicode
  platform : String
  /-- `findProviderCompatibility` knows the version for the app-server. -/
  compatible : Option String → Bool
  /-- Why the app-server cannot be spawned. -/
  spawnError : Option String
  /-- The frame is at most as long as a frame may be. -/
  fits : Outgoing → Bool

/-! ## The app-server -/

/-- Who waits for the response to a request. -/
inductive Waiter where
  | run
  | cancel
deriving DecidableEq

/-- Where `run` of the app-server transport stands. -/
inductive Phase where
  | initializing
  | initialized
  | modelList
  | thread
  | turn
  | interrupt
  | terminal
  | ended
deriving DecidableEq

def Phase.beforeTurn : Phase → Bool
  | initializing | initialized | modelList | thread => true
  | _ => false

structure Leg where
  events : Channel AgentEvent
  cancelled : Bool := false
  terminalEmitted : Bool := false
  /-- The RPC peer is closed. -/
  fatal : Bool := false
  nextRequestId : ℕ := 1
  pending : List (ℕ × Outgoing × Waiter) := []
  completed : List ℕ := []
  providerSessionId : Option String := none
  threadId : Option String := none
  turnId : Option String := none
  closing : Bool := false
  exited : Bool := false
  /-- The requests and notifications that were written to the process. -/
  written : List Outgoing := []
  phase : Phase := .ended
  /-- What `run` is awaiting has this outcome. -/
  settled : Option (Except String Json) := none
  /-- A `cancel` waits for the end of the turn. -/
  cancelling : Bool := false

namespace Leg

def finish (leg : Leg) (events : List AgentEvent) : Leg :=
  if leg.terminalEmitted then leg
  else { leg with terminalEmitted := true, events := leg.events.closeWith events }

def endRun (leg : Leg) : Leg :=
  { leg with phase := .ended, settled := none, fatal := true, pending := [], closing := true }

/-- The `catch` of `run`, with its `finally`. -/
def crash (leg : Leg) (message : String) : Leg :=
  (leg.finish (failure "ADAPTER_CRASH" message)).endRun

/-- `fail` of the RPC peer: every request that waits is rejected. -/
def fail (leg : Leg) (message : String) : Leg :=
  if leg.fatal then leg
  else
    ({ leg with
        fatal := true
        settled := if leg.pending.any fun p => p.2.2 = .run then some (.error message)
          else leg.settled
        pending := [] } : Leg).finish (failure "PROTOCOL_VIOLATION" message)

inductive Sent where
  /-- It is refused before anybody is told of it. -/
  | refused (message : String)
  /-- It was about to be written, but the process is gone. -/
  | undelivered (message : String)
  | written (leg : Leg)

def request (leg : Leg) (machine : Machine) (method : Outgoing) (waiter : Waiter) : Sent :=
  if leg.fatal then .refused "app-server RPC is closed"
  else if machine.fits method = false then .refused "Outgoing RPC frame exceeded 1 MiB"
  else if leg.closing ∨ leg.exited then .undelivered "app-server stdin is closed"
  else .written
    { leg with
      nextRequestId := leg.nextRequestId + 1
      pending := leg.pending ++ [(leg.nextRequestId, method, waiter)]
      written := leg.written ++ [method] }

def runRequest (leg : Leg) (machine : Machine) (method : Outgoing) (phase : Phase) : Leg :=
  match leg.request machine method .run with
  | .refused message | .undelivered message => leg.crash message
  | .written next => { next with phase, settled := none }

def onNotification (leg : Leg) (machine : Machine) (method : NotificationMethod)
    (params : Option Json) : Leg :=
  if leg.terminalEmitted then leg
  else
    match normalize machine.unicode leg.providerSessionId method params with
    | .error message => leg.finish (failure "PROTOCOL_VIOLATION" message)
    | .ok (providerSessionId, events) =>
      let deliverable := events.takeWhile fun event => !event.isTerminal
      let rest := events.dropWhile fun event => !event.isTerminal
      let leg := { leg with providerSessionId }
      match leg.events.pushAll deliverable with
      | (channel, true) =>
        let leg := { leg with events := channel }
        if rest = [] then leg else leg.finish rest
      | (channel, false) => { leg with events := channel }.finish overflowTerminalEvents

inductive Frame where
  | malformed (message : String)
  | response (id : ℕ) (result : Except String Json)
  | notification (method : Option NotificationMethod) (params : Option Json)
  | request (allowed : Bool)

def handleFrame (leg : Leg) (machine : Machine) : Frame → Leg
  | .malformed message => leg.fail message
  | .notification none _ => leg.fail "Unsupported Codex server notification"
  | .notification (some method) params => leg.onNotification machine method params
  | .request allowed => if allowed then leg else leg.fail "Unsupported Codex server request"
  | .response id result =>
    match leg.pending.find? fun p => p.1 = id with
    | none => leg.fail "Codex app-server returned an unknown response id"
    | some (_, _, waiter) =>
      { leg with
        pending := leg.pending.filter fun p => p.1 != id
        completed := leg.completed ++ [id]
        settled := match waiter with
          | .run => some result
          | .cancel => leg.settled }

def cancel (leg : Leg) (machine : Machine) : Leg :=
  let leg := { leg with cancelled := true }
  if leg.terminalEmitted then { leg with closing := true }
  else
    let asked :=
      if leg.threadId.isSome ∧ leg.turnId.isSome then
        match leg.request machine .turnInterrupt .cancel with
        | .written next => next
        | _ => leg
      else leg
    { asked with cancelling := true }

/-- The rest of `cancel`, after the turn ended or the time was over. -/
def cancelDue (leg : Leg) : Leg :=
  if leg.cancelling then
    { leg.finish [.sessionCancelled] with cancelling := false, closing := true }
  else leg

/-- `onFailure`, which the process reports unless it is being closed. -/
def processFailed (leg : Leg) (message : String) (gone : Bool) : Leg :=
  let leg := { leg with exited := leg.exited || gone }
  if leg.closing then leg
  else (leg.finish (failure "PROCESS_FAILED" message)).fail message

def writeFailed (leg : Leg) (message : String) : Leg :=
  if leg.phase = .terminal ∨ leg.phase = .ended then leg
  else
    { leg with
      pending := leg.pending.filter fun p => p.2.2 != .run
      settled := some (.error message) }

end Leg

/-! ## The session -/

/-- The handle that `cancel` is passed on to. -/
inductive Active where
  | appServer
  | exec

/-- Where `run` of the session stands. -/
inductive Stage where
  | detecting
  | watching
  | piping
  | done
deriving DecidableEq

/-- `createCodexTransportWithFallback`. -/
structure Session where
  stage : Stage := .detecting
  cancelled : Bool := false
  active : Option Active := none
  status : Option ProviderStatus := none
  leg : Option Leg := none
  /-- The prompt was about to be written to the app-server. -/
  promptDelivered : Bool := false
  committed : Bool := false
  buffered : List AgentEvent := []
  out : Channel AgentEvent := {}
  /-- How often the fallback was used. -/
  consumed : ℕ := 0
  /-- How many exec transports were started. -/
  execs : ℕ := 0
  execCancelled : Bool := false

/-- `FrozenLaunchScope`, without the transport. -/
structure LaunchScope where
  cwd : String
  executablePath : Option String
  providerVersion : Option String
  authenticated : String
  model : Option String
  platform : String
deriving DecidableEq

def freezeLaunchScope (machine : Machine) (options : StartSessionOptions)
    (status : ProviderStatus) : LaunchScope where
  cwd := options.cwd
  executablePath := status.executablePath
  providerVersion := status.version
  authenticated := status.authenticated
  model := options.model
  platform := machine.platform

/-- What `FallbackGate.authorize` is asked. -/
structure AuthorizeInput where
  candidate : LaunchScope
  notAccepted : Bool
  notDelivered : Bool
  alternateTransportIds : List String
  terminal : Bool

/-- `FallbackGate.authorize`: whether the fallback is allowed. -/
def authorize (primary : LaunchScope) (consumed : ℕ) (input : AuthorizeInput) : Bool :=
  if input.alternateTransportIds = [] then false
  else if input.terminal then false
  else if consumed ≠ 0 then false
  else if input.notDelivered = false then false
  else if input.notAccepted = false then false
  else decide (primary = input.candidate)

namespace Session

variable (machine : Machine) (options : StartSessionOptions)

def startExec (s : Session) : Session :=
  { s with
    stage := .piping
    active := some .exec
    execs := s.execs + 1
    execCancelled := s.execCancelled || s.cancelled }

def closeWithOverflow (s : Session) : Session :=
  { s with stage := .done, out := s.out.closeWith overflowTerminalEvents }

def flushAndClose (s : Session) (events : List AgentEvent) : Session :=
  match s.out.pushAll events with
  | (out, true) => { s with stage := .done, out := out.close }
  | (out, false) => { s with out }.closeWithOverflow

def startLeg (s : Session) (status : ProviderStatus) : Session :=
  let leg : Leg := { events := { queue := [.sessionStarted options.sessionId "codex"] } }
  let leg := match machine.spawnError with
    | some message => leg.finish (failure "ADAPTER_CRASH" message)
    | none => leg.runRequest machine .initializeRequest .initializing
  let leg := if s.cancelled then leg.cancel machine else leg
  { s with stage := .watching, active := some .appServer, status := some status, leg := some leg }

/-- `run`, after the detection. -/
def detected (s : Session) : Except String ProviderStatus → Session
  | .error _ => s.startExec
  | .ok status =>
    if s.cancelled then { s with stage := .done, out := s.out.closeWith [.sessionCancelled] }
    else if status.apiKey then s.startExec
    else if status.executablePath.isNone then s.startExec
    else if machine.compatible status.version = false then s.startExec
    else s.startLeg machine options status

/-- The fallback decision about a failure that comes before any work was handed over. -/
def mayFallBack (s : Session) : Bool :=
  match s.status with
  | none => false
  | some status =>
    let scope := freezeLaunchScope machine options status
    authorize scope s.consumed
      { candidate := scope, notAccepted := true, notDelivered := true
        alternateTransportIds := ["legacy-one-shot"], terminal := s.cancelled }

def watch (s : Session) (event : AgentEvent) : Session :=
  if s.committed then
    match s.out.push event with
    | some out => { s with out }
    | none => s.closeWithOverflow
  else if s.promptDelivered then
    match s.out.pushAll (s.buffered ++ [event]) with
    | (out, true) => { s with committed := true, buffered := [], out }
    | (out, false) => { s with committed := true, out }.closeWithOverflow
  else
    let s := { s with buffered := s.buffered ++ [event] }
    if event.isTerminal = false then s
    else if event.isFailure ∧ s.mayFallBack machine options then
      { s with consumed := s.consumed + 1 }.startExec
    else s.flushAndClose s.buffered

/-- The loop over the events of the app-server resumes. -/
def consume (s : Session) (leg : Leg) : Session :=
  let s' := { s with leg := some { leg with events := leg.events.next.1 } }
  match leg.events.next.2 with
  | some event => s'.watch machine options event
  | none =>
    if leg.events.closed then
      if s.committed then { s' with stage := .done, out := s.out.close }
      else s'.flushAndClose s.buffered
    else s'

/-- The turn is started: `onPromptDelivered` is called right before the write. -/
def startTurn (s : Session) (leg : Leg) : Session :=
  match leg.request machine .turnStart .run with
  | .refused message => { s with leg := some (leg.crash message) }
  | .undelivered message =>
    { s with leg := some (leg.crash message), promptDelivered := true }
  | .written next =>
    { s with leg := some { next with phase := .turn, settled := none }, promptDelivered := true }

def resumeWith (s : Session) (leg : Leg) (result : Json) : Session :=
  match leg.phase with
  | .initializing =>
    -- `notify` is written like a request, but there is no response to wait for.
    if leg.fatal then { s with leg := some (leg.crash "app-server RPC is closed") }
    else if leg.closing ∨ leg.exited then
      { s with leg := some (leg.crash "app-server stdin is closed") }
    else
      let sent : Leg :=
        { leg with
          written := leg.written ++ [.initialized], phase := .initialized
          settled := some (.ok .null) }
      { s with leg := some sent }
  | .initialized => { s with leg := some (leg.runRequest machine .modelList .modelList) }
  | .modelList =>
    match (parseCodexModelCatalog machine.unicode result).bind fun catalog =>
        resolveCodexSelectedModel catalog options.model with
    | .error message => { s with leg := some (leg.crash message) }
    | .ok _ =>
      if leg.cancelled then { s with leg := some (leg.finish [.sessionCancelled]).endRun }
      else
        let method := if options.resumeProviderSessionId.isSome then .threadResume else .threadStart
        { s with leg := some (leg.runRequest machine method .thread) }
  | .thread =>
    match extractThreadId result with
    | .error message => { s with leg := some (leg.crash message) }
    | .ok id =>
      let leg := { leg with threadId := some id, providerSessionId := some id }
      if leg.cancelled then { s with leg := some (leg.finish [.sessionCancelled]).endRun }
      else s.startTurn machine leg
  | .turn =>
    match extractTurnId result with
    | .error message => { s with leg := some (leg.crash message) }
    | .ok id =>
      let leg := { leg with turnId := some id, settled := none }
      if leg.cancelled then
        match leg.request machine .turnInterrupt .run with
        | .written next => { s with leg := some { next with phase := .interrupt } }
        | _ => { s with leg := some { leg with phase := .terminal } }
      else { s with leg := some { leg with phase := .terminal } }
  | .interrupt => { s with leg := some { leg with phase := .terminal, settled := none } }
  | .terminal | .ended => s

/-- `run` of the app-server transport resumes, if what it awaits is there. -/
def resume (s : Session) (leg : Leg) : Session :=
  if leg.phase = .terminal ∧ leg.terminalEmitted then { s with leg := some leg.endRun }
  else
    match leg.settled with
    | none => s
    | some (.error message) =>
      if leg.phase = .interrupt then
        { s with leg := some { leg with phase := .terminal, settled := none } }
      else { s with leg := some (leg.crash message) }
    | some (.ok result) => s.resumeWith machine options leg result

/-- What can happen to a session. -/
inductive Event where
  | detected (result : Except String ProviderStatus)
  /-- A frame of the app-server is handled. -/
  | frame (frame : Leg.Frame)
  /-- The output of the app-server ends, possibly within a frame. -/
  | stdoutEnded (incomplete : Bool)
  | processFailed (message : String) (gone : Bool)
  | writeFailed (message : String)
  /-- The handshake resumes. -/
  | resume
  /-- The loop over the events of the app-server resumes. -/
  | consume
  | execEvent (event : AgentEvent)
  | execEnded
  | cancel
  | cancelDue

/-- Change the app-server transport. -/
def onLeg (s : Session) (f : Leg → Leg) : Session := { s with leg := s.leg.map f }

/-- What happens at an event.  An event that is not possible changes nothing. -/
def step (s : Session) : Event → Session
  | .detected result => if s.stage = .detecting then s.detected machine options result else s
  | .frame frame =>
    s.onLeg fun leg => if leg.fatal then leg else leg.handleFrame machine frame
  | .stdoutEnded incomplete =>
    s.onLeg fun leg =>
      if incomplete then leg.fail "Codex app-server ended with an incomplete JSON line" else leg
  | .processFailed message gone => s.onLeg fun leg => leg.processFailed message gone
  | .writeFailed message => s.onLeg fun leg => leg.writeFailed message
  | .resume =>
    match s.leg with
    | some leg => s.resume machine options leg
    | none => s
  | .consume =>
    match s.leg with
    | some leg => if s.stage = .watching then s.consume machine options leg else s
    | none => s
  | .execEvent event =>
    if s.stage = .piping then
      match s.out.push event with
      | some out => { s with out }
      | none => s.closeWithOverflow
    else s
  | .execEnded => if s.stage = .piping then { s with stage := .done, out := s.out.close } else s
  | .cancel =>
    let s := { s with cancelled := true }
    match s.active with
    | none => s
    | some .appServer => s.onLeg fun leg => leg.cancel machine
    | some .exec => { s with execCancelled := true }
  | .cancelDue => s.onLeg Leg.cancelDue

def run (s : Session) (events : List Event) : Session := events.foldl (step machine options) s

/-- How often the prompt was handed over: to the app-server, or to an exec transport. -/
def prompts (s : Session) : ℕ :=
  s.execs + (s.leg.map fun leg => leg.written.count .turnStart).getD 0

end Session

end VacancyRadar.Codex
