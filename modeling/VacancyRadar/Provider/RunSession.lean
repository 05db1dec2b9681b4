import VacancyRadar.Data.Channel
import VacancyRadar.Data.Runs
import VacancyRadar.Data.Text
import VacancyRadar.Provider.Parsers

/-!
# The session of a CLI process

`runProviderSession` looks for the executable, spawns it, hands it the prompt, turns its output into
events and ends with what the exit of the process says.  All of this is one chain of awaits that
pushes into a channel; next to it the consumer reads the channel, and a cancellation may come at any
moment.  An event of the model is the answer to an await, a cancellation, or a read of the consumer;
what the code does without an await is one step.
-/

namespace VacancyRadar.Provider

open Data

/-- `ProviderRunConfig`.  A parser leaves the first and the last event of a session to the session. -/
structure ProviderRunConfig where
  providerId : String
  executableNames : List String
  buildArgs : StartSessionOptions → Except String (List String)
  parseLine : Json → Except String ParsedLine
  describeFailure : Option (String → Option ℤ → Option String → String) := none
  promptViaStdin : Bool := false
  buildStdinPayload : Option (StartSessionOptions → Except String String) := none
  inner : ∀ raw parsed, parseLine raw = .ok parsed → parsed.Inner

/-- The configuration of `CodexProvider`. -/
def codexConfig (numberText : Number → String)
    (buildCodexArgs : StartSessionOptions → Except String (List String)) : ProviderRunConfig where
  providerId := "codex"
  executableNames := ["codex"]
  buildArgs := buildCodexArgs
  parseLine := parseCodexLine numberText
  promptViaStdin := true
  inner _ _ h := inner_parseCodexLine h

/-- The configuration of `ClaudeProvider`. -/
def claudeConfig (numberText : Number → String)
    (buildClaudeArgs : StartSessionOptions → Except String (List String))
    (buildClaudeStdinPayload : StartSessionOptions → Except String String) : ProviderRunConfig where
  providerId := "claude"
  executableNames := ["claude"]
  buildArgs := buildClaudeArgs
  parseLine := parseClaudeLine numberText
  promptViaStdin := true
  buildStdinPayload := some buildClaudeStdinPayload
  inner _ _ h := inner_parseClaudeLine h

structure Launch where
  config : ProviderRunConfig
  options : StartSessionOptions
  parse : String → Option Json

/-- What `run` waits for. -/
inductive Stage where
  /-- For the executable to be found. -/
  | locating
  /-- For the next line of the output. -/
  | reading
  /-- For the reader to be closed, with the error that made it so unless the channel is full. -/
  | closing (error : Option String)
  /-- For the process tree to be killed. -/
  | killing
  /-- For the process to exit. -/
  | exiting
  | done
deriving DecidableEq

inductive Notice where
  | spawnAttempt (viaStdin : Bool)
  | spawnFailed
  | promptDelivered

structure Session where
  channel : Channel AgentEvent := {}
  stage : Stage := .locating
  cancelled : Bool := false
  /-- The process was created. -/
  spawned : Bool := false
  /-- The prompt went to the process. -/
  handedOver : Bool := false
  providerSessionId : Option String := none
  stderrText : String := ""
  stderrBytes : ℕ := 0
  /-- What the consumer has seen. -/
  seen : List AgentEvent := []

/-- What may happen to a session. -/
inductive Event where
  /-- The search for the executable ends; `spawn` is what becomes of an attempt to spawn it. -/
  | located (exePath : Except String (Option String)) (spawn : Except String Unit)
  | line (text : String)
  | endOfOutput
  /-- The output cannot be read, or a line is too long. -/
  | readFailed (message : String)
  | readerClosed (error : Option String)
  | stderr (text : String) (bytes : ℕ)
  | killed
  | exited (code : Option ℤ) (signal : Option String)
  | cancel
  /-- The consumer asks for the next event. -/
  | next

namespace Session

/-- `closeWith`, after which `run` returns. -/
def finish (s : Session) (events : List AgentEvent) : Session :=
  { s with channel := s.channel.closeWith events, stage := .done }

/-- The `catch` of `run`. -/
def crash (s : Session) : Session := s.finish (failure "ADAPTER_CRASH" "internal adapter error")

/-- `push`, when nothing depends on whether the event is dropped. -/
def offer (s : Session) (event : AgentEvent) : Session :=
  { s with channel := (s.channel.push event).getD s.channel }

end Session

namespace Launch

def started (launch : Launch) : AgentEvent :=
  .sessionStarted launch.options.sessionId launch.config.providerId

/-- `run` up to its first await: `cwd` tells whether the working directory is one. -/
def start (launch : Launch) (cwd : Except String Bool) : Session :=
  match ({} : Channel AgentEvent).push launch.started with
  | none => ({} : Session).finish overflowTerminalEvents
  | some channel =>
    let s : Session := { channel }
    match cwd with
    | .ok true => s
    | .ok false =>
      s.finish [.error (some "INVALID_CWD")
          ("working directory does not exist: " ++ launch.options.cwd) false,
        .sessionFailed "invalid working directory"]
    | .error _ => s.crash

def deliver (launch : Launch) (s : Session) : Session × List Notice :=
  let s := { s with spawned := true }
  if launch.config.promptViaStdin then
    match launch.config.buildStdinPayload.elim (.ok launch.options.prompt) (· launch.options) with
    | .error _ => (s.crash, [])
    | .ok _ => ({ s with stage := .reading, handedOver := true }, [.promptDelivered])
  else ({ s with stage := .reading, handedOver := true }, [])

def spawn (launch : Launch) (spawn : Except String Unit) (s : Session) : Session × List Notice :=
  match launch.config.buildArgs launch.options with
  | .error _ => (s.crash, [])
  | .ok _ =>
    let attempt := Notice.spawnAttempt launch.config.promptViaStdin
    match spawn with
    | .error _ => (s.crash, [attempt, .spawnFailed])
    | .ok () => ((launch.deliver s).1, attempt :: (launch.deliver s).2)

/-- What follows the search for the executable. -/
def located (launch : Launch) (exePath : Except String (Option String)) (spawn : Except String Unit)
    (s : Session) : Session × List Notice :=
  match exePath with
  | .error _ => (s.crash, [])
  | .ok exePath =>
    if exePath.getD "" = "" then
      (s.finish [.error (some "PROVIDER_NOT_INSTALLED")
          (launch.config.executableNames.headD "undefined" ++
            " executable not found on this machine") false,
        .sessionFailed "provider executable not found"], [])
    else if s.cancelled then (s.finish [.sessionCancelled], [])
    else launch.spawn spawn s

def readError (launch : Launch) (message : String) : AgentEvent :=
  .error (some "STREAM_READ_FAILED")
    ("failed reading " ++ launch.config.providerId ++ " output: " ++ message) false

def onLine (launch : Launch) (text : String) (s : Session) : Session :=
  match launch.parse text with
  | none => s
  | some raw =>
    match launch.config.parseLine raw with
    | .error message => { s with stage := .closing (some message) }
    | .ok parsed =>
      let id := (parsed.providerSessionId.filter (· ≠ "")).or s.providerSessionId
      let pushed := s.channel.pushAll parsed.events
      { s with
        channel := pushed.1
        providerSessionId := id
        stage := if pushed.2 then s.stage else .closing none }

def defaultFailureMessage (providerId stderr : String) (code : Option ℤ) (signal : Option String) :
    String :=
  let reason := (signal.filter (· ≠ "")).elim "" fun signal => " (signal " ++ signal ++ ")"
  let base := providerId ++ " exited with code " ++ code.elim "null" toString ++ reason
  let snippet := sliceUnits (trim stderr) 500
  if snippet = "" then base else base ++ ": " ++ snippet

def exited (launch : Launch) (code : Option ℤ) (signal : Option String) (s : Session) : Session :=
  if s.cancelled then s.finish [.sessionCancelled]
  else if code = some 0 then s.finish [.sessionCompleted s.providerSessionId]
  else
    let describe := launch.config.describeFailure.getD
      (defaultFailureMessage launch.config.providerId)
    s.finish (failure "PROCESS_EXIT" (describe s.stderrText code signal))

def react (launch : Launch) (s : Session) : Event → Option (Session × List Notice)
  | .located exePath spawn =>
    if s.stage = .locating then some (launch.located exePath spawn s) else none
  | .line text => if s.stage = .reading then some (launch.onLine text s, []) else none
  | .endOfOutput => if s.stage = .reading then some ({ s with stage := .exiting }, []) else none
  | .readFailed message =>
    if s.stage = .reading then
      some ({ s.offer (launch.readError message) with stage := .exiting }, [])
    else none
  | .readerClosed error =>
    match s.stage with
    | .closing (some message) =>
      some ({ s.offer (launch.readError message) with stage := .exiting }, [])
    | .closing none =>
      some ({ error.elim s fun message => s.offer (launch.readError message) with
        stage := .killing }, [])
    | _ => none
  | .stderr text bytes =>
    if s.spawned then
      some (if s.stderrBytes < 200000 then
        { s with stderrText := s.stderrText ++ text, stderrBytes := s.stderrBytes + bytes } else s, [])
    else none
  | .killed => if s.stage = .killing then some (s.finish overflowTerminalEvents, []) else none
  | .exited code signal =>
    if s.stage = .exiting then some (launch.exited code signal s, []) else none
  | .cancel => some ({ s with cancelled := true }, [])
  | .next =>
    some ({ s with channel := s.channel.next.1, seen := s.seen ++ s.channel.next.2.toList }, [])

def step (launch : Launch) (s : Session) (event : Event) : Option Session :=
  (launch.react s event).map Prod.fst

end Launch

end VacancyRadar.Provider
