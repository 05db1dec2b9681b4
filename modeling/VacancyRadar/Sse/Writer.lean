import VacancyRadar.Sessions.Disk

/-!
# The bounded writer

`BoundedSseWriter` sends frames to one subscriber.  While the output is full it keeps the frames in a
queue, and it ends the connection when the queue would grow too long.  Every write to the output may
say that the output is full, may throw, and may close the connection while it runs.
-/

namespace VacancyRadar.Sse

open Sessions (AgentEventType)

/-- `AgentEventEnvelope`: the number and the type of an event, and what else it says. -/
structure Envelope (Content : Type) where
  sequence : ℕ
  type : AgentEventType
  content : Content

def typeName : AgentEventType → String
  | .sessionStarted => "session.started"
  | .status => "status"
  | .assistantMessage => "assistant.message"
  | .thinkingDelta => "thinking.delta"
  | .toolStarted => "tool.started"
  | .toolCompleted => "tool.completed"
  | .usage => "usage"
  | .usageRateLimits => "usage.rate_limits"
  | .error => "error"
  | .sessionCompleted => "session.completed"
  | .sessionFailed => "session.failed"
  | .sessionCancelled => "session.cancelled"

def isTerminal : AgentEventType → Bool
  | .sessionCompleted | .sessionFailed | .sessionCancelled => true
  | _ => false

inductive DataError where
  | malformed
  | mismatch

/-- `JSON.stringify` of an event, and `JSON.parse` with `agentEventEnvelopeSchema`. -/
structure Wire (Content : Type) where
  stringify : Envelope Content → List Char
  parse : List Char → Except DataError (Envelope Content)
  parse_stringify : ∀ e, parse (stringify e) = .ok e
  newline_notMem : ∀ e, '\n' ∉ stringify e

def utf8 (text : List Char) : List UInt8 := text.flatMap String.utf8EncodeChar

def utf8ByteLength (text : List Char) : ℕ := (utf8 text).length

variable {Content : Type}

def rawFrame (wire : Wire Content) (event : Envelope Content) : List Char :=
  "id: ".toList ++ (toString event.sequence).toList ++ '\n' ::
    ("event: ".toList ++ (typeName event.type).toList ++ '\n' ::
      ("data: ".toList ++ wire.stringify event))

def eventFrame (wire : Wire Content) (event : Envelope Content) : List Char :=
  rawFrame wire event ++ ['\n', '\n']

@[simp]
lemma utf8_nil : utf8 [] = [] := rfl

@[simp]
lemma utf8_append (text text' : List Char) : utf8 (text ++ text') = utf8 text ++ utf8 text' :=
  List.flatMap_append

@[simp]
lemma utf8ByteLength_append (text text' : List Char) :
    utf8ByteLength (text ++ text') = utf8ByteLength text + utf8ByteLength text' := by
  rw [utf8ByteLength, utf8_append, List.length_append]
  rfl

/-! ## The writer -/

def maxQueuedEvents : ℕ := 256

def maxQueuedBytes : ℕ := 4 * 1024 * 1024

structure QueuedFrame where
  bytes : ℕ
  frame : List Char
  terminal : Bool
deriving DecidableEq

def queuedFrame (wire : Wire Content) (event : Envelope Content) : QueuedFrame :=
  { bytes := utf8ByteLength (eventFrame wire event)
    frame := eventFrame wire event
    terminal := isTerminal event.type }

inductive WriteResult where
  | ready
  | full
  | throws
deriving DecidableEq

/-- `SseOutput`: the result of every write, whether the connection is closed during it, whether the
call of `once` after so many writes throws, and whether the listener can be removed. -/
structure Output where
  write : ℕ → WriteResult
  closing : ℕ → Bool := fun _ => false
  onceThrows : ℕ → Bool := fun _ => false
  off : Bool := true

inductive Call where
  | comment
  | frame (queued : QueuedFrame)
  | ends
  | onClose
deriving DecidableEq

def Call.isWrite : Call → Bool
  | .comment | .frame _ => true
  | _ => false

def Call.isTerminal : Call → Bool
  | .frame queued => queued.terminal
  | _ => false

/-- The fields of a `BoundedSseWriter`, whether the output has its listener, and the calls it has
made. -/
structure Writer where
  queue : List QueuedFrame := []
  queuedBytes : ℕ := 0
  backpressured : Bool := false
  drainArmed : Bool := false
  terminalReceived : Bool := false
  endAfterDrain : Bool := false
  closed : Bool := false
  listening : Bool := false
  calls : List Call := []

/-- The number of the next write to the output. -/
def Writer.writes (s : Writer) : ℕ := s.calls.countP Call.isWrite

def Writer.finish (output : Output) (s : Writer) : Writer :=
  if s.closed then s
  else
    { s with
      closed := true
      queue := []
      queuedBytes := 0
      drainArmed := false
      listening := if s.drainArmed then s.listening && !output.off else s.listening
      calls := s.calls ++ [.ends, .onClose] }

def Writer.armDrain (output : Output) (s : Writer) : Writer :=
  if s.closed ∨ s.drainArmed then s
  else if output.onceThrows s.writes then { s with drainArmed := true }.finish output
  else { s with drainArmed := true, listening := true }

def Writer.output (output : Output) (s : Writer) (call : Call) : WriteResult × Writer :=
  let result := output.write s.writes
  let closing := output.closing s.writes
  let s := { s with calls := s.calls ++ [call] }
  (result, if closing then s.finish output else s)

def Writer.start (output : Output) (s : Writer) : Writer :=
  if s.closed ∨ s.backpressured then s
  else
    match s.output output .comment with
    | (.ready, s) => s
    | (.full, s) => { s with backpressured := true }.armDrain output
    | (.throws, s) => s.finish output

def Writer.handOff (output : Output) (queued : QueuedFrame) (s : Writer) : Writer :=
  match s.output output (.frame queued) with
  | (.throws, s) => s.finish output
  | (.ready, s) => if queued.terminal then s.finish output else s
  | (.full, s) =>
    { s with backpressured := true, endAfterDrain := queued.terminal }.armDrain output

def Writer.write (output : Output) (wire : Wire Content) (event : Envelope Content) (s : Writer) :
    Writer :=
  if s.closed ∨ s.terminalReceived then s
  else
    let queued := queuedFrame wire event
    let s := { s with terminalReceived := queued.terminal }
    if s.backpressured then
      if maxQueuedEvents ≤ s.queue.length ∨ maxQueuedBytes < s.queuedBytes + queued.bytes then
        { s with queue := [], queuedBytes := 0 }.finish output
      else
        { s with queue := s.queue ++ [queued], queuedBytes := s.queuedBytes + queued.bytes }
    else s.handOff output queued

def Writer.finishReplay (output : Output) (s : Writer) : Writer :=
  if s.terminalReceived then s else s.finish output

def Writer.handOffQueue (output : Output) : List QueuedFrame → Writer → Writer
  | [], s => s
  | queued :: queue, s =>
    if s.closed ∨ s.backpressured then s
    else
      Writer.handOffQueue output queue
        ({ s with queue, queuedBytes := s.queuedBytes - queued.bytes }.handOff output queued)

def Writer.handleDrain (output : Output) (s : Writer) : Writer :=
  let s := { s with drainArmed := false }
  if s.closed then s
  else
    let s := { s with backpressured := false }
    if s.endAfterDrain then s.finish output else Writer.handOffQueue output s.queue s

inductive WriterMove (Content : Type) where
  | start
  | write (event : Envelope Content)
  | drain
  | close
  | finishReplay

def Writer.step (output : Output) (wire : Wire Content) (s : Writer) : WriterMove Content → Writer
  | .start => s.start output
  | .write event => s.write output wire event
  | .drain => if s.listening then { s with listening := false }.handleDrain output else s
  | .close => s.finish output
  | .finishReplay => s.finishReplay output

def Writer.run (output : Output) (wire : Wire Content) (moves : List (WriterMove Content))
    (s : Writer) : Writer :=
  moves.foldl (Writer.step output wire) s

end VacancyRadar.Sse
