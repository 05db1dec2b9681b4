import VacancyRadar.Sessions.Store

/-!
# The daemon and its store

`SessionManager` gives every event of a session the next number, and passes it on to the store.  The
daemon may be killed within an operation, and within the startup as well; the next one finds what is
on the disk.  A write to an event log may also fail; the manager goes on after that.
-/

namespace VacancyRadar.Sessions

open Data

variable {Content : Type}

/-! ## What the manager does -/

structure AgentEvent (Content : Type) where
  type : AgentEventType
  content : Content
  timestamp : ℕ
  providerSessionId : Option String := none

/-- The calls of the manager. -/
inductive Op (Content : Type) where
  /-- `create`.  If the provider does not start, the session is over at once. -/
  | create (new : Job.NewSession) (launches : Bool) (now : ℕ)
  /-- `persistEvent`, with the frames that were not understood. -/
  | event (id : ℕ) (event : AgentEvent Content) (frames : List UnknownFrame) (now : ℕ)
      (fault : Option ℕ)
  /-- The work was accepted by the provider. -/
  | accepted (id : ℕ)
  /-- `refineLaunchScope`. -/
  | refine (id : ℕ) (scope : LaunchScope)
  /-- The events of a session end without a terminal one. -/
  | streamFailed (id : ℕ)

/-- A daemon that is running: the store, and the number of the next event for every session whose
events are being consumed. -/
structure Up where
  store : Store
  live : List (ℕ × ℕ) := []

def durableTerminal (type : AgentEventType) : Option (SessionStatus × TerminalReason) :=
  type.terminalType.map TerminalLogType.outcome

def AgentEvent.record (event : AgentEvent Content) (sequence : ℕ) : EventRecord Content where
  sequence
  timestamp := event.timestamp
  body := .agent event.type event.content

def AgentEvent.providerId (event : AgentEvent Content) : Option String :=
  if event.type = .sessionStarted ∨ event.type = .sessionCompleted then
    event.providerSessionId.filter (· ≠ "")
  else none

variable (format : Format Content) (policy : RetentionPolicy)

def Store.throws (store : Store) (id : ℕ) (fault : Option ℕ) : Bool :=
  fault.isSome && (store.locate id).any fun p => p.2.lines < maxPersistedEventsPerSession

def Job.persistEvent (id sequence : ℕ) (event : AgentEvent Content) (frames : List UnknownFrame)
    (now : ℕ) (fault : Option ℕ) (j : Job) : Job :=
  let appended := j.appendEvent format id (event.record sequence) fault
  if j.store.throws id fault then appended
  else
    let named := match event.providerId with
      | some providerSessionId => appended.setProviderSessionId format id providerSessionId
      | none => appended
    match durableTerminal event.type with
    | none => named
    | some (status, reason) =>
      let noted := if frames = [] then named else named.setUnknownFrames format id frames
      noted.finalize format now id status reason

def Op.job (op : Op Content) (up : Up) (disk : Disk) : Job :=
  let j : Job := { store := up.store, disk }
  match op with
  | create new launches now =>
    match j.create format policy now new with
    | (j, false) => j
    | (j, true) => if launches then j else j.finalize format now new.id .failed .launchFailed
  | event id e frames now fault =>
    match up.live.lookup id with
    | none => j
    | some sequence => j.persistEvent format id sequence e frames now fault
  | accepted id => j.markAcceptedWork format id
  | refine id scope => j.setScope format id scope
  | streamFailed _ => j

/-- The sessions whose events are consumed after an operation. -/
def Op.live (op : Op Content) (up : Up) (disk : Disk) : List (ℕ × ℕ) :=
  match op with
  | create new launches now =>
    let j : Job := { store := up.store, disk }
    if launches ∧ (j.create format policy now new).2 then (new.id, 0) :: up.live else up.live
  | event id e _ _ _ =>
    match up.live.lookup id with
    | none => up.live
    | some sequence =>
      let others := up.live.filter fun p => p.1 ≠ id
      if e.type.terminalType.isSome then others else (id, sequence + 1) :: others
  | streamFailed id => up.live.filter fun p => p.1 ≠ id
  | accepted _ | refine _ _ => up.live

/-! ## Runs -/

/-- The daemon.  The ids that were given out, and the events whose append returned, are remembered
for the statements. -/
structure Daemon (Content : Type) where
  disk : Disk := {}
  up : Option Up := none
  used : List ℕ := []
  acked : List (ℕ × EventRecord Content) := []

def Disk.tear (tears : ℕ → ℕ) (d : Disk) : Disk :=
  let tearDir := fun dir : LineageDir =>
    { dir with
      sessions := dir.sessions.map fun s =>
        { s with log := format.code.tear (tears s.record.id) s.log } }
  { d with lineages := d.lineages.map tearDir, trash := d.trash.map tearDir }

/-- What can happen to the daemon. -/
inductive Move (Content : Type) where
  | op (op : Op Content)
  /-- The process is killed within an operation. -/
  | kill (op : Op Content) (k cut : ℕ) (tears : ℕ → ℕ)
  | start (now : ℕ)
  /-- The process is killed within its startup. -/
  | killStart (now k cut : ℕ) (tears : ℕ → ℕ)

def Op.fresh (used : List ℕ) : Op Content → Bool
  | create new _ _ => new.id ∉ used
  | _ => true

def Op.ids : Op Content → List ℕ
  | create new _ _ => [new.id]
  | _ => []

def Op.acks (op : Op Content) (up : Up) : List (ℕ × EventRecord Content) :=
  match op with
  | event id e _ _ fault =>
    match up.live.lookup id with
    | none => []
    | some sequence => if up.store.throws id fault then [] else [(id, e.record sequence)]
  | _ => []

namespace Daemon

def step (d : Daemon Content) : Move Content → Daemon Content
  | .op op =>
    match d.up with
    | none => d
    | some up =>
      if op.fresh d.used then
        let j := op.job format policy up d.disk
        { disk := j.disk, up := some { store := j.store, live := op.live format policy up d.disk }
          used := op.ids ++ d.used, acked := d.acked ++ op.acks up }
      else d
  | .kill op k cut tears =>
    match d.up with
    | none => d
    | some up =>
      if op.fresh d.used then
        let j := op.job format policy up d.disk
        { d with
          disk := (kill j.effects k cut d.disk).tear format tears, up := none
          used := op.ids ++ d.used }
      else d
  | .start now =>
    match d.up with
    | some _ => d
    | none =>
      let j := Job.construct format policy now d.disk
      { d with disk := j.disk, up := some { store := j.store } }
  | .killStart now k cut tears =>
    match d.up with
    | some _ => d
    | none =>
      let j := Job.construct format policy now d.disk
      { d with disk := (kill j.effects k cut d.disk).tear format tears }

def run (moves : List (Move Content)) : Daemon Content :=
  moves.foldl (step format policy) {}

end Daemon

end VacancyRadar.Sessions
