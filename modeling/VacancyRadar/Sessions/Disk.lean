import Mathlib.Algebra.GroupWithZero.Nat
import VacancyRadar.Data.Lines

/-!
# The files of the session store

`SessionLineageStore` keeps a directory for every lineage, which is one root session with all
sessions that were resumed from it.  A session has a record, which is replaced as a whole, and an
event log, to which lines are appended.  What the store does to the disk is a list of effects, and
the process may be killed between any two of them or within one.
-/

namespace VacancyRadar.Sessions

open Data

/-! ## Records and events -/

/-- `SessionStatusV2`. -/
inductive SessionStatus where
  | starting
  | running
  | completed
  | failed
  | cancelled
  | interrupted

def SessionStatus.isTerminal : SessionStatus → Bool
  | starting | running => false
  | _ => true

/-- `TerminalReasonV2`. -/
inductive TerminalReason where
  | providerCompleted
  | providerError
  | cancelledByClient
  | launchFailed
  | daemonRestart

/-- `PersistedAcceptedWork`. -/
inductive AcceptedWork where
  | unknown
  | accepted
deriving DecidableEq

/-- `PersistedLaunchScope`. -/
structure LaunchScope where
  executablePath : Option String := none
  providerVersion : Option String := none
  authenticated : String
  platform : String

/-- `NormalizedUnknownFrame`. -/
structure UnknownFrame where
  kind : String
  eventType : Option String
  bytes : ℕ
  sha256 : String
  boundsViolation : Option String
  occurrences : ℕ
  firstSeenAtMs : ℕ
  lastSeenAtMs : ℕ

/-- `PersistedSessionRecordV1`. -/
structure SessionRecord where
  id : ℕ
  status : SessionStatus
  terminalReason : Option TerminalReason := none
  providerSessionId : Option String := none
  startedAt : ℕ
  completedAt : Option ℕ := none
  acceptedWork : AcceptedWork
  rootSessionId : ℕ
  parentSessionId : Option ℕ
  earliestSequence : ℕ := 0
  eventCount : ℕ := 0
  eventsTruncated : Bool := false
  scope : LaunchScope
  unknownFrames : List UnknownFrame := []

inductive TerminalLogType where
  | completed
  | failed
  | cancelled
  | interrupted

def TerminalLogType.outcome : TerminalLogType → SessionStatus × TerminalReason
  | completed => (.completed, .providerCompleted)
  | failed => (.failed, .providerError)
  | cancelled => (.cancelled, .cancelledByClient)
  | interrupted => (.interrupted, .daemonRestart)

inductive AgentEventType where
  | sessionStarted
  | status
  | assistantMessage
  | thinkingDelta
  | toolStarted
  | toolCompleted
  | usage
  | usageRateLimits
  | error
  | sessionCompleted
  | sessionFailed
  | sessionCancelled
deriving DecidableEq

inductive EventBody (Content : Type) where
  | agent (type : AgentEventType) (content : Content)
  | interrupted
deriving DecidableEq

/-- `PersistedEventRecordV1`. -/
structure EventRecord (Content : Type) where
  sequence : ℕ
  timestamp : ℕ
  body : EventBody Content

/-- `isTerminalLogType`. -/
def AgentEventType.terminalType : AgentEventType → Option TerminalLogType
  | sessionCompleted => some .completed
  | sessionFailed => some .failed
  | sessionCancelled => some .cancelled
  | _ => none

variable {Content : Type}

/-- `isTerminalLogType`. -/
def EventRecord.terminalType (event : EventRecord Content) : Option TerminalLogType :=
  match event.body with
  | .agent type _ => type.terminalType
  | .interrupted => some .interrupted

def interruptedEventRecord (sequence timestamp : ℕ) : EventRecord Content where
  sequence
  timestamp
  body := .interrupted

structure Format (Content : Type) where
  code : LineCode UInt8 (EventRecord Content)
  size : SessionRecord → ℕ

/-! ## The disk -/

structure SessionFiles where
  record : SessionRecord
  log : List UInt8 := []

/-- `lineages/<rootSessionId>`. -/
structure LineageDir where
  root : ℕ
  sessions : List SessionFiles := []

/-- Why a lineage is evicted. -/
inductive EvictionReason where
  | retentionAge
  | quotaRecords
  | quotaBytes

structure Tombstone where
  rootSessionId : ℕ
  evictedAt : ℕ
  reason : EvictionReason
  sessionIds : List ℕ
  records : ℕ
  bytes : ℕ

inductive Quarantined where
  | strayTemp
  | corruptManifest
  | eventTail (sessionId : ℕ) (text : List UInt8)
  | emptyLineage (dir : LineageDir)
  | unrestorableEviction (dir : LineageDir)

/-- The directory of the store. -/
structure Disk where
  /-- The version in the manifest. -/
  manifest : Option ℕ := none
  lineages : List LineageDir := []
  tombstones : List Tombstone := []
  trash : List LineageDir := []
  quarantine : List Quarantined := []
  /-- Temporary files that were left beside the files they should have replaced. -/
  temps : ℕ := 0

def persistedSchemaVersion : ℕ := 2

def readableSchemaVersions : List ℕ := [1, 2]

def LineageDir.modify (dir : LineageDir) (id : ℕ) (f : SessionFiles → SessionFiles) : LineageDir :=
  { dir with sessions := dir.sessions.map fun s => if s.record.id = id then f s else s }

def LineageDir.put (dir : LineageDir) (record : SessionRecord) : LineageDir :=
  if dir.sessions.any fun s => s.record.id = record.id then
    dir.modify record.id fun s => { s with record }
  else { dir with sessions := dir.sessions ++ [{ record }] }

namespace Disk

def modifyDir (d : Disk) (root : ℕ) (f : LineageDir → LineageDir) : Disk :=
  { d with lineages := d.lineages.map fun dir => if dir.root = root then f dir else dir }

def dir? (d : Disk) (root : ℕ) : Option LineageDir := d.lineages.find? fun dir => dir.root = root

def files? (d : Disk) (root id : ℕ) : Option SessionFiles :=
  (d.dir? root).bind fun dir => dir.sessions.find? fun s => s.record.id = id

def tombstoned (d : Disk) (root : ℕ) : Bool := d.tombstones.any fun t => t.rootSessionId = root

end Disk

/-! ## Effects -/

/-- What the store does to the disk at once. -/
inductive Effect where
  | quarantineTemp
  | quarantineManifest
  | makeLineage (root : ℕ)
  | writeRecord (root : ℕ) (record : SessionRecord)
  | append (root id : ℕ) (text : List UInt8)
  | writeLog (root id : ℕ) (text : List UInt8)
  | quarantineTail (id : ℕ) (text : List UInt8)
  | quarantineLineage (root : ℕ)
  | moveToTrash (root : ℕ)
  | writeTombstone (tombstone : Tombstone)
  | removeTrash (root : ℕ)
  | restore (root : ℕ)
  | quarantineTrash (root : ℕ)
  | writeManifest

namespace Effect

def apply (d : Disk) : Effect → Disk
  | quarantineTemp => { d with temps := d.temps - 1, quarantine := d.quarantine ++ [.strayTemp] }
  | quarantineManifest =>
    { d with manifest := none, quarantine := d.quarantine ++ [.corruptManifest] }
  | makeLineage root =>
    if (d.dir? root).isSome then d else { d with lineages := d.lineages ++ [{ root }] }
  | writeRecord root record => d.modifyDir root fun dir => dir.put record
  | append root id text =>
    d.modifyDir root fun dir => dir.modify id fun s => { s with log := s.log ++ text }
  | writeLog root id text => d.modifyDir root fun dir => dir.modify id fun s => { s with log := text }
  | quarantineTail id text => { d with quarantine := d.quarantine ++ [.eventTail id text] }
  | quarantineLineage root =>
    { d with
      lineages := d.lineages.filter fun dir => dir.root ≠ root
      quarantine := d.quarantine ++
        (d.lineages.filter fun dir => dir.root = root).map .emptyLineage }
  | moveToTrash root =>
    { d with
      lineages := d.lineages.filter fun dir => dir.root ≠ root
      trash := d.trash ++ d.lineages.filter fun dir => dir.root = root }
  | writeTombstone tombstone =>
    { d with
      tombstones := (d.tombstones.filter fun t => t.rootSessionId ≠ tombstone.rootSessionId) ++
        [tombstone] }
  | removeTrash root => { d with trash := d.trash.filter fun dir => dir.root ≠ root }
  | restore root =>
    { d with
      lineages := d.lineages ++ d.trash.filter fun dir => dir.root = root
      trash := d.trash.filter fun dir => dir.root ≠ root }
  | quarantineTrash root =>
    { d with
      trash := d.trash.filter fun dir => dir.root ≠ root
      quarantine := d.quarantine ++
        (d.trash.filter fun dir => dir.root = root).map .unrestorableEviction }
  | writeManifest => { d with manifest := some persistedSchemaVersion }

def torn (cut : ℕ) (d : Disk) : Effect → Disk
  | append root id text => apply d (append root id (text.take cut))
  | writeRecord .. | writeLog .. | writeTombstone _ | writeManifest =>
    { d with temps := d.temps + min cut 1 }
  | quarantineTail _ _ =>
    { d with quarantine := d.quarantine ++ List.replicate (min cut 1) .strayTemp }
  | removeTrash root =>
    { d with
      trash := d.trash.map fun dir =>
        if dir.root = root then { dir with sessions := dir.sessions.drop cut } else dir }
  | _ => d

end Effect

def applyAll (effects : List Effect) (d : Disk) : Disk := effects.foldl Effect.apply d

/-- The disk if the process is killed within one of some effects, after the ones before it. -/
def kill : List Effect → ℕ → ℕ → Disk → Disk
  | [], _, _, d => d
  | e :: _, 0, cut, d => e.torn cut d
  | e :: rest, k + 1, cut, d => kill rest k cut (e.apply d)

end VacancyRadar.Sessions
