import VacancyRadar.Data.Text
import VacancyRadar.Sessions.Disk

/-!
# The session store

`SessionLineageStore`: what it has in memory, its operations, and the recovery in its constructor.
An operation runs without interruption, and the effects it has on the disk are collected.
-/

namespace VacancyRadar.Sessions

open Data

def maxPersistedEventsPerSession : ℕ := 5000

def maxProviderSessionIdBytes : ℕ := 256

structure RetentionPolicy where
  maxAgeMs : ℕ := 30 * 24 * 60 * 60 * 1000
  maxRecords : ℕ := 500
  maxBytes : ℕ := 64 * 1024 * 1024

/-! ## What is in memory -/

/-- A record in memory, with `linesOnDisk`. -/
structure Session where
  record : SessionRecord
  lines : ℕ

structure Lineage where
  root : ℕ
  sessions : List Session
  bytes : ℕ

def Lineage.isActive (lineage : Lineage) : Bool :=
  lineage.sessions.any fun m => !m.record.status.isTerminal

/-- `#lineageRecency`. -/
def Lineage.recency (lineage : Lineage) : ℕ :=
  lineage.sessions.foldl (fun newest m => max newest (m.record.completedAt.getD m.record.startedAt)) 0

structure Store where
  lineages : List Lineage := []
  sessionIndex : List (ℕ × ℕ) := []
  logTerminals : List (ℕ × TerminalLogType) := []

namespace Store

def modifyLineage (store : Store) (root : ℕ) (f : Lineage → Lineage) : Store :=
  { store with lineages := store.lineages.map fun l => if l.root = root then f l else l }

def modifySession (store : Store) (root id : ℕ) (f : Session → Session) : Store :=
  store.modifyLineage root fun l =>
    { l with sessions := l.sessions.map fun m => if m.record.id = id then f m else m }

def session? (store : Store) (root id : ℕ) : Option Session :=
  (store.lineages.find? fun l => l.root = root).bind fun l =>
    l.sessions.find? fun m => m.record.id = id

def locate (store : Store) (id : ℕ) : Option (ℕ × Session) :=
  (store.sessionIndex.lookup id).bind fun root => (store.session? root id).map fun m => (root, m)

def recordCount (store : Store) : ℕ := (store.lineages.map fun l => l.sessions.length).sum

def totalBytes (store : Store) : ℕ := (store.lineages.map Lineage.bytes).sum

def evictionCandidates (store : Store) (excludedRootId : Option ℕ) : List Lineage :=
  (store.lineages.filter fun l => some l.root ≠ excludedRootId ∧ l.isActive = false).insertionSort
    fun a b => a.recency ≤ b.recency

def findByProviderSessionId (store : Store) (providerSessionId : String) : Option SessionRecord :=
  ((store.lineages.flatMap Lineage.sessions).map Session.record).find? fun record =>
    record.providerSessionId = some providerSessionId

end Store

/-- An operation that is under way: the store, the disk, and what was done to the disk so far. -/
structure Job where
  store : Store
  disk : Disk
  effects : List Effect := []

namespace Job

def emit (j : Job) (e : Effect) : Job :=
  { j with disk := e.apply j.disk, effects := j.effects ++ [e] }

def set (j : Job) (store : Store) : Job := { j with store }

variable {Content : Type} (format : Format Content)

/-! ## Low-level writes -/

def writeRecord (root id : ℕ) (f : SessionRecord → SessionRecord) (j : Job) : Job :=
  let j := j.set (j.store.modifySession root id fun m => { m with record := f m.record })
  match j.store.session? root id with
  | none => j
  | some m =>
    let before := ((j.disk.files? root id).map fun s => format.size s.record).getD 0
    let j := j.emit (.writeRecord root m.record)
    j.set (j.store.modifyLineage root fun l =>
      { l with bytes := l.bytes + format.size m.record - before })

/-- `#appendLine`.  The write may fail after some bytes of the line; then nothing else happens. -/
def appendLine (root id : ℕ) (entry : EventRecord Content) (fault : Option ℕ) (j : Job) : Job :=
  match fault with
  | some n => j.emit (.append root id ((format.code.encode entry).take n))
  | none =>
    let line := format.code.line entry
    let j := j.emit (.append root id line)
    let store := j.store.modifyLineage root fun l => { l with bytes := l.bytes + line.length }
    j.set (store.modifySession root id fun m => { m with lines := m.lines + 1 })

/-! ## Retention -/

variable (policy : RetentionPolicy) (now : ℕ)

def evictLineage (reason : EvictionReason) (j : Job) (lineage : Lineage) : Job :=
  let ids := lineage.sessions.map fun m => m.record.id
  let tombstone : Tombstone :=
    { rootSessionId := lineage.root, evictedAt := now, reason, sessionIds := ids
      records := lineage.sessions.length, bytes := lineage.bytes }
  let j := ((j.emit (.moveToTrash lineage.root)).emit (.writeTombstone tombstone)).emit
    (.removeTrash lineage.root)
  j.set
    { j.store with
      lineages := j.store.lineages.filter fun l => l.root ≠ lineage.root
      sessionIndex := j.store.sessionIndex.filter fun p => p.1 ∉ ids }

/-- The lineage is older than records are kept. -/
def expired (lineage : Lineage) : Bool :=
  0 < lineage.recency ∧ policy.maxAgeMs + lineage.recency < now

def evictWhile (tooMuch : Store → Bool) (reason : EvictionReason) (excludedRootId : Option ℕ) :
    ℕ → Job → Job
  | 0, j => j
  | fuel + 1, j =>
    if tooMuch j.store then
      match j.store.evictionCandidates excludedRootId with
      | [] => j
      | victim :: _ =>
        evictWhile tooMuch reason excludedRootId fuel (j.evictLineage now reason victim)
    else j

def enforceRetention (excludedRootId : Option ℕ) (j : Job) : Job :=
  let aged := ((j.store.evictionCandidates excludedRootId).filter (expired policy now)).foldl
    (evictLineage now .retentionAge) j
  let counted := evictWhile now (fun s => policy.maxRecords < s.recordCount) .quotaRecords
    excludedRootId aged.store.lineages.length aged
  evictWhile now (fun s => policy.maxBytes < s.totalBytes) .quotaBytes excludedRootId
    counted.store.lineages.length counted

/-- `#makeRoomForOneMore`: whether there is room in the end. -/
def makeRoomForOneMore (excludedRootId : ℕ) (j : Job) : Job × Bool :=
  let kept := j.enforceRetention policy now (some excludedRootId)
  let counted := evictWhile now (fun s => policy.maxRecords < s.recordCount + 1) .quotaRecords
    (some excludedRootId) kept.store.lineages.length kept
  if policy.maxRecords < counted.store.recordCount + 1 then (counted, false)
  else
    let sized := evictWhile now (fun s => policy.maxBytes ≤ s.totalBytes) .quotaBytes
      (some excludedRootId) counted.store.lineages.length counted
    (sized, sized.store.totalBytes < policy.maxBytes)

/-! ## Operations -/

/-- What `create` is told about a session. -/
structure NewSession where
  id : ℕ
  startedAt : ℕ
  scope : LaunchScope
  resumeProviderSessionId : Option String

def register (root : ℕ) (record : SessionRecord) (j : Job) : Job :=
  let store := j.store
  let lineages := if store.lineages.any fun l => l.root = root then store.lineages
    else store.lineages ++ [{ root, sessions := [], bytes := 0 }]
  let j := (j.set { store with lineages }).emit (.makeLineage root)
  let j := j.set
    { j.store.modifyLineage root fun l => { l with sessions := l.sessions ++ [⟨record, 0⟩] } with
      sessionIndex := (record.id, root) :: j.store.sessionIndex }
  j.writeRecord format root record.id id

def create (new : NewSession) (j : Job) : Job × Bool :=
  let parent := (new.resumeProviderSessionId.filter (· ≠ "")).bind j.store.findByProviderSessionId
  let root := (parent.map SessionRecord.rootSessionId).getD new.id
  match j.makeRoomForOneMore policy now root with
  | (j, false) => (j, false)
  | (j, true) =>
    let record : SessionRecord :=
      { id := new.id, status := .starting, startedAt := new.startedAt, acceptedWork := .unknown
        rootSessionId := root, parentSessionId := parent.map SessionRecord.id, scope := new.scope }
    (j.register format root record, true)

def update (id : ℕ) (f : SessionRecord → SessionRecord) (j : Job) : Job :=
  match j.store.locate id with
  | none => j
  | some (root, _) => j.writeRecord format root id f

def appendEvent (id : ℕ) (entry : EventRecord Content) (fault : Option ℕ) (j : Job) : Job :=
  match j.store.locate id with
  | none => j
  | some (root, m) =>
    let counted := j.set (j.store.modifySession root id fun m =>
      { m with record := { m.record with eventCount := m.record.eventCount + 1 } })
    if m.lines < maxPersistedEventsPerSession then counted.appendLine format root id entry fault
    else counted.writeRecord format root id fun record => { record with eventsTruncated := true }

def markAcceptedWork (id : ℕ) (j : Job) : Job :=
  match j.store.locate id with
  | none => j
  | some (root, m) =>
    if m.record.acceptedWork = .accepted then j
    else j.writeRecord format root id fun record => { record with acceptedWork := .accepted }

def finalize (id : ℕ) (status : SessionStatus) (reason : TerminalReason) (j : Job) : Job :=
  j.update format id fun record =>
    { record with status, terminalReason := some reason, completedAt := some now }

def setProviderSessionId (id : ℕ) (providerSessionId : String) (j : Job) : Job :=
  let bounded := truncateToBytes providerSessionId maxProviderSessionIdBytes
  match j.store.locate id with
  | none => j
  | some (root, m) =>
    if m.record.providerSessionId = some bounded then j
    else j.writeRecord format root id fun record => { record with providerSessionId := some bounded }

def setScope (id : ℕ) (scope : LaunchScope) (j : Job) : Job :=
  j.update format id fun record => { record with scope }

def setUnknownFrames (id : ℕ) (unknownFrames : List UnknownFrame) (j : Job) : Job :=
  j.update format id fun record => { record with unknownFrames }

/-! ## Startup -/

def quarantineStrayTemps (j : Job) : Job := (fun j => j.emit .quarantineTemp)^[j.disk.temps] j

def loadManifest (j : Job) : Job :=
  match j.disk.manifest with
  | none => j
  | some version => if version ∈ readableSchemaVersions then j else j.emit .quarantineManifest

/-- `#recoverInterruptedEvictions`, for one directory in the trash. -/
def recoverEviction (j : Job) (dir : LineageDir) : Job :=
  if j.disk.tombstoned dir.root then j.emit (.removeTrash dir.root)
  else if (j.disk.dir? dir.root).isSome then j.emit (.quarantineTrash dir.root)
  else j.emit (.restore dir.root)

def recoverInterruptedEvictions (j : Job) : Job := j.disk.trash.foldl recoverEviction j

def lastTerminal (events : List (EventRecord Content)) : Option TerminalLogType :=
  (events.filterMap EventRecord.terminalType).getLast?

/-- `#repairEventLog`, with what `#loadLineages` does with the result for one session. -/
def loadSession (root : ℕ) (j : Job) (files : SessionFiles) : Job :=
  let id := files.record.id
  let repair := format.code.repair EventRecord.sequence files.log
  let j := match repair.change with
    | none => j
    | some (kept, cut) => (j.emit (.quarantineTail id cut)).emit (.writeLog root id kept)
  let record :=
    { files.record with
      eventCount := max files.record.eventCount repair.entries.length
      earliestSequence :=
        (repair.entries.head?.map EventRecord.sequence).getD files.record.earliestSequence }
  let store := j.store.modifyLineage root fun l =>
    { l with sessions := l.sessions ++ [⟨record, repair.entries.length⟩] }
  j.set
    { store with
      sessionIndex := (id, root) :: store.sessionIndex
      logTerminals := ((lastTerminal repair.entries).map fun t => (id, t)).toList ++
        store.logTerminals }

/-- `#measureLineage`. -/
def measure (dir : LineageDir) : ℕ :=
  (dir.sessions.map fun s => format.size s.record + s.log.length).sum

def loadLineage (j : Job) (dir : LineageDir) : Job :=
  if dir.sessions = [] then j.emit (.quarantineLineage dir.root)
  else
    let added := j.set
      { j.store with lineages := j.store.lineages ++ [{ root := dir.root, sessions := [], bytes := 0 }] }
    let j := dir.sessions.foldl (loadSession format dir.root) added
    let bytes := ((j.disk.dir? dir.root).map (measure format)).getD 0
    j.set (j.store.modifyLineage dir.root fun l => { l with bytes })

def loadLineages (j : Job) : Job := j.disk.lineages.foldl (loadLineage format) j

def recoverSession (j : Job) (at_ : ℕ × ℕ) : Job :=
  match j.store.session? at_.1 at_.2 with
  | none => j
  | some m =>
    if m.record.status.isTerminal then j
    else
      match j.store.logTerminals.lookup at_.2 with
      | some terminal =>
        j.writeRecord format at_.1 at_.2 fun record =>
          { record with
            status := terminal.outcome.1, terminalReason := some terminal.outcome.2
            completedAt := some (record.completedAt.getD now) }
      | none =>
        let sequence := max m.record.eventCount m.lines
        let j := if m.lines < maxPersistedEventsPerSession then
            j.appendLine format at_.1 at_.2 (interruptedEventRecord sequence now) none
          else j
        j.writeRecord format at_.1 at_.2 fun record =>
          { record with
            eventCount := sequence + 1, status := .interrupted
            terminalReason := some .daemonRestart, completedAt := some now }

def places (store : Store) : List (ℕ × ℕ) :=
  store.lineages.flatMap fun l => l.sessions.map fun m => (l.root, m.record.id)

def recoverNonTerminalSessions (j : Job) : Job :=
  let j := (places j.store).foldl (recoverSession format now) j
  j.set { j.store with logTerminals := [] }

def construct (disk : Disk) : Job :=
  let j : Job := { store := {}, disk }
  let j := j.quarantineStrayTemps.loadManifest.recoverInterruptedEvictions
  let j := (j.loadLineages format).recoverNonTerminalSessions format now
  (j.enforceRetention policy now none).emit .writeManifest

end Job

end VacancyRadar.Sessions
