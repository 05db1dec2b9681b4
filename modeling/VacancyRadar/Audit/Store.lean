import VacancyRadar.Data.Lines

/-!
# The audit log

`AuditStore` appends the entries of the workspace audit log to one file.  A file that is full is
renamed to an archive segment and a new one is started, and a file that cannot be trusted when the
store is loaded is moved to quarantine.  After one write that failed nothing is appended any more.
-/

namespace VacancyRadar.Audit

open Data

/-! ## Entries and files -/

structure Stamp where
  entryId : BitVec 128
  recordedAt : ℕ
  recordedAt_lt : recordedAt < 253402300800000
deriving DecidableEq

/-- `AuditEntryV2`: what the store assigns and what the caller supplies. -/
structure AuditEntry (Input : Type) where
  sequence : ℕ
  stamp : Stamp
  input : Input
deriving DecidableEq

/-- How entries are written.  -/
structure AuditFormat (Input : Type) where
  code : LineCode UInt8 (AuditEntry Input)
  /-- `auditEntryV2Schema`, as far as the caller's part is concerned. -/
  accepts : Input → Bool
  /-- The text is JSON. -/
  parses : List UInt8 → Bool
  /-- Ids and times all have the same length, and a larger number is not shorter. -/
  length_le : ∀ e e' : AuditEntry Input, e.input = e'.input → e.sequence ≤ e'.sequence →
    (code.encode e).length ≤ (code.encode e').length

inductive QuarantineReason where
  | unreadable
  | unparseableLine
  | invalidEntry
  | sequenceGap
deriving DecidableEq

inductive Fate where
  | archived (rotatedAt : ℕ)
  | deleted
  | quarantined (reason : QuarantineReason)
deriving DecidableEq

structure Retired where
  text : List UInt8
  fate : Fate

/-- The directory of the store: the active file, and the files before it in the order in which they
were put aside. -/
structure Disk where
  log : Option (List UInt8) := none
  retired : List Retired := []

/-- What is in the active file. -/
def Disk.text (disk : Disk) : List UInt8 := disk.log.getD []

/-- `AuditStoreOptions`. -/
structure AuditPolicy where
  maxBytes : ℕ
  maxSegmentAgeMs : ℕ

/-- The fields of an `AuditStore`. -/
structure Store (Input : Type) where
  entries : List (AuditEntry Input) := []
  bytes : ℕ := 0
  nextSequence : ℕ := 0
  unhealthy : Option String := none

structure State (Input : Type) where
  store : Store Input := {}
  disk : Disk := {}

/-! ## Appending -/

/-- When old segments are deleted, and which of them cannot be deleted. -/
structure Prune where
  now : ℕ
  stuck : Retired → Bool

def pruneExpiredSegments (policy : AuditPolicy) (prune : Prune) (disk : Disk) : Disk :=
  { disk with
    retired := disk.retired.map fun file =>
      match file.fate with
      | .archived rotatedAt =>
        if rotatedAt + policy.maxSegmentAgeMs < prune.now ∧ ¬ prune.stuck file then
          { file with fate := .deleted }
        else file
      | _ => file }

/-- How `appendDurably` fails: the file cannot be opened, or some bytes are written. -/
inductive WriteFault where
  | opening (message : String)
  | writing (written : ℕ) (message : String)

/-- What the system does to one attempt to append an entry. -/
structure Attempt where
  stamp : Stamp
  rotatedAt : ℕ := 0
  renameFails : Option String := none
  syncFails : Option String := none
  prune : Prune := ⟨0, fun _ => false⟩
  writeFails : Option WriteFault := none

/-- `appendDurably`, with the message if it throws. -/
def appendDurably (payload : List UInt8) (fault : Option WriteFault) (disk : Disk) :
    Option String × Disk :=
  match fault with
  | none => (none, { disk with log := some (disk.text ++ payload) })
  | some (.opening message) => (some message, disk)
  | some (.writing written message) =>
    (some message, { disk with log := some (disk.text ++ payload.take written) })

/-- How `append` rejects. -/
inductive AppendError where
  | unavailable (cause : String)
  | capacity (maxBytes : ℕ)
  | invalid

variable {Input : Type}

def State.emptied (s : State Input) : State Input :=
  { s with store := { s.store with entries := [], nextSequence := 0, bytes := 0 } }

def State.latched (s : State Input) (cause : String) : State Input :=
  { s with store := { s.store with unhealthy := some cause } }

def rotate (policy : AuditPolicy) (attempt : Attempt) (s : State Input) :
    Option String × State Input :=
  match s.disk.log with
  | none =>
    (none, { s.emptied with disk := pruneExpiredSegments policy attempt.prune s.disk })
  | some text =>
    match attempt.renameFails with
    | some message => (some message, s.latched message)
    | none =>
      let disk : Disk :=
        { log := none, retired := s.disk.retired ++ [⟨text, .archived attempt.rotatedAt⟩] }
      let s := { s.emptied with disk := pruneExpiredSegments policy attempt.prune disk }
      match attempt.syncFails with
      | some message => (some message, s.latched message)
      | none => (none, s)

def State.entry (s : State Input) (input : Input) (attempt : Attempt) : AuditEntry Input :=
  { sequence := s.store.nextSequence, stamp := attempt.stamp, input }

def AuditFormat.lineBytes (format : AuditFormat Input) (entry : AuditEntry Input) : ℕ :=
  (format.code.line entry).length

/-- The last part of `#appendNow`, when there is room for the entry. -/
def State.write (format : AuditFormat Input) (s : State Input) (entry : AuditEntry Input)
    (fault : Option WriteFault) : Except AppendError (AuditEntry Input) × State Input :=
  match appendDurably (format.code.line entry) fault s.disk with
  | (some message, disk) => (.error (.unavailable message), { s with disk }.latched message)
  | (none, disk) =>
    (.ok entry,
      { disk
        store :=
          { s.store with
            entries := s.store.entries ++ [entry]
            nextSequence := s.store.nextSequence + 1
            bytes := s.store.bytes + format.lineBytes entry } })

/-- `#appendNow`.  It calls itself after a rotation, and there is no result if it would do so more
often than the first number says. -/
def appendNow (policy : AuditPolicy) (format : AuditFormat Input) (input : Input) :
    ℕ → (ℕ → Attempt) → State Input →
      Option (Except AppendError (AuditEntry Input) × State Input)
  | 0, _, _ => none
  | fuel + 1, attempts, s =>
    match s.store.unhealthy with
    | some cause => some (.error (.unavailable cause), s)
    | none =>
      if ¬ format.accepts input then some (.error .invalid, s)
      else
        let entry := s.entry input (attempts 0)
        if policy.maxBytes < s.store.bytes + format.lineBytes entry then
          if s.store.bytes = 0 then some (.error (.capacity policy.maxBytes), s)
          else
            match rotate policy (attempts 0) s with
            | (some message, s') => some (.error (.unavailable message), s')
            | (none, s') => appendNow policy format input fuel (fun k => attempts (k + 1)) s'
        else some (s.write format entry (attempts 0).writeFails)

/-! ## Loading -/

def checkLines (format : AuditFormat Input) :
    ℕ → List (List UInt8) → Except QuarantineReason (List (AuditEntry Input))
  | _, [] => .ok []
  | index, line :: rest =>
    match format.code.decode line with
    | none => .error (if format.parses line then .invalidEntry else .unparseableLine)
    | some entry =>
      if entry.sequence ≠ index then .error .sequenceGap
      else
        match checkLines format (index + 1) rest with
        | .ok entries => .ok (entry :: entries)
        | .error reason => .error reason

def AuditFormat.lines (format : AuditFormat Input) (raw : List UInt8) : List (List UInt8) :=
  (raw.splitOn format.code.newline).filter fun line => line ≠ []

inductive QuarantineFault where
  | renaming
  | syncing

/-- What the system does while the store is loaded. -/
structure Load where
  prune : Prune := ⟨0, fun _ => false⟩
  readFails : Bool := false
  quarantineFails : Option QuarantineFault := none

def quarantineLog (load : Load) (reason : QuarantineReason) (disk : Disk) : State Input :=
  let moved : Disk :=
    { log := none, retired := disk.retired ++ [⟨disk.text, .quarantined reason⟩] }
  let message := "the corrupt audit log could not be quarantined"
  match load.quarantineFails with
  | none => { disk := moved }
  | some .renaming => { disk, store := { unhealthy := some message } }
  | some .syncing => { disk := moved, store := { unhealthy := some message } }

/-- The constructor, which calls `#load`. -/
def construct (policy : AuditPolicy) (format : AuditFormat Input) (load : Load) (disk : Disk) :
    State Input :=
  let disk := pruneExpiredSegments policy load.prune disk
  match disk.log with
  | none => { disk }
  | some raw =>
    if load.readFails then quarantineLog load .unreadable disk
    else
      match checkLines format 0 (format.lines raw) with
      | .error reason => quarantineLog load reason disk
      | .ok parsed =>
        { disk
          store := { entries := parsed, nextSequence := parsed.length, bytes := raw.length } }

/-! ## Listing -/

inductive Cursor where
  | after (sequence : ℕ)
  | invalid

structure AuditPage (Input : Type) where
  entries : List (AuditEntry Input) := []
  nextCursor : Option ℕ := none

def pageFrom (entries : List (AuditEntry Input)) (limit start : ℕ) : AuditPage Input :=
  let slice := (entries.drop start).take limit
  { entries := slice
    nextCursor :=
      if start + slice.length < entries.length then slice.getLast?.map AuditEntry.sequence
      else none }

def Store.list (store : Store Input) (cursor : Option Cursor) (limit : ℕ) : AuditPage Input :=
  match cursor with
  | none => pageFrom store.entries limit 0
  | some .invalid => {}
  | some (.after sequence) =>
    match store.entries.findIdx? fun entry => sequence < entry.sequence with
    | none => {}
    | some start => pageFrom store.entries limit start

def State.close (s : State Input) (reason : String) : State Input :=
  { s with store := { s.store with unhealthy := s.store.unhealthy.or (some reason) } }

end VacancyRadar.Audit
