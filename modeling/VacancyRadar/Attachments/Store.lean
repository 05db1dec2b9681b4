import VacancyRadar.Data.CodePoints
import VacancyRadar.Data.Assoc
import VacancyRadar.Data.Pattern

/-!
# The attachment store

`AttachmentStore` has a directory for each session and a file for each attachment.  What it holds is
read from the disk each time.  A write may fail, or the process may end in the middle of it; what is
left of the temporary file then stays.
-/

namespace VacancyRadar.Attachments

open Data Data.CodePoints

/-! ## Times -/

def civil (days : ℤ) : ℤ × ℤ × ℤ :=
  let z := days + 719468
  let dayOfEra := z % 146097
  let yearOfEra := (dayOfEra - dayOfEra / 1460 + dayOfEra / 36524 - dayOfEra / 146096) / 365
  let dayOfYear := dayOfEra - (365 * yearOfEra + yearOfEra / 4 - yearOfEra / 100)
  -- Years start in March here, so that a leap day is the last one of its year.
  let m := (5 * dayOfYear + 2) / 153
  let month := if m < 10 then m + 3 else m - 9
  let year := yearOfEra + z / 146097 * 400
  (if month ≤ 2 then year + 1 else year, month, dayOfYear - (153 * m + 2) / 5 + 1)

def padded (width n : ℕ) : List ℕ :=
  let digits := points (toString n)
  List.replicate (width - digits.length) 0x30 ++ digits

def yearText (year : ℤ) : List ℕ :=
  if 0 ≤ year ∧ year ≤ 9999 then padded 4 year.toNat
  else (if year < 0 then 0x2d else 0x2b) :: padded 6 year.natAbs

def toISOString (time : ℤ) : List ℕ :=
  let (year, month, day) := civil (time / 86400000)
  let ms := (time % 86400000).toNat
  yearText year ++ 0x2d :: padded 2 month.toNat ++ 0x2d :: padded 2 day.toNat ++
    0x54 :: padded 2 (ms / 3600000) ++ 0x3a :: padded 2 (ms / 60000 % 60) ++
    0x3a :: padded 2 (ms / 1000 % 60) ++ 0x2e :: padded 3 (ms % 1000) ++ [0x5a]

example : toISOString 1709251199999 = points "2024-02-29T23:59:59.999Z" := by decide

/-! ## Records -/

inductive AllowedAttachmentMimeType where
  | textPlain
  | applicationJson
deriving DecidableEq

def AllowedAttachmentMimeType.text : AllowedAttachmentMimeType → String
  | .textPlain => "text/plain"
  | .applicationJson => "application/json"

/-- `isAllowedMimeType`. -/
def allowedMimeType? (value : String) : Option AllowedAttachmentMimeType :=
  [.textPlain, .applicationJson].find? fun type => type.text = value

/-- `AttachmentMetadata`.  The time is `createdAt`, as `Date.parse` reads it. -/
structure AttachmentMetadata where
  id : String
  sessionId : String
  mimeType : AllowedAttachmentMimeType
  bytes : ℕ
  sha256 : String
  createdAt : ℤ
deriving DecidableEq

structure AttachmentRecord extends AttachmentMetadata where
  content : List ℕ
deriving DecidableEq

def AttachmentMetadata.opening (m : AttachmentMetadata) : List ℕ :=
  points "\x7b\"v\":1,\"id\":" ++ quote (points m.id) ++
    points ",\"sessionId\":" ++ quote (points m.sessionId) ++
    points ",\"mimeType\":" ++ quote (points m.mimeType.text) ++
    points ",\"bytes\":" ++ points (toString m.bytes) ++
    points ",\"sha256\":" ++ quote (points m.sha256) ++
    points ",\"createdAt\":" ++ quote (toISOString m.createdAt) ++
    points ",\"content\":"

def AttachmentRecord.stringify (r : AttachmentRecord) : List ℕ :=
  r.opening ++ quote r.content ++ points "\x7d"

def AttachmentRecord.size (r : AttachmentRecord) : ℕ := byteLength (r.stringify ++ points "\n")

lemma AttachmentRecord.size_eq (r : AttachmentRecord) :
    r.size = byteLength r.opening + byteLength (quote r.content) + 2 := by
  have hend : byteLength (points "\x7d") = 1 := by decide
  have hline : byteLength (points "\n") = 1 := by decide
  rw [size, stringify, byteLength_append, byteLength_append, byteLength_append, hend, hline]

lemma AttachmentRecord.size_pos (r : AttachmentRecord) : 0 < r.size := by
  rw [r.size_eq]
  omega

def maxAttachmentBytes : ℕ := 1 * 1024 * 1024

def maxAttachmentsPerSession : ℕ := 20

def maxTotalAttachmentBytes : ℕ := 64 * 1024 * 1024

def attachmentTtlMs : ℤ := 7 * 24 * 60 * 60 * 1000

def isHexDigit (c : Char) : Bool := c.isDigit || ('a' ≤ c && c ≤ 'f') || ('A' ≤ c && c ≤ 'F')

def idPattern : Pattern :=
  .seq (.times isHexDigit 8) <| .seq (.lit "-") <| .seq (.times isHexDigit 4) <| .seq (.lit "-") <|
    .seq (.times isHexDigit 4) <| .seq (.lit "-") <| .seq (.times isHexDigit 4) <| .seq (.lit "-") <|
      .times isHexDigit 12

def isId (text : String) : Bool := (idPattern text.toList).any List.isEmpty

/-! ## Files -/

inductive FileName where
  | attachment (id : String)
  | temporary (id unique : String)
deriving DecidableEq

def FileName.id : FileName → String
  | .attachment id | .temporary id _ => id

def FileName.isJson : FileName → Bool
  | .attachment _ => true
  | .temporary _ _ => false

structure File where
  record : AttachmentRecord
  size : ℕ
deriving DecidableEq

/-- `#readRecord`.  A record is read without the end of its line, but `JSON.parse` takes no shorter
part of it. -/
def File.readRecord (f : File) : Option AttachmentRecord :=
  if f.record.size ≤ f.size + 1 ∧ isId f.record.id ∧ isId f.record.sessionId then some f.record
  else none

abbrev Directory : Type := Assoc FileName File

structure AttachmentStore where
  sessions : Assoc String Directory := []
deriving DecidableEq

namespace AttachmentStore

def sessionDir (s : AttachmentStore) (sessionId : String) : Directory :=
  (Assoc.get? sessionId s.sessions).getD []

def attachments (dir : Directory) : Directory :=
  dir.filter fun entry => entry.1.isJson && entry.2.readRecord.isSome

def listSession (s : AttachmentStore) (sessionId : String) : List AttachmentRecord :=
  (attachments (s.sessionDir sessionId)).filterMap fun entry => entry.2.readRecord

def sessionAttachmentCount (s : AttachmentStore) (sessionId : String) : ℕ :=
  (s.sessionDir sessionId).countP fun entry => entry.1.isJson

def directoryBytes (dir : Directory) : ℕ := Assoc.total File.size dir

def totalBytes (s : AttachmentStore) : ℕ := Assoc.total directoryBytes s.sessions

def indexedBytes (s : AttachmentStore) : ℕ :=
  Assoc.total (fun dir => directoryBytes (attachments dir)) s.sessions

/-! ## Operations -/

def isExpired (now : ℤ) (f : File) : Bool :=
  f.readRecord.any fun record => decide (record.createdAt < now - attachmentTtlMs)

def pruneExpired (now : ℤ) (s : AttachmentStore) : AttachmentStore where
  sessions := (s.sessions.map fun entry =>
    (entry.1, entry.2.filter fun file => !isExpired now file.2)).filter fun entry => !entry.2.isEmpty

def deleteForSession (sessionId : String) (s : AttachmentStore) : AttachmentStore :=
  if isId sessionId then ⟨Assoc.erase sessionId s.sessions⟩ else s

/-- What `AttachmentQuotaExceededError` is about. -/
inductive QuotaScope where
  | session
  | store

inductive PutError where
  | invalidSessionId (sessionId : String)
  | mimeTypeRejected (mimeType : String)
  | tooLarge (bytes : ℕ)
  | quotaExceeded (scope : QuotaScope)
  | writeFailed

def PutError.message : PutError → Option String
  | .invalidSessionId sessionId => some s!"\"{sessionId}\" is not a valid session id"
  | .mimeTypeRejected mimeType => some s!"\"{mimeType}\" is not an accepted attachment MIME type"
  | .tooLarge bytes => some s!"attachment is {bytes} bytes, over the {maxAttachmentBytes}-byte limit"
  | .quotaExceeded .session => some "this session has reached its attachment limit"
  | .quotaExceeded .store => some "the attachment store is full"
  | .writeFailed => none

def accept (s : AttachmentStore) (sessionId mimeType : String) (content : List ℕ) :
    Except PutError AllowedAttachmentMimeType :=
  if !isId sessionId then .error (.invalidSessionId sessionId)
  else match allowedMimeType? mimeType with
    | none => .error (.mimeTypeRejected mimeType)
    | some type =>
      if maxAttachmentBytes < byteLength content then .error (.tooLarge (byteLength content))
      else if maxAttachmentsPerSession ≤ s.sessionAttachmentCount sessionId then
        .error (.quotaExceeded .session)
      else if maxTotalAttachmentBytes < s.totalBytes + byteLength content then
        .error (.quotaExceeded .store)
      else .ok type

inductive Written where
  | nothing
  | temporary (unique : String) (bytes : ℕ)
  | file
deriving DecidableEq

def write (s : AttachmentStore) (record : AttachmentRecord) : Written → AttachmentStore
  | .nothing => ⟨Assoc.set record.sessionId (s.sessionDir record.sessionId) s.sessions⟩
  | .temporary unique bytes =>
    ⟨Assoc.set record.sessionId (Assoc.set (.temporary record.id unique)
      ⟨record, min bytes record.size⟩ (s.sessionDir record.sessionId)) s.sessions⟩
  | .file =>
    ⟨Assoc.set record.sessionId (Assoc.set (.attachment record.id)
      ⟨record, record.size⟩ (s.sessionDir record.sessionId)) s.sessions⟩

variable (sha256 : List ℕ → String)

def newRecord (now : ℤ) (id sessionId : String) (type : AllowedAttachmentMimeType) (content : List ℕ) :
    AttachmentRecord where
  id := id
  sessionId := sessionId
  mimeType := type
  bytes := byteLength content
  sha256 := sha256 content
  createdAt := now
  content := content

def put (s : AttachmentStore) (now : ℤ) (id : String) (written : Written) (sessionId mimeType : String)
    (content : List ℕ) : AttachmentStore × Except PutError AttachmentMetadata :=
  match s.accept sessionId mimeType content with
  | .error e => (s, .error e)
  | .ok type =>
    let record := newRecord sha256 now id sessionId type content
    (s.write record written,
      if written = .file then .ok record.toAttachmentMetadata else .error .writeFailed)

end AttachmentStore

end VacancyRadar.Attachments
