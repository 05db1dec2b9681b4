import VacancyRadar.Attachments.Store
import VacancyRadar.Data.Runs

/-!
# The quotas of the attachment store

`put` counts an attachment by its content, but its file has the JSON of a record, in which a character
may take six bytes.  And what stays of a temporary file is counted, but it is no attachment.
-/

namespace VacancyRadar.Attachments

open Data Data.CodePoints AttachmentStore

/-- What happens to a store. -/
inductive Move where
  | put (now : ℤ) (id : String) (written : Written) (sessionId mimeType : String) (content : List ℕ)
  | deleteForSession (sessionId : String)
  | pruneExpired (now : ℤ)
  | restart (now : ℤ)

variable (sha256 : List ℕ → String)

def step (s : AttachmentStore) : Move → Option AttachmentStore
  | .put now id written sessionId mimeType content =>
    if isId id ∧ ∀ entry ∈ s.sessionDir sessionId, entry.1.id ≠ id then
      some (s.put sha256 now id written sessionId mimeType content).1
    else none
  | .deleteForSession sessionId => some (s.deleteForSession sessionId)
  | .pruneExpired now => some (s.pruneExpired now)
  -- The constructor sweeps as well.
  | .restart now => some (s.pruneExpired now)

structure WithinQuotas (s : AttachmentStore) : Prop where
  total : s.totalBytes ≤ maxTotalAttachmentBytes
  perSession : ∀ sessionId, (s.listSession sessionId).length ≤ maxAttachmentsPerSession
  accounted : s.totalBytes = s.indexedBytes

def HasRoom (s : AttachmentStore) (record : AttachmentRecord) : Written → Prop
  | .nothing => True
  | .temporary _ bytes => bytes = 0
  | .file => s.totalBytes + record.size ≤ maxTotalAttachmentBytes

def PutHasRoom (s : AttachmentStore) : Move → Prop
  | .put now id written sessionId mimeType content => ∀ type,
    s.accept sessionId mimeType content = .ok type →
      HasRoom s (newRecord sha256 now id sessionId type content) written
  | _ => True

/-! ## Directories -/

structure DirectoryInv (dir : Directory) : Prop where
  count : (dir.countP fun entry => entry.1.isJson) ≤ maxAttachmentsPerSession
  reads : ∀ entry ∈ dir, entry.1.isJson = true → entry.2.readRecord.isSome = true

/-- What is no attachment is empty. -/
def NoRemains (dir : Directory) : Prop := ∀ entry ∈ dir, entry.1.isJson = false → entry.2.size = 0

lemma DirectoryInv.nil : DirectoryInv [] := ⟨Nat.zero_le _, fun _ h => (List.not_mem_nil h).elim⟩

lemma DirectoryInv.of_sublist {dir dir' : Directory} (h : DirectoryInv dir) (hsub : dir'.Sublist dir) :
    DirectoryInv dir' :=
  ⟨hsub.countP_le.trans h.count, fun entry hentry => h.reads entry (hsub.subset hentry)⟩

lemma directoryBytes_eq {dir : Directory} (h : DirectoryInv dir) :
    directoryBytes dir = directoryBytes (attachments dir) +
      directoryBytes (dir.filter fun entry => !entry.1.isJson) := by
  induction dir with
  | nil => rfl
  | cons entry rest ih =>
    obtain ⟨name, file⟩ := entry
    have hrest := ih (h.of_sublist (List.sublist_cons_self _ _))
    unfold directoryBytes attachments at hrest ⊢
    cases hname : name.isJson with
    | false =>
      rw [List.filter_cons_of_neg (by simp [hname]), List.filter_cons_of_pos (by simp [hname]),
        Assoc.total, Assoc.total, hrest]
      omega
    | true =>
      have hreads := h.reads (name, file) List.mem_cons_self hname
      rw [List.filter_cons_of_pos (by simpa [hname] using hreads),
        List.filter_cons_of_neg (by simp [hname]), Assoc.total, Assoc.total, hrest]
      omega

lemma directoryBytes_eq_zero_iff {dir : Directory} :
    directoryBytes dir = 0 ↔ ∀ entry ∈ dir, entry.2.size = 0 := by
  induction dir with
  | nil => exact ⟨fun _ _ h => (List.not_mem_nil h).elim, fun _ => rfl⟩
  | cons entry rest ih =>
    obtain ⟨name, file⟩ := entry
    have hcons : directoryBytes ((name, file) :: rest) = file.size + directoryBytes rest := rfl
    rw [hcons, List.forall_mem_cons, Nat.add_eq_zero_iff, ih]

lemma accounted_iff {dir : Directory} (h : DirectoryInv dir) :
    directoryBytes dir ≤ directoryBytes (attachments dir) ↔ NoRemains dir := by
  have hzero : directoryBytes (dir.filter fun entry => !entry.1.isJson) = 0 ↔ NoRemains dir := by
    rw [directoryBytes_eq_zero_iff]
    constructor
    · intro hall entry hentry hname
      exact hall entry (List.mem_filter.mpr ⟨hentry, by simp [hname]⟩)
    · intro hall entry hentry
      obtain ⟨hin, hname⟩ := List.mem_filter.mp hentry
      exact hall entry hin (by simpa using hname)
  rw [← hzero, directoryBytes_eq h]
  omega

/-! ## Stores -/

def StoreInv (s : AttachmentStore) : Prop := ∀ entry ∈ s.sessions, DirectoryInv entry.2

variable {s s' : AttachmentStore}

lemma StoreInv.sessionDir (h : StoreInv s) (sessionId : String) :
    DirectoryInv (s.sessionDir sessionId) := by
  unfold AttachmentStore.sessionDir
  cases hget : Assoc.get? sessionId s.sessions with
  | none => exact .nil
  | some dir => exact h (sessionId, dir) (Assoc.mem_of_get? hget)

lemma indexedBytes_le (h : StoreInv s) : s.indexedBytes ≤ s.totalBytes :=
  Assoc.total_le_total fun entry hentry => by
    rw [directoryBytes_eq (h entry hentry)]
    exact Nat.le_add_right _ _

lemma totalBytes_eq_iff (h : StoreInv s) :
    s.totalBytes = s.indexedBytes ↔ ∀ entry ∈ s.sessions, NoRemains entry.2 := by
  constructor
  · intro heq entry hentry
    refine (accounted_iff (h entry hentry)).mp ?_
    refine Assoc.le_of_total_le (f := fun dir => directoryBytes (attachments dir)) ?_ heq.le entry hentry
    intro e he
    rw [directoryBytes_eq (h e he)]
    exact Nat.le_add_right _ _
  · intro hall
    refine Nat.le_antisymm ?_ (indexedBytes_le h)
    exact Assoc.total_le_total fun entry hentry =>
      (accounted_iff (h entry hentry)).mpr (hall entry hentry)

lemma length_listSession_le (h : StoreInv s) (sessionId : String) :
    (s.listSession sessionId).length ≤ maxAttachmentsPerSession := by
  refine (List.length_filterMap_le _ _).trans (le_trans ?_ (h.sessionDir sessionId).count)
  rw [AttachmentStore.attachments, List.countP_eq_length_filter]
  refine (List.monotone_filter_right _ fun entry hentry => ?_).length_le
  exact (Bool.and_eq_true_iff.mp hentry).1

lemma withinQuotas_iff (h : StoreInv s) :
    WithinQuotas s ↔ s.totalBytes ≤ maxTotalAttachmentBytes ∧ ∀ entry ∈ s.sessions, NoRemains entry.2 :=
  ⟨fun hs => ⟨hs.total, (totalBytes_eq_iff h).mp hs.accounted⟩,
    fun hs => ⟨hs.1, length_listSession_le h, (totalBytes_eq_iff h).mpr hs.2⟩⟩

/-! ## Removal -/

def Removes (s s' : AttachmentStore) : Prop :=
  (∀ entry ∈ s'.sessions, ∃ entry₀ ∈ s.sessions, entry.2.Sublist entry₀.2) ∧ s'.totalBytes ≤ s.totalBytes

lemma StoreInv.removes (h : StoreInv s) (hremoves : Removes s s') : StoreInv s' := by
  intro entry hentry
  obtain ⟨entry₀, hin, hsub⟩ := hremoves.1 entry hentry
  exact (h entry₀ hin).of_sublist hsub

lemma WithinQuotas.removes (h : StoreInv s) (hs : WithinQuotas s) (hremoves : Removes s s') :
    WithinQuotas s' := by
  obtain ⟨htotal, hnone⟩ := (withinQuotas_iff h).mp hs
  refine (withinQuotas_iff (h.removes hremoves)).mpr ⟨hremoves.2.trans htotal, fun entry hentry => ?_⟩
  obtain ⟨entry₀, hin, hsub⟩ := hremoves.1 entry hentry
  exact fun file hfile => hnone entry₀ hin file (hsub.subset hfile)

lemma total_le_of_sublist {κ ν : Type} {f : ν → ℕ} {m m' : Assoc κ ν} (h : m'.Sublist m) :
    Assoc.total f m' ≤ Assoc.total f m := by
  induction h with
  | slnil => exact Nat.le_refl _
  | cons entry _ ih => exact ih.trans (Nat.le_add_left _ _)
  | cons_cons entry _ ih => exact Nat.add_le_add_left ih _

lemma removes_deleteForSession (sessionId : String) : Removes s (s.deleteForSession sessionId) := by
  unfold AttachmentStore.deleteForSession
  split
  · have hsub : (Assoc.erase sessionId s.sessions).Sublist s.sessions := List.filter_sublist
    exact ⟨fun entry hentry => ⟨entry, hsub.subset hentry, List.Sublist.refl _⟩, total_le_of_sublist hsub⟩
  · exact ⟨fun entry hentry => ⟨entry, hentry, List.Sublist.refl _⟩, Nat.le_refl _⟩

lemma removes_pruneExpired (now : ℤ) : Removes s (s.pruneExpired now) := by
  constructor
  · intro entry hentry
    obtain ⟨entry₀, hin, rfl⟩ := List.mem_map.mp (List.mem_filter.mp hentry).1
    exact ⟨entry₀, hin, List.filter_sublist⟩
  · refine (total_le_of_sublist List.filter_sublist).trans ?_
    unfold totalBytes
    generalize s.sessions = sessions
    induction sessions with
    | nil => exact Nat.le_refl _
    | cons entry rest ih => exact Nat.add_le_add (total_le_of_sublist List.filter_sublist) ih

/-! ## Writes -/

def withDirectory (s : AttachmentStore) (sessionId : String) (dir : Directory) : AttachmentStore :=
  ⟨Assoc.set sessionId dir s.sessions⟩

variable {sessionId : String} {dir : Directory}

lemma StoreInv.withDirectory (h : StoreInv s) (hdir : DirectoryInv dir) :
    StoreInv (withDirectory s sessionId dir) := by
  intro entry hentry
  rcases Assoc.mem_set hentry with rfl | hin
  · exact hdir
  · exact h entry hin

lemma totalBytes_withDirectory (s : AttachmentStore) (sessionId : String) (dir : Directory) :
    (withDirectory s sessionId dir).totalBytes + directoryBytes (s.sessionDir sessionId) =
      s.totalBytes + directoryBytes dir := by
  have hset : Assoc.total directoryBytes (Assoc.set sessionId dir s.sessions) +
      ((Assoc.get? sessionId s.sessions).map directoryBytes).getD 0 =
        Assoc.total directoryBytes s.sessions + directoryBytes dir := Assoc.total_set _
  unfold AttachmentStore.sessionDir
  cases hget : Assoc.get? sessionId s.sessions with
  | none =>
    rw [hget] at hset
    exact hset
  | some old =>
    rw [hget] at hset
    exact hset

lemma withinQuotas_withDirectory (h : StoreInv s) (hs : WithinQuotas s) (hdir : DirectoryInv dir) :
    WithinQuotas (withDirectory s sessionId dir) ↔
      (withDirectory s sessionId dir).totalBytes ≤ maxTotalAttachmentBytes ∧ NoRemains dir := by
  rw [withinQuotas_iff (h.withDirectory hdir)]
  refine and_congr_right fun _ => ⟨fun hall => ?_, fun hnone entry hentry => ?_⟩
  · exact hall (sessionId, dir) (Assoc.mem_of_get? Assoc.get?_set_self)
  · rcases Assoc.mem_set hentry with rfl | hin
    · exact hnone
    · exact ((withinQuotas_iff h).mp hs).2 entry hin

lemma WithinQuotas.noRemains (h : StoreInv s) (hs : WithinQuotas s) (sessionId : String) :
    NoRemains (s.sessionDir sessionId) := by
  unfold AttachmentStore.sessionDir
  cases hget : Assoc.get? sessionId s.sessions with
  | none => exact fun _ hin => (List.not_mem_nil hin).elim
  | some dir => exact ((withinQuotas_iff h).mp hs).2 (sessionId, dir) (Assoc.mem_of_get? hget)

variable {name : FileName} {file : File}

lemma withinQuotas_addFile (h : StoreInv s) (hs : WithinQuotas s)
    (hfresh : Assoc.get? name (s.sessionDir sessionId) = none)
    (hdir : DirectoryInv (Assoc.set name file (s.sessionDir sessionId))) :
    WithinQuotas (withDirectory s sessionId (Assoc.set name file (s.sessionDir sessionId))) ↔
      s.totalBytes + file.size ≤ maxTotalAttachmentBytes ∧ (name.isJson = false → file.size = 0) := by
  have hbytes : directoryBytes (Assoc.set name file (s.sessionDir sessionId)) =
      directoryBytes (s.sessionDir sessionId) + file.size :=
    Assoc.total_set_of_none File.size hfresh
  have htotal := totalBytes_withDirectory s sessionId (Assoc.set name file (s.sessionDir sessionId))
  rw [withinQuotas_withDirectory h hs hdir]
  refine and_congr (by omega) ?_
  rw [Assoc.set_of_get?_eq_none hfresh]
  constructor
  · intro hall
    exact hall (name, file) (List.mem_append_right _ List.mem_cons_self)
  · intro hfile entry hentry
    rcases List.mem_append.mp hentry with hin | hin
    · exact hs.noRemains h sessionId entry hin
    · cases List.mem_singleton.mp hin
      exact hfile

lemma DirectoryInv.addFile (h : DirectoryInv dir) (hfresh : Assoc.get? name dir = none)
    (hroom : name.isJson = true → (dir.countP fun entry => entry.1.isJson) < maxAttachmentsPerSession)
    (hreads : name.isJson = true → file.readRecord.isSome = true) :
    DirectoryInv (Assoc.set name file dir) := by
  rw [Assoc.set_of_get?_eq_none hfresh]
  constructor
  · rw [List.countP_append]
    cases hname : name.isJson with
    | false => simpa [hname] using h.count
    | true => simpa [hname] using Nat.succ_le_of_lt (hroom hname)
  · intro entry hentry
    rcases List.mem_append.mp hentry with hin | hin
    · exact h.reads entry hin
    · cases List.mem_singleton.mp hin
      exact hreads

/-! ## Steps -/

/-- What the checks of `put` ensure. -/
lemma accept_eq_ok {mimeType : String} {content : List ℕ} {type : AllowedAttachmentMimeType}
    (h : s.accept sessionId mimeType content = .ok type) : isId sessionId = true ∧
      ((s.sessionDir sessionId).countP fun entry => entry.1.isJson) < maxAttachmentsPerSession := by
  unfold AttachmentStore.accept at h
  split at h
  · cases h
  · rename_i hid
    refine ⟨by simpa using hid, ?_⟩
    split at h
    · cases h
    · split at h
      · cases h
      · split at h
        · cases h
        · rename_i hcount
          exact Nat.lt_of_not_le hcount

lemma readRecord_whole {record : AttachmentRecord} (hid : isId record.id = true)
    (hsession : isId record.sessionId = true) :
    File.readRecord ⟨record, record.size⟩ = some record := by
  have hsize : record.size ≤ record.size + 1 := Nat.le_succ _
  unfold File.readRecord
  generalize record.size = size at hsize ⊢
  exact if_pos ⟨hsize, hid, hsession⟩

def WritesWithin (s : AttachmentStore) (record : AttachmentRecord) (written : Written) : Prop :=
  StoreInv (s.write record written) ∧
    (WithinQuotas s → (WithinQuotas (s.write record written) ↔ HasRoom s record written))

variable {record : AttachmentRecord}

lemma writesWithin_nothing (h : StoreInv s) : WritesWithin s record .nothing := by
  have hdir := h.sessionDir record.sessionId
  refine ⟨h.withDirectory hdir, fun hs => ?_⟩
  have htotal := totalBytes_withDirectory s record.sessionId (s.sessionDir record.sessionId)
  refine iff_of_true ((withinQuotas_withDirectory h hs hdir).mpr ⟨?_, hs.noRemains h _⟩) trivial
  have hmax := hs.total
  omega

lemma writesWithin_temporary (h : StoreInv s) {unique : String} (bytes : ℕ)
    (hfresh : Assoc.get? (.temporary record.id unique) (s.sessionDir record.sessionId) = none) :
    WritesWithin s record (.temporary unique bytes) := by
  have hnew : DirectoryInv (Assoc.set (.temporary record.id unique)
      ⟨record, min bytes record.size⟩ (s.sessionDir record.sessionId)) :=
    (h.sessionDir _).addFile hfresh (fun hname => Bool.noConfusion hname)
      fun hname => Bool.noConfusion hname
  refine ⟨h.withDirectory hnew, fun hs => (withinQuotas_addFile h hs hfresh hnew).trans ?_⟩
  have hpos := record.size_pos
  have hmax := hs.total
  dsimp only [HasRoom]
  generalize record.size = size at hpos ⊢
  constructor
  · rintro ⟨-, hempty⟩
    have hmin : min bytes size = 0 := hempty rfl
    omega
  · intro hempty
    have hmin : min bytes size = 0 := by rw [hempty, Nat.zero_min]
    rw [hmin, Nat.add_zero]
    exact ⟨hmax, fun _ => rfl⟩

lemma writesWithin_file (h : StoreInv s) (hid : isId record.id = true)
    (hsession : isId record.sessionId = true)
    (hfresh : Assoc.get? (.attachment record.id) (s.sessionDir record.sessionId) = none)
    (hroom : ((s.sessionDir record.sessionId).countP fun entry => entry.1.isJson) <
      maxAttachmentsPerSession) :
    WritesWithin s record .file := by
  have hread := congrArg Option.isSome (readRecord_whole hid hsession)
  have hnew : DirectoryInv (Assoc.set (.attachment record.id) ⟨record, record.size⟩
      (s.sessionDir record.sessionId)) :=
    (h.sessionDir _).addFile hfresh (fun _ => hroom) fun _ => hread
  refine ⟨h.withDirectory hnew, fun hs => (withinQuotas_addFile h hs hfresh hnew).trans ?_⟩
  dsimp only [HasRoom]
  exact and_iff_left fun hname => Bool.noConfusion hname

lemma writesWithin (h : StoreInv s) (written : Written)
    (hid : isId record.id = true) (hsession : isId record.sessionId = true)
    (hfresh : ∀ entry ∈ s.sessionDir record.sessionId, entry.1.id ≠ record.id)
    (hroom : ((s.sessionDir record.sessionId).countP fun entry => entry.1.isJson) <
      maxAttachmentsPerSession) :
    WritesWithin s record written := by
  have hnone {name : FileName} (hname : name.id = record.id) :
      Assoc.get? name (s.sessionDir record.sessionId) = none := by
    refine Assoc.get?_eq_none_iff.mpr fun hin => ?_
    obtain ⟨entry, hentry, rfl⟩ := List.mem_map.mp hin
    exact hfresh entry hentry hname
  cases written with
  | nothing => exact writesWithin_nothing h
  | temporary unique bytes => exact writesWithin_temporary h bytes (hnone rfl)
  | file => exact writesWithin_file h hid hsession (hnone rfl) hroom

lemma step_spec {move : Move} (h : StoreInv s) (hstep : step sha256 s move = some s') :
    StoreInv s' ∧ (WithinQuotas s → (WithinQuotas s' ↔ PutHasRoom sha256 s move)) := by
  have hremoves {s' : AttachmentStore} (hr : Removes s s') :
      StoreInv s' ∧ (WithinQuotas s → (WithinQuotas s' ↔ True)) :=
    ⟨h.removes hr, fun hs => iff_of_true (hs.removes h hr) trivial⟩
  cases move with
  | put now id written sessionId mimeType content =>
    dsimp only [step] at hstep
    split at hstep
    · rename_i hfresh
      cases hstep
      unfold AttachmentStore.put PutHasRoom
      dsimp only
      cases haccept : s.accept sessionId mimeType content with
      | error e => exact ⟨h, fun hs => iff_of_true hs fun type htype => by cases htype⟩
      | ok type =>
        obtain ⟨hsession, hroom⟩ := accept_eq_ok haccept
        obtain ⟨hinv, hiff⟩ : WritesWithin s (newRecord sha256 now id sessionId type content) written :=
          writesWithin h written hfresh.1 hsession hfresh.2 hroom
        refine ⟨hinv, fun hs => (hiff hs).trans ⟨fun hfit type' htype => ?_, fun hall => hall type rfl⟩⟩
        cases htype
        exact hfit
    · cases hstep
  | deleteForSession sessionId =>
    cases hstep
    exact hremoves (removes_deleteForSession sessionId)
  | pruneExpired now =>
    cases hstep
    exact hremoves (removes_pruneExpired now)
  | restart now =>
    cases hstep
    exact hremoves (removes_pruneExpired now)

/-! ## A session that fills the store -/

def sampleSession : String := "6f1e0c52-9a43-4c1b-8d0e-2b7a51c9e304"

/-- The id of an attachment of it, character by character. -/
def sampleDigits (i : ℕ) : List Char :=
  Char.ofNat (hexDigit i) :: List.replicate 7 '0' ++ '-' :: List.replicate 4 '0' ++
    '-' :: '4' :: List.replicate 3 '0' ++ '-' :: '8' :: List.replicate 3 '0' ++ '-' :: List.replicate 12 '0'

def sampleId (i : ℕ) : String := String.ofList (sampleDigits i)

lemma isId_sampleId {i : ℕ} (hi : i < 11) : isId (sampleId i) = true := by
  have hall : ∀ j < 11, (idPattern (sampleDigits j)).any List.isEmpty = true := by decide
  rw [isId, sampleId, String.toList_ofList]
  exact hall i hi

lemma sampleId_ne {i j : ℕ} (hi : i < 11) (hj : j < i) : sampleId j ≠ sampleId i := by
  have hall : ∀ i < 11, ∀ j < i, Char.ofNat (hexDigit j) ≠ Char.ofNat (hexDigit i) := by decide
  intro heq
  have hdigits := congrArg String.toList heq
  rw [sampleId, sampleId, String.toList_ofList, String.toList_ofList] at hdigits
  exact hall i hi j hj (List.cons.inj hdigits).1

def nuls : List ℕ := List.replicate maxAttachmentBytes 0

def sampleSha256 (content : List ℕ) : String :=
  if content = points "a\n" then "87428fc522803d31065e7bce3cf03fe475096631e5e07bbd7a0fde60c4cf25c7"
  else "30e14955ebf1352266dc2ff8067e68104607e750abb9d3b36582b8af909fcb58"

def sampleMetadata (i : ℕ) : AttachmentMetadata where
  id := sampleId i
  sessionId := sampleSession
  mimeType := .textPlain
  bytes := 1048576
  sha256 := "30e14955ebf1352266dc2ff8067e68104607e750abb9d3b36582b8af909fcb58"
  createdAt := 1750000000000

def sampleRecord (i : ℕ) : AttachmentRecord := ⟨sampleMetadata i, nuls⟩

def samplePut (i : ℕ) : Move := .put 1750000000000 (sampleId i) .file sampleSession "text/plain" nuls

lemma byteLength_nuls : byteLength nuls = 1048576 := byteLength_replicate _ _

lemma newRecord_nuls (i : ℕ) :
    newRecord sampleSha256 1750000000000 (sampleId i) sampleSession .textPlain nuls = sampleRecord i := by
  have hother : nuls ≠ points "a\n" := by
    intro heq
    have hlength := congrArg byteLength heq
    rw [byteLength_nuls] at hlength
    exact absurd hlength (by decide)
  rw [newRecord, byteLength_nuls, sampleSha256, if_neg hother]
  rfl

lemma byteLength_sampleId {i : ℕ} (hi : i < 11) : byteLength (quote (points (sampleId i))) = 38 := by
  have hall : ∀ j < 11, byteLength (quote ((sampleDigits j).map Char.toNat)) = 38 := by decide
  rw [points, sampleId, String.toList_ofList]
  exact hall i hi

lemma byteLength_opening {i : ℕ} (hi : i < 11) : byteLength (sampleMetadata i).opening = 267 := by
  have hfirst : byteLength (sampleMetadata 0).opening = 267 := by decide +kernel
  have hid := byteLength_sampleId hi
  have hid₀ : byteLength (quote (points (sampleId 0))) = 38 := byteLength_sampleId (Nat.zero_lt_succ _)
  simp only [AttachmentMetadata.opening, byteLength_append, sampleMetadata] at hfirst ⊢
  omega

lemma size_sampleRecord {i : ℕ} (hi : i < 11) : (sampleRecord i).size = 6291727 := by
  have hescape : byteLength (escape 0) = 6 := by decide
  have hquote : byteLength (quote nuls) = 1048576 * 6 + 2 := by
    rw [nuls, byteLength_quote_replicate, hescape]
    rfl
  rw [AttachmentRecord.size_eq, sampleRecord, hquote]
  exact congrArg (· + (1048576 * 6 + 2) + 2) (byteLength_opening hi)

structure Filled (n : ℕ) (s : AttachmentStore) : Prop where
  files : s.sessionDir sampleSession = (List.range n).map fun i =>
    (.attachment (sampleId i), ⟨sampleRecord i, 6291727⟩)
  total : s.totalBytes = n * 6291727

lemma Filled.step {n : ℕ} (h : Filled n s) (hn : n < 11) :
    ∃ s', Attachments.step sampleSha256 s (samplePut n) = some s' ∧ Filled (n + 1) s' := by
  have hfresh : ∀ entry ∈ s.sessionDir sampleSession, entry.1.id ≠ sampleId n := by
    intro entry hentry
    rw [h.files] at hentry
    obtain ⟨j, hj, rfl⟩ := List.mem_map.mp hentry
    exact sampleId_ne hn (List.mem_range.mp hj)
  have hcount : s.sessionAttachmentCount sampleSession ≤ n := by
    refine List.countP_le_length.trans (Nat.le_of_eq ?_)
    rw [h.files, List.length_map, List.length_range]
  have haccept : s.accept sampleSession "text/plain" nuls = .ok .textPlain := by
    have hid : isId sampleSession = true := by decide
    have htype : allowedMimeType? "text/plain" = some .textPlain := by decide
    unfold AttachmentStore.accept maxAttachmentBytes maxAttachmentsPerSession maxTotalAttachmentBytes
    rw [hid, htype, byteLength_nuls, h.total]
    dsimp only [Bool.not_true]
    rw [if_neg (by decide), if_neg (by decide), if_neg (by omega), if_neg (by omega)]
  have hput : (s.put sampleSha256 1750000000000 (sampleId n) .file sampleSession "text/plain" nuls).1 =
      s.write (sampleRecord n) .file := by
    rw [← newRecord_nuls, AttachmentStore.put, haccept]
  have hnone : Assoc.get? (.attachment (sampleId n)) (s.sessionDir sampleSession) = none := by
    refine Assoc.get?_eq_none_iff.mpr fun hin => ?_
    obtain ⟨entry, hentry, hname⟩ := List.mem_map.mp hin
    exact hfresh entry hentry (congrArg FileName.id hname)
  have hstep : Attachments.step sampleSha256 s (samplePut n) =
      some (s.write (sampleRecord n) .file) := by
    rw [samplePut, Attachments.step, if_pos ⟨isId_sampleId hn, hfresh⟩, hput]
  refine ⟨_, hstep, ?_⟩
  rw [AttachmentStore.write, size_sampleRecord hn]
  show Filled (n + 1) (withDirectory s sampleSession (Assoc.set (.attachment (sampleId n))
    ⟨sampleRecord n, 6291727⟩ (s.sessionDir sampleSession)))
  constructor
  · show (Assoc.get? sampleSession (Assoc.set sampleSession _ s.sessions)).getD [] = _
    rw [Assoc.get?_set_self, Assoc.set_of_get?_eq_none hnone, Option.getD_some, h.files,
      List.range_succ, List.map_append]
    rfl
  · have hbytes : directoryBytes (Assoc.set (.attachment (sampleId n)) ⟨sampleRecord n, 6291727⟩
        (s.sessionDir sampleSession)) = directoryBytes (s.sessionDir sampleSession) + 6291727 :=
      Assoc.total_set_of_none File.size hnone
    have htotal := totalBytes_withDirectory s sampleSession
      (Assoc.set (.attachment (sampleId n)) ⟨sampleRecord n, 6291727⟩ (s.sessionDir sampleSession))
    have hall := h.total
    omega

lemma exists_filled {n : ℕ} (hn : n ≤ 11) :
    ∃ s, runSteps (step sampleSha256) ((List.range n).map samplePut) {} = some s ∧ Filled n s := by
  induction n with
  | zero => exact ⟨{}, rfl, rfl, rfl⟩
  | succ n ih =>
    obtain ⟨s, hrun, hfilled⟩ := ih (Nat.le_of_succ_le hn)
    obtain ⟨s', hstep, hfilled'⟩ := hfilled.step hn
    refine ⟨s', ?_, hfilled'⟩
    rw [List.range_succ, List.map_append, runSteps_append, hrun, List.map_singleton, Option.bind_some,
      runSteps, hstep, Option.bind_some, runSteps]

variable {moves : List Move}

/-- **Quotas of the attachment store.**  A store is within its quotas in every state of a run
exactly if what each admitted `put` writes has room. -/
theorem keepsQuotas_iff (hrun : runSteps (step sha256) moves {} = some s') :
    EveryState (step sha256) WithinQuotas moves {} ↔
      AlongRun (step sha256) (PutHasRoom sha256) moves {} := by
  have hinv : StoreInv {} := fun entry hentry => (List.not_mem_nil hentry).elim
  refine everyState_iff_alongRun ?_ ?_ hinv ?_ hrun
  · exact fun s s' move h hstep => (step_spec sha256 h hstep).1
  · exact fun s s' move h hs hstep => (step_spec sha256 h hstep).2 hs
  · exact ⟨Nat.zero_le _, fun _ => Nat.zero_le _, rfl⟩

def sampleMoves : List Move :=
  [.put 1750000000000 (sampleId 0) .file sampleSession "text/plain" (points "a\n"),
    .restart 1750000000002, .deleteForSession sampleSession]

lemma runSteps_sampleMoves : runSteps (step sampleSha256) sampleMoves {} = some {} := by
  decide +kernel

theorem keepsQuotas_iff_sample :
    EveryState (step sampleSha256) WithinQuotas sampleMoves {} ↔
      AlongRun (step sampleSha256) (PutHasRoom sampleSha256) sampleMoves {} :=
  keepsQuotas_iff sampleSha256 runSteps_sampleMoves

theorem not_withinQuotas_nuls :
    ∃ s, runSteps (step sampleSha256) ((List.range 11).map samplePut) {} = some s ∧ ¬WithinQuotas s := by
  obtain ⟨s, hrun, hfilled⟩ := exists_filled (Nat.le_refl 11)
  refine ⟨s, hrun, fun hs => ?_⟩
  have htotal := hs.total
  rw [hfilled.total] at htotal
  exact absurd htotal (by decide)

end VacancyRadar.Attachments
