import VacancyRadar.Form.Apply

/-!
# The record and the page

What `summarisePreparedFields` records of a form is compared with what was done to its page.
-/

namespace VacancyRadar.Form

open Data Workspace

/-! ## What was written -/

def PageCall.target? : PageCall → Option Ref
  | fill fieldRef _ | select fieldRef _ | attach fieldRef _ => some fieldRef
  | readBack _ _ => none

def PageCall.held? (snapshot : FormSnapshot) : PageCall → Option (Ref × String)
  | fill fieldRef value => some (fieldRef, value)
  | select fieldRef optionRef =>
    ((findSnapshotField snapshot fieldRef).bind fun field => findSnapshotOption field optionRef).map
      fun option => (fieldRef, option.label)
  | attach _ _ => none
  | readBack fieldRef reported =>
    reported.map fun name => (fieldRef, sliceUnits name maxReportedAttachmentNameLength)

def lastWritten (snapshot : FormSnapshot) (calls : List PageCall) : Assoc Ref String :=
  Assoc.ofEntries (calls.filterMap (PageCall.held? snapshot))

/-- A row tells the truth about a field: it is about that field, what it says was committed is the
value last written, and it does not say that a field that was written to was left. -/
structure Tells (snapshot : FormSnapshot) (calls : List PageCall) (field : SnapshotField)
    (row : PreparedField) : Prop where
  label : row.label = field.label
  controlType : row.controlType = field.controlType
  required : row.required = field.required
  committed : ∀ value provenance, row.status = .committed value provenance →
    (lastWritten snapshot calls).get? field.fieldRef = some value
  written : some field.fieldRef ∈ calls.map PageCall.target? →
    ∀ detail, row.status ≠ .leftBlank detail ∧ row.status ≠ .awaitingYou detail

def Truthful (snapshot : FormSnapshot) (calls : List PageCall) (rows : List PreparedField) : Prop :=
  List.Forall₂ (Tells snapshot calls) snapshot.fields rows

/-! ## What the phases do -/

lemma bind_eq_done {α β : Type} {m : PageM α} {f : α → PageM β} {calls calls' : List PageCall} {b : β}
    (h : (m >>= f) calls = .ok b calls') : ∃ a middle, m calls = .ok a middle ∧ f a middle = .ok b calls' := by
  change EStateM.bind m f calls = _ at h
  unfold EStateM.bind at h
  split at h
  · next a middle hm => exact ⟨a, middle, hm, h⟩
  · cases h

variable {session : ReviewSession} {input : ApplyInput} {calls calls' : List PageCall}
  {assignments : List FieldAssignment}

lemma stopIfFencedOut_done (h : stopIfFencedOut session calls = .ok () calls') : calls' = calls := by
  change (if (!session.stillLive calls) = true then (throw ApplyStop.abandoned : PageM Unit) else pure ())
    calls = _ at h
  split at h <;> cases h
  rfl

lemma perform_done {α : Type} {answer : List PageCall → Except ExecutorError α} {call : PageCall} {a : α}
    (h : perform answer call calls = .ok a calls') : calls' = calls ++ [call] := by
  obtain ⟨_, middle, hget, h⟩ := bind_eq_done h
  cases hget
  rcases hanswer : answer calls with (message | message) | a <;> simp only [hanswer] at h <;> cases h
  rfl

def writeOf (valueTable : List ValueTableEntry) (assignment : FieldAssignment) : Option PageCall :=
  match assignment.source with
  | .value valueRef =>
    ((valueByRef valueTable).get? valueRef).map fun entry => .fill assignment.fieldRef entry.value
  | .option optionRef => some (.select assignment.fieldRef optionRef)
  | .artifact _ | .skip _ => none

variable {counts counts' : WriteCounts} {planned : List (Ref × UploadReadyArtifact)} {letters : Letters}
  {acc : List FieldAssignment × List Ref} {valueTable : List ValueTableEntry}

lemma writeFields_done (h : writeFields session input assignments counts calls = .ok counts' calls') :
    calls' = calls ++ assignments.filterMap (writeOf input.valueTable) := by
  induction assignments generalizing counts calls with
  | nil =>
    cases h
    rw [List.filterMap_nil, List.append_nil]
  | cons assignment rest ih =>
    obtain ⟨fieldRef, source⟩ := assignment
    cases source with
    | value valueRef =>
      obtain ⟨⟨⟩, middle, hlive, h⟩ := bind_eq_done h
      rw [stopIfFencedOut_done hlive] at h
      cases hget : (valueByRef input.valueTable).get? valueRef with
      | none =>
        simp only [hget] at h
        cases h
      | some entry =>
        simp only [hget] at h
        obtain ⟨status, middle, hfill, h⟩ := bind_eq_done h
        rw [ih h, perform_done hfill, List.append_assoc]
        simp only [List.filterMap_cons, writeOf, hget]
        rfl
    | option optionRef =>
      obtain ⟨⟨⟩, middle, hlive, h⟩ := bind_eq_done h
      rw [stopIfFencedOut_done hlive] at h
      obtain ⟨status, middle, hselect, h⟩ := bind_eq_done h
      rw [ih h, perform_done hselect, List.append_assoc]
      rfl
    | artifact artifactId => exact ih h
    | skip reason => exact ih h

lemma planAttachments_done (h : planAttachments session assignments calls = .ok planned calls') :
    calls' = calls ∧
      planned.map Prod.fst = (assignments.filter FieldAssignment.isArtifact).map FieldAssignment.fieldRef := by
  induction assignments generalizing planned calls with
  | nil =>
    cases h
    exact ⟨rfl, rfl⟩
  | cons assignment rest ih =>
    obtain ⟨fieldRef, source⟩ := assignment
    cases source with
    | artifact artifactId =>
      obtain ⟨⟨⟩, middle, hlive, h⟩ := bind_eq_done h
      rw [stopIfFencedOut_done hlive] at h
      obtain ⟨_, middle, hget, h⟩ := bind_eq_done h
      cases hget
      cases hresolve : session.resolveUploadArtifact calls artifactId with
      | error refusal =>
        simp only [hresolve] at h
        cases h
      | ok file =>
        simp only [hresolve] at h
        split at h
        · obtain ⟨_, _, hthrow, -⟩ := bind_eq_done h
          cases hthrow
        · obtain ⟨others, middle, hrest, h⟩ := bind_eq_done h
          cases h
          obtain ⟨rfl, hothers⟩ := ih hrest
          exact ⟨rfl, congrArg (fieldRef :: ·) hothers⟩
    | value valueRef => exact ih h
    | option optionRef => exact ih h
    | skip reason => exact ih h

lemma attachFile_done {fieldRef : Ref} {file : UploadReadyArtifact}
    (h : attachFile session fieldRef file calls = .ok () calls') :
    calls' = calls ++ [.attach fieldRef file] := by
  obtain ⟨_, _, hget, h⟩ := bind_eq_done h
  cases hget
  rcases hanswer : session.attach calls fieldRef file with (message | message) | ⟨⟨⟩⟩ <;>
    simp only [hanswer] at h <;> cases h
  rfl

lemma attachFiles_done {attachments : List AttachmentResult} (snapshot : FormSnapshot)
    (h : attachFiles session planned counts calls = .ok (attachments, counts') calls') :
    ∃ uploads, calls' = calls ++ uploads ∧
      attachments.map AttachmentResult.fieldRef = planned.map Prod.fst ∧
      uploads.filterMap PageCall.target? = planned.map Prod.fst ∧
      uploads.filterMap (PageCall.held? snapshot) =
        attachments.map fun attachment => (attachment.fieldRef, attachment.attachedFileName) := by
  induction planned generalizing counts calls attachments with
  | nil =>
    cases h
    exact ⟨[], (List.append_nil _).symm, rfl, rfl, rfl⟩
  | cons plan rest ih =>
    obtain ⟨fieldRef, file⟩ := plan
    obtain ⟨⟨⟩, middle, hlive, h⟩ := bind_eq_done h
    rw [stopIfFencedOut_done hlive] at h
    obtain ⟨⟨⟩, middle, hattach, h⟩ := bind_eq_done h
    rw [attachFile_done hattach] at h
    obtain ⟨_, _, hget, h⟩ := bind_eq_done h
    cases hget
    obtain ⟨⟨⟩, _, hmodify, h⟩ := bind_eq_done h
    cases hmodify
    generalize hname : Option.filter _ (session.readBackAttachment _ _) = reported at h
    cases reported with
    | none => cases h
    | some name =>
      obtain ⟨hreported, -⟩ := Option.filter_eq_some_iff.mp hname
      obtain ⟨⟨others, counts'⟩, last, hrest, h⟩ := bind_eq_done h
      cases h
      obtain ⟨uploads, hcalls, hfields, htargets, hheld⟩ := ih hrest
      refine ⟨.attach fieldRef file :: .readBack fieldRef (some name) :: uploads, ?_,
        congrArg (fieldRef :: ·) hfields, congrArg (fieldRef :: ·) htargets, ?_⟩
      · rw [hcalls, hreported, List.append_assoc, List.append_assoc]
        rfl
      · exact congrArg ((fieldRef, sliceUnits name maxReportedAttachmentNameLength) :: ·) hheld

def ApplyInput.validation (input : ApplyInput) (session : ReviewSession) (snapshot : FormSnapshot) :
    ValidateInput :=
  { raw := input.fieldMap, attemptId := input.attemptId, snapshot, valueTable := input.valueTable
    ownedArtifactIds := session.ownedArtifactIds, allowJdProvenance := input.allowJdProvenance }

structure WrittenOut (snapshot : FormSnapshot) (valueTable : List ValueTableEntry) (fieldMap : FieldMap)
    (attachments : List AttachmentResult) (calls : List PageCall) where
  uploads : List PageCall
  calls_eq : calls = fieldMap.assignments.filterMap (writeOf valueTable) ++ uploads
  fields : attachments.map AttachmentResult.fieldRef =
    (fieldMap.assignments.filter FieldAssignment.isArtifact).map FieldAssignment.fieldRef
  targets : uploads.filterMap PageCall.target? = attachments.map AttachmentResult.fieldRef
  held : uploads.filterMap (PageCall.held? snapshot) =
    attachments.map fun attachment => (attachment.fieldRef, attachment.attachedFileName)

variable {snapshot : FormSnapshot}

lemma applyApplicationFieldMap_done {applied : Applied}
    (hsnapshot : session.currentSnapshot = some snapshot)
    (h : applyApplicationFieldMap (some session) input [] = .ok applied calls) :
    ∃ fieldMap, Accepted (input.validation session snapshot) fieldMap ∧
      Nonempty (WrittenOut snapshot input.valueTable fieldMap applied.attachments calls) := by
  unfold applyApplicationFieldMap at h
  simp only [hsnapshot] at h
  cases hvalid : validateFieldMap (input.validation session snapshot) with
  | error refusal =>
    simp only [ApplyInput.validation] at hvalid
    rw [hvalid] at h
    cases h
  | ok fieldMap =>
    have hfound := hvalid
    simp only [ApplyInput.validation] at hfound
    rw [hfound] at h
    obtain ⟨planned, middle, hplan, h⟩ := bind_eq_done h
    obtain ⟨rfl, hplanned⟩ := planAttachments_done hplan
    obtain ⟨counts, middle, hwrite, h⟩ := bind_eq_done h
    rw [writeFields_done hwrite] at h
    obtain ⟨⟨attachments, counts'⟩, last, hattach, h⟩ := bind_eq_done h
    obtain ⟨uploads, hcalls, hfields, htargets, hheld⟩ := attachFiles_done snapshot hattach
    obtain ⟨_, _, hget, h⟩ := bind_eq_done h
    cases hget
    cases h
    exact ⟨fieldMap, validateFieldMap_eq_ok.mp hvalid,
      ⟨uploads, hcalls, hfields.trans hplanned, htargets.trans hfields.symm, hheld⟩⟩

/-! ## The maps that are applied -/

inductive Narrowed (letters : Letters) (snapshot : FormSnapshot) : SanitisedFieldMap → Prop
  | generated (fieldMap : FieldMap) (artifacts : List Artifact) :
      Narrowed letters snapshot (sanitiseGeneratedFieldMap letters fieldMap snapshot artifacts)
  | deterministic (fieldMap : FieldMap) :
      Narrowed letters snapshot (sanitiseDeterministicFieldMap fieldMap)

structure Consistent (snapshot : FormSnapshot) (assignments : List FieldAssignment)
    (uploads options : List Ref) : Prop where
  options : ∀ assignment ∈ assignments, assignment.isOption = true → assignment.fieldRef ∉ options
  uploads : ∀ fieldRef ∈ uploads,
    (∃ assignment ∈ assignments, assignment.isArtifact = true ∧ assignment.fieldRef = fieldRef) ∨
      ∃ field ∈ snapshot.fields, field.fieldRef = fieldRef ∧ field.controlType = .file

lemma Consistent.assigned {artifacts : List Artifact} {options : List Ref}
    {fields : List SnapshotField} (hfields : ∀ field ∈ fields, field ∈ snapshot.fields)
    (h : Consistent snapshot acc.1 acc.2 options) :
    Consistent snapshot (assignUploads letters artifacts fields acc).1
      (assignUploads letters artifacts fields acc).2 options := by
  induction fields generalizing acc with
  | nil => exact h
  | cons field rest ih =>
    have hrest := fun f hf => hfields f (List.mem_cons_of_mem _ hf)
    unfold assignUploads
    split
    · exact ih hrest h
    · next hupload =>
      have hfile : field.controlType = .file := by
        simp only [Bool.or_eq_true, not_or, Bool.not_eq_true', Bool.not_eq_false] at hupload
        simp only [isDocumentUploadField, Bool.and_eq_true, beq_iff_eq] at hupload
        exact hupload.1.2
      have hmem := hfields field List.mem_cons_self
      cases chooseArtifactForField letters field artifacts with
      | none =>
        refine ih hrest ⟨h.options, fun fieldRef href => ?_⟩
        rcases List.mem_append.mp href with href | href
        · exact h.uploads fieldRef href
        · exact .inr ⟨field, hmem, (List.mem_singleton.mp href).symm, hfile⟩
      | some artifact =>
        refine ih hrest ⟨fun assignment hassignment hoption => ?_, fun fieldRef href => ?_⟩
        · rcases List.mem_append.mp hassignment with hassignment | hassignment
          · exact h.options assignment hassignment hoption
          · rw [List.mem_singleton.mp hassignment] at hoption
            cases hoption
        · rcases List.mem_append.mp href with href | href
          · refine (h.uploads fieldRef href).imp_left fun ⟨assignment, hassignment, hkind⟩ => ?_
            exact ⟨assignment, List.mem_append_left _ hassignment, hkind⟩
          · exact .inr ⟨field, hmem, (List.mem_singleton.mp href).symm, hfile⟩

lemma Narrowed.consistent {sanitised : SanitisedFieldMap} (h : Narrowed letters snapshot sanitised) :
    Consistent snapshot sanitised.fieldMap.assignments sanitised.uploadFieldRefs
      sanitised.optionFieldRefs := by
  cases h with
  | generated fieldMap artifacts =>
    refine Consistent.assigned (fun _ => id) ⟨fun assignment hassignment hoption => ?_,
      fun fieldRef href => ?_⟩
    · have hnot := (List.mem_filter.mp hassignment).2
      rw [hoption] at hnot
      cases hnot
    · obtain ⟨assignment, hassignment, rfl⟩ := List.mem_map.mp href
      obtain ⟨hmem, hartifact⟩ := List.mem_filter.mp hassignment
      refine .inl ⟨assignment, List.mem_filter.mpr ⟨hmem, ?_⟩, hartifact, rfl⟩
      cases hsource : assignment.source <;>
        simp [FieldAssignment.isOption, FieldAssignment.isArtifact, hsource] at hartifact ⊢
  | deterministic fieldMap =>
    refine ⟨fun _ _ _ => List.not_mem_nil, fun fieldRef href => ?_⟩
    obtain ⟨assignment, hassignment, rfl⟩ := List.mem_map.mp href
    obtain ⟨hmem, hartifact⟩ := List.mem_filter.mp hassignment
    exact .inl ⟨assignment, hmem, hartifact, rfl⟩

/-! ## The record of a map that was applied -/

def FieldAssignment.writes (assignment : FieldAssignment) : Bool :=
  match assignment.source with
  | .value _ | .option _ => true
  | .artifact _ | .skip _ => false

structure Recorded (v : ValidateInput) (s : SummariseInput) (calls : List PageCall) : Prop where
  accepted : Accepted v s.sanitised.fieldMap
  snapshot : v.snapshot = s.snapshot
  valueTable : v.valueTable = s.valueTable.map ApplicationValueTableEntry.toValueTableEntry
  consistent : Consistent s.snapshot s.sanitised.fieldMap.assignments s.sanitised.uploadFieldRefs
    s.sanitised.optionFieldRefs
  written : Nonempty (WrittenOut s.snapshot v.valueTable s.sanitised.fieldMap s.attachments calls)

def Told (s : SummariseInput) (fieldRef : Ref) : Prop :=
  ∀ assignment ∈ s.sanitised.fieldMap.assignments, assignment.writes = true →
    assignment.fieldRef = fieldRef →
    (∀ last, s.assignmentByFieldRef.get? fieldRef = some last → last.source.isSkip = false) ∧
      fieldRef ∉ s.blockedFieldRefs

section Recorded

variable {v : ValidateInput} {s : SummariseInput} {field : SnapshotField} {assignment last : FieldAssignment}

lemma Recorded.allowed (h : Recorded v s calls) (hfield : field ∈ s.snapshot.fields)
    (hassignment : assignment ∈ s.sanitised.fieldMap.assignments)
    (href : assignment.fieldRef = field.fieldRef) :
    field.classification = none ∧ Fits v field assignment.source := by
  obtain ⟨other, hfind, hclass, -, hfits⟩ := h.accepted.allowed assignment hassignment
  rw [h.snapshot, href, findSnapshotField_of_mem hfield] at hfind
  cases hfind
  exact ⟨hclass, hfits⟩

lemma Recorded.not_writes_of_upload (h : Recorded v s calls) (hfield : field ∈ s.snapshot.fields)
    (hupload : field.fieldRef ∈ s.sanitised.uploadFieldRefs ∨ field.controlType = .file)
    (hassignment : assignment ∈ s.sanitised.fieldMap.assignments)
    (href : assignment.fieldRef = field.fieldRef) : assignment.writes = false := by
  have hfile : field.controlType = .file := by
    rcases hupload with hupload | hfile
    · rcases h.consistent.uploads _ hupload with ⟨other, hother, hartifact, hsame⟩ |
        ⟨other, hother, hsame, hfile⟩
      · have hfits := (h.allowed hfield hother hsame).2
        cases hsource : other.source with
        | artifact artifactId =>
          rw [hsource] at hfits
          exact hfits.2
        | _ => simp [FieldAssignment.isArtifact, hsource] at hartifact
      · rwa [← List.inj_on_of_nodup_map s.snapshot.fieldRefs hother hfield hsame]
    · exact hfile
  have hfits := (h.allowed hfield hassignment href).2
  cases hsource : assignment.source with
  | value valueRef =>
    rw [hsource] at hfits
    exact absurd hfile hfits.2.1
  | option optionRef =>
    rw [hsource] at hfits
    obtain ⟨option, hoption⟩ := hfits
    -- a file input has no options
    have hnone : field.options = none := by
      by_contra hsome
      rcases field.hasOptions hsome with hselect | hradio
      · rw [hselect] at hfile
        cases hfile
      · rw [hradio] at hfile
        cases hfile
    rw [findSnapshotOption, hnone] at hoption
    cases hoption
  | artifact artifactId => simp [FieldAssignment.writes, hsource]
  | skip reason => simp [FieldAssignment.writes, hsource]

variable {call : PageCall}

lemma target_of_writeOf (h : writeOf valueTable assignment = some call) :
    call.target? = some assignment.fieldRef ∧ assignment.writes = true := by
  unfold writeOf at h
  unfold FieldAssignment.writes
  split at h
  · obtain ⟨entry, -, rfl⟩ := Option.map_eq_some_iff.mp h
    exact ⟨rfl, rfl⟩
  · cases h
    exact ⟨rfl, rfl⟩
  · cases h
  · cases h

lemma fst_of_held {entry : Ref × String} (h : writeOf valueTable assignment = some call)
    (hheld : call.held? snapshot = some entry) : entry.1 = assignment.fieldRef:= by
  unfold writeOf at h
  split at h
  · obtain ⟨value, -, rfl⟩ := Option.map_eq_some_iff.mp h
    cases hheld
    rfl
  · cases h
    obtain ⟨option, -, rfl⟩ := Option.map_eq_some_iff.mp hheld
    rfl
  · cases h
  · cases h

lemma Recorded.exists_writeOf (h : Recorded v s calls) (hfield : field ∈ s.snapshot.fields)
    (hassignment : assignment ∈ s.sanitised.fieldMap.assignments)
    (href : assignment.fieldRef = field.fieldRef) (hwrites : assignment.writes = true) :
    ∃ call, writeOf v.valueTable assignment = some call := by
  have hfits := (h.allowed hfield hassignment href).2
  unfold writeOf
  cases hsource : assignment.source with
  | value valueRef =>
    rw [hsource] at hfits
    obtain ⟨⟨entry, hentry, -⟩, -⟩ := hfits
    exact ⟨_, by simp only [hentry, Option.map_some]; rfl⟩
  | option optionRef => exact ⟨_, rfl⟩
  | artifact artifactId => simp [FieldAssignment.writes, hsource] at hwrites
  | skip reason => simp [FieldAssignment.writes, hsource] at hwrites

lemma Recorded.mem_targets (h : Recorded v s calls) (hfield : field ∈ s.snapshot.fields) :
    some field.fieldRef ∈ calls.map PageCall.target? ↔
      (∃ assignment ∈ s.sanitised.fieldMap.assignments, assignment.writes = true ∧
        assignment.fieldRef = field.fieldRef) ∨
      field.fieldRef ∈ s.attachments.map AttachmentResult.fieldRef := by
  obtain ⟨w⟩ := h.written
  have huploads : some field.fieldRef ∈ w.uploads.map PageCall.target? ↔
      field.fieldRef ∈ s.attachments.map AttachmentResult.fieldRef := by
    rw [← w.targets, List.mem_filterMap, List.mem_map]
  rw [w.calls_eq, List.map_append, List.mem_append, huploads]
  refine or_congr_left ⟨fun hmem => ?_, fun ⟨assignment, hassignment, hwrites, href⟩ => ?_⟩
  · obtain ⟨call, hcall, htarget⟩ := List.mem_map.mp hmem
    obtain ⟨assignment, hassignment, hwrite⟩ := List.mem_filterMap.mp hcall
    obtain ⟨hsame, hwrites⟩ := target_of_writeOf hwrite
    exact ⟨assignment, hassignment, hwrites, Option.some.inj (hsame.symm.trans htarget)⟩
  · obtain ⟨call, hwrite⟩ := h.exists_writeOf hfield hassignment href hwrites
    refine List.mem_map.mpr ⟨call, List.mem_filterMap.mpr ⟨assignment, hassignment, hwrite⟩, ?_⟩
    rw [(target_of_writeOf hwrite).1, href]

lemma Recorded.lastWritten_of_attachment (h : Recorded v s calls) {attachment : AttachmentResult}
    (hget : s.attachmentByFieldRef.get? field.fieldRef = some attachment) :
    (lastWritten s.snapshot calls).get? field.fieldRef = some attachment.attachedFileName := by
  obtain ⟨w⟩ := h.written
  rw [lastWritten, w.calls_eq, List.filterMap_append, w.held]
  refine Assoc.get?_ofEntries_append_of_some ?_
  have hmap := Assoc.get?_ofEntries_map AttachmentResult.attachedFileName field.fieldRef
    (s.attachments.map fun a => (a.fieldRef, a))
  rw [List.map_map] at hmap
  have hname : (s.attachmentByFieldRef.get? field.fieldRef).map AttachmentResult.attachedFileName =
      some attachment.attachedFileName := by
    rw [hget]
    rfl
  exact hmap.trans hname

lemma Recorded.lastWritten_of_last (h : Recorded v s calls) (call : PageCall) {text : String}
    (hnone : s.attachmentByFieldRef.get? field.fieldRef = none)
    (hlast : s.assignmentByFieldRef.get? field.fieldRef = some last)
    (hwrite : writeOf v.valueTable last = some call)
    (hheld : call.held? s.snapshot = some (field.fieldRef, text)) :
    (lastWritten s.snapshot calls).get? field.fieldRef = some text := by
  obtain ⟨w⟩ := h.written
  rw [lastWritten, w.calls_eq, List.filterMap_append, w.held,
    Assoc.get?_ofEntries_append_of_none]
  · obtain ⟨l, r, hsplit, hr⟩ := Assoc.get?_ofEntries_eq_some.mp hlast
    obtain ⟨before, rest, hassignments, rfl, hrest⟩ := List.map_eq_append_iff.mp hsplit
    obtain ⟨head, after, rfl, hhead, rfl⟩ := List.map_eq_cons_iff.mp hrest
    obtain ⟨-, rfl⟩ := Prod.mk.inj hhead
    rw [hassignments, List.filterMap_append, List.filterMap_append, List.filterMap_cons_some hwrite,
      List.filterMap_cons_some hheld]
    refine Assoc.get?_ofEntries_eq_some.mpr ⟨_, _, rfl, fun entry hentry => ?_⟩
    obtain ⟨later, hlater, hentry⟩ := List.mem_filterMap.mp hentry
    obtain ⟨assignment, hassignment, hlater⟩ := List.mem_filterMap.mp hlater
    rw [fst_of_held hlater hentry]
    exact hr _ (List.mem_map.mpr ⟨assignment, hassignment, rfl⟩)
  · rw [Assoc.get?_ofEntries_eq_none]
    intro entry hentry
    obtain ⟨attachment, hattachment, rfl⟩ := List.mem_map.mp hentry
    exact Assoc.get?_ofEntries_eq_none.mp hnone _ (List.mem_map.mpr ⟨attachment, hattachment, rfl⟩)

lemma tells_committed (value : String) (provenance : Provenance)
    (hstatus : s.status field = .committed value provenance)
    (hlast : (lastWritten s.snapshot calls).get? field.fieldRef = some value) :
    Tells s.snapshot calls field (s.preparedField field) where
  label := rfl
  controlType := rfl
  required := rfl
  committed := fun value' provenance' heq => by
    cases hstatus.symm.trans heq
    exact hlast
  written := fun _ detail => by
    show s.status field ≠ _ ∧ s.status field ≠ _
    rw [hstatus]
    exact ⟨nofun, nofun⟩

lemma tells_left_iff
    (hstatus : ∃ detail, s.status field = .leftBlank detail ∨ s.status field = .awaitingYou detail) :
    Tells s.snapshot calls field (s.preparedField field) ↔
      some field.fieldRef ∉ calls.map PageCall.target? := by
  obtain ⟨detail, hstatus⟩ := hstatus
  constructor
  · intro h hwritten
    rcases hstatus with hstatus | hstatus
    · exact (h.written hwritten detail).1 hstatus
    · exact (h.written hwritten detail).2 hstatus
  · refine fun hnot => ⟨rfl, rfl, rfl, fun value provenance heq => ?_, fun hwritten => absurd hwritten hnot⟩
    change s.status field = _ at heq
    rcases hstatus with hstatus | hstatus <;> rw [hstatus] at heq <;> cases heq

lemma tells_pendingUpload (detail : String) (hstatus : s.status field = .pendingUpload detail) :
    Tells s.snapshot calls field (s.preparedField field) where
  label := rfl
  controlType := rfl
  required := rfl
  committed := fun value provenance heq => by cases hstatus.symm.trans heq
  written := fun _ detail => by
    show s.status field ≠ _ ∧ s.status field ≠ _
    rw [hstatus]
    exact ⟨nofun, nofun⟩

lemma exists_left_of_unanswered (s : SummariseInput) (field : SnapshotField) :
    ∃ detail, s.unansweredStatus field = .leftBlank detail ∨
      s.unansweredStatus field = .awaitingYou detail := by
  unfold SummariseInput.unansweredStatus
  split
  · exact ⟨_, .inr rfl⟩
  · split
    · exact ⟨_, .inr rfl⟩
    · exact ⟨_, .inl rfl⟩

lemma Recorded.exists_artifact (h : Recorded v s calls)
    (hmem : field.fieldRef ∈ s.attachments.map AttachmentResult.fieldRef) :
    ∃ assignment ∈ s.sanitised.fieldMap.assignments, assignment.isArtifact = true ∧
      assignment.fieldRef = field.fieldRef := by
  obtain ⟨w⟩ := h.written
  rw [w.fields] at hmem
  obtain ⟨assignment, hassignment, href⟩ := List.mem_map.mp hmem
  obtain ⟨hassignment, hartifact⟩ := List.mem_filter.mp hassignment
  exact ⟨assignment, hassignment, hartifact, href⟩

/-- Nothing went into a field to which nothing is assigned but documents and `skip`. -/
lemma told_of_not_writes (hnot : ∀ assignment ∈ s.sanitised.fieldMap.assignments,
    assignment.fieldRef = field.fieldRef → assignment.writes = false) : Told s field.fieldRef := by
  intro assignment hassignment hwrites href
  rw [hnot assignment hassignment href] at hwrites
  cases hwrites

lemma Recorded.tells_left_iff_told (h : Recorded v s calls) (hfield : field ∈ s.snapshot.fields)
    (hnone : s.attachmentByFieldRef.get? field.fieldRef = none)
    (hstatus : ∃ detail, s.status field = .leftBlank detail ∨ s.status field = .awaitingYou detail)
    (htold : ¬ ∃ last, s.assignmentByFieldRef.get? field.fieldRef = some last ∧
      last.source.isSkip = false ∧ field.fieldRef ∉ s.blockedFieldRefs) :
    Tells s.snapshot calls field (s.preparedField field) ↔ Told s field.fieldRef := by
  have hattached : field.fieldRef ∉ s.attachments.map AttachmentResult.fieldRef := by
    intro hmem
    obtain ⟨attachment, hattachment, href⟩ := List.mem_map.mp hmem
    exact Assoc.get?_ofEntries_eq_none.mp hnone _ (List.mem_map.mpr ⟨attachment, hattachment, rfl⟩) href
  rw [tells_left_iff hstatus, h.mem_targets hfield, or_iff_left hattached]
  constructor
  · intro hnot assignment hassignment hwrites href
    exact absurd ⟨assignment, hassignment, hwrites, href⟩ hnot
  · rintro hall ⟨assignment, hassignment, hwrites, href⟩
    obtain ⟨hskip, hblocked⟩ := hall assignment hassignment hwrites href
    cases hlast : s.assignmentByFieldRef.get? field.fieldRef with
    | none =>
      exact Assoc.get?_ofEntries_eq_none.mp hlast _ (List.mem_map.mpr ⟨assignment, hassignment, rfl⟩) href
    | some last => exact htold ⟨last, hlast, hskip last hlast, hblocked⟩

lemma mem_of_last (hlast : s.assignmentByFieldRef.get? field.fieldRef = some last) :
    last ∈ s.sanitised.fieldMap.assignments ∧ last.fieldRef = field.fieldRef := by
  obtain ⟨l, r, hsplit, -⟩ := Assoc.get?_ofEntries_eq_some.mp hlast
  have hmem : (field.fieldRef, last) ∈
      s.sanitised.fieldMap.assignments.map fun a => (a.fieldRef, a) := by
    rw [hsplit]
    exact List.mem_append_right _ List.mem_cons_self
  obtain ⟨other, hother, heq⟩ := List.mem_map.mp hmem
  obtain ⟨href, rfl⟩ := Prod.mk.inj heq
  exact ⟨hother, href⟩

lemma Recorded.exists_row (h : Recorded v s calls) {valueRef : Ref} {entry : ValueTableEntry}
    (hentry : (Form.valueByRef v.valueTable).get? valueRef = some entry) :
    ∃ row, s.valueByRef.get? valueRef = some row ∧ row.toValueTableEntry = entry := by
  have hmap := Assoc.get?_ofEntries_map ApplicationValueTableEntry.toValueTableEntry valueRef
    (s.valueTable.map fun row => (row.valueRef, row))
  rw [Form.valueByRef, h.valueTable, List.map_map] at hentry
  rw [List.map_map] at hmap
  exact Option.map_eq_some_iff.mp (hmap.symm.trans hentry)

lemma told_of_last (hlast : s.assignmentByFieldRef.get? field.fieldRef = some last)
    (hskip : last.source.isSkip = false) (hblocked : field.fieldRef ∉ s.blockedFieldRefs) :
    Told s field.fieldRef := by
  refine fun _ _ _ _ => ⟨fun other hother => ?_, hblocked⟩
  cases hlast.symm.trans hother
  exact hskip

lemma Recorded.tells_answered_iff (h : Recorded v s calls) (hfield : field ∈ s.snapshot.fields)
    (hnone : s.attachmentByFieldRef.get? field.fieldRef = none)
    (hfile : field.controlType ≠ .file)
    (hstatus : s.status field = s.answeredStatus field) :
    Tells s.snapshot calls field (s.preparedField field) ↔ Told s field.fieldRef := by
  cases hlast : s.assignmentByFieldRef.get? field.fieldRef with
  | none =>
    refine h.tells_left_iff_told hfield hnone ?_ (by rw [hlast]; nofun)
    rw [hstatus, SummariseInput.answeredStatus, hlast]
    exact exists_left_of_unanswered s field
  | some last =>
    obtain ⟨hmem, href⟩ := mem_of_last hlast
    have hfits := (h.allowed hfield hmem href).2
    cases hsource : last.source with
    | value valueRef =>
      rw [hsource] at hfits
      obtain ⟨⟨entry, hentry, -⟩, -⟩ := hfits
      obtain ⟨row, hrow, rfl⟩ := h.exists_row hentry
      by_cases hblocked : field.fieldRef ∈ s.blockedFieldRefs
      · refine h.tells_left_iff_told hfield hnone ?_ fun ⟨_, _, _, hnot⟩ => hnot hblocked
        simp only [hstatus, SummariseInput.answeredStatus, hlast, Option.map_some, hsource, hrow,
          if_pos hblocked]
        exact ⟨_, .inr rfl⟩
      · refine iff_of_true (tells_committed row.value row.provenance ?_ ?_)
          (told_of_last hlast (by rw [hsource]; rfl) hblocked)
        · simp only [hstatus, SummariseInput.answeredStatus, hlast, Option.map_some, hsource, hrow,
            if_neg hblocked]
        · refine h.lastWritten_of_last (.fill last.fieldRef row.value) hnone hlast ?_ ?_
          · simp only [writeOf, hsource, hentry, Option.map_some]
          · rw [href]
            rfl
    | option optionRef =>
      rw [hsource] at hfits
      obtain ⟨option, hoption⟩ := hfits
      have hkept : field.fieldRef ∉ s.sanitised.optionFieldRefs := by
        rw [← href]
        exact h.consistent.options last hmem (by rw [FieldAssignment.isOption, hsource])
      by_cases hblocked : field.fieldRef ∈ s.blockedFieldRefs
      · refine h.tells_left_iff_told hfield hnone ?_ fun ⟨_, _, _, hnot⟩ => hnot hblocked
        simp only [hstatus, SummariseInput.answeredStatus, hlast, Option.map_some, hsource,
          if_neg hkept, hoption, if_pos hblocked]
        exact ⟨_, .inr rfl⟩
      · refine iff_of_true (tells_committed option.label .userAnswer ?_ ?_)
          (told_of_last hlast (by rw [hsource]; rfl) hblocked)
        · simp only [hstatus, SummariseInput.answeredStatus, hlast, Option.map_some, hsource,
            if_neg hkept, hoption, if_neg hblocked]
        · refine h.lastWritten_of_last (.select last.fieldRef optionRef) hnone hlast ?_ ?_
          · simp only [writeOf, hsource]
          · rw [PageCall.held?, href, findSnapshotField_of_mem hfield, Option.bind_some, hoption]
            rfl
    | artifact artifactId =>
      rw [hsource] at hfits
      exact absurd hfits.2 hfile
    | skip reason =>
      refine h.tells_left_iff_told hfield hnone ?_ ?_
      · rw [hstatus, SummariseInput.answeredStatus, hlast, Option.map_some, hsource]
        exact exists_left_of_unanswered s field
      · rintro ⟨other, hother, hskip, -⟩
        cases hlast.symm.trans hother
        rw [hsource] at hskip
        cases hskip

lemma Recorded.tells_iff (h : Recorded v s calls) (hfield : field ∈ s.snapshot.fields) :
    Tells s.snapshot calls field (s.preparedField field) ↔ Told s field.fieldRef := by
  cases hclass : field.classification with
  | some classification =>
    have hnot : ∀ assignment ∈ s.sanitised.fieldMap.assignments,
        assignment.fieldRef ≠ field.fieldRef := by
      intro assignment hassignment href
      rw [(h.allowed hfield hassignment href).1] at hclass
      cases hclass
    refine iff_of_true ?_ (told_of_not_writes fun a ha href => absurd href (hnot a ha))
    rw [tells_left_iff, h.mem_targets hfield]
    · rintro (⟨assignment, hassignment, -, href⟩ | hattached)
      · exact hnot assignment hassignment href
      · obtain ⟨assignment, hassignment, -, href⟩ := h.exists_artifact hattached
        exact hnot assignment hassignment href
    · unfold SummariseInput.status
      rw [hclass]
      cases classification <;> exact ⟨_, .inr rfl⟩
  | none =>
    cases hattachment : s.attachmentByFieldRef.get? field.fieldRef with
    | some attachment =>
      have hmem : field.fieldRef ∈ s.attachments.map AttachmentResult.fieldRef := by
        by_contra hnot
        have hnone : s.attachmentByFieldRef.get? field.fieldRef = none := by
          rw [SummariseInput.attachmentByFieldRef, Assoc.get?_ofEntries_eq_none]
          intro entry hentry heq
          obtain ⟨other, hother, rfl⟩ := List.mem_map.mp hentry
          exact hnot (List.mem_map.mpr ⟨other, hother, heq⟩)
        rw [hnone] at hattachment
        cases hattachment
      obtain ⟨assignment, hassignment, hartifact, href⟩ := h.exists_artifact hmem
      have hfile : field.controlType = .file := by
        have hfits := (h.allowed hfield hassignment href).2
        cases hsource : assignment.source with
        | artifact artifactId =>
          rw [hsource] at hfits
          exact hfits.2
        | _ => simp [FieldAssignment.isArtifact, hsource] at hartifact
      refine iff_of_true (tells_committed _ .cv ?_ (h.lastWritten_of_attachment hattachment))
        (told_of_not_writes fun a ha href => h.not_writes_of_upload hfield (.inr hfile) ha href)
      unfold SummariseInput.status
      rw [hclass, hattachment]
    | none =>
      by_cases hupload : field.fieldRef ∈ s.sanitised.uploadFieldRefs ∨ field.controlType = .file
      · refine iff_of_true (tells_pendingUpload SummariseInput.unconfirmedUpload ?_)
          (told_of_not_writes fun a ha href => h.not_writes_of_upload hfield hupload ha href)
        unfold SummariseInput.status
        rw [hclass, hattachment]
        exact if_pos hupload
      · refine h.tells_answered_iff hfield hattachment (fun hfile => hupload (.inr hfile)) ?_
        unfold SummariseInput.status
        rw [hclass, hattachment]
        exact if_neg hupload

end Recorded

/-! ## The whole form -/

lemma fields_summarisePreparedFields (s : SummariseInput) :
    (summarisePreparedFields s).prepared.fields = s.snapshot.fields.map s.preparedField := by
  have hfold {f : List PreparedField × List String → SnapshotField → List PreparedField × List String}
      (hf : ∀ acc field, (f acc field).1 = acc.1 ++ [s.preparedField field]) (fields : List SnapshotField)
      (acc : List PreparedField × List String) :
      (fields.foldl f acc).1 = acc.1 ++ fields.map s.preparedField := by
    induction fields generalizing acc with
    | nil => exact (List.append_nil _).symm
    | cons field rest ih => rw [List.foldl_cons, ih, hf, List.map_cons, List.append_assoc, List.singleton_append]
  exact hfold (fun _ _ => rfl) s.snapshot.fields ([], [])

def recordInput (snapshot : FormSnapshot) (sanitised : SanitisedFieldMap)
    (valueTable : List ApplicationValueTableEntry) (applied : Applied) (company role : String)
    (preparedAt : ℤ) : SummariseInput :=
  { snapshot, sanitised, valueTable, readinessBlockers := applied.readiness.blockers
    attachments := applied.attachments, company, role, preparedAt }

def applyInput (attemptId : ℕ) (sanitised : SanitisedFieldMap)
    (valueTable : List ApplicationValueTableEntry) (allowJdProvenance : Bool) : ApplyInput :=
  { attemptId, fieldMap := .ok sanitised.fieldMap
    valueTable := valueTable.map ApplicationValueTableEntry.toValueTableEntry, allowJdProvenance }

/-- After a map was applied to its end, the record tells the truth about each field exactly if no
field into which something went is skipped by a later assignment or named by a blocker. -/
theorem truthful_iff_told {letters : Letters} {snapshot : FormSnapshot} {sanitised : SanitisedFieldMap}
    {session : ReviewSession} {valueTable : List ApplicationValueTableEntry} {attemptId : ℕ}
    {allowJdProvenance : Bool} {applied : Applied} {calls : List PageCall} (company role : String)
    (preparedAt : ℤ) (hnarrowed : Narrowed letters snapshot sanitised)
    (hsnapshot : session.currentSnapshot = some snapshot)
    (happlied : applyApplicationFieldMap (some session)
      (applyInput attemptId sanitised valueTable allowJdProvenance) [] = .ok applied calls) :
    Truthful snapshot calls
        (summarisePreparedFields
          (recordInput snapshot sanitised valueTable applied company role preparedAt)).prepared.fields ↔
      ∀ fieldRef, Told (recordInput snapshot sanitised valueTable applied company role preparedAt)
        fieldRef := by
  obtain ⟨fieldMap, haccepted, hwritten⟩ := applyApplicationFieldMap_done hsnapshot happlied
  have hsame : sanitised.fieldMap = fieldMap := Except.ok.inj haccepted.raw
  subst hsame
  have hrecorded : Recorded _ (recordInput snapshot sanitised valueTable applied company role preparedAt)
      calls := ⟨haccepted, rfl, rfl, hnarrowed.consistent, hwritten⟩
  rw [Truthful, fields_summarisePreparedFields, List.forall₂_map_right_iff]
  refine List.forall₂_same.trans ?_
  constructor
  · intro h fieldRef assignment hassignment hwrites href
    obtain ⟨field, hfind, -⟩ := haccepted.allowed assignment hassignment
    have hfield : field ∈ snapshot.fields := List.mem_of_find?_eq_some hfind
    have hsame : field.fieldRef = assignment.fieldRef := by simpa using List.find?_some hfind
    have htold := (hrecorded.tells_iff hfield).mp (h field hfield)
    rw [hsame, href] at htold
    exact htold assignment hassignment hwrites href
  · exact fun h field hfield => (hrecorded.tells_iff hfield).mpr (h field.fieldRef)

/-! ### A field that is filled and then skipped -/

def noteField : SnapshotField where
  fieldRef := 1
  label := "Notes"
  controlType := .text
  required := false
  options := none
  classification := none
  frameId := 0
  formScope := none
  active := true
  hasOptions := no_options
  optionRefs := List.nodup_nil

def noteForm : FormSnapshot where
  generation := 1
  fields := [noteField]
  fieldRefs := List.nodup_singleton _

def obedientPage : ReviewSession where
  policyId := "policy"
  allowsAttach := true
  currentSnapshot := some noteForm
  ownedArtifactIds := []
  stillLive _ := true
  resolveUploadArtifact _ _ := .error ("", "")
  fill _ _ _ := .ok .verified
  select _ _ _ := .ok .verified
  attach _ _ _ := .ok ()
  readBackAttachment _ _ := none
  evaluateReadiness _ := ⟨true, []⟩

def noteMap (later : List FieldAssignment) : SanitisedFieldMap :=
  sanitiseDeterministicFieldMap
    { attemptId := 7, snapshotGeneration := 1, assignments := ⟨1, .value 5⟩ :: later, unmapped := [] }

def noteTable : List ApplicationValueTableEntry :=
  [{ valueRef := 5, value := "By train", provenance := .userAnswer, label := "Notes" }]

def noteApplied : Applied :=
  { appliedCount := 1, verifiedCount := 1, readiness := ⟨true, []⟩, attachments := [] }

/-- The field is filled and confirmed, and is then recorded as left blank. -/
theorem not_truthful_noteMap :
    applyApplicationFieldMap (some obedientPage)
        (applyInput 7 (noteMap [⟨1, .skip .notApplicable⟩]) noteTable false) [] =
      .ok noteApplied [.fill 1 "By train"] ∧
    ¬ Truthful noteForm [.fill 1 "By train"]
      (summarisePreparedFields (recordInput noteForm (noteMap [⟨1, .skip .notApplicable⟩]) noteTable
        noteApplied "ACME" "Developer" 0)).prepared.fields := by
  refine ⟨rfl, fun h => ?_⟩
  have hrow := (List.forall₂_cons.mp h).1
  refine (hrow.written (by decide) ?_).1 ?_
  · exact "optional, and none of your saved details answers it"
  · decide

theorem truthful_iff_told_noteMap :
    Truthful noteForm [.fill 1 "By train"]
      (summarisePreparedFields (recordInput noteForm (noteMap []) noteTable noteApplied "ACME" "Developer"
        0)).prepared.fields := by
  have happlied : applyApplicationFieldMap (some obedientPage) (applyInput 7 (noteMap []) noteTable false)
      [] = .ok noteApplied [.fill 1 "By train"] := rfl
  refine (truthful_iff_told "ACME" "Developer" 0
    (.deterministic _ : Narrowed ascii noteForm (noteMap [])) rfl happlied).mpr ?_
  intro fieldRef assignment hassignment _ href
  refine ⟨fun last hlast => ?_, List.not_mem_nil⟩
  obtain rfl : assignment = ⟨1, .value 5⟩ := List.mem_singleton.mp hassignment
  subst href
  cases hlast
  rfl

end VacancyRadar.Form
