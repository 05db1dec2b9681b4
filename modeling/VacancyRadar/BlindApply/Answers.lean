import VacancyRadar.BlindApply.Runner
import VacancyRadar.Form.Values

/-!
# The answers of a form

`mapBlindApplyAnswers` fills a form from the details of the person and from the answers that they gave
earlier.  A required field that it cannot fill is one to ask for, or one that only the person can handle.
The field map is checked by `validateFieldMap`, which accepts it unless it is too long for a field map.
-/

namespace VacancyRadar.BlindApply

open Data Form Workspace

variable {artifacts : List Artifact} {kind : Workspace.ArtifactKind} {a : Artifact}
  {e : ApplicationValueTableEntry} {assignment : FieldAssignment}
  {valueTable : List ApplicationValueTableEntry}

/-! ## Questions -/

/-- How labels are read, and the SHA-256 digest of a list of texts, written as JSON. -/
structure Reading where
  letters : Letters
  sha256 : List String → BitVec 256

def Reading.optionSetHashOf (reading : Reading) (optionLabels : List String) : String :=
  hex 64 (reading.sha256 (sortTexts (optionLabels.map reading.letters.normalizeBlindLabel))).toNat

def Reading.blindAnswerKey (reading : Reading) (label : String) (controlType : ControlType)
    (optionSetHash : Option String) : String :=
  controlType.spelling ++ "::" ++ reading.letters.normalizeBlindLabel label ++ "::" ++ optionSetHash.getD ""

def verificationCodeLabel (label : String) : Bool :=
  let oneTime := Pattern.seq (Pattern.lit "one")
    (Pattern.seq (Pattern.opt (Pattern.one fun c => c == '-' || c == ' ')) (Pattern.lit "time"))
  let kinds := Pattern.alt
    [Pattern.words ["verification", "security", "confirmation"], oneTime,
      Pattern.words ["login", "sms", "email"]]
  let spaces := Pattern.seq (Pattern.one isSpace) (Pattern.many isSpace)
  Pattern.test (Pattern.seq kinds (Pattern.seq spaces (Pattern.lit "code"))) label ||
    Pattern.test (Pattern.lit "otp") label || Pattern.test (Pattern.lit "passcode") label

def demographicLabel (label : String) : Bool :=
  let stem (word : String) := Pattern.seq (Pattern.lit word) (Pattern.many Pattern.isWordChar)
  Pattern.test
    (Pattern.alt
      [Pattern.words ["gender", "sex"], stem "ethnic", Pattern.words ["race", "racial"], stem "disabilit",
        Pattern.words ["veteran", "sexual orientation"],
        Pattern.seq (Pattern.lit "pronoun") (Pattern.opt (Pattern.lit "s")),
        Pattern.words ["hispanic", "latino"], stem "religio",
        Pattern.words ["marital", "date of birth", "age range", "transgender"]]) label

/-! ## The mapper -/

/-- `BlindMissingAnswer`. -/
structure MissingAnswer extends MissingField where
  fieldRef : Ref
deriving DecidableEq

structure BlindAnswerMapperInput where
  attemptId : ℕ
  snapshot : FormSnapshot
  valueTable : List ApplicationValueTableEntry
  artifacts : List Artifact
  findSavedAnswer : String → Option (ℕ × String)

structure BlindAnswerMapping where
  fieldMap : FieldMap
  valueTable : List ApplicationValueTableEntry
  uses : List AnswerUse
  missing : List MissingAnswer
  interventions : List (Intervention × String)

inductive Decision where
  | assign (source : AssignmentSource) (use : AnswerUse) (entry : Option ApplicationValueTableEntry)
  | leave (reason : UnmappedReason) (missing : Option MissingAnswer)
      (intervention : Option (Intervention × String))
deriving DecidableEq

def Decision.intervene (field : SnapshotField) (kind : Intervention) (reason : UnmappedReason) : Decision :=
  .leave reason none (if field.required then some (kind, field.label) else none)

def optionLabels (field : SnapshotField) : Option (List String) :=
  field.options.map fun options => options.map SnapshotOption.label

def missingAnswer (reading : Reading) (field : SnapshotField) (controlType : ControlType) : MissingAnswer where
  fieldRef := field.fieldRef
  label := field.label
  controlType := controlType
  options := (optionLabels field).map fun labels => labels.filter fun label => !isPlaceholderOption label
  optionSetHash := (optionLabels field).map reading.optionSetHashOf

def Decision.ask (reading : Reading) (field : SnapshotField) (controlType : ControlType) :
    Decision :=
  .leave .needsUser (if field.required then some (missingAnswer reading field controlType) else none) none

section Mapper

variable (reading : Reading) (mintValueRef : Ref → Ref) (input : BlindAnswerMapperInput)

def synonymEntry (key : String) : Option ApplicationValueTableEntry :=
  let index := input.valueTable.flatMap fun entry =>
    (applicationValueLabelSynonyms entry.label).map fun synonym =>
      (reading.letters.squashFieldLabel synonym, entry)
  (index.find? fun row => row.1 = key).map Prod.snd

def activeFields : List SnapshotField := input.snapshot.fields.filter SnapshotField.active

def ambiguous (field : SnapshotField) : Bool :=
  1 < ((activeFields input).countP fun other => other.controlType = field.controlType ∧
    reading.letters.normalizeFieldLabel other.label = reading.letters.normalizeFieldLabel field.label)

def questionKey (field : SnapshotField) (controlType : ControlType) : String :=
  reading.blindAnswerKey field.label controlType
    (if controlType = .select then some (reading.optionSetHashOf ((optionLabels field).getD [])) else none)

def savedFor (field : SnapshotField) (controlType : ControlType) : Option (ℕ × String) :=
  if ambiguous reading input field then none
  else input.findSavedAnswer (questionKey reading field controlType)

def chosenOption (field : SnapshotField) (answer : String) : Option SnapshotOption :=
  (field.options.getD []).find? fun option =>
    reading.letters.normalizeFieldLabel option.label = reading.letters.normalizeFieldLabel answer ∧
      isPlaceholderOption option.label = false

def decideSelect (field : SnapshotField) : Decision :=
  match savedFor reading input field .select with
  | some (id, answer) =>
    match chosenOption reading field answer with
    | some chosen => .assign (.option chosen.optionRef) ⟨field.label, .savedAnswer, some id⟩ none
    | none => .ask reading field .select
  | none => .ask reading field .select

def knownValue (field : SnapshotField) : Option ApplicationValueTableEntry :=
  if demographicLabel (reading.letters.normalizeFieldLabel field.label) ∨ ambiguous reading input field then
    none
  else synonymEntry reading input (reading.letters.squashFieldLabel field.label)

def decideAnswered (field : SnapshotField) (textType : ControlType) : Decision :=
  let left : Decision :=
    if ambiguous reading input field ∧ field.required then
      .leave .unrecognized none (some (.other, field.label))
    else .ask reading field textType
  match savedFor reading input field textType with
  | some (id, answer) =>
    if trim answer ≠ "" then
      let valueRef := mintValueRef field.fieldRef
      .assign (.value valueRef) ⟨field.label, .savedAnswer, some id⟩
        (some { valueRef, label := field.label, value := trim answer, provenance := .userAnswer })
    else left
  | none => left

def decideText (field : SnapshotField) (textType : ControlType) : Decision :=
  match knownValue reading input field with
  | some entry =>
    .assign (.value entry.valueRef)
      ⟨field.label, if entry.provenance = .profile then .profile else .cv, none⟩ none
  | none => decideAnswered reading mintValueRef input field textType

def decision (field : SnapshotField) : Decision :=
  match field.classification with
  | some .consentField => .intervene field .consent .consentField
  | some .credentialField => .intervene field .login .credentialField
  | none =>
    if verificationCodeLabel (reading.letters.normalizeFieldLabel field.label) then
      .intervene field .verificationCode .needsUser
    else
      match field.controlType with
      | .file =>
        match chooseArtifactForField reading.letters field input.artifacts with
        | some artifact => .assign (.artifact artifact.id) ⟨field.label, .cv, none⟩ none
        | none => .intervene field .uploadUnsupported .needsUser
      | .checkbox | .radio | .unknown => .intervene field .other .needsUser
      | .select => decideSelect reading input field
      | .text => decideText reading mintValueRef input field .text
      | .textarea => decideText reading mintValueRef input field .textarea

end Mapper

namespace Decision

variable (field : SnapshotField)

def assignment? : Decision → Option FieldAssignment
  | assign source _ _ => some ⟨field.fieldRef, source⟩
  | leave .. => none

def unmapped? : Decision → Option UnmappedField
  | assign .. => none
  | leave reason .. => some ⟨field.fieldRef, reason⟩

def tableEntry : Decision → Option ApplicationValueTableEntry
  | assign _ _ entry => entry
  | leave .. => none

def use? : Decision → Option AnswerUse
  | assign _ use _ => some use
  | leave .. => none

def missing? : Decision → Option MissingAnswer
  | assign .. => none
  | leave _ missing _ => missing

def intervention? : Decision → Option (Intervention × String)
  | assign .. => none
  | leave _ _ intervention => intervention

end Decision

def mapBlindApplyAnswers (reading : Reading) (mintValueRef : Ref → Ref) (input : BlindAnswerMapperInput) :
    BlindAnswerMapping :=
  let active := activeFields input
  let decided := decision reading mintValueRef input
  { fieldMap :=
      { attemptId := input.attemptId
        snapshotGeneration := input.snapshot.generation
        assignments := active.filterMap fun field => (decided field).assignment? field
        unmapped := active.filterMap fun field => (decided field).unmapped? field }
    valueTable := input.valueTable ++ active.filterMap fun field => (decided field).tableEntry
    uses := active.filterMap fun field => (decided field).use?
    missing := active.filterMap fun field => (decided field).missing?
    interventions := active.filterMap fun field => (decided field).intervention? }

/-! ## What is decided -/

section Decided

variable {reading : Reading} {mintValueRef : Ref → Ref} {input : BlindAnswerMapperInput}
  {field : SnapshotField}

inductive Proper (input : BlindAnswerMapperInput) (field : SnapshotField) :
    AssignmentSource → Option ApplicationValueTableEntry → Prop
  | artifact {a : Artifact} (hmem : a ∈ input.artifacts) (hfile : field.controlType = .file) :
      Proper input field (.artifact a.id) none
  | option {o : SnapshotOption} (hselect : field.controlType = .select)
      (hmem : o ∈ field.options.getD []) (hchoice : isPlaceholderOption o.label = false) :
      Proper input field (.option o.optionRef) none
  | known {e : ApplicationValueTableEntry} (htext : field.controlType = .text ∨ field.controlType = .textarea)
      (hmem : e ∈ input.valueTable) : Proper input field (.value e.valueRef) none
  | saved {e : ApplicationValueTableEntry} (htext : field.controlType = .text ∨ field.controlType = .textarea)
      (hprovenance : e.provenance = .userAnswer) : Proper input field (.value e.valueRef) (some e)

def Decision.reported (d : Decision) : List String :=
  (d.missing?.map fun m => m.label).toList ++ (d.intervention?.map Prod.snd).toList

inductive Sound (reading : Reading) (input : BlindAnswerMapperInput) (field : SnapshotField) :
    Decision → Prop
  | assign {source : AssignmentSource} {use : AnswerUse} {entry : Option ApplicationValueTableEntry}
      (hclass : field.classification = none)
      (hcode : verificationCodeLabel (reading.letters.normalizeFieldLabel field.label) = false)
      (hproper : Proper input field source entry) : Sound reading input field (.assign source use entry)
  | leave {reason : UnmappedReason} {missing : Option MissingAnswer}
      {intervention : Option (Intervention × String)}
      (h : (Decision.leave reason missing intervention).reported =
        if field.required then [field.label] else []) :
      Sound reading input field (.leave reason missing intervention)

lemma sound_intervene (kind : Intervention) (reason : UnmappedReason) :
    Sound reading input field (.intervene field kind reason) := by
  refine Sound.leave ?_
  cases hrequired : field.required <;>
    simp [Decision.reported, Decision.missing?, Decision.intervention?]

lemma sound_ask (controlType : ControlType) : Sound reading input field (.ask reading field controlType) := by
  refine Sound.leave ?_
  cases hrequired : field.required <;>
    simp [Decision.reported, Decision.missing?, Decision.intervention?, missingAnswer]

lemma mem_of_firstOfKind (h : firstOfKind artifacts kind = some a) : a ∈ artifacts:= by
  unfold firstOfKind at h
  cases hfind : artifacts.find? fun artifact => artifact.kind = kind with
  | some first =>
    rw [hfind] at h
    cases h
    exact List.mem_of_find?_eq_some hfind
  | none =>
    rw [hfind] at h
    exact List.mem_of_find?_eq_some h

lemma mem_of_chooseArtifactForField {letters : Letters}
    (h : chooseArtifactForField letters field artifacts = some a) : a ∈ artifacts:= by
  unfold chooseArtifactForField at h
  dsimp only at h
  split at h
  · exact mem_of_firstOfKind h
  · exact mem_of_firstOfKind h

lemma mem_of_synonymEntry {key : String} (h : synonymEntry reading input key = some e) : e ∈ input.valueTable:= by
  obtain ⟨row, hrow, rfl⟩ := Option.map_eq_some_iff.mp h
  obtain ⟨entry, hentry, hmem⟩ := List.mem_flatMap.mp (List.mem_of_find?_eq_some hrow)
  obtain ⟨synonym, -, rfl⟩ := List.mem_map.mp hmem
  exact hentry

lemma sound_decideSelect (hclass : field.classification = none)
    (hcode : verificationCodeLabel (reading.letters.normalizeFieldLabel field.label) = false)
    (hselect : field.controlType = .select) : Sound reading input field (decideSelect reading input field) := by
  unfold decideSelect
  rcases savedFor reading input field .select with _ | ⟨id, answer⟩
  · exact sound_ask _
  · dsimp only
    cases hchosen : chosenOption reading field answer with
    | none => exact sound_ask _
    | some chosen =>
      have hfind := List.find?_some hchosen
      simp only [decide_eq_true_eq] at hfind
      exact .assign hclass hcode (.option hselect (List.mem_of_find?_eq_some hchosen) hfind.2)

lemma sound_decideText (hclass : field.classification = none)
    (hcode : verificationCodeLabel (reading.letters.normalizeFieldLabel field.label) = false)
    (htext : field.controlType = .text ∨ field.controlType = .textarea) (textType : ControlType) :
    Sound reading input field (decideText reading mintValueRef input field textType) := by
  unfold decideText
  cases hknown : knownValue reading input field with
  | some entry =>
    unfold knownValue at hknown
    split at hknown
    · cases hknown
    · exact .assign hclass hcode (.known htext (mem_of_synonymEntry hknown))
  | none =>
    have hleft : Sound reading input field
        (if ambiguous reading input field ∧ field.required then
          .leave .unrecognized none (some (.other, field.label)) else .ask reading field textType) := by
      split
      · next h => exact .leave (by simp [Decision.reported, Decision.missing?, Decision.intervention?, h.2])
      · exact sound_ask _
    unfold decideAnswered
    rcases savedFor reading input field textType with _ | ⟨id, answer⟩
    · exact hleft
    · dsimp only
      split
      · exact .assign hclass hcode (Proper.saved (e := ⟨⟨_, _, _⟩, _⟩) htext rfl)
      · exact hleft

lemma sound_decision (reading : Reading) (mintValueRef : Ref → Ref) (input : BlindAnswerMapperInput)
    (field : SnapshotField) :
    Sound reading input field (decision reading mintValueRef input field) := by
  unfold decision
  cases hclass : field.classification with
  | some classification =>
    cases classification with
    | consentField =>
      exact sound_intervene _ _
    | credentialField =>
      exact sound_intervene _ _
  | none =>
    cases hcode : verificationCodeLabel (reading.letters.normalizeFieldLabel field.label) with
    | true =>
      rw [if_pos rfl]
      exact sound_intervene _ _
    | false =>
      rw [if_neg Bool.false_ne_true]
      cases htype : field.controlType with
      | file =>
        cases hchosen : chooseArtifactForField reading.letters field input.artifacts with
        | none => exact sound_intervene _ _
        | some a => exact .assign hclass hcode (.artifact (mem_of_chooseArtifactForField hchosen) htype)
      | checkbox =>
        exact sound_intervene _ _
      | radio =>
        exact sound_intervene _ _
      | unknown =>
        exact sound_intervene _ _
      | select =>
        exact sound_decideSelect hclass hcode htype
      | text =>
        exact sound_decideText hclass hcode (.inl htype) _
      | textarea =>
        exact sound_decideText hclass hcode (.inr htype) _

end Decided

/-! ## The mapping and the validator -/

section Mapping

variable {reading : Reading} {mintValueRef : Ref → Ref} {input : BlindAnswerMapperInput}

def BlindAnswerMapping.assigned (mapping : BlindAnswerMapping) : List Ref :=
  mapping.fieldMap.assignments.map FieldAssignment.fieldRef

def BlindAnswerMapping.reported (mapping : BlindAnswerMapping) : List String :=
  (mapping.missing.map fun m => m.label) ++ mapping.interventions.map Prod.snd

structure Assignable (reading : Reading) (input : BlindAnswerMapperInput) (assignment : FieldAssignment)
    (field : SnapshotField) : Prop where
  fieldRef : field.fieldRef = assignment.fieldRef
  active : field.active = true
  unclassified : field.classification = none
  codeless : verificationCodeLabel (reading.letters.normalizeFieldLabel field.label) = false
  controlType : field.controlType ∉ [Form.ControlType.checkbox, .radio, .unknown]
  chosen : ∀ optionRef, assignment.source = .option optionRef →
    ∃ option, findSnapshotOption field optionRef = some option ∧ isPlaceholderOption option.label = false

structure Covers (reading : Reading) (input : BlindAnswerMapperInput) (mapping : BlindAnswerMapping) :
    Prop where
  covered : mapping.fieldMap.covered.Perm ((activeFields input).map SnapshotField.fieldRef)
  assignable : ∀ assignment ∈ mapping.fieldMap.assignments, ∃ field ∈ input.snapshot.fields,
    Assignable reading input assignment field
  reported : mapping.reported.Perm
    (((activeFields input).filter fun field =>
      field.required ∧ field.fieldRef ∉ mapping.assigned).map SnapshotField.label)

/-- A value from a job description goes into a field. -/
def Posted (mapping : BlindAnswerMapping) : Prop :=
  ∃ assignment ∈ mapping.fieldMap.assignments, ∃ valueRef entry, assignment.source = .value valueRef ∧
    (valueByRef (mapping.valueTable.map ApplicationValueTableEntry.toValueTableEntry)).get? valueRef =
      some entry ∧ entry.provenance = .jd

/-- What `validateFieldMap` is asked about a mapping. -/
def checked (input : BlindAnswerMapperInput) (owned : List ℕ) (mapping : BlindAnswerMapping) :
    ValidateInput where
  raw := .ok mapping.fieldMap
  attemptId := input.attemptId
  snapshot := input.snapshot
  valueTable := mapping.valueTable.map ApplicationValueTableEntry.toValueTableEntry
  ownedArtifactIds := owned

lemma perm_filterMap_append {α β : Type} (f g : α → Option β) (l : List α) :
    (l.filterMap f ++ l.filterMap g).Perm (l.flatMap fun a => (f a).toList ++ (g a).toList) := by
  induction l with
  | nil => exact .nil
  | cons a l ih =>
    have hcons : ((f a).toList ++ (g a).toList ++ (l.filterMap f ++ l.filterMap g)).Perm
        ((f a).toList ++ l.filterMap f ++ ((g a).toList ++ l.filterMap g)) := by
      rw [List.append_assoc, List.append_assoc]
      refine List.Perm.append_left _ ?_
      rw [← List.append_assoc, ← List.append_assoc]
      exact List.perm_append_comm.append_right _
    have hhead : ∀ h : α → Option β, (a :: l).filterMap h = (h a).toList ++ l.filterMap h := fun h => by
      cases ha : h a with
      | none => simp [ha]
      | some b => simp [ha]
    rw [hhead f, hhead g, List.flatMap_cons]
    exact hcons.symm.trans (ih.append_left _)

variable {field : SnapshotField}

lemma mem_activeFields :
    field ∈ activeFields input ↔ field ∈ input.snapshot.fields ∧ field.active = true :=
  List.mem_filter

lemma covered_decision (field : SnapshotField) (d : Decision) :
    ((d.assignment? field).map FieldAssignment.fieldRef).toList ++
      ((d.unmapped? field).map UnmappedField.fieldRef).toList = [field.fieldRef] := by
  cases d <;> rfl

lemma covered_mapBlindApplyAnswers :
    (mapBlindApplyAnswers reading mintValueRef input).fieldMap.covered.Perm
      ((activeFields input).map SnapshotField.fieldRef) := by
  have h := perm_filterMap_append
    (fun field => ((decision reading mintValueRef input field).assignment? field).map
      FieldAssignment.fieldRef)
    (fun field => ((decision reading mintValueRef input field).unmapped? field).map
      UnmappedField.fieldRef) (activeFields input)
  simp only [covered_decision] at h
  rw [← List.map_eq_flatMap] at h
  simpa only [FieldMap.covered, mapBlindApplyAnswers, List.map_filterMap] using h

lemma exists_decision_of_mem
    (h : assignment ∈ (mapBlindApplyAnswers reading mintValueRef input).fieldMap.assignments) :
    ∃ field ∈ activeFields input, field.fieldRef = assignment.fieldRef ∧ ∃ use entry,
      decision reading mintValueRef input field = .assign assignment.source use entry := by
  obtain ⟨field, hfield, hdecision⟩ := List.mem_filterMap.mp h
  cases hd : decision reading mintValueRef input field with
  | assign source use entry =>
    rw [hd] at hdecision
    cases hdecision
    exact ⟨field, hfield, rfl, use, entry, hd⟩
  | leave reason missing intervention =>
    rw [hd] at hdecision
    cases hdecision

lemma mem_assigned_iff (hfield : field ∈ activeFields input) :
    field.fieldRef ∈ (mapBlindApplyAnswers reading mintValueRef input).assigned ↔
      ((decision reading mintValueRef input field).assignment? field).isSome := by
  constructor
  · intro h
    obtain ⟨assignment, hassignment, href⟩ := List.mem_map.mp h
    obtain ⟨other, hother, hother', use, entry, hd⟩ := exists_decision_of_mem hassignment
    have heq : other = field := List.inj_on_of_nodup_map input.snapshot.fieldRefs
      (mem_activeFields.mp hother).1 (mem_activeFields.mp hfield).1 (hother'.trans href)
    rw [← heq, hd]
    rfl
  · intro h
    obtain ⟨assignment, hassignment⟩ := Option.isSome_iff_exists.mp h
    refine List.mem_map.mpr ⟨assignment, List.mem_filterMap.mpr ⟨field, hfield, hassignment⟩, ?_⟩
    cases hd : decision reading mintValueRef input field with
    | assign source use entry =>
      rw [hd] at hassignment
      cases hassignment
      rfl
    | leave reason missing intervention =>
      rw [hd] at hassignment
      cases hassignment

lemma reported_mapBlindApplyAnswers : (mapBlindApplyAnswers reading mintValueRef input).reported.Perm
    (((activeFields input).filter fun field => field.required ∧
      field.fieldRef ∉ (mapBlindApplyAnswers reading mintValueRef input).assigned).map
        SnapshotField.label) := by
  have h := perm_filterMap_append
    (fun field => (decision reading mintValueRef input field).missing?.map fun m => m.label)
    (fun field => (decision reading mintValueRef input field).intervention?.map Prod.snd)
    (activeFields input)
  have hreported : ∀ field ∈ activeFields input,
      (decision reading mintValueRef input field).reported =
        (if field.required ∧ field.fieldRef ∉ (mapBlindApplyAnswers reading mintValueRef input).assigned then
          some field.label else none).toList := by
    intro field hfield
    have hsound := sound_decision reading mintValueRef input field
    have hassigned : field.fieldRef ∈ (mapBlindApplyAnswers reading mintValueRef input).assigned ↔ _ :=
      mem_assigned_iff hfield
    cases hd : decision reading mintValueRef input field with
    | assign source use entry =>
      rw [hd] at hassigned
      rw [if_neg fun hnot => hnot.2 (hassigned.mpr rfl)]
      rfl
    | leave reason missing intervention =>
      rw [hd] at hassigned hsound
      cases hsound with
      | leave hreported =>
        have hnot := mt hassigned.mp (by simp [Decision.assignment?])
        rw [hreported]
        cases field.required <;> simp [hnot]
  have hlist : (activeFields input).flatMap (fun field => (decision reading mintValueRef input field).reported) =
      ((activeFields input).filter fun field => field.required ∧
        field.fieldRef ∉ (mapBlindApplyAnswers reading mintValueRef input).assigned).map
          SnapshotField.label := by
    rw [List.flatMap_congr hreported, ← List.filterMap_eq_flatMap_toList, ← List.filterMap_eq_map,
      List.filterMap_filter]
    simp only [decide_eq_true_eq, Function.comp_apply]
  rw [← hlist]
  simpa only [BlindAnswerMapping.reported, mapBlindApplyAnswers, List.map_filterMap,
    Decision.reported] using h

lemma assignable_mapBlindApplyAnswers
    (h : assignment ∈ (mapBlindApplyAnswers reading mintValueRef input).fieldMap.assignments) :
    ∃ field ∈ input.snapshot.fields, Assignable reading input assignment field := by
  obtain ⟨field, hfield, href, use, entry, hd⟩ := exists_decision_of_mem h
  obtain ⟨hmem, hactive⟩ := mem_activeFields.mp hfield
  have hsound := sound_decision reading mintValueRef input field
  rw [hd] at hsound
  obtain ⟨hclass, hcode, hproper⟩ := hsound
  obtain ⟨fieldRef, source⟩ := assignment
  refine ⟨field, hmem, href, hactive, hclass, hcode, ?_, fun optionRef hoption => ?_⟩
  · cases hproper with
    | artifact hmem hfile => simp [hfile]
    | option hselect hmem hchoice => simp [hselect]
    | known htext hmem => rcases htext with htext | htext <;> simp [htext]
    | saved htext hprovenance => rcases htext with htext | htext <;> simp [htext]
  · cases hproper with
    | option hselect hmem hchoice =>
      cases hoption
      exact ⟨_, findSnapshotOption_of_mem hmem, hchoice⟩
    | artifact | known | saved => cases hoption

lemma covers_mapBlindApplyAnswers : Covers reading input (mapBlindApplyAnswers reading mintValueRef input) :=
  ⟨covered_mapBlindApplyAnswers, fun _ => assignable_mapBlindApplyAnswers, reported_mapBlindApplyAnswers⟩

lemma exists_entry_of_mem {valueRef : Ref} {use : AnswerUse}
    {entry : Option ApplicationValueTableEntry} (hfield : field ∈ activeFields input)
    (hd : decision reading mintValueRef input field = .assign (.value valueRef) use entry) :
    ∃ e ∈ (mapBlindApplyAnswers reading mintValueRef input).valueTable, e.valueRef = valueRef := by
  have hsound := sound_decision reading mintValueRef input field
  rw [hd] at hsound
  obtain ⟨-, -, hproper⟩ := hsound
  cases hproper with
  | known htext hmem => exact ⟨_, List.mem_append_left _ hmem, rfl⟩
  | saved htext hprovenance =>
    refine ⟨_, List.mem_append_right _ (List.mem_filterMap.mpr ⟨field, hfield, ?_⟩), rfl⟩
    rw [hd]
    rfl

lemma exists_get?_valueByRef (h : e ∈ valueTable) : ∃ entry, (valueByRef
      (valueTable.map ApplicationValueTableEntry.toValueTableEntry)).get? e.valueRef = some entry := by
  refine Option.ne_none_iff_exists'.mp fun hnone => ?_
  rw [valueByRef, List.map_map] at hnone
  exact Assoc.get?_ofEntries_eq_none.mp hnone _ (List.mem_map.mpr ⟨e, h, rfl⟩) rfl

lemma allowed_iff_not_posted {owned : List ℕ} (howned : ∀ a ∈ input.artifacts, a.id ∈ owned) :
    (∀ assignment ∈ (mapBlindApplyAnswers reading mintValueRef input).fieldMap.assignments,
      Allowed (checked input owned (mapBlindApplyAnswers reading mintValueRef input)) assignment) ↔
      ¬ Posted (mapBlindApplyAnswers reading mintValueRef input) := by
  constructor
  · rintro h ⟨assignment, hassignment, valueRef, entry, hsource, hentry, hjd⟩
    obtain ⟨field, -, -, -, hfits⟩ := h assignment hassignment
    rw [hsource] at hfits
    obtain ⟨⟨other, hother, hallowed⟩, -⟩ := hfits
    cases hentry.symm.trans hother
    cases hallowed hjd
  · intro hnot assignment hassignment
    obtain ⟨field, hfield, href, use, entry, hd⟩ := exists_decision_of_mem hassignment
    obtain ⟨hmem, hactive⟩ := mem_activeFields.mp hfield
    have hsound := sound_decision reading mintValueRef input field
    rw [hd] at hsound
    obtain ⟨hclass, -, hproper⟩ := hsound
    refine ⟨field, href ▸ findSnapshotField_of_mem hmem, hclass, .inl hactive, ?_⟩
    obtain ⟨fieldRef, source⟩ := assignment
    have hvalue : ∀ valueRef, source = .value valueRef →
        ∃ entry, (valueByRef ((mapBlindApplyAnswers reading mintValueRef input).valueTable.map
          ApplicationValueTableEntry.toValueTableEntry)).get? valueRef = some entry ∧
          (entry.provenance = .jd → false = true) := by
      rintro valueRef rfl
      obtain ⟨e, he, rfl⟩ := exists_entry_of_mem hfield hd
      obtain ⟨entry, hentry⟩ := exists_get?_valueByRef he
      exact ⟨entry, hentry, fun hjd => absurd ⟨_, hassignment, _, entry, rfl, hentry, hjd⟩ hnot⟩
    cases hproper with
    | artifact hmem hfile => exact ⟨howned _ hmem, hfile⟩
    | option hselect hmem hchoice => exact ⟨_, findSnapshotOption_of_mem hmem⟩
    | known htext hmem =>
      refine ⟨hvalue _ rfl, ?_⟩
      rcases htext with htext | htext <;> simp [htext]
    | saved htext hprovenance =>
      refine ⟨hvalue _ rfl, ?_⟩
      rcases htext with htext | htext <;> simp [htext]

end Mapping

/-! ## Long forms -/

def plainReading : Reading := ⟨ascii, fun _ => 0⟩

def optionalBox (fieldRef : Ref) : SnapshotField where
  fieldRef := fieldRef
  label := "Send me news"
  controlType := .checkbox
  required := false
  options := none
  classification := none
  frameId := 0
  formScope := none
  active := true
  hasOptions := no_options
  optionRefs := List.nodup_nil

def boxForm (n : ℕ) (h : n ≤ 2 ^ 64) : FormSnapshot where
  generation := 1
  fields := (List.range n).map fun i => optionalBox (BitVec.ofNat 64 i)
  fieldRefs := by
    rw [List.map_map]
    refine List.Nodup.map_on (fun i hi j hj heq => ?_) List.nodup_range
    have hvalue := congrArg BitVec.toNat heq
    simp only [Function.comp_apply, optionalBox, BitVec.toNat_ofNat] at hvalue
    rw [List.mem_range] at hi hj
    omega

def boxInput (n : ℕ) (h : n ≤ 2 ^ 64) : BlindAnswerMapperInput where
  attemptId := 1
  snapshot := boxForm n h
  valueTable := []
  artifacts := []
  findSavedAnswer _ := none

end VacancyRadar.BlindApply
