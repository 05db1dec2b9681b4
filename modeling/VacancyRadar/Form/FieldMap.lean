import Mathlib.Data.List.Nodup
import VacancyRadar.Data.Assoc

/-!
# Field maps

A `FormSnapshot` is what was read of a form, and a field map says which value, option or document goes into
which of its fields.  `validateFieldMap` trusts a field map only when it passes every rule.
-/

namespace VacancyRadar.Form

open Data

/-! ## Snapshots -/

/-- A ref: eight random bytes.  It is spelled as a letter and sixteen hexadecimal digits, and nothing else
that is spelled otherwise is read as a ref. -/
abbrev Ref : Type := BitVec 64

instance : LawfulBEq Ref := inferInstanceAs (LawfulBEq (BitVec 64))

def Ref.text (letter : String) (ref : Ref) : String := letter ++ BitVec.toHex ref

/-- `FieldControlType`. -/
inductive ControlType where
  | text
  | textarea
  | select
  | checkbox
  | radio
  | file
  | unknown
deriving DecidableEq

/-- `FieldClassification`. -/
inductive Classification where
  | credentialField
  | consentField
deriving DecidableEq

def Classification.text : Classification → String
  | credentialField => "credential_field"
  | consentField => "consent_field"

structure SnapshotOption where
  optionRef : Ref
  label : String
deriving DecidableEq

structure SnapshotField where
  fieldRef : Ref
  label : String
  controlType : ControlType
  required : Bool
  options : Option (List SnapshotOption)
  classification : Option Classification
  frameId : ℕ
  formScope : Option ℕ
  active : Bool
  hasOptions : options ≠ none → controlType = .select ∨ controlType = .radio
  optionRefs : ((options.getD []).map SnapshotOption.optionRef).Nodup
deriving DecidableEq

lemma no_options {controlType : ControlType} :
    (none : Option (List SnapshotOption)) ≠ none → controlType = .select ∨ controlType = .radio :=
  fun h => absurd rfl h

structure FormSnapshot where
  generation : ℕ
  fields : List SnapshotField
  fieldRefs : (fields.map SnapshotField.fieldRef).Nodup

def findSnapshotField (snapshot : FormSnapshot) (fieldRef : Ref) : Option SnapshotField :=
  snapshot.fields.find? fun field => field.fieldRef = fieldRef

def findSnapshotOption (field : SnapshotField) (optionRef : Ref) : Option SnapshotOption :=
  (field.options.getD []).find? fun option => option.optionRef = optionRef

variable {field : SnapshotField}

lemma findSnapshotField_of_mem {snapshot : FormSnapshot} (h : field ∈ snapshot.fields) :
    findSnapshotField snapshot field.fieldRef = some field := by
  unfold findSnapshotField
  cases hfind : snapshot.fields.find? fun other => other.fieldRef = field.fieldRef with
  | none => simpa using List.find?_eq_none.mp hfind field h
  | some other =>
    have hsame : other.fieldRef = field.fieldRef := by simpa using List.find?_some hfind
    rw [List.inj_on_of_nodup_map snapshot.fieldRefs (List.mem_of_find?_eq_some hfind) h hsame]

lemma findSnapshotOption_of_mem {option : SnapshotOption} (h : option ∈ field.options.getD []) :
    findSnapshotOption field option.optionRef = some option := by
  unfold findSnapshotOption
  cases hfind : (field.options.getD []).find? fun other => other.optionRef = option.optionRef with
  | none => simpa using List.find?_eq_none.mp hfind option h
  | some other =>
    have hsame : other.optionRef = option.optionRef := by simpa using List.find?_some hfind
    rw [List.inj_on_of_nodup_map field.optionRefs (List.mem_of_find?_eq_some hfind) h hsame]

/-! ## Field maps -/

/-- Why a field map says that nothing goes into a field. -/
inductive SkipReason where
  | noSourceValue
  | notApplicable
deriving DecidableEq

/-- What goes into a field. -/
inductive AssignmentSource where
  | value (valueRef : Ref)
  | option (optionRef : Ref)
  | artifact (artifactId : ℕ)
  | skip (reason : SkipReason)
deriving DecidableEq

def AssignmentSource.isSkip : AssignmentSource → Bool
  | skip _ => true
  | _ => false

structure FieldAssignment where
  fieldRef : Ref
  source : AssignmentSource

inductive UnmappedReason where
  | needsUser
  | credentialField
  | consentField
  | unrecognized
deriving DecidableEq

structure UnmappedField where
  fieldRef : Ref
  reason : UnmappedReason

structure FieldMap where
  attemptId : ℕ
  snapshotGeneration : ℕ
  assignments : List FieldAssignment
  unmapped : List UnmappedField

def maxFieldMapEntries : ℕ := 200

def fieldMapSchema : Except String FieldMap → Except String FieldMap
  | .error issue => .error issue
  | .ok fieldMap =>
    if maxFieldMapEntries < fieldMap.assignments.length ∨
        maxFieldMapEntries < fieldMap.unmapped.length then
      .error "Too big: expected array to have <=200 items"
    else .ok fieldMap

/-! ## Validation -/

/-- `ValueProvenance`. -/
inductive Provenance where
  | cv
  | profile
  | userAnswer
  | jd
deriving DecidableEq

structure ValueTableEntry where
  valueRef : Ref
  value : String
  provenance : Provenance
deriving DecidableEq

/-- `FieldMapRefusalReason`. -/
inductive RefusalReason where
  | invalidShape
  | staleSnapshotGeneration
  | attemptMismatch
  | unknownRef
  | artifactNotOwned
  | disallowedProvenance
  | typeMismatch
  | excludedFieldTargeted
  | inactiveFormField
  | incomplete

abbrev Refusal : Type := RefusalReason × String

/-- `ValidateFieldMapInput`. -/
structure ValidateInput where
  raw : Except String FieldMap
  attemptId : ℕ
  snapshot : FormSnapshot
  valueTable : List ValueTableEntry
  ownedArtifactIds : List ℕ
  allowJdProvenance : Bool := false

def valueByRef (valueTable : List ValueTableEntry) : Assoc Ref ValueTableEntry :=
  Assoc.ofEntries (valueTable.map fun entry => (entry.valueRef, entry))

/-- `return refuse(...)` when something holds. -/
def refuseIf (p : Prop) [Decidable p] (reason : RefusalReason) (detail : String) : Except Refusal Unit :=
  if p then .error (reason, detail) else .ok ()

section Rules

variable (input : ValidateInput)

def checkSource (field : SnapshotField) : AssignmentSource → Except Refusal Unit
  | .value valueRef =>
    match (valueByRef input.valueTable).get? valueRef with
    | none => .error (.unknownRef, "valueRef " ++ valueRef.text "v" ++ " is not in the value table")
    | some entry => do
      refuseIf (entry.provenance = .jd ∧ ¬ input.allowJdProvenance) .disallowedProvenance
        ("valueRef " ++ valueRef.text "v" ++ " is jd-provenance, not permitted")
      refuseIf (field.controlType = .file ∨ field.controlType = .select ∨ field.controlType = .radio)
        .typeMismatch ("fieldRef " ++ field.fieldRef.text "f" ++ " does not accept a plain value")
  | .option optionRef =>
    refuseIf (findSnapshotOption field optionRef = none) .unknownRef
      ("optionRef " ++ optionRef.text "o" ++ " is not on fieldRef " ++ field.fieldRef.text "f")
  | .artifact artifactId => do
    refuseIf (artifactId ∉ input.ownedArtifactIds) .artifactNotOwned
      ("artifact " ++ toString artifactId ++ " does not belong to this attempt")
    refuseIf (field.controlType ≠ .file) .typeMismatch
      ("fieldRef " ++ field.fieldRef.text "f" ++ " does not accept a file")
  | .skip _ => .ok ()

def checkAssignment (assignment : FieldAssignment) : Except Refusal Unit :=
  match findSnapshotField input.snapshot assignment.fieldRef with
  | none =>
    .error (.unknownRef, "fieldRef " ++ assignment.fieldRef.text "f" ++ " is not in this snapshot")
  | some field =>
    match field.classification with
    | some classification =>
      .error (.excludedFieldTargeted,
        "fieldRef " ++ assignment.fieldRef.text "f" ++ " is a " ++ classification.text)
    | none => do
      refuseIf (¬ field.active ∧ ¬ assignment.source.isSkip) .inactiveFormField
        ("fieldRef " ++ assignment.fieldRef.text "f" ++ " is not part of the active form (frame " ++
          toString field.frameId ++ ", form " ++ (field.formScope.map toString).getD "none" ++ ")")
      checkSource input field assignment.source

def checkUnmapped (unmapped : UnmappedField) : Except Refusal Unit :=
  refuseIf (findSnapshotField input.snapshot unmapped.fieldRef = none) .unknownRef
    ("fieldRef " ++ unmapped.fieldRef.text "f" ++ " in \"unmapped\" is not in this snapshot")

def FieldMap.covered (fieldMap : FieldMap) : List Ref :=
  fieldMap.assignments.map FieldAssignment.fieldRef ++ fieldMap.unmapped.map UnmappedField.fieldRef

def checkCovered (fieldMap : FieldMap) (field : SnapshotField) : Except Refusal Unit :=
  refuseIf (field.active ∧ field.required ∧ field.fieldRef ∉ fieldMap.covered) .incomplete
    ("required fieldRef " ++ field.fieldRef.text "f" ++ " is neither assigned nor listed as unmapped")

def validateFieldMap : Except Refusal FieldMap := do
  let fieldMap ← (fieldMapSchema input.raw).mapError fun issue => (.invalidShape, issue)
  refuseIf (fieldMap.snapshotGeneration ≠ input.snapshot.generation) .staleSnapshotGeneration
    ("field map targets generation " ++ toString fieldMap.snapshotGeneration ++ ", current is " ++
      toString input.snapshot.generation)
  refuseIf (fieldMap.attemptId ≠ input.attemptId) .attemptMismatch
    "field map attemptId does not match the attempt it was generated for"
  fieldMap.assignments.forM (checkAssignment input)
  fieldMap.unmapped.forM (checkUnmapped input)
  input.snapshot.fields.forM (checkCovered fieldMap)
  return fieldMap

end Rules

/-! ## What is accepted -/

variable {input : ValidateInput} {fieldMap : FieldMap}

def Fits (input : ValidateInput) (field : SnapshotField) : AssignmentSource → Prop
  | .value valueRef =>
    (∃ entry, (valueByRef input.valueTable).get? valueRef = some entry ∧
      (entry.provenance = .jd → input.allowJdProvenance = true)) ∧
      field.controlType ≠ .file ∧ field.controlType ≠ .select ∧ field.controlType ≠ .radio
  | .option optionRef => ∃ option, findSnapshotOption field optionRef = some option
  | .artifact artifactId => artifactId ∈ input.ownedArtifactIds ∧ field.controlType = .file
  | .skip _ => True

def Allowed (input : ValidateInput) (assignment : FieldAssignment) : Prop :=
  ∃ field, findSnapshotField input.snapshot assignment.fieldRef = some field ∧
    field.classification = none ∧ (field.active = true ∨ assignment.source.isSkip = true) ∧
    Fits input field assignment.source

lemma refuseIf_eq_ok {p : Prop} [Decidable p] {reason : RefusalReason} {detail : String} :
    refuseIf p reason detail = .ok () ↔ ¬ p := by
  unfold refuseIf
  split
  · next h => simp [h]
  · next h => simp [h]

lemma bind_eq_ok {α : Type} {m : Except Refusal Unit} {f : Except Refusal α} {a : α} :
    (m >>= fun _ => f) = .ok a ↔ m = .ok () ∧ f = .ok a := by
  rcases m with e | ⟨⟩
  · simp [bind, Except.bind]
  · simp [bind, Except.bind]

lemma forM_eq_ok {α : Type} {f : α → Except Refusal Unit} {l : List α} :
    l.forM f = .ok () ↔ ∀ a ∈ l, f a = .ok () := by
  induction l with
  | nil => simp [pure, Except.pure]
  | cons a l ih =>
    show (f a >>= fun _ => l.forM f) = _ ↔ _
    rw [bind_eq_ok, ih, List.forall_mem_cons]

lemma checkSource_eq_ok {source : AssignmentSource} :
    checkSource input field source = .ok () ↔ Fits input field source := by
  cases source with
  | value valueRef =>
    cases hget : (valueByRef input.valueTable).get? valueRef with
    | none => simp [checkSource, Fits, hget]
    | some entry => simp [checkSource, Fits, hget, bind_eq_ok, refuseIf_eq_ok, not_or]
  | option optionRef => simp [checkSource, Fits, refuseIf_eq_ok, Option.ne_none_iff_exists']
  | artifact artifactId => simp [checkSource, Fits, bind_eq_ok, refuseIf_eq_ok]
  | skip reason => simp [checkSource, Fits]

lemma checkAssignment_eq_ok {assignment : FieldAssignment} :
    checkAssignment input assignment = .ok () ↔ Allowed input assignment := by
  unfold checkAssignment Allowed
  cases findSnapshotField input.snapshot assignment.fieldRef with
  | none => simp
  | some field =>
    dsimp only
    cases hclass : field.classification with
    | some classification => simp [hclass]
    | none =>
      rw [bind_eq_ok, refuseIf_eq_ok, checkSource_eq_ok, not_and_or, not_not, not_not]
      constructor
      · exact fun ⟨hactive, hfits⟩ => ⟨field, rfl, hclass, hactive, hfits⟩
      · rintro ⟨_, hfield, -, hactive, hfits⟩
        cases hfield
        exact ⟨hactive, hfits⟩

structure Accepted (input : ValidateInput) (fieldMap : FieldMap) : Prop where
  raw : input.raw = .ok fieldMap
  assignments_length : fieldMap.assignments.length ≤ maxFieldMapEntries
  unmapped_length : fieldMap.unmapped.length ≤ maxFieldMapEntries
  generation : fieldMap.snapshotGeneration = input.snapshot.generation
  attempt : fieldMap.attemptId = input.attemptId
  allowed : ∀ assignment ∈ fieldMap.assignments, Allowed input assignment
  unmapped : ∀ unmapped ∈ fieldMap.unmapped, findSnapshotField input.snapshot unmapped.fieldRef ≠ none
  complete : ∀ field ∈ input.snapshot.fields, field.active = true → field.required = true →
    field.fieldRef ∈ fieldMap.covered

lemma fieldMapSchema_eq_ok {raw : Except String FieldMap} : fieldMapSchema raw = .ok fieldMap ↔
    raw = .ok fieldMap ∧ fieldMap.assignments.length ≤ maxFieldMapEntries ∧
      fieldMap.unmapped.length ≤ maxFieldMapEntries := by
  cases raw with
  | error issue => simp [fieldMapSchema]
  | ok m =>
    unfold fieldMapSchema
    dsimp only
    split
    · next hlong =>
      simp only [false_iff, Except.ok.injEq, not_and, reduceCtorEq]
      rintro rfl hassignments
      omega
    · next hshort =>
      rw [not_or, Nat.not_lt, Nat.not_lt] at hshort
      simp only [Except.ok.injEq]
      constructor
      · rintro rfl
        exact ⟨rfl, hshort⟩
      · exact And.left

/-- `validateFieldMap` accepts what passes every rule. -/
lemma validateFieldMap_eq_ok : validateFieldMap input = .ok fieldMap ↔ Accepted input fieldMap := by
  unfold validateFieldMap
  constructor
  · intro h
    cases hschema : fieldMapSchema input.raw with
    | error issue =>
      rw [hschema] at h
      cases h
    | ok m =>
      rw [hschema] at h
      change (refuseIf _ _ _ >>= fun _ => refuseIf _ _ _ >>= fun _ => _) = _ at h
      simp only [bind_eq_ok, refuseIf_eq_ok, not_not, forM_eq_ok, checkAssignment_eq_ok] at h
      obtain ⟨hgeneration, hattempt, hassignments, hunmapped, hcovered, hm⟩ := h
      cases hm
      obtain ⟨hraw, hlength, hlength'⟩ := fieldMapSchema_eq_ok.mp hschema
      refine ⟨hraw, hlength, hlength', hgeneration, hattempt, hassignments, fun u hu => ?_,
        fun field hfield hactive hrequired => ?_⟩
      · exact refuseIf_eq_ok.mp (hunmapped u hu)
      · have hnot := refuseIf_eq_ok.mp (hcovered field hfield)
        rw [not_and, not_and, not_not] at hnot
        exact hnot hactive hrequired
  · intro h
    rw [fieldMapSchema_eq_ok.mpr ⟨h.raw, h.assignments_length, h.unmapped_length⟩]
    change (refuseIf _ _ _ >>= fun _ => refuseIf _ _ _ >>= fun _ => _) = _
    simp only [bind_eq_ok, refuseIf_eq_ok, not_not, forM_eq_ok, checkAssignment_eq_ok]
    refine ⟨h.generation, h.attempt, h.allowed, fun u hu => ?_, fun field hfield => ?_, rfl⟩
    · exact refuseIf_eq_ok.mpr (h.unmapped u hu)
    · refine refuseIf_eq_ok.mpr fun ⟨hactive, hrequired, hnot⟩ => ?_
      exact hnot (h.complete field hfield hactive hrequired)

end VacancyRadar.Form
