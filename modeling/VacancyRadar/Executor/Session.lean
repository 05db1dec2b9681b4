import Mathlib.Data.Multiset.Defs
import VacancyRadar.Executor.AxReadback
import VacancyRadar.Form.Apply
import VacancyRadar.Submission.Observe

/-!
# Writing into a live page

`executor.ts`: the executor holds a snapshot of a form, and what it read back after each of its writes.  The page
itself, with what the browser does to it and what it answers, is a parameter.
-/

namespace VacancyRadar.Executor

open Data Submission
open Form hiding ExecutorError FormSnapshot SnapshotField FormReadiness

/-! ## Snapshots -/

structure SnapshotField extends Form.SnapshotField where
  name : Option String := none
  checked : Option Bool := none
  frameOrigin : Option String := none
  rendered : Option Bool := none
  validationMessage : Option String := none
  invalid : Option Bool := none
deriving DecidableEq

/-- A row of `computePageStateFingerprint`: a field without its refs and without what is in it. -/
structure FingerprintRow where
  label : String
  controlType : ControlType
  name : Option String
  required : Bool
  classification : Option Classification
  frameId : ℕ
  frameOrigin : Option String
  formScope : Option ℕ
  active : Bool
  rendered : Option Bool
  validationMessage : Option String
  invalid : Option Bool
deriving DecidableEq

def SnapshotField.row (field : SnapshotField) : FingerprintRow where
  label := field.label
  controlType := field.controlType
  name := field.name
  required := field.required
  classification := field.classification
  frameId := field.frameId
  frameOrigin := field.frameOrigin
  formScope := field.formScope
  active := field.active
  rendered := field.rendered
  validationMessage := field.validationMessage
  invalid := field.invalid

/-- What a fingerprint is computed over.  The rows and the labels are sorted, so that only which ones there are
counts. -/
structure FingerprintPayload where
  fields : Multiset FingerprintRow
  submitControlLabels : Multiset String
  challengeDetected : Bool
  activeFrameId : ℕ
  activeFormScope : Option ℕ
deriving DecidableEq

/-- What `readPageState` returns: one complete read of the page, with fresh refs. -/
structure PageState where
  fields : List SnapshotField
  nodeIds : Assoc Ref ℕ
  submitControls : List SnapshotSubmitControl
  challengeDetected : Bool
  activeFrameId : ℕ
  activeFormScope : Option ℕ
  topFrameOrigin : Option String
  fieldRefs : (fields.map fun field => field.fieldRef).Nodup

/-- `computePageStateFingerprint`, before the digest. -/
def PageState.payload (state : PageState) : FingerprintPayload where
  fields := ↑(state.fields.map SnapshotField.row)
  submitControlLabels := ↑(state.submitControls.map SnapshotSubmitControl.label)
  challengeDetected := state.challengeDetected
  activeFrameId := state.activeFrameId
  activeFormScope := state.activeFormScope

/-- `FormSnapshot`, with digests of some type. -/
structure FormSnapshot (φ : Type) where
  generation : ℕ
  fields : List SnapshotField
  submitControls : List SnapshotSubmitControl
  challengeDetected : Bool
  pageStateFingerprint : φ
  fieldRefs : (fields.map fun field => field.fieldRef).Nodup

/-- `findSnapshotField`. -/
def FormSnapshot.find {φ : Type} (snapshot : FormSnapshot φ) (fieldRef : Ref) : Option SnapshotField :=
  snapshot.fields.find? fun field => field.fieldRef = fieldRef

/-- `VerifiedFieldState`, without the time. -/
structure VerifiedFieldState where
  fieldRef : Ref
  status : VerificationStatus
  intendedValue : String
  committedValue : String
  checked : Option Bool
  attachmentNames : Option (List String)
  validationMessage : Option String
  generation : ℕ

/-! ## Policies -/

/-- What of an `ApplicationTargetPolicy` decides about writes. -/
structure WritePolicy extends ApplicationTargetPolicy where
  origins : List String
  allowedSubFrameOrigins : List String := []
  maxBytes : ℕ := 0
  mimeTypes : List String := []

def isFrameFillAllowed (policy : WritePolicy) (topFrameOrigin frameOrigin : Option String) : Bool :=
  match frameOrigin with
  | none => true
  | some origin =>
    if origin = "null" then false
    else if topFrameOrigin = some origin then true
    else if origin ∈ policy.origins then true
    else decide (origin ∈ policy.allowedSubFrameOrigins)

/-! ## The page -/

structure KeyEvent where
  down : Bool
  key : String
  code : Option String := none
  windowsVirtualKeyCode : Option ℕ := none
  modifiers : ℕ := 0
  commands : List String := []

inductive Act where
  | focus (backendNodeId : ℕ)
  | key (event : KeyEvent)
  | insertText (text : String)
  | mouse (pressed : Bool) (x y : ℚ)
  | setFileInputFiles (files : List String) (backendNodeId : ℕ)

/-- A browser with a page in some state.  A command is answered, or it fails with a message; reads leave the page
alone. -/
structure Browser (σ : Type) where
  dispatch : Act → σ → Except String Unit × σ
  boxModel : σ → ℕ → Except String (List ℚ)
  axTree : σ → ℕ → Except String AxNodes
  pageState : σ → Except String PageState

/-- `ApplicationExecutor`, as far as writes and readiness go. -/
structure ExecutorState (φ : Type) where
  policy : WritePolicy
  generation : ℕ
  currentSnapshot : Option (FormSnapshot φ)
  nodeIds : Assoc Ref ℕ
  verifications : Assoc Ref VerifiedFieldState
  topFrameOrigin : Option String

abbrev ExecM (φ σ : Type) : Type → Type := EStateM ExecutorError (ExecutorState φ × σ)

lemma ExecM.get_apply {φ σ : Type} (s : ExecutorState φ × σ) : (get : ExecM φ σ (ExecutorState φ × σ)) s = .ok s s :=
  rfl

lemma ExecM.modify_apply {φ σ : Type} (f : ExecutorState φ × σ → ExecutorState φ × σ) (s : ExecutorState φ × σ) :
    (modify f : ExecM φ σ PUnit) s = .ok ⟨⟩ (f s) :=
  rfl

lemma ExecM.throw_apply {φ σ α : Type} (e : ExecutorError) (s : ExecutorState φ × σ) :
    (throw e : ExecM φ σ α) s = .error e s :=
  rfl

/-! ## Writes -/

section

variable {φ σ : Type} (numberText : Number → String) (toLowerCase : String → String) (browser : Browser σ)

def requireAction (action : ExecutorAction) (name : String) : ExecM φ σ Unit := do
  let e := (← get).1
  if !isActionAllowed e.policy.toApplicationTargetPolicy action then
    throw (.policy name ("not permitted by policy \"" ++ e.policy.id ++ "\""))

def requireField (action : String) (fieldRef : Ref) : ExecM φ σ SnapshotField := do
  match (← get).1.currentSnapshot.bind fun snapshot => snapshot.find fieldRef with
  | none => throw (.policy action ("unknown fieldRef " ++ fieldRef.text "f"))
  | some field => return field

/-- `requireActiveField`, after `requireFillableFrame`. -/
def requireActiveField (action : String) (field : SnapshotField) : ExecM φ σ Unit := do
  let e := (← get).1
  if !isFrameFillAllowed e.policy e.topFrameOrigin field.frameOrigin then
    throw (.policy action ("fieldRef " ++ field.fieldRef.text "f" ++ " is in a cross-origin frame (frame " ++
      toString field.frameId ++ ", origin " ++ field.frameOrigin.getD "unknown" ++ ", top document " ++
      e.topFrameOrigin.getD "unknown" ++ ") that policy \"" ++ e.policy.id ++ "\" does not allow a fill into"))
  if !field.active then
    throw (.policy action ("fieldRef " ++ field.fieldRef.text "f" ++
      " is not part of the active form (frame " ++ toString field.frameId ++ ", form " ++
      (field.formScope.map toString).getD "none" ++ ")"))

def nodeIdFor (action : String) (fieldRef : Ref) : ExecM φ σ ℕ := do
  match (← get).1.nodeIds.get? fieldRef with
  | none => throw (.policy action ("unknown fieldRef " ++ fieldRef.text "f"))
  | some backendNodeId => return backendNodeId

/-- Commands that act, one after another. -/
def Browser.acts : List Act → σ → Except String Unit × σ
  | [], page => (.ok (), page)
  | act :: rest, page =>
    match browser.dispatch act page with
    | (.ok (), page) => Browser.acts rest page
    | (.error message, page) => (.error message, page)

def sendActs (acts : List Act) : ExecM φ σ Unit := fun (e, page) =>
  match browser.acts acts page with
  | (.ok (), page) => .ok () (e, page)
  | (.error message, page) => .error (.failed message) (e, page)

def boxCenter (content : List ℚ) : ℚ × ℚ :=
  (((content[0]?).getD 0 + (content[4]?).getD 0) / 2, ((content[1]?).getD 0 + (content[5]?).getD 0) / 2)

def clickActs (content : List ℚ) : List Act :=
  let (x, y) := boxCenter content
  [.mouse true x y, .mouse false x y]

def clickAt (backendNodeId : ℕ) : ExecM φ σ Unit := do
  match browser.boxModel (← get).2 backendNodeId with
  | .error message => throw (.failed message)
  | .ok content => sendActs browser (clickActs content)

/-- `blurFocusedControl`. -/
def blurActs : List Act :=
  [true, false].map fun down =>
    .key { down, key := "Tab", code := some "Tab", windowsVirtualKeyCode := some 9 }

def typeActs (backendNodeId : ℕ) (value : String) : List Act :=
  [.focus backendNodeId,
    .key { down := true, key := "a", code := some "KeyA", windowsVirtualKeyCode := some 65, modifiers := 2
           commands := ["selectAll"] },
    .key { down := false, key := "a", code := some "KeyA", windowsVirtualKeyCode := some 65, modifiers := 2 }] ++
  (if value = "" then
    [.key { down := true, key := "Delete", code := some "Delete", windowsVirtualKeyCode := some 46
            commands := ["delete"] },
      .key { down := false, key := "Delete", code := some "Delete", windowsVirtualKeyCode := some 46 }]
  else [.insertText value]) ++ blurActs

def selectActs (backendNodeId options index : ℕ) : List Act :=
  [.focus backendNodeId] ++ List.replicate options (.key { down := true, key := "ArrowUp" }) ++
    List.replicate index (.key { down := true, key := "ArrowDown" }) ++
      [.key { down := true, key := "Enter" }] ++ blurActs

/-- `readControlState`: a read that fails tells nothing. -/
def Browser.controlState (page : σ) (backendNodeId : ℕ) : Option AxControlState :=
  match browser.axTree page backendNodeId with
  | .error _ => none
  | .ok nodes => readAxControlState numberText nodes backendNodeId

def verificationStatus : (matching : Option Bool) → VerificationStatus
  | none => .unreadable
  | some true => .verified
  | some false => .mismatch

def verificationFor (generation : ℕ) (field : SnapshotField) (intendedValue : String)
    (state : Option AxControlState) (committedValue : String) (matching : Option Bool)
    (attachmentNames : Option (List String) := none) : VerifiedFieldState where
  fieldRef := field.fieldRef
  status := verificationStatus matching
  intendedValue := intendedValue
  committedValue := committedValue
  checked := state.bind AxControlState.checked
  attachmentNames := attachmentNames
  validationMessage :=
    let message := (state.bind AxControlState.description).or field.validationMessage
    if state.bind AxControlState.invalid = some true then message.filter (· ≠ "") else none
  generation := generation

def recordVerification (verification : VerifiedFieldState) : ExecM φ σ VerifiedFieldState := do
  modify fun (e, page) =>
    ({ e with verifications := e.verifications.set verification.fieldRef verification }, page)
  return verification

def boolText (b : Bool) : String := if b then "true" else "false"

def boxVerification (generation : ℕ) (field : SnapshotField) (value : String) (state : Option AxControlState) :
    VerifiedFieldState :=
  let checked := state.bind AxControlState.checked
  verificationFor generation field value state ((checked.map boolText).getD "")
    (checked.map fun checked => checked = decide (value = "true"))

def textVerification (generation : ℕ) (field : SnapshotField) (value : String) (state : Option AxControlState) :
    VerifiedFieldState :=
  let committed := state.bind AxControlState.value
  verificationFor generation field value state (committed.getD "") (committed.map fun committed => committed = value)

def requireUnclassified (field : SnapshotField) : ExecM φ σ Unit :=
  match field.classification with
  | none => return
  | some classification =>
    throw (.policy "fill" ("fieldRef " ++ field.fieldRef.text "f" ++ " is a " ++ classification.text ++
      ", never fillable"))

def fillBox (field : SnapshotField) (backendNodeId : ℕ) (value : String) : ExecM φ σ VerifiedFieldState := do
  if decide (value = "true") ≠ field.checked.getD false then clickAt browser backendNodeId
  let (e, page) ← get
  recordVerification (boxVerification e.generation field value (browser.controlState numberText page backendNodeId))

def fillText (field : SnapshotField) (backendNodeId : ℕ) (value : String) : ExecM φ σ VerifiedFieldState := do
  sendActs browser (typeActs backendNodeId value)
  let (e, page) ← get
  recordVerification (textVerification e.generation field value (browser.controlState numberText page backendNodeId))

def fill (fieldRef : Ref) (value : String) : ExecM φ σ VerifiedFieldState := do
  requireAction .fill "fill"
  let field ← requireField "fill" fieldRef
  requireUnclassified field
  requireActiveField "fill" field
  let backendNodeId ← nodeIdFor "fill" fieldRef
  if field.controlType = .checkbox ∨ field.controlType = .radio then
    fillBox numberText browser field backendNodeId value
  else fillText numberText browser field backendNodeId value

def select (fieldRef optionRef : Ref) : ExecM φ σ VerifiedFieldState := do
  requireAction .select "select"
  let field ← requireField "select" fieldRef
  let options := field.options.getD []
  match options.findIdx? fun option => option.optionRef = optionRef with
  | none =>
    throw (.policy "select" ("optionRef " ++ optionRef.text "o" ++ " is not on fieldRef " ++ fieldRef.text "f"))
  | some index =>
    requireActiveField "select" field
    let backendNodeId ← nodeIdFor "select" fieldRef
    let intendedLabel := (options[index]?.map SnapshotOption.label).getD ""
    sendActs browser (selectActs backendNodeId options.length index)
    let (e, page) ← get
    let state := browser.controlState numberText page backendNodeId
    let committed := state.bind AxControlState.value
    recordVerification (verificationFor e.generation field intendedLabel state (committed.getD "")
      (committed.map fun committed => trim committed = trim intendedLabel))

structure UploadFile where
  localFilePath : String
  mimeType : String
  byteSize : ℕ

def UploadFile.baseName (file : UploadFile) : String :=
  String.ofList (((file.localFilePath.toList.splitOnP fun c => c = '\\' ∨ c = '/').getLast?).getD [])

def requireFileInput (field : SnapshotField) : ExecM φ σ Unit :=
  if field.controlType = .file then return
  else throw (.policy "attach" ("fieldRef " ++ field.fieldRef.text "f" ++ " is not a file input"))

def requireUpload (file : UploadFile) : ExecM φ σ Unit := do
  let policy := (← get).1.policy
  if policy.maxBytes < file.byteSize then
    throw (.policy "attach" ("file (" ++ toString file.byteSize ++ " bytes) exceeds policy \"" ++ policy.id ++ "\"'s " ++
      toString policy.maxBytes ++ "-byte limit"))
  else if file.mimeType ∉ policy.mimeTypes then
    throw (.policy "attach" ("mime type \"" ++ file.mimeType ++ "\" is not allowed by policy \"" ++ policy.id ++ "\""))
  else return

def attach (fieldRef : Ref) (file : UploadFile) : ExecM φ σ VerifiedFieldState := do
  requireAction .attach "attach"
  let field ← requireField "attach" fieldRef
  requireFileInput field
  requireActiveField "attach" field
  requireUpload file
  let backendNodeId ← nodeIdFor "attach" fieldRef
  sendActs browser [.setFileInputFiles [file.localFilePath] backendNodeId]
  let (e, page) ← get
  let state := browser.controlState numberText page backendNodeId
  let attachmentNames := readAttachmentNames toLowerCase state [file.baseName]
  recordVerification (verificationFor e.generation field file.baseName state (", ".intercalate attachmentNames)
    (state.map fun _ => !attachmentNames.isEmpty) (some attachmentNames))

end

/-! ## What writes leave alone -/

section

variable {φ σ α β : Type} {numberText : Number → String} {toLowerCase : String → String} {browser : Browser σ}
  {work : ExecM φ σ α} {next : α → ExecM φ σ β} {action : String} {fieldRef : Ref}

def stateAfter (work : ExecM φ σ α) (s : ExecutorState φ × σ) : ExecutorState φ × σ :=
  match work s with
  | .ok _ after | .error _ after => after

structure KeepsSnapshot (work : ExecM φ σ α) : Prop where
  snapshot : ∀ s, (stateAfter work s).1.currentSnapshot = s.1.currentSnapshot
  nodeIds : ∀ s, (stateAfter work s).1.nodeIds = s.1.nodeIds

namespace KeepsSnapshot

lemma bind (h : KeepsSnapshot work) (hnext : ∀ a, KeepsSnapshot (next a)) : KeepsSnapshot (work >>= next) := by
  have hafter : ∀ s, stateAfter (work >>= next) s = match work s with
      | .ok a after => stateAfter (next a) after
      | .error _ after => after := by
    intro s
    simp only [stateAfter, Bind.bind, EStateM.bind]
    cases work s <;> rfl
  constructor
  · intro s
    have hwork := h.snapshot s
    rw [hafter]
    unfold stateAfter at hwork
    cases hresult : work s with
    | ok a after =>
      rw [hresult] at hwork
      exact ((hnext a).snapshot after).trans hwork
    | error e after => rwa [hresult] at hwork
  · intro s
    have hwork := h.nodeIds s
    rw [hafter]
    unfold stateAfter at hwork
    cases hresult : work s with
    | ok a after =>
      rw [hresult] at hwork
      exact ((hnext a).nodeIds after).trans hwork
    | error e after => rwa [hresult] at hwork

lemma pure {a : α} : KeepsSnapshot (Pure.pure a : ExecM φ σ α) := ⟨fun _ => rfl, fun _ => rfl⟩

lemma throw {e : Submission.ExecutorError} : KeepsSnapshot (throw e : ExecM φ σ α) := ⟨fun _ => rfl, fun _ => rfl⟩

lemma get : KeepsSnapshot (get : ExecM φ σ (ExecutorState φ × σ)) := ⟨fun _ => rfl, fun _ => rfl⟩

lemma requireAction {action : ExecutorAction} {name : String} :
    KeepsSnapshot (requireAction action name : ExecM φ σ Unit) := by
  refine .bind .get fun s => ?_
  dsimp only
  split
  · exact .throw
  · exact .pure

lemma requireField : KeepsSnapshot (requireField action fieldRef : ExecM φ σ SnapshotField) := by
  refine .bind .get fun s => ?_
  split
  · exact .throw
  · exact .pure

lemma requireActiveField {field : SnapshotField} :
    KeepsSnapshot (requireActiveField action field : ExecM φ σ Unit) := by
  refine .bind .get fun s => ?_
  dsimp only
  split
  · exact .bind .throw fun _ => by split <;> [exact .throw; exact .pure]
  · split
    · exact .throw
    · exact .pure

lemma nodeIdFor : KeepsSnapshot (nodeIdFor action fieldRef : ExecM φ σ ℕ) := by
  refine .bind .get fun s => ?_
  split
  · exact .throw
  · exact .pure

lemma sendActs {acts : List Act} : KeepsSnapshot (sendActs browser acts : ExecM φ σ Unit) := by
  have hafter : ∀ s : ExecutorState φ × σ, (stateAfter (Executor.sendActs browser acts) s).1 = s.1 := by
    rintro ⟨e, page⟩
    unfold stateAfter Executor.sendActs
    dsimp only
    rcases browser.acts acts page with ⟨_ | _, after⟩ <;> rfl
  constructor
  · exact fun s => congrArg ExecutorState.currentSnapshot (hafter s)
  · exact fun s => congrArg ExecutorState.nodeIds (hafter s)

lemma clickAt {backendNodeId : ℕ} : KeepsSnapshot (clickAt browser backendNodeId : ExecM φ σ Unit) := by
  refine .bind .get fun s => ?_
  split
  · exact .throw
  · exact .sendActs

lemma recordVerification {verification : VerifiedFieldState} :
    KeepsSnapshot (recordVerification verification : ExecM φ σ VerifiedFieldState) :=
  ⟨fun _ => rfl, fun _ => rfl⟩

lemma fill {value : String} : KeepsSnapshot (fill numberText browser fieldRef value : ExecM φ σ _) := by
  refine .bind .requireAction fun _ => .bind .requireField fun field => .bind ?_ fun _ =>
    .bind .requireActiveField fun _ => .bind .nodeIdFor fun backendNodeId => ?_
  · unfold requireUnclassified
    split
    · exact .pure
    · exact .throw
  · split
    · unfold fillBox
      split
      · exact .bind .clickAt fun _ => .bind .get fun s => .recordVerification
      · exact .bind .get fun s => .recordVerification
    · exact .bind .sendActs fun _ => .bind .get fun s => .recordVerification

lemma select {optionRef : Ref} : KeepsSnapshot (select numberText browser fieldRef optionRef : ExecM φ σ _) := by
  refine .bind .requireAction fun _ => .bind .requireField fun field => ?_
  dsimp only
  split
  · exact .throw
  · exact .bind .requireActiveField fun _ => .bind .nodeIdFor fun backendNodeId => .bind .sendActs fun _ =>
      .bind .get fun s => .recordVerification

lemma attach {file : UploadFile} :
    KeepsSnapshot (attach numberText toLowerCase browser fieldRef file : ExecM φ σ _) := by
  refine .bind .requireAction fun _ => .bind .requireField fun field => .bind ?_ fun _ =>
    .bind .requireActiveField fun _ => .bind ?_ fun _ => .bind .nodeIdFor fun backendNodeId =>
      .bind .sendActs fun _ => .bind .get fun s => .recordVerification
  · unfold requireFileInput
    split
    · exact .pure
    · exact .throw
  · unfold requireUpload
    refine .bind .get fun s => ?_
    dsimp only
    split
    · exact .throw
    · split
      · exact .throw
      · exact .pure

end KeepsSnapshot

end

/-! ## What a control holds -/

structure LiveControl where
  text : String := ""
  checked : Bool := false
  files : List String := []
  invalid : Bool := false

def Browser.published {σ : Type} (browser : Browser σ) (page : σ) (backendNodeId : ℕ) : Option CdpAxNode :=
  match browser.axTree page backendNodeId with
  | .error _ => none
  | .ok nodes => nodes.bind fun nodes => describingNode nodes backendNodeId

lemma controlState_eq_map {σ : Type} {numberText : Number → String} {browser : Browser σ} {page : σ}
    {backendNodeId : ℕ} :
    browser.controlState numberText page backendNodeId =
      (browser.published page backendNodeId).map (CdpAxNode.state numberText) := by
  unfold Browser.controlState Browser.published
  split <;> rfl

end VacancyRadar.Executor
