import VacancyRadar.Executor.Session

/-!
# Filling a field again

`fill` replaces a text, but it clicks a box whenever the box was not as wanted when the snapshot was taken.  So a
text that is filled in again stays, and a box that is filled in again is toggled back.
-/

namespace VacancyRadar.Executor

open Data Submission
open Form hiding ExecutorError FormSnapshot SnapshotField FormReadiness

variable {φ σ : Type} (numberText : Number → String)

/-! ## Fields that can be filled -/

def SnapshotField.isBox (field : SnapshotField) : Prop :=
  field.controlType = .checkbox ∨ field.controlType = .radio

instance SnapshotField.isBox.decidable {field : SnapshotField} : Decidable field.isBox :=
  inferInstanceAs (Decidable (_ ∨ _))

structure Fillable (e : ExecutorState φ) (field : SnapshotField) (backendNodeId : ℕ) : Prop where
  allowed : isActionAllowed e.policy.toApplicationTargetPolicy .fill
  found : e.currentSnapshot.bind (fun snapshot => snapshot.find field.fieldRef) = some field
  unclassified : field.classification = none
  frame : isFrameFillAllowed e.policy e.topFrameOrigin field.frameOrigin
  active : field.active
  node : e.nodeIds.get? field.fieldRef = some backendNodeId
  kind : field.isBox ∨ field.controlType = .text ∨ field.controlType = .textarea

structure Keeps (browser : Browser σ) (live : σ → ℕ → LiveControl) (field : SnapshotField) (backendNodeId : ℕ) :
    Prop where
  typed : ¬ field.isBox → ∀ page value, ∃ next,
    browser.acts (typeActs backendNodeId value) page = (.ok (), next) ∧ (live next backendNodeId).text = value
  clicked : field.isBox → ∀ page, ∃ content next, browser.boxModel page backendNodeId = .ok content ∧
    browser.acts (clickActs content) page = (.ok (), next) ∧
      (live next backendNodeId).checked =
        if field.controlType = .radio then true else !(live page backendNodeId).checked
  publishedText : ¬ field.isBox → ∀ page, ∃ node, browser.published page backendNodeId = some node ∧
    node.value.bind CdpAxValue.value = some (.str (live page backendNodeId).text)
  publishedChecked : field.isBox → ∀ page, ∃ node, browser.published page backendNodeId = some node ∧
    checkedState numberText node = some (live page backendNodeId).checked

/-! ## The law -/

def Holds (field : SnapshotField) (control : LiveControl) (value : String) : Prop :=
  if field.isBox then control.checked = decide (value = "true") else control.text = value

def afterFills (browser : Browser σ) (field : SnapshotField) (value : String) :
    ℕ → ExecutorState φ × σ → ExecutorState φ × σ
  | 0, s => s
  | n + 1, s =>
    match fill numberText browser field.fieldRef value (afterFills browser field value n s) with
    | .ok _ next | .error _ next => next

def FillsAgain (browser : Browser σ) (live : σ → ℕ → LiveControl) (field : SnapshotField) (backendNodeId : ℕ)
    (value : String) (s : ExecutorState φ × σ) : Prop :=
  ∀ n, ∃ verification,
    fill numberText browser field.fieldRef value (afterFills numberText browser field value n s) =
      .ok verification (afterFills numberText browser field value (n + 1) s) ∧
    verification.status = .verified ∧
      Holds field (live (afterFills numberText browser field value (n + 1) s).2 backendNodeId) value

/-- Where the law holds: a text can be read as a whole, and a box was as wanted in the snapshot and
still is, or is a radio button that is to be checked and was not. -/
def Settles (field : SnapshotField) (control : LiveControl) (value : String) : Prop :=
  if field.isBox then
    (field.checked.getD false = decide (value = "true") ∧ control.checked = decide (value = "true")) ∨
      (field.controlType = .radio ∧ value = "true" ∧ field.checked.getD false = false)
  else (codeUnits value).length ≤ maxAxStringLength

/-! ## One call -/

variable {numberText} {browser : Browser σ} {live : σ → ℕ → LiveControl} {field : SnapshotField}
  {backendNodeId : ℕ} {value : String} {e : ExecutorState φ} {page next : σ}

def ExecutorState.recorded (e : ExecutorState φ) (verification : VerifiedFieldState) : ExecutorState φ :=
  { e with verifications := e.verifications.set verification.fieldRef verification }

lemma Fillable.recorded (h : Fillable e field backendNodeId) (verification : VerifiedFieldState) :
    Fillable (e.recorded verification) field backendNodeId :=
  ⟨h.allowed, h.found, h.unclassified, h.frame, h.active, h.node, h.kind⟩

lemma fill_eq (numberText : Number → String) (browser : Browser σ) (value : String) (page : σ)
    (h : Fillable e field backendNodeId) : fill numberText browser field.fieldRef value (e, page) =
      (if field.controlType = .checkbox ∨ field.controlType = .radio then
        fillBox numberText browser field backendNodeId value
      else fillText numberText browser field backendNodeId value) (e, page) := by
  simp only [fill, requireAction, requireField, requireUnclassified, requireActiveField, nodeIdFor, bind,
    EStateM.bind, ExecM.get_apply, pure, EStateM.pure, h.allowed, h.found, h.unclassified, h.frame, h.active,
    h.node, Bool.not_true, Bool.false_eq_true, if_false]

lemma fill_text (numberText : Number → String) (h : Fillable e field backendNodeId) (hbox : ¬ field.isBox)
    (hacts : browser.acts (typeActs backendNodeId value) page = (.ok (), next)) :
    ∃ verification, verification =
        textVerification e.generation field value (browser.controlState numberText next backendNodeId) ∧
      fill numberText browser field.fieldRef value (e, page) = .ok verification (e.recorded verification, next) := by
  refine ⟨_, rfl, ?_⟩
  rw [fill_eq numberText browser value page h, if_neg (show ¬ (_ ∨ _) from hbox)]
  simp only [fillText, sendActs, recordVerification, bind, EStateM.bind, ExecM.get_apply, pure, EStateM.pure,
    hacts, ExecM.modify_apply, ExecutorState.recorded]

lemma fill_box_kept (numberText : Number → String) (browser : Browser σ) (page : σ)
    (h : Fillable e field backendNodeId) (hbox : field.isBox)
    (hsame : field.checked.getD false = decide (value = "true")) :
    ∃ verification, verification =
        boxVerification e.generation field value (browser.controlState numberText page backendNodeId) ∧
      fill numberText browser field.fieldRef value (e, page) = .ok verification (e.recorded verification, page) := by
  refine ⟨_, rfl, ?_⟩
  rw [fill_eq numberText browser value page h, if_pos (show _ ∨ _ from hbox)]
  simp only [fillBox, recordVerification, bind, EStateM.bind, ExecM.get_apply, pure, EStateM.pure, hsame, ne_eq,
    not_true_eq_false, if_false, ExecM.modify_apply, ExecutorState.recorded]

lemma fill_box_clicked (numberText : Number → String) (h : Fillable e field backendNodeId) (hbox : field.isBox)
    (hother : ¬ field.checked.getD false = decide (value = "true")) {content : List ℚ}
    (hcontent : browser.boxModel page backendNodeId = .ok content)
    (hacts : browser.acts (clickActs content) page = (.ok (), next)) :
    ∃ verification, verification =
        boxVerification e.generation field value (browser.controlState numberText next backendNodeId) ∧
      fill numberText browser field.fieldRef value (e, page) = .ok verification (e.recorded verification, next) := by
  refine ⟨_, rfl, ?_⟩
  have hne : ¬ decide (value = "true") = field.checked.getD false := fun heq => hother heq.symm
  rw [fill_eq numberText browser value page h, if_pos (show _ ∨ _ from hbox)]
  simp only [fillBox, clickAt, sendActs, recordVerification, bind, EStateM.bind, ExecM.get_apply, pure,
    EStateM.pure, hne, hcontent, hacts, if_true, ne_eq, not_false_eq_true, ExecM.modify_apply,
    ExecutorState.recorded]

/-! ## What is verified -/

lemma verificationStatus_eq_verified_iff {matching : Option Bool} :
    verificationStatus matching = .verified ↔ matching = some true := by
  rcases matching with _ | _ | _ <;> simp [verificationStatus]

variable {generation : ℕ}

lemma status_textVerification_iff (hkeeps : Keeps numberText browser live field backendNodeId)
    (hbox : ¬ field.isBox) :
    (textVerification generation field value (browser.controlState numberText page backendNodeId)).status =
        .verified ↔
      sliceUnits (live page backendNodeId).text maxAxStringLength = value := by
  obtain ⟨node, hnode, htext⟩ := hkeeps.publishedText hbox page
  have hvalue : (CdpAxNode.state numberText node).value =
      some (sliceUnits (live page backendNodeId).text maxAxStringLength) := by
    simp only [CdpAxNode.state, stringValue, htext]
  simp [textVerification, verificationFor, verificationStatus_eq_verified_iff, controlState_eq_map, hnode, hvalue]

lemma status_boxVerification_iff (hkeeps : Keeps numberText browser live field backendNodeId)
    (hbox : field.isBox) :
    (boxVerification generation field value (browser.controlState numberText page backendNodeId)).status =
        .verified ↔
      (live page backendNodeId).checked = decide (value = "true") := by
  obtain ⟨node, hnode, hchecked⟩ := hkeeps.publishedChecked hbox page
  have hstate : (CdpAxNode.state numberText node).checked = some (live page backendNodeId).checked := hchecked
  simp [boxVerification, verificationFor, verificationStatus_eq_verified_iff, controlState_eq_map, hnode, hstate]

lemma fill_spec (hfill : Fillable e field backendNodeId)
    (hkeeps : Keeps numberText browser live field backendNodeId) (value : String) (page : σ) :
    ∃ verification next,
      fill numberText browser field.fieldRef value (e, page) = .ok verification (e.recorded verification, next) ∧
      (¬ field.isBox → (live next backendNodeId).text = value ∧
        (verification.status = .verified ↔ (codeUnits value).length ≤ maxAxStringLength)) ∧
      (field.isBox →
        (verification.status = .verified ↔ (live next backendNodeId).checked = decide (value = "true")) ∧
        (live next backendNodeId).checked =
          if field.checked.getD false = decide (value = "true") then (live page backendNodeId).checked
          else if field.controlType = .radio then true else !(live page backendNodeId).checked) := by
  by_cases hbox : field.isBox
  · by_cases hsame : field.checked.getD false = decide (value = "true")
    · obtain ⟨verification, hverification, hcall⟩ := fill_box_kept numberText browser page hfill
        hbox hsame
      refine ⟨verification, page, hcall, fun h => absurd hbox h, fun _ => ⟨?_, (if_pos hsame).symm⟩⟩
      rw [hverification]
      exact status_boxVerification_iff hkeeps hbox
    · obtain ⟨content, next, hcontent, hacts, hchecked⟩ := hkeeps.clicked hbox page
      obtain ⟨verification, hverification, hcall⟩ := fill_box_clicked numberText hfill hbox hsame
        hcontent hacts
      refine ⟨verification, next, hcall, fun h => absurd hbox h, fun _ => ⟨?_, ?_⟩⟩
      · rw [hverification]
        exact status_boxVerification_iff hkeeps hbox
      · rw [if_neg hsame, hchecked]
  · obtain ⟨next, hacts, htext⟩ := hkeeps.typed hbox page value
    obtain ⟨verification, hverification, hcall⟩ := fill_text numberText hfill hbox hacts
    refine ⟨verification, next, hcall, fun _ => ⟨htext, ?_⟩, fun h => absurd h hbox⟩
    rw [hverification, status_textVerification_iff hkeeps hbox, htext, sliceUnits_eq_self_iff]

/-! ## Calls one after another -/

lemma fillable_afterFills (hfill : Fillable e field backendNodeId)
    (hkeeps : Keeps numberText browser live field backendNodeId) (value : String) (page : σ) (n : ℕ) :
    Fillable (afterFills numberText browser field value n (e, page)).1 field backendNodeId := by
  induction n with
  | zero => exact hfill
  | succ n ih =>
    obtain ⟨verification, next, hcall, -⟩ := fill_spec ih hkeeps value
      (afterFills numberText browser field value n (e, page)).2
    rw [afterFills, hcall]
    exact ih.recorded verification

lemma fill_afterFills (hfill : Fillable e field backendNodeId)
    (hkeeps : Keeps numberText browser live field backendNodeId) (value : String) (page : σ) (n : ℕ) :
    ∃ verification,
      fill numberText browser field.fieldRef value (afterFills numberText browser field value n (e, page)) =
        .ok verification (afterFills numberText browser field value (n + 1) (e, page)) ∧
      (¬ field.isBox →
        (live (afterFills numberText browser field value (n + 1) (e, page)).2 backendNodeId).text = value ∧
          (verification.status = .verified ↔ (codeUnits value).length ≤ maxAxStringLength)) ∧
      (field.isBox →
        (verification.status = .verified ↔
          (live (afterFills numberText browser field value (n + 1) (e, page)).2 backendNodeId).checked =
            decide (value = "true")) ∧
        (live (afterFills numberText browser field value (n + 1) (e, page)).2 backendNodeId).checked =
          if field.checked.getD false = decide (value = "true") then
            (live (afterFills numberText browser field value n (e, page)).2 backendNodeId).checked
          else if field.controlType = .radio then true
          else !(live (afterFills numberText browser field value n (e, page)).2 backendNodeId).checked) := by
  obtain ⟨verification, next, hcall, htext, hchecked⟩ := fill_spec
    (fillable_afterFills hfill hkeeps value page n) hkeeps value
    (afterFills numberText browser field value n (e, page)).2
  have hnext : afterFills numberText browser field value (n + 1) (e, page) =
      ((afterFills numberText browser field value n (e, page)).1.recorded verification, next) := by
    rw [afterFills, hcall]
  rw [hnext]
  exact ⟨verification, hcall, htext, hchecked⟩

lemma fillsAgain_text_iff (hfill : Fillable e field backendNodeId)
    (hkeeps : Keeps numberText browser live field backendNodeId) (hbox : ¬ field.isBox) :
    FillsAgain numberText browser live field backendNodeId value (e, page) ↔
      (codeUnits value).length ≤ maxAxStringLength := by
  constructor
  · intro h
    obtain ⟨verification, hcall, hverified, -⟩ := h 0
    obtain ⟨verification', hcall', htext, -⟩ := fill_afterFills hfill hkeeps value page 0
    cases hcall.symm.trans hcall'
    exact (htext hbox).2.mp hverified
  · intro hshort n
    obtain ⟨verification, hcall, htext, -⟩ := fill_afterFills hfill hkeeps value page n
    refine ⟨verification, hcall, (htext hbox).2.mpr hshort, ?_⟩
    rw [Holds, if_neg hbox]
    exact (htext hbox).1

lemma fillsAgain_box_iff (hfill : Fillable e field backendNodeId)
    (hkeeps : Keeps numberText browser live field backendNodeId) (hbox : field.isBox) :
    FillsAgain numberText browser live field backendNodeId value (e, page) ↔
      ∀ n, (live (afterFills numberText browser field value (n + 1) (e, page)).2 backendNodeId).checked =
        decide (value = "true") := by
  refine forall_congr' fun n => ?_
  obtain ⟨verification, hcall, -, hchecked⟩ := fill_afterFills hfill hkeeps value page n
  constructor
  · rintro ⟨-, -, -, hholds⟩
    rwa [Holds, if_pos hbox] at hholds
  · intro h
    refine ⟨verification, hcall, (hchecked hbox).1.mpr h, ?_⟩
    rwa [Holds, if_pos hbox]

lemma checked_afterFills_succ (hfill : Fillable e field backendNodeId)
    (hkeeps : Keeps numberText browser live field backendNodeId) (hbox : field.isBox) (value : String) (page : σ)
    (n : ℕ) :
    (live (afterFills numberText browser field value (n + 1) (e, page)).2 backendNodeId).checked =
      if field.checked.getD false = decide (value = "true") then
        (live (afterFills numberText browser field value n (e, page)).2 backendNodeId).checked
      else if field.controlType = .radio then true
      else !(live (afterFills numberText browser field value n (e, page)).2 backendNodeId).checked := by
  obtain ⟨verification, -, -, hchecked⟩ := fill_afterFills hfill hkeeps value page n
  exact (hchecked hbox).2

/-- **Filling again changes nothing if a text can be read, or if a box was as wanted.**  On a page
that keeps its values, all calls of `fill` with one value are verified and leave the control with
it, if and only if a text is not too long to be read back, and a box was as wanted in the snapshot
and still is, or is a radio button that is to be checked and was not. -/
theorem fillsAgain_iff (numberText : Number → String) (browser : Browser σ) (live : σ → ℕ → LiveControl)
    (e : ExecutorState φ) (page : σ) (field : SnapshotField) (backendNodeId : ℕ) (value : String)
    (hfill : Fillable e field backendNodeId) (hkeeps : Keeps numberText browser live field backendNodeId) :
    FillsAgain numberText browser live field backendNodeId value (e, page) ↔
      Settles field (live page backendNodeId) value := by
  by_cases hbox : field.isBox
  swap
  · rw [fillsAgain_text_iff hfill hkeeps hbox, Settles, if_neg hbox]
  rw [fillsAgain_box_iff hfill hkeeps hbox, Settles, if_pos hbox]
  have hstep := checked_afterFills_succ hfill hkeeps hbox value page
  by_cases hsame : field.checked.getD false = decide (value = "true")
  · -- no call clicks
    have hkept : ∀ n, (live (afterFills numberText browser field value n (e, page)).2 backendNodeId).checked =
        (live page backendNodeId).checked := by
      intro n
      induction n with
      | zero => rfl
      | succ n ih => rw [hstep n, if_pos hsame, ih]
    constructor
    · intro h
      exact .inl ⟨hsame, (hkept 1).symm.trans (h 0)⟩
    · rintro (⟨-, hnow⟩ | ⟨-, rfl, hwas⟩) n
      · rw [hkept, hnow]
      · rw [hsame] at hwas
        exact absurd hwas (by decide)
  · by_cases hradio : field.controlType = .radio
    · -- each call checks the button
      have hchecked : ∀ n,
          (live (afterFills numberText browser field value (n + 1) (e, page)).2 backendNodeId).checked = true := by
        intro n
        rw [hstep n, if_neg hsame, if_pos hradio]
      constructor
      · intro h
        have hvalue : value = "true" := of_decide_eq_true ((h 0).symm.trans (hchecked 0))
        refine .inr ⟨hradio, hvalue, ?_⟩
        simpa [hvalue] using hsame
      · rintro (⟨hwas, -⟩ | ⟨-, hvalue, -⟩) n
        · exact absurd hwas hsame
        · rw [hchecked, hvalue, decide_eq_true rfl]
    · -- each call toggles the box, so that the second one undoes the first one
      constructor
      · intro h
        have htoggled := hstep 1
        rw [if_neg hsame, if_neg hradio, h 1, h 0] at htoggled
        exact absurd htoggled.symm (Bool.not_ne_self _)
      · rintro (⟨hwas, -⟩ | ⟨hkind, -⟩)
        · exact absurd hwas hsame
        · exact absurd hkind hradio

/-! ## A plain page -/

structure PlainPage where
  text : String := ""
  checked : Bool := false
  selected : Bool := false

def plainDispatch : Act → PlainPage → Except String Unit × PlainPage
  | .focus _, page => (.ok (), { page with selected := false })
  | .key event, page =>
    (.ok (), if event.commands = ["selectAll"] then { page with selected := true }
      else if event.commands = ["delete"] ∧ page.selected then { page with text := "", selected := false }
      else page)
  | .insertText text, page =>
    (.ok (), { page with text := if page.selected then text else page.text ++ text, selected := false })
  | .mouse pressed _ _, page => (.ok (), if pressed then page else { page with checked := !page.checked })
  | .setFileInputFiles _ _, page => (.ok (), page)

def plainBrowser : Browser PlainPage where
  dispatch := plainDispatch
  boxModel _ _ := .ok [0, 0, 20, 0, 20, 20, 0, 20]
  axTree page backendNodeId := .ok (some [some
    { value := some ⟨some (.str page.text)⟩
      properties := [⟨some "checked", some ⟨some (.str (boolText page.checked))⟩⟩]
      backendDOMNodeId := some backendNodeId }])
  pageState _ := .error "not read"

def plainLive (page : PlainPage) (_ : ℕ) : LiveControl where
  text := page.text
  checked := page.checked

def plainField (controlType : Form.ControlType) (checked : Option Bool) : SnapshotField where
  fieldRef := 1
  label := "Field"
  controlType := controlType
  required := true
  options := none
  classification := none
  frameId := 0
  formScope := none
  active := true
  hasOptions := fun h => absurd rfl h
  optionRefs := List.nodup_nil
  checked := checked

def plainExecutor (field : SnapshotField) : ExecutorState Unit where
  policy :=
    { id := "fixture", allowedActions := [.snapshot, .fill], killFill := false, killUpload := false
      killNavigate := false, killSubmit := false, origins := [] }
  generation := 1
  currentSnapshot := some
    { generation := 1, fields := [field], submitControls := [], challengeDetected := false
      pageStateFingerprint := (), fieldRefs := List.nodup_singleton _ }
  nodeIds := [(1, 7)]
  verifications := []
  topFrameOrigin := none

lemma keeps_plain {numberText : Number → String} (hradio : field.controlType ≠ .radio) :
    Keeps numberText plainBrowser plainLive field 7 where
  typed := by
    intro _ page value
    by_cases hvalue : value = ""
    · subst hvalue
      exact ⟨_, rfl, rfl⟩
    · refine ⟨⟨value, page.checked, false⟩, ?_, rfl⟩
      simp [typeActs, hvalue, blurActs, Browser.acts, plainBrowser, plainDispatch]
  clicked := by
    intro _ page
    exact ⟨_, _, rfl, rfl, (if_neg hradio).symm⟩
  publishedText := by
    intro _ page
    exact ⟨_, rfl, rfl⟩
  publishedChecked := by
    rintro - ⟨text, checked, selected⟩
    refine ⟨_, rfl, ?_⟩
    have hfalse : sliceUnits "false" maxAxStringLength = "false" := sliceUnits_of_le (by decide)
    have htrue : sliceUnits "true" maxAxStringLength = "true" := sliceUnits_of_le (by decide)
    cases checked <;> simp [checkedState, propertyValue, stringValue, boolText, plainLive, hfalse, htrue]

/-- A text that is filled in again stays. -/
theorem fillsAgain_text :
    FillsAgain (fun _ => "") plainBrowser plainLive (plainField .text none) 7 "Ada"
      (plainExecutor (plainField .text none), {}) := by
  refine (fillsAgain_iff (fun _ => "") plainBrowser plainLive (plainExecutor (plainField .text none)) {}
    (plainField .text none) 7 "Ada" ⟨by decide, rfl, rfl, rfl, rfl, rfl, by decide⟩ (keeps_plain (by decide))).mpr ?_
  rw [Settles, if_neg (by decide)]
  decide

/-- A box that is not checked is to be checked: the second call toggles it back. -/
theorem not_fillsAgain_checkbox :
    ¬ ∀ (φ σ : Type) (numberText : Number → String) (browser : Browser σ) (live : σ → ℕ → LiveControl)
      (e : ExecutorState φ) (page : σ) (field : SnapshotField) (backendNodeId : ℕ) (value : String),
        Fillable e field backendNodeId → Keeps numberText browser live field backendNodeId →
          FillsAgain numberText browser live field backendNodeId value (e, page) := by
  intro hall
  have hfill : Fillable (plainExecutor (plainField .checkbox (some false))) (plainField .checkbox (some false)) 7 :=
    ⟨by decide, rfl, rfl, rfl, rfl, rfl, by decide⟩
  have hkeeps : Keeps (fun _ => "") plainBrowser plainLive (plainField .checkbox (some false)) 7 :=
    keeps_plain (by decide)
  obtain ⟨-, -, -, hholds⟩ := hall Unit PlainPage (fun _ => "") plainBrowser plainLive _ {} _ 7 "true" hfill hkeeps 1
  have hfirst := checked_afterFills_succ hfill hkeeps (.inl rfl) "true" {} 0
  have hsecond := checked_afterFills_succ hfill hkeeps (.inl rfl) "true" {} 1
  rw [Holds, if_pos (.inl rfl), hsecond, hfirst] at hholds
  exact absurd hholds (by decide)

end VacancyRadar.Executor
