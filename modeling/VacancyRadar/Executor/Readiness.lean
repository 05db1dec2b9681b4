import VacancyRadar.Executor.Fill

/-!
# Whether an application is ready

`form-readiness.ts` and `evaluateReadiness`: what the controls of the active form hold is read, and whatever is
missing or wrong blocks.  The names of the files in a file input are those that the last upload recorded, or what the
browser shows as the value of the input.
-/

namespace VacancyRadar.Executor

open Data Submission
open Form hiding ExecutorError FormSnapshot SnapshotField FormReadiness

variable {groups : Assoc (ℕ × Option ℕ × String) RadioGroupReadiness}

/-! ## The evaluation -/

structure LiveFieldState where
  value : Option String
  checked : Option Bool
  invalid : Option Bool
  validationMessage : Option String
  attachmentNames : Option (List String)

structure FormReadiness where
  ready : Bool
  verifiedFilledCount : ℕ
  discoveredFieldCount : ℕ
  requiredFieldCount : ℕ
  requiredFieldsSatisfied : ℕ
  blockers : List ReadinessBlocker

structure RadioGroupReadiness where
  fieldRef : Ref
  label : String
  satisfied : Bool

def isAnswered (field : SnapshotField) (state : Option LiveFieldState) : Bool :=
  match state with
  | none => false
  | some state =>
    if field.isBox then state.checked = some true
    else if field.controlType = .file then state.attachmentNames.getD [] ≠ []
    else trim (state.value.getD "") ≠ ""

def radioGroupKey (field : SnapshotField) : ℕ × Option ℕ × String :=
  (field.frameId, field.formScope, field.name.getD (field.fieldRef.text "f"))

def SnapshotField.considered (field : SnapshotField) : Bool := field.active && field.classification.isNone

def SnapshotField.isRequiredRadio (field : SnapshotField) : Bool := field.required && field.controlType = .radio

structure Tally where
  blockers : List ReadinessBlocker := []
  requiredFieldCount : ℕ := 0
  requiredFieldsSatisfied : ℕ := 0
  requiredRadioGroups : Assoc (ℕ × Option ℕ × String) RadioGroupReadiness := []

def missingBlockers (field : SnapshotField) (answered : Bool) : List ReadinessBlocker :=
  if answered then []
  else if field.controlType = .file then [.attachmentMissing field.fieldRef field.label]
  else [.requiredFieldEmpty field.fieldRef field.label]

def errorBlockers (field : SnapshotField) (state : Option LiveFieldState) : List ReadinessBlocker :=
  let message := ((state.bind LiveFieldState.validationMessage).or field.validationMessage).getD ""
  if message ≠ "" then [.validationError field.fieldRef field.label message]
  else if state.bind LiveFieldState.invalid = some true ∨ (state = none ∧ field.invalid = some true) then
    [.validationError field.fieldRef field.label "the page marked this field invalid without saying why"]
  else []

def noteRadio (groups : Assoc (ℕ × Option ℕ × String) RadioGroupReadiness) (field : SnapshotField)
    (answered : Bool) : Assoc (ℕ × Option ℕ × String) RadioGroupReadiness :=
  match groups.get? (radioGroupKey field) with
  | some group => groups.set (radioGroupKey field) { group with satisfied := group.satisfied || answered }
  | none => groups.set (radioGroupKey field) ⟨field.fieldRef, field.name.getD field.label, answered⟩

def Tally.add (liveState : Assoc Ref LiveFieldState) (tally : Tally) (field : SnapshotField) : Tally :=
  let state := liveState.get? field.fieldRef
  let answered := isAnswered field state
  let tally :=
    if field.isRequiredRadio then
      { tally with requiredRadioGroups := noteRadio tally.requiredRadioGroups field answered }
    else if field.required then
      { tally with
        requiredFieldCount := tally.requiredFieldCount + 1
        requiredFieldsSatisfied := tally.requiredFieldsSatisfied + if answered then 1 else 0
        blockers := tally.blockers ++ missingBlockers field answered }
    else tally
  { tally with blockers := tally.blockers ++ errorBlockers field state }

def writeBlocker (field : SnapshotField) : VerificationStatus → Option ReadinessBlocker
  | .verified => none
  | .mismatch => some (.valueMismatch field.fieldRef field.label)
  | .unreadable => some (.unverifiedWrite field.fieldRef field.label)

section

variable {φ : Type} [DecidableEq φ]

def FormSnapshot.activeFields (snapshot : FormSnapshot φ) : List SnapshotField :=
  snapshot.fields.filter SnapshotField.considered

def evaluateFormReadiness (snapshot : FormSnapshot φ) (liveState : Assoc Ref LiveFieldState)
    (verifications : List VerifiedFieldState) (currentPageStateFingerprint : Option φ) : FormReadiness :=
  let stale : List ReadinessBlocker :=
    if currentPageStateFingerprint.any fun current => current ≠ snapshot.pageStateFingerprint then
      [.stalePageState ("the page changed since the snapshot under review was taken, so nothing reviewed " ++
        "describes it any more")]
    else []
  let challenge : List ReadinessBlocker := if snapshot.challengeDetected then [.challengeDetected] else []
  let activeFields := snapshot.activeFields
  let tally := activeFields.foldl (Tally.add liveState) {}
  let groups := tally.requiredRadioGroups.map Prod.snd
  let groupBlockers : List ReadinessBlocker := (groups.filter fun group => !group.satisfied).map fun group =>
    .requiredFieldEmpty group.fieldRef group.label
  let written := (verifications.filter fun verification => verification.generation = snapshot.generation).filterMap
    fun verification => (activeFields.find? fun field => field.fieldRef = verification.fieldRef).map
      fun field => (field, verification.status)
  let blockers := stale ++ challenge ++ tally.blockers ++ groupBlockers ++
    written.filterMap fun write => writeBlocker write.1 write.2
  { ready := blockers.isEmpty
    verifiedFilledCount := written.countP fun write => write.2 = .verified
    discoveredFieldCount := activeFields.length
    requiredFieldCount := tally.requiredFieldCount + groups.length
    requiredFieldsSatisfied := tally.requiredFieldsSatisfied + groups.countP fun group => group.satisfied
    blockers := blockers }

variable {σ : Type} (numberText : Number → String) (hash : FingerprintPayload → φ) (browser : Browser σ)

def liveFieldState (e : ExecutorState φ) (field : SnapshotField) (state : AxControlState) : LiveFieldState where
  value := state.value
  checked := state.checked
  invalid := state.invalid
  validationMessage := if state.invalid = some true then state.description.filter (· ≠ "") else none
  attachmentNames :=
    if field.controlType = .file then
      some (((e.verifications.get? field.fieldRef).bind VerifiedFieldState.attachmentNames).getD
        (if state.value.getD "" = "" then [] else [state.value.getD ""]))
    else none

def readField (e : ExecutorState φ) (page : σ) (field : SnapshotField) : Option LiveFieldState :=
  if field.considered then
    (e.nodeIds.get? field.fieldRef).bind fun backendNodeId =>
      (browser.controlState numberText page backendNodeId).map (liveFieldState e field)
  else none

def readFields (e : ExecutorState φ) (page : σ) (fields : List SnapshotField) : Assoc Ref LiveFieldState :=
  Assoc.ofEntries (fields.filterMap fun field =>
    (readField numberText browser e page field).map fun state => (field.fieldRef, state))

def evaluateReadiness : ExecM φ σ FormReadiness := do
  requireAction .snapshot "snapshot"
  let (e, page) ← get
  match e.currentSnapshot with
  | none => throw (.policy "snapshot" "no current snapshot to evaluate readiness against")
  | some snapshot =>
    match browser.pageState page with
    | .error message => throw (.failed message)
    | .ok fresh =>
      return evaluateFormReadiness snapshot (readFields numberText browser e page snapshot.fields)
        (e.verifications.map Prod.snd) (some (hash fresh.payload))

end

/-! ## Histories -/

section

variable {φ σ : Type} (numberText : Number → String) (toLowerCase : String → String) (browser : Browser σ)

/-- What happens between a snapshot and an evaluation: a call of the executor, or anything that the page or the
person does. -/
inductive Move (σ : Type) where
  | fill (fieldRef : Ref) (value : String)
  | select (fieldRef optionRef : Ref)
  | attach (fieldRef : Ref) (file : UploadFile)
  | page (now : σ)

def Move.after (s : ExecutorState φ × σ) : Move σ → ExecutorState φ × σ
  | .fill fieldRef value => stateAfter (Executor.fill numberText browser fieldRef value) s
  | .select fieldRef optionRef => stateAfter (Executor.select numberText browser fieldRef optionRef) s
  | .attach fieldRef file => stateAfter (Executor.attach numberText toLowerCase browser fieldRef file) s
  | .page now => (s.1, now)

def afterMoves (s : ExecutorState φ × σ) (moves : List (Move σ)) : ExecutorState φ × σ :=
  moves.foldl (Move.after numberText toLowerCase browser) s

end

def FormSnapshot.taken {φ : Type} (hash : FingerprintPayload → φ) (generation : ℕ) (state : PageState) :
    FormSnapshot φ where
  generation := generation
  fields := state.fields
  submitControls := state.submitControls
  challengeDetected := state.challengeDetected
  pageStateFingerprint := hash state.payload
  fieldRefs := state.fieldRefs

def ExecutorState.snapshotted {φ : Type} (hash : FingerprintPayload → φ) (e : ExecutorState φ) (state : PageState) :
    ExecutorState φ :=
  { e with
    generation := e.generation + 1
    currentSnapshot := some (.taken hash (e.generation + 1) state)
    nodeIds := state.nodeIds
    verifications := []
    topFrameOrigin := state.topFrameOrigin }

/-! ## The law -/

section

variable {φ σ : Type} (numberText : Number → String) (hash : FingerprintPayload → φ) (browser : Browser σ)
  (live : σ → ℕ → LiveControl)

structure Publishes : Prop where
  value : ∀ page backendNodeId node, browser.published page backendNodeId = some node →
    ∀ text, publishedText numberText node.value = some text → text = (live page backendNodeId).text
  checked : ∀ page backendNodeId node, browser.published page backendNodeId = some node →
    checkedState numberText node = some true → (live page backendNodeId).checked
  invalid : ∀ page backendNodeId node, browser.published page backendNodeId = some node →
    invalidState numberText node = some false → (live page backendNodeId).invalid = false

variable (nodeIds : Assoc Ref ℕ) (page : σ)

def controlOf (field : SnapshotField) : Option LiveControl := (nodeIds.get? field.fieldRef).map (live page)

def HoldsAnswer (snapshot : FormSnapshot φ) (field : SnapshotField) : Prop :=
  match field.controlType with
  | .checkbox => ∃ control ∈ controlOf live nodeIds page field, control.checked
  | .radio => ∃ other ∈ snapshot.activeFields, other.controlType = .radio ∧
      radioGroupKey other = radioGroupKey field ∧ ∃ control ∈ controlOf live nodeIds page other, control.checked
  | .file => ∃ control ∈ controlOf live nodeIds page field, control.files ≠ []
  | _ => ∃ control ∈ controlOf live nodeIds page field, trim control.text ≠ ""

structure CanBeSent (snapshot : FormSnapshot φ) : Prop where
  answered : ∀ field ∈ snapshot.activeFields, field.required → HoldsAnswer live nodeIds page snapshot field
  valid : ∀ field ∈ snapshot.fields, field.active →
    ∀ control ∈ controlOf live nodeIds page field, control.invalid = false
  unchanged : ∃ fresh, browser.pageState page = .ok fresh ∧
    hash fresh.payload = snapshot.pageStateFingerprint ∧ fresh.challengeDetected = false

variable [DecidableEq φ]

def ReadyIsSo (s : ExecutorState φ × σ) : Prop :=
  ∀ readiness next snapshot, evaluateReadiness numberText hash browser s = .ok readiness next → readiness.ready →
    s.1.currentSnapshot = some snapshot → CanBeSent hash browser live s.1.nodeIds s.2 snapshot

/-! ## The condition -/

structure NothingBlocks (s : ExecutorState φ × σ) (snapshot : FormSnapshot φ) : Prop where
  allowed : isActionAllowed s.1.policy.toApplicationTargetPolicy .snapshot
  unchanged : ∃ fresh, browser.pageState s.2 = .ok fresh ∧ hash fresh.payload = snapshot.pageStateFingerprint
  unchallenged : snapshot.challengeDetected = false
  answered : ∀ field ∈ snapshot.activeFields, field.required → field.controlType ≠ .radio →
    isAnswered field (readField numberText browser s.1 s.2 field)
  radios : ∀ field ∈ snapshot.activeFields, field.isRequiredRadio → ∃ other ∈ snapshot.activeFields,
    other.isRequiredRadio ∧ radioGroupKey other = radioGroupKey field ∧
      isAnswered other (readField numberText browser s.1 s.2 other)
  errors : ∀ field ∈ snapshot.activeFields, errorBlockers field (readField numberText browser s.1 s.2 field) = []
  written : ∀ verification ∈ s.1.verifications.map Prod.snd, verification.generation = snapshot.generation →
    (∃ field ∈ snapshot.activeFields, field.fieldRef = verification.fieldRef) → verification.status = .verified

def namesRead (s : ExecutorState φ × σ) (field : SnapshotField) : List String :=
  ((readField numberText browser s.1 s.2 field).bind LiveFieldState.attachmentNames).getD []

structure NothingMissed (s : ExecutorState φ × σ) (snapshot : FormSnapshot φ) : Prop where
  files : ∀ field ∈ snapshot.activeFields, field.required → field.controlType = .file →
    (∀ control ∈ controlOf live s.1.nodeIds s.2 field, control.files = []) →
      namesRead numberText browser s field = []
  errors : ∀ field ∈ snapshot.fields, field.active →
    field.classification ≠ none ∨
      (readField numberText browser s.1 s.2 field).bind LiveFieldState.invalid = none →
        ∀ control ∈ controlOf live s.1.nodeIds s.2 field, control.invalid = false

end

/-! ## The loop over the fields -/

section

variable {liveState : Assoc Ref LiveFieldState} {tally : Tally} {field : SnapshotField} {fields : List SnapshotField}

lemma missingBlockers_eq_nil_iff {answered : Bool} : missingBlockers field answered = [] ↔ answered := by
  unfold missingBlockers
  split
  · next h => simp [h]
  · next h => split <;> simp [h]

lemma blockers_foldl_eq_nil_iff :
    (fields.foldl (Tally.add liveState) tally).blockers = [] ↔
      tally.blockers = [] ∧ ∀ field ∈ fields,
        (field.required → field.controlType ≠ .radio → isAnswered field (liveState.get? field.fieldRef)) ∧
          errorBlockers field (liveState.get? field.fieldRef) = [] := by
  induction fields generalizing tally with
  | nil => simp
  | cons field rest ih =>
    have hadd : (tally.add liveState field).blockers = [] ↔ tally.blockers = [] ∧
        (field.required → field.controlType ≠ .radio → isAnswered field (liveState.get? field.fieldRef)) ∧
          errorBlockers field (liveState.get? field.fieldRef) = [] := by
      unfold Tally.add
      split
      · next hradio =>
        have hkind : field.controlType = .radio := by simpa using (Bool.and_eq_true_iff.mp hradio).2
        simp [hkind]
      · next hradio =>
        split
        · next hrequired =>
          have hkind : field.controlType ≠ .radio := by simpa [SnapshotField.isRequiredRadio, hrequired] using hradio
          simp [missingBlockers_eq_nil_iff, hrequired, hkind]
        · next hrequired => simp [hrequired]
    rw [List.foldl_cons, ih, hadd, List.forall_mem_cons, and_assoc]

structure GroupsTell (liveState : Assoc Ref LiveFieldState)
    (groups : Assoc (ℕ × Option ℕ × String) RadioGroupReadiness) (fields : List SnapshotField) : Prop where
  keys : (groups.map Prod.fst).Nodup
  known : ∀ field ∈ fields, field.isRequiredRadio → (groups.get? (radioGroupKey field)).isSome
  named : ∀ key group, groups.get? key = some group →
    ∃ field ∈ fields, field.isRequiredRadio ∧ radioGroupKey field = key
  satisfied : ∀ key group, groups.get? key = some group → (group.satisfied ↔ ∃ field ∈ fields,
    field.isRequiredRadio ∧ radioGroupKey field = key ∧ isAnswered field (liveState.get? field.fieldRef))

lemma GroupsTell.noteRadio (h : GroupsTell liveState groups fields) (hradio : field.isRequiredRadio) :
    GroupsTell liveState (noteRadio groups field (isAnswered field (liveState.get? field.fieldRef)))
      (fields ++ [field]) := by
  obtain ⟨group, hnote, hgroup⟩ : ∃ group, Executor.noteRadio groups field
        (isAnswered field (liveState.get? field.fieldRef)) = groups.set (radioGroupKey field) group ∧
      (group.satisfied ↔ isAnswered field (liveState.get? field.fieldRef) ∨ ∃ other ∈ fields,
        other.isRequiredRadio ∧ radioGroupKey other = radioGroupKey field ∧
          isAnswered other (liveState.get? other.fieldRef)) := by
    unfold Executor.noteRadio
    cases hget : groups.get? (radioGroupKey field) with
    | some group =>
      refine ⟨_, rfl, ?_⟩
      rw [← h.satisfied _ _ hget, Bool.or_eq_true, or_comm]
    | none =>
      refine ⟨_, rfl, ?_⟩
      constructor
      · exact .inl
      · rintro (hanswered | ⟨other, hother, hrequired, hkey, -⟩)
        · exact hanswered
        · have hknown := h.known other hother hrequired
          rw [hkey, hget] at hknown
          exact absurd hknown (by simp)
  rw [hnote]
  constructor
  · exact Assoc.nodup_keys_set h.keys
  · intro other hother hrequired
    by_cases hkey : radioGroupKey other = radioGroupKey field
    · rw [hkey, Assoc.get?_set_self]
      rfl
    · rw [Assoc.get?_set_of_ne hkey]
      rcases List.mem_append.mp hother with hother | hother
      · exact h.known other hother hrequired
      · exact absurd (congrArg radioGroupKey (List.mem_singleton.mp hother)) hkey
  · intro key found hget
    by_cases hkey : key = radioGroupKey field
    · exact ⟨field, by simp, hradio, hkey.symm⟩
    · rw [Assoc.get?_set_of_ne hkey] at hget
      obtain ⟨other, hother, hrequired, hname⟩ := h.named key found hget
      exact ⟨other, List.mem_append_left _ hother, hrequired, hname⟩
  · intro key found hget
    by_cases hkey : key = radioGroupKey field
    · subst hkey
      rw [Assoc.get?_set_self] at hget
      obtain rfl := Option.some.inj hget
      rw [hgroup]
      constructor
      · rintro (hanswered | ⟨other, hother, hrest⟩)
        · exact ⟨field, by simp, hradio, rfl, hanswered⟩
        · exact ⟨other, List.mem_append_left _ hother, hrest⟩
      · rintro ⟨other, hother, hrequired, hname, hanswered⟩
        rcases List.mem_append.mp hother with hother | hother
        · exact .inr ⟨other, hother, hrequired, hname, hanswered⟩
        · obtain rfl := List.mem_singleton.mp hother
          exact .inl hanswered
    · rw [Assoc.get?_set_of_ne hkey] at hget
      rw [h.satisfied key found hget]
      constructor
      · rintro ⟨other, hother, hrest⟩
        exact ⟨other, List.mem_append_left _ hother, hrest⟩
      · rintro ⟨other, hother, hrequired, hname, hanswered⟩
        rcases List.mem_append.mp hother with hother | hother
        · exact ⟨other, hother, hrequired, hname, hanswered⟩
        · obtain rfl := List.mem_singleton.mp hother
          exact absurd hname.symm hkey

lemma GroupsTell.skip (h : GroupsTell liveState groups fields) (hradio : ¬ field.isRequiredRadio) :
    GroupsTell liveState groups (fields ++ [field]) := by
  have hold : ∀ other ∈ fields ++ [field], other.isRequiredRadio → other ∈ fields := by
    intro other hother hrequired
    rcases List.mem_append.mp hother with hother | hother
    · exact hother
    · exact absurd (List.mem_singleton.mp hother ▸ hrequired) hradio
  constructor
  · exact h.keys
  · exact fun other hother hrequired => h.known other (hold other hother hrequired) hrequired
  · intro key group hget
    obtain ⟨other, hother, hrest⟩ := h.named key group hget
    exact ⟨other, List.mem_append_left _ hother, hrest⟩
  · intro key group hget
    rw [h.satisfied key group hget]
    constructor
    · rintro ⟨other, hother, hrest⟩
      exact ⟨other, List.mem_append_left _ hother, hrest⟩
    · rintro ⟨other, hother, hrequired, hrest⟩
      exact ⟨other, hold other hother hrequired, hrequired, hrest⟩

lemma GroupsTell.foldl {counted : List SnapshotField} (h : GroupsTell liveState tally.requiredRadioGroups counted)
    (fields : List SnapshotField) :
    GroupsTell liveState (fields.foldl (Tally.add liveState) tally).requiredRadioGroups (counted ++ fields) := by
  induction fields generalizing tally counted with
  | nil => simpa using h
  | cons field rest ih =>
    have hadd : GroupsTell liveState (tally.add liveState field).requiredRadioGroups (counted ++ [field]) := by
      unfold Tally.add
      split
      · next hradio => exact h.noteRadio hradio
      · next hradio => split <;> exact h.skip hradio
    rw [List.foldl_cons]
    simpa using ih hadd

lemma GroupsTell.all_satisfied_iff (h : GroupsTell liveState groups fields) :
    (∀ group ∈ groups.map Prod.snd, group.satisfied) ↔
      ∀ field ∈ fields, field.isRequiredRadio → ∃ other ∈ fields, other.isRequiredRadio ∧
        radioGroupKey other = radioGroupKey field ∧ isAnswered other (liveState.get? other.fieldRef) := by
  constructor
  · intro hall field hfield hradio
    obtain ⟨group, hget⟩ := Option.isSome_iff_exists.mp (h.known field hfield hradio)
    exact (h.satisfied _ _ hget).mp (hall group (List.mem_map.mpr ⟨_, Assoc.mem_of_get? hget, rfl⟩))
  · intro hall group hgroup
    obtain ⟨⟨key, group⟩, hentry, rfl⟩ := List.mem_map.mp hgroup
    have hget := Assoc.get?_of_mem h.keys hentry
    obtain ⟨field, hfield, hradio, rfl⟩ := h.named key group hget
    exact (h.satisfied _ _ hget).mpr (hall field hfield hradio)

end

/-! ## What is read is so -/

section

variable {φ σ : Type} {numberText : Number → String} {toLowerCase : String → String}
  {hash : FingerprintPayload → φ} {browser : Browser σ} {live : σ → ℕ → LiveControl} {snapshot : FormSnapshot φ}
  {liveState : Assoc Ref LiveFieldState} {verifications : List VerifiedFieldState} {current : φ}
  {s : ExecutorState φ × σ} {field : SnapshotField} {page : σ} {e : ExecutorState φ}

lemma keeps_after (move : Move σ) :
    (Move.after numberText toLowerCase browser s move).1.currentSnapshot = s.1.currentSnapshot ∧
      (Move.after numberText toLowerCase browser s move).1.nodeIds = s.1.nodeIds := by
  cases move with
  | fill fieldRef value =>
    have hkeeps : KeepsSnapshot (fill numberText browser fieldRef value : ExecM φ σ _) := .fill
    exact ⟨hkeeps.snapshot s, hkeeps.nodeIds s⟩
  | select fieldRef optionRef =>
    have hkeeps : KeepsSnapshot (select numberText browser fieldRef optionRef : ExecM φ σ _) := .select
    exact ⟨hkeeps.snapshot s, hkeeps.nodeIds s⟩
  | attach fieldRef file =>
    have hkeeps : KeepsSnapshot (attach numberText toLowerCase browser fieldRef file : ExecM φ σ _) := .attach
    exact ⟨hkeeps.snapshot s, hkeeps.nodeIds s⟩
  | page now => exact ⟨rfl, rfl⟩

lemma currentSnapshot_afterMoves (moves : List (Move σ)) :
    (afterMoves numberText toLowerCase browser s moves).1.currentSnapshot = s.1.currentSnapshot := by
  induction moves generalizing s with
  | nil => rfl
  | cons move rest ih => exact ih.trans (keeps_after move).1

lemma mem_activeFields_iff :
    field ∈ snapshot.activeFields ↔ field ∈ snapshot.fields ∧ field.active ∧ field.classification = none := by
  simp [FormSnapshot.activeFields, SnapshotField.considered]

lemma exists_of_readField {state : LiveFieldState} (h : readField numberText browser e page field = some state) :
    ∃ backendNodeId node, e.nodeIds.get? field.fieldRef = some backendNodeId ∧
      browser.published page backendNodeId = some node ∧ state = liveFieldState e field (node.state numberText) := by
  unfold readField at h
  split at h
  · obtain ⟨backendNodeId, hnode, hstate⟩ := Option.bind_eq_some_iff.mp h
    rw [controlState_eq_map, Option.map_map] at hstate
    obtain ⟨node, hpublished, hstate⟩ := Option.map_eq_some_iff.mp hstate
    exact ⟨backendNodeId, node, hnode, hpublished, hstate.symm⟩
  · cases h

lemma checked_of_isAnswered (hpublishes : Publishes numberText browser live) (hbox : field.isBox)
    (h : isAnswered field (readField numberText browser e page field)) :
    ∃ control ∈ controlOf live e.nodeIds page field, control.checked := by
  cases hread : readField numberText browser e page field with
  | none => simp [isAnswered, hread] at h
  | some state =>
    obtain ⟨backendNodeId, node, hnode, hpublished, rfl⟩ := exists_of_readField hread
    rw [hread, isAnswered, if_pos hbox] at h
    have hchecked : checkedState numberText node = some true := of_decide_eq_true h
    refine ⟨live page backendNodeId, ?_, hpublishes.checked _ _ _ hpublished hchecked⟩
    rw [controlOf, hnode]
    rfl

lemma text_of_isAnswered (hpublishes : Publishes numberText browser live) (hbox : ¬ field.isBox)
    (hfile : field.controlType ≠ .file) (h : isAnswered field (readField numberText browser e page field)) :
    ∃ control ∈ controlOf live e.nodeIds page field, trim control.text ≠ "" := by
  cases hread : readField numberText browser e page field with
  | none => simp [isAnswered, hread] at h
  | some state =>
    obtain ⟨backendNodeId, node, hnode, hpublished, rfl⟩ := exists_of_readField hread
    rw [hread, isAnswered, if_neg hbox, if_neg hfile] at h
    have htext : trim ((stringValue numberText node.value).getD "") ≠ "" := of_decide_eq_true h
    refine ⟨live page backendNodeId, ?_, ?_⟩
    · rw [controlOf, hnode]
      rfl
    · cases hvalue : stringValue numberText node.value with
      | none => simp [hvalue, trim] at htext
      | some text =>
        rw [hvalue] at htext
        obtain ⟨published, hwhole, hsays⟩ := exists_publishedText_of_stringValue hvalue
        rw [← hpublishes.value _ _ _ hpublished _ hwhole]
        exact hsays htext

lemma names_of_isAnswered (live : σ → ℕ → LiveControl) (hfile : field.controlType = .file)
    (h : isAnswered field (readField numberText browser s.1 s.2 field)) :
    namesRead numberText browser s field ≠ [] ∧ (controlOf live s.1.nodeIds s.2 field).isSome := by
  have hbox : ¬ field.isBox := by simp [SnapshotField.isBox, hfile]
  cases hread : readField numberText browser s.1 s.2 field with
  | none => simp [isAnswered, hread] at h
  | some state =>
    obtain ⟨backendNodeId, node, hnode, -, -⟩ := exists_of_readField hread
    rw [hread, isAnswered, if_neg hbox, if_pos hfile] at h
    refine ⟨?_, by rw [controlOf, hnode]; rfl⟩
    rw [namesRead, hread]
    exact of_decide_eq_true h

lemma errorBlockers_ne_nil {state : Option LiveFieldState}
    (h : state.bind LiveFieldState.invalid = some true) : errorBlockers field state ≠ [] := by
  unfold errorBlockers
  dsimp only
  split
  · simp
  · rw [if_pos (.inl h)]
    simp

lemma get?_readFields (hfield : field ∈ snapshot.fields) :
    (readFields numberText browser e page snapshot.fields).get? field.fieldRef =
      readField numberText browser e page field := by
  have hsame : ∀ entry ∈ snapshot.fields.filterMap fun field =>
        (readField numberText browser e page field).map fun state => (field.fieldRef, state),
      entry.1 = field.fieldRef → readField numberText browser e page field = some entry.2 := by
    intro entry hentry hkey
    obtain ⟨other, hother, hread⟩ := List.mem_filterMap.mp hentry
    obtain ⟨state, hstate, rfl⟩ := Option.map_eq_some_iff.mp hread
    have hrefs : other = field := List.inj_on_of_nodup_map snapshot.fieldRefs hother hfield hkey
    rw [← hrefs, hstate]
  cases hget : (readFields numberText browser e page snapshot.fields).get? field.fieldRef with
  | some state =>
    obtain ⟨l, r, hentries, -⟩ := Assoc.get?_ofEntries_eq_some.mp hget
    exact (hsame (field.fieldRef, state) (hentries ▸ by simp) rfl).symm
  | none =>
    cases hread : readField numberText browser e page field with
    | none => rfl
    | some state =>
      refine absurd rfl (Assoc.get?_ofEntries_eq_none.mp hget (field.fieldRef, state) ?_)
      exact List.mem_filterMap.mpr ⟨field, hfield, by rw [hread]; rfl⟩

lemma canBeSent_of (hhash : Function.Injective hash) (hpublishes : Publishes numberText browser live)
    {generation : ℕ} {taken : PageState}
    (hblocks : NothingBlocks numberText hash browser s (.taken hash generation taken))
    (hmissed : NothingMissed numberText browser live s (.taken hash generation taken)) :
    CanBeSent hash browser live s.1.nodeIds s.2 (.taken hash generation taken) where
  answered := by
    intro field hfield hrequired
    unfold HoldsAnswer
    cases hkind : field.controlType with
    | checkbox =>
      exact checked_of_isAnswered hpublishes (.inl hkind) (hblocks.answered field hfield hrequired (by simp [hkind]))
    | radio =>
      obtain ⟨other, hother, hradio, hkey, hanswered⟩ := hblocks.radios field hfield
        (by simp [SnapshotField.isRequiredRadio, hrequired, hkind])
      have hotherKind : other.controlType = .radio := by simpa using (Bool.and_eq_true_iff.mp hradio).2
      exact ⟨other, hother, hotherKind, hkey, checked_of_isAnswered hpublishes (.inr hotherKind) hanswered⟩
    | file =>
      obtain ⟨hnames, hcontrol⟩ := names_of_isAnswered live hkind
        (hblocks.answered field hfield hrequired (by simp [hkind]))
      by_contra hnone
      push Not at hnone
      exact hnames (hmissed.files field hfield hrequired hkind hnone)
    | text | textarea | select | unknown =>
      exact text_of_isAnswered hpublishes (by simp [SnapshotField.isBox, hkind]) (by simp [hkind])
        (hblocks.answered field hfield hrequired (by simp [hkind]))
  valid := by
    intro field hfield hactive control hcontrol
    by_cases hclassified : field.classification = none
    swap
    · exact hmissed.errors field hfield hactive (.inl hclassified) control hcontrol
    have hconsidered := mem_activeFields_iff.mpr ⟨hfield, hactive, hclassified⟩
    cases hinvalid : (readField numberText browser s.1 s.2 field).bind LiveFieldState.invalid with
    | none => exact hmissed.errors field hfield hactive (.inr hinvalid) control hcontrol
    | some invalid =>
      cases invalid with
      | true => exact absurd (hblocks.errors field hconsidered) (errorBlockers_ne_nil hinvalid)
      | false =>
        obtain ⟨state, hread, hstate⟩ := Option.bind_eq_some_iff.mp hinvalid
        obtain ⟨backendNodeId, node, hnode, hpublished, rfl⟩ := exists_of_readField hread
        rw [controlOf, hnode] at hcontrol
        obtain rfl := Option.some.inj hcontrol
        exact hpublishes.invalid _ _ _ hpublished hstate
  unchanged := by
    obtain ⟨fresh, hfresh, hsame⟩ := hblocks.unchanged
    refine ⟨fresh, hfresh, hsame, ?_⟩
    have hpayload : fresh.payload = taken.payload := hhash hsame
    exact (congrArg FingerprintPayload.challengeDetected hpayload).trans hblocks.unchallenged

variable [DecidableEq φ]

/-! ## What blocks -/

lemma writeBlocker_eq_none_iff {status : VerificationStatus} :
    writeBlocker field status = none ↔ status = .verified := by
  cases status <;> simp [writeBlocker]

lemma ready_evaluateFormReadiness_iff :
    (evaluateFormReadiness snapshot liveState verifications (some current)).ready ↔
      current = snapshot.pageStateFingerprint ∧ snapshot.challengeDetected = false ∧
      (∀ field ∈ snapshot.activeFields,
        (field.required → field.controlType ≠ .radio → isAnswered field (liveState.get? field.fieldRef)) ∧
          errorBlockers field (liveState.get? field.fieldRef) = []) ∧
      (∀ field ∈ snapshot.activeFields, field.isRequiredRadio → ∃ other ∈ snapshot.activeFields,
        other.isRequiredRadio ∧ radioGroupKey other = radioGroupKey field ∧
          isAnswered other (liveState.get? other.fieldRef)) ∧
      ∀ verification ∈ verifications, verification.generation = snapshot.generation →
        (∃ field ∈ snapshot.activeFields, field.fieldRef = verification.fieldRef) →
          verification.status = .verified := by
  have hgroups : GroupsTell liveState
      (snapshot.activeFields.foldl (Tally.add liveState) {}).requiredRadioGroups snapshot.activeFields := by
    have hempty : GroupsTell liveState ({} : Tally).requiredRadioGroups [] := by
      constructor <;> simp [Assoc.get?]
    simpa using hempty.foldl snapshot.activeFields
  have hwritten : ((verifications.filter fun verification =>
        verification.generation = snapshot.generation).filterMap fun verification =>
          (snapshot.activeFields.find? fun field => field.fieldRef = verification.fieldRef).map
            fun field => (field, verification.status)).filterMap
              (fun write => writeBlocker write.1 write.2) = [] ↔
      ∀ verification ∈ verifications, verification.generation = snapshot.generation →
        (∃ field ∈ snapshot.activeFields, field.fieldRef = verification.fieldRef) →
          verification.status = .verified := by
    rw [List.filterMap_eq_nil_iff]
    constructor
    · rintro h verification hmem hgeneration ⟨field, hfield, href⟩
      obtain ⟨found, hfound⟩ : ∃ found, (snapshot.activeFields.find? fun field =>
          field.fieldRef = verification.fieldRef) = some found := by
        refine Option.isSome_iff_exists.mp (List.find?_isSome.mpr ⟨field, hfield, ?_⟩)
        exact decide_eq_true href
      refine writeBlocker_eq_none_iff.mp (h (found, verification.status) (List.mem_filterMap.mpr
        ⟨verification, List.mem_filter.mpr ⟨hmem, decide_eq_true hgeneration⟩, ?_⟩))
      rw [hfound]
      rfl
    · rintro h ⟨found, status⟩ hwrite
      obtain ⟨verification, hmem, hfound⟩ := List.mem_filterMap.mp hwrite
      obtain ⟨hmem, hgeneration⟩ := List.mem_filter.mp hmem
      obtain ⟨field, hfield, heq⟩ := Option.map_eq_some_iff.mp hfound
      obtain ⟨rfl, rfl⟩ := Prod.mk.inj heq
      have href := List.find?_some hfield
      exact writeBlocker_eq_none_iff.mpr (h verification hmem (of_decide_eq_true hgeneration)
        ⟨field, List.mem_of_find?_eq_some hfield, by simpa using href⟩)
  have hunsatisfied : ∀ groups : List RadioGroupReadiness, (groups.filter fun group => !group.satisfied).map
      (fun group => ReadinessBlocker.requiredFieldEmpty group.fieldRef group.label) = [] ↔
        ∀ group ∈ groups, group.satisfied := by
    intro groups
    simp
  unfold evaluateFormReadiness
  rw [List.isEmpty_iff, List.append_eq_nil_iff, List.append_eq_nil_iff, List.append_eq_nil_iff,
    List.append_eq_nil_iff, hwritten, hunsatisfied, hgroups.all_satisfied_iff, blockers_foldl_eq_nil_iff]
  have hstale : ∀ blocker : ReadinessBlocker,
      (if (some current).any fun current => current ≠ snapshot.pageStateFingerprint then [blocker] else []) = [] ↔
        current = snapshot.pageStateFingerprint := by
    intro blocker
    by_cases h : current = snapshot.pageStateFingerprint <;> simp [h]
  have hchallenge : (if snapshot.challengeDetected then [ReadinessBlocker.challengeDetected] else []) = [] ↔
      snapshot.challengeDetected = false := by
    cases snapshot.challengeDetected <;> simp
  rw [hstale, hchallenge]
  tauto

lemma evaluateReadiness_eq_ok {fresh : PageState}
    (hallowed : isActionAllowed s.1.policy.toApplicationTargetPolicy .snapshot)
    (hsnapshot : s.1.currentSnapshot = some snapshot) (hfresh : browser.pageState s.2 = .ok fresh) :
    evaluateReadiness numberText hash browser s =
      .ok (evaluateFormReadiness snapshot (readFields numberText browser s.1 s.2 snapshot.fields)
        (s.1.verifications.map Prod.snd) (some (hash fresh.payload))) s := by
  simp only [evaluateReadiness, requireAction, bind, EStateM.bind, ExecM.get_apply, pure,
    EStateM.pure, hallowed, hsnapshot, hfresh, Bool.not_true, Bool.false_eq_true, if_false]

lemma of_evaluateReadiness_eq_ok {readiness : FormReadiness} {next : ExecutorState φ × σ}
    (hsnapshot : s.1.currentSnapshot = some snapshot)
    (h : evaluateReadiness numberText hash browser s = .ok readiness next) :
    isActionAllowed s.1.policy.toApplicationTargetPolicy .snapshot ∧
      ∃ fresh, browser.pageState s.2 = .ok fresh ∧
        readiness = evaluateFormReadiness snapshot (readFields numberText browser s.1 s.2 snapshot.fields)
          (s.1.verifications.map Prod.snd) (some (hash fresh.payload)) := by
  by_cases hallowed : isActionAllowed s.1.policy.toApplicationTargetPolicy .snapshot
  swap
  · simp [evaluateReadiness, requireAction, bind, EStateM.bind, ExecM.get_apply, ExecM.throw_apply, hallowed] at h
  refine ⟨hallowed, ?_⟩
  cases hfresh : browser.pageState s.2 with
  | error message =>
    simp [evaluateReadiness, requireAction, bind, EStateM.bind, ExecM.get_apply, pure,
      EStateM.pure, ExecM.throw_apply, hallowed, hsnapshot, hfresh] at h
  | ok fresh =>
    rw [evaluateReadiness_eq_ok hallowed hsnapshot hfresh] at h
    cases h
    exact ⟨fresh, rfl, rfl⟩

lemma ready_iff (hsnapshot : s.1.currentSnapshot = some snapshot) :
    (∃ readiness next, evaluateReadiness numberText hash browser s = .ok readiness next ∧ readiness.ready) ↔
      NothingBlocks numberText hash browser s snapshot := by
  have hread : ∀ field ∈ snapshot.activeFields,
      (readFields numberText browser s.1 s.2 snapshot.fields).get? field.fieldRef =
        readField numberText browser s.1 s.2 field :=
    fun field hfield => get?_readFields (List.mem_filter.mp hfield).1
  constructor
  · rintro ⟨readiness, next, hok, hready⟩
    obtain ⟨hallowed, fresh, hfresh, rfl⟩ := of_evaluateReadiness_eq_ok hsnapshot hok
    obtain ⟨hunchanged, hchallenge, hfields, hradios, hwritten⟩ := ready_evaluateFormReadiness_iff.mp hready
    refine ⟨hallowed, ⟨fresh, hfresh, hunchanged⟩, hchallenge, ?_, ?_, ?_, hwritten⟩
    · intro field hfield hrequired hkind
      rw [← hread field hfield]
      exact (hfields field hfield).1 hrequired hkind
    · intro field hfield hradio
      obtain ⟨other, hother, hrequired, hkey, hanswered⟩ := hradios field hfield hradio
      exact ⟨other, hother, hrequired, hkey, hread other hother ▸ hanswered⟩
    · intro field hfield
      rw [← hread field hfield]
      exact (hfields field hfield).2
  · rintro ⟨hallowed, ⟨fresh, hfresh, hunchanged⟩, hchallenge, hanswered, hradios, herrors, hwritten⟩
    refine ⟨_, _, evaluateReadiness_eq_ok hallowed hsnapshot hfresh, ready_evaluateFormReadiness_iff.mpr
      ⟨hunchanged, hchallenge, fun field hfield => ?_, fun field hfield hradio => ?_, hwritten⟩⟩
    · rw [hread field hfield]
      exact ⟨hanswered field hfield, herrors field hfield⟩
    · obtain ⟨other, hother, hrequired, hkey, hanswered⟩ := hradios field hfield hradio
      exact ⟨other, hother, hrequired, hkey, (hread other hother).symm ▸ hanswered⟩

end

/-- **What is told to be ready is so where nothing is missed.**  A form that is told to be ready can
be sent, if and only if, when nothing that is read blocks, no names of files are read of a required
file input without a file, and no field shows an error that is classified or of unknown validity. -/
theorem readyIsSo_iff {φ σ : Type} [DecidableEq φ] (numberText : Number → String) (toLowerCase : String → String)
    (hash : FingerprintPayload → φ) (browser : Browser σ) (live : σ → ℕ → LiveControl)
    (hhash : Function.Injective hash) (hpublishes : Publishes numberText browser live) (e : ExecutorState φ)
    (taken : PageState) (page : σ) (moves : List (Move σ)) :
    ReadyIsSo numberText hash browser live
        (afterMoves numberText toLowerCase browser (e.snapshotted hash taken, page) moves) ↔
      (NothingBlocks numberText hash browser
          (afterMoves numberText toLowerCase browser (e.snapshotted hash taken, page) moves)
          (.taken hash (e.generation + 1) taken) →
        NothingMissed numberText browser live
          (afterMoves numberText toLowerCase browser (e.snapshotted hash taken, page) moves)
          (.taken hash (e.generation + 1) taken)) := by
  have hsnapshot : (afterMoves numberText toLowerCase browser (e.snapshotted hash taken, page)
      moves).1.currentSnapshot = some (.taken hash (e.generation + 1) taken) := currentSnapshot_afterMoves moves
  constructor
  · intro hready hblocks
    obtain ⟨readiness, next, hok, htrue⟩ := (ready_iff hsnapshot).mpr hblocks
    have hsent := hready readiness next _ hok htrue hsnapshot
    constructor
    · intro field hfield hrequired hkind hnone
      have hanswer := hsent.answered field hfield hrequired
      rw [HoldsAnswer, hkind] at hanswer
      obtain ⟨control, hcontrol, hfiles⟩ := hanswer
      exact absurd (hnone control hcontrol) hfiles
    · exact fun field hfield hactive _ => hsent.valid field hfield hactive
  · intro hmissed readiness next snapshot hok htrue hsome
    obtain rfl := Option.some.inj (hsnapshot.symm.trans hsome)
    have hblocks := (ready_iff hsnapshot).mp ⟨readiness, next, hok, htrue⟩
    exact canBeSent_of hhash hpublishes hblocks (hmissed hblocks)

/-! ## A form with an upload -/

def shownFiles (files : List String) : String := if files = [] then "No file chosen" else ", ".intercalate files

def uploadState : PageState where
  fields := [plainField .file none]
  nodeIds := [(1, 7)]
  submitControls := []
  challengeDetected := false
  activeFrameId := 0
  activeFormScope := none
  topFrameOrigin := none
  fieldRefs := List.nodup_singleton _

def uploadBrowser : Browser (List String) where
  dispatch act files :=
    match act with
    | .setFileInputFiles paths _ => (.ok (), paths)
    | _ => (.ok (), files)
  boxModel _ _ := .error "not read"
  axTree files backendNodeId := .ok (some [some
    { value := some ⟨some (.str (shownFiles files))⟩
      properties := [⟨some "invalid", some ⟨some (.str "false")⟩⟩]
      backendDOMNodeId := some backendNodeId }])
  pageState _ := .ok uploadState

def uploadLive (files : List String) (_ : ℕ) : LiveControl where
  text := shownFiles files
  files := files

def uploadExecutor : ExecutorState FingerprintPayload where
  policy := (plainExecutor (plainField .file none)).policy
  generation := 0
  currentSnapshot := none
  nodeIds := []
  verifications := []
  topFrameOrigin := none

lemma published_upload {files : List String} {backendNodeId : ℕ} :
    uploadBrowser.published files backendNodeId = some
      { value := some ⟨some (.str (shownFiles files))⟩
        properties := [⟨some "invalid", some ⟨some (.str "false")⟩⟩]
        backendDOMNodeId := some backendNodeId } := by
  simp [Browser.published, uploadBrowser, describingNode]

lemma publishes_upload : Publishes (fun _ => "") uploadBrowser uploadLive where
  value := by
    rintro files backendNodeId node hnode text htext
    obtain rfl := Option.some.inj (published_upload.symm.trans hnode)
    exact (Option.some.inj htext).symm
  checked := by
    rintro files backendNodeId node hnode hchecked
    obtain rfl := Option.some.inj (published_upload.symm.trans hnode)
    exact absurd hchecked (by simp [checkedState, propertyValue, stringValue])
  invalid := fun _ _ _ _ _ => rfl

/-- The person chooses a file, and what is told is so. -/
theorem readyIsSo_chosen :
    ReadyIsSo (fun _ => "") id uploadBrowser uploadLive
      (afterMoves (fun _ => "") id uploadBrowser (uploadExecutor.snapshotted id uploadState, [])
        [.page ["resume.pdf"]]) := by
  refine (readyIsSo_iff (fun _ => "") id id uploadBrowser uploadLive Function.injective_id publishes_upload
    uploadExecutor uploadState [] [.page ["resume.pdf"]]).mpr fun _ => ⟨?_, ?_⟩
  · intro field hfield _ _ hnone
    obtain rfl := List.mem_singleton.mp (mem_activeFields_iff.mp hfield).1
    exact absurd (hnone _ rfl) (by decide)
  · rintro field hfield - - control hcontrol
    obtain rfl := List.mem_singleton.mp hfield
    obtain rfl := Option.some.inj hcontrol
    rfl

/-- No file is chosen, but the form is told to be ready. -/
theorem not_readyIsSo_noFile :
    ¬ ∀ (φ σ : Type) (_ : DecidableEq φ) (numberText : Number → String) (toLowerCase : String → String)
      (hash : FingerprintPayload → φ) (browser : Browser σ) (live : σ → ℕ → LiveControl),
        Function.Injective hash → Publishes numberText browser live → ∀ (e : ExecutorState φ) (taken : PageState)
          (page : σ) (moves : List (Move σ)), ReadyIsSo numberText hash browser live
            (afterMoves numberText toLowerCase browser (e.snapshotted hash taken, page) moves) := by
  intro hall
  have hready := hall FingerprintPayload (List String) inferInstance (fun _ => "") id id uploadBrowser uploadLive
    Function.injective_id publishes_upload uploadExecutor uploadState [] []
  have htold : ∃ readiness next, evaluateReadiness (fun _ => "") id uploadBrowser
      (uploadExecutor.snapshotted id uploadState, []) = .ok readiness next ∧ readiness.ready :=
    ⟨_, _, rfl, by decide⟩
  obtain ⟨readiness, next, hok, htrue⟩ := htold
  have hsent := hready readiness next _ hok htrue rfl
  obtain ⟨control, hcontrol, hfiles⟩ := hsent.answered (plainField .file none) (by decide) rfl
  obtain rfl := Option.some.inj hcontrol
  exact hfiles rfl

end VacancyRadar.Executor
