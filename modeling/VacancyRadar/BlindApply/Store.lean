import Mathlib.Data.List.Sort
import VacancyRadar.Data.Table

/-!
# The Blind Apply record

The four tables of `workspace/blind-apply-schema.ts` and the functions of
`workspace/blind-apply-store.ts` that read and write them.  An authorization is the person's
confirmation, an item is one vacancy evaluated under one authorization, an event is one line of
the item's trail.  Times are milliseconds, keys that the database draws at random are numbers.
-/

namespace VacancyRadar.BlindApply

open Data

/-! ## Rows -/

inductive ItemState where
  | queued
  | preparing
  | ready
  | submitting
  | submitted
  | outcomeUnknown
  | couldNotSubmit
  | needsAnswer
  | needsYou
  | applyYourself
  | skipped
  | stopped
deriving DecidableEq

/-- `BLIND_APPLY_INTERVENTIONS`: what a person has to do for an item that needs them. -/
inductive Intervention where
  | captcha
  | login
  | verificationCode
  | consent
  | uploadUnsupported
  | other
deriving DecidableEq

def Intervention.text : Intervention → String
  | captcha => "captcha"
  | login => "login"
  | verificationCode => "verification_code"
  | consent => "consent"
  | uploadUnsupported => "upload_unsupported"
  | other => "other"

inductive SkipReason where
  | closed
  | duplicate
  | notFrontend
  | filters
  | unverifiedLink
  | unverifiablePosting
deriving DecidableEq

inductive EventKind where
  | gate
  | prepare
  | answerUsed
  | submitClick
  | receipt
  | stop
  | recover
  | userAction
deriving DecidableEq

inductive ControlType where
  | text
  | textarea
  | select
deriving DecidableEq

def ControlType.spelling : ControlType → String
  | text => "text"
  | textarea => "textarea"
  | select => "select"

/-- What a card that asks for an answer asks for. -/
structure MissingField where
  label : String
  controlType : ControlType
  options : Option (List String)
  optionSetHash : Option String
deriving DecidableEq

inductive FilterStatus where
  | eligible
  | notEligible
  | unknown
deriving DecidableEq

inductive LinkStatus where
  | verified
  | unverified
  | unknown
deriving DecidableEq

inductive DuplicateCheck where
  | clear
  | duplicate
deriving DecidableEq

structure GateEvidence where
  family : Option String
  filters : FilterStatus
  linkStatus : LinkStatus
  policyId : Option String
  livenessStatus : Option String
  livenessVerificationId : Option String
  duplicateCheck : DuplicateCheck
deriving DecidableEq

inductive Provenance where
  | cv
  | profile
  | savedAnswer
deriving DecidableEq

structure AnswerUse where
  label : String
  provenance : Provenance
  answerId : Option ℕ
deriving DecidableEq

/-- What the confirmation dialog records. -/
structure AuthorizationInput where
  roleFamilies : List String
  filtersSnapshot : String
  filtersHash : String
  profileVersion : String
  sourceCvId : Option String
  sourceCvContentHash : String
  useSavedAnswers : Bool
  policyIds : List String
  confirmTextHash : String

/-- A row of `blind_apply_authorizations`. -/
structure Authorization extends AuthorizationInput where
  id : ℕ
  createdAt : ℤ
  /-- When it was stopped, if it was. -/
  stoppedAt : Option ℤ
  stopReason : Option String

structure Item where
  id : ℕ
  authorizationId : ℕ
  vacancyKey : String
  /-- The identity that two postings of one role share. -/
  identityKey : String
  company : String
  role : String
  applyUrl : String
  policyId : Option String
  /-- The preparation attempt, once there is one. -/
  attemptId : Option ℕ
  state : ItemState
  stateDetail : String
  skipReason : Option SkipReason
  intervention : Option Intervention
  missingFields : Option (List MissingField)
  gateEvidence : GateEvidence
  prepRetries : ℕ
  createdAt : ℤ
  updatedAt : ℤ
deriving DecidableEq

structure ItemInput where
  authorizationId : ℕ
  vacancyKey : String
  identityKey : String
  company : String
  role : String
  applyUrl : String
  policyId : Option String
  state : ItemState
  stateDetail : String
  skipReason : Option SkipReason
  gateEvidence : GateEvidence

structure EventInput where
  kind : EventKind
  detail : Option String := none
  cvArtifactHash : Option String := none
  letterArtifactHash : Option String := none
  answers : Option (List AnswerUse) := none
  receiptId : Option ℕ := none
  postingVerificationId : Option String := none

/-- A row of `blind_apply_events`. -/
structure Event where
  id : ℕ
  itemId : ℕ
  writtenAt : ℤ
  /-- Nothing for the event that records the insertion of the item. -/
  fromState : Option ItemState
  toState : ItemState
  kind : EventKind
  detail : String
  cvArtifactHash : Option String
  letterArtifactHash : Option String
  answers : Option (List AnswerUse)
  receiptId : Option ℕ
  postingVerificationId : Option String

/-- What a transition may change besides the state; a field that is not given stays, except that
`intervention` and `missingFields` are cleared. -/
structure ItemPatch where
  stateDetail : Option String := none
  skipReason : Option SkipReason := none
  attemptId : Option (Option ℕ) := none
  intervention : Option Intervention := none
  missingFields : Option (List MissingField) := none
  prepRetries : Option ℕ := none

/-- A row of `blind_apply_answers`. -/
structure Answer where
  id : ℕ
  matchKey : String
  label : String
  controlType : ControlType
  answer : String
  optionSetHash : Option String
  createdAt : ℤ
  lastUsedAt : Option ℤ

instance : Keyed Authorization := ⟨Authorization.id⟩
instance : Keyed Item := ⟨Item.id⟩
instance : Keyed Event := ⟨Event.id⟩
instance : Keyed Answer := ⟨Answer.id⟩

/-- The Blind Apply part of the workspace database. -/
structure Store where
  authorizations : Table Authorization
  items : Table Item
  events : Table Event
  answers : Table Answer

/-- The database of a fresh installation. -/
def Store.empty : Store := ⟨∅, ∅, ∅, ∅⟩

inductive StoreError where
  /-- `BlindApplyDuplicateItemError`, with the item that covers the role already. -/
  | duplicateItem (existingItemId : ℕ)
  /-- The database refuses a reference to a row that does not exist. -/
  | foreignKey

/-! ## State sets -/

def terminalStates : List ItemState :=
  [.submitted, .outcomeUnknown, .couldNotSubmit, .applyYourself, .skipped, .stopped]

def liveStates : List ItemState :=
  [.queued, .preparing, .ready, .submitting, .needsAnswer, .needsYou]

def identityBlockingStates : List ItemState := liveStates ++ [.submitted, .outcomeUnknown]

def stoppableStates : List ItemState :=
  [.queued, .preparing, .ready, .needsAnswer, .needsYou]

variable {st : ItemState} {db : Store} {states : Option (List ItemState)}

lemma mem_liveStates_iff : st ∈ liveStates ↔ st ∉ terminalStates:= by
  cases st <;> decide

lemma mem_stoppableStates_iff : st ∈ stoppableStates ↔ st ∉ terminalStates ∧ st ≠ .submitting:= by
  cases st <;> decide

lemma mem_identityBlockingStates_of_not_terminal (h : st ∉ terminalStates) :
    st ∈ identityBlockingStates :=
  List.mem_append_left _ (mem_liveStates_iff.mpr h)

namespace Store

/-! ## Authorizations -/

/-- `createBlindApplyAuthorization`: at most one authorization is active at a time. -/
def createBlindApplyAuthorization (db : Store) (input : AuthorizationInput) (now : ℤ) :
    Store × Authorization :=
  let mk := fun id => { input with id, createdAt := now, stoppedAt := none, stopReason := none }
  let superseded := db.authorizations.updateWhere (fun a => a.stoppedAt.isNone)
    (fun a => { a with
      stoppedAt := some now
      stopReason := some "replaced by a newer confirmation" }) fun _ => rfl
  ({ db with authorizations := superseded.insert mk fun _ => rfl }, mk db.authorizations.next)

def getActiveBlindApplyAuthorization (db : Store) : Option Authorization :=
  ((db.authorizations.rows.filter fun a => a.stoppedAt.isNone).insertionSort
    fun a b => b.createdAt ≤ a.createdAt).head?

lemma get?_of_getActive {auth : Authorization} (h : db.getActiveBlindApplyAuthorization = some auth) :
    db.authorizations.get? auth.id = some auth ∧ auth.stoppedAt = none := by
  have hmem := List.mem_of_head? h
  rw [List.mem_insertionSort, List.mem_filter] at hmem
  exact ⟨Table.get?_key hmem.1, by simpa using hmem.2⟩

def getBlindApplyAuthorization (db : Store) (id : ℕ) : Option Authorization :=
  db.authorizations.get? id

def isBlindApplyAuthorizationActive (db : Store) (id : ℕ) : Bool :=
  (db.authorizations.get? id).any fun a => a.stoppedAt.isNone

def stopBlindApplyAuthorization (db : Store) (id : ℕ) (reason : String) (now : ℤ) :
    Store × Bool :=
  ({ db with
      authorizations := db.authorizations.updateWhere
        (fun a => a.id == id && a.stoppedAt.isNone)
        (fun a => { a with stoppedAt := some now, stopReason := some reason }) fun _ => rfl },
    db.isBlindApplyAuthorizationActive id)

/-! ## Items -/

/-- The row that `insertBlindApplyItem` writes under the key `id`. -/
def newItem (input : ItemInput) (now : ℤ) (id : ℕ) : Item where
  id := id
  authorizationId := input.authorizationId
  vacancyKey := input.vacancyKey
  identityKey := input.identityKey
  company := input.company
  role := input.role
  applyUrl := input.applyUrl
  policyId := input.policyId
  attemptId := none
  state := input.state
  stateDetail := input.stateDetail
  skipReason := input.skipReason
  intervention := none
  missingFields := none
  gateEvidence := input.gateEvidence
  prepRetries := 0
  createdAt := now
  updatedAt := now

def newEvent (itemId : ℕ) (fromState : Option ItemState) (toState : ItemState)
    (event : EventInput) (detail : String) (now : ℤ) (id : ℕ) : Event where
  id := id
  itemId := itemId
  writtenAt := now
  fromState := fromState
  toState := toState
  kind := event.kind
  detail := detail
  cvArtifactHash := event.cvArtifactHash
  letterArtifactHash := event.letterArtifactHash
  answers := event.answers
  receiptId := event.receiptId
  postingVerificationId := event.postingVerificationId

lemma key_newItem (input : ItemInput) (now : ℤ) (id : ℕ) :
    Keyed.key (newItem input now id) = id := rfl

lemma key_newEvent (itemId : ℕ) (fromState : Option ItemState) (toState : ItemState)
    (event : EventInput) (detail : String) (now : ℤ) (id : ℕ) :
    Keyed.key (newEvent itemId fromState toState event detail now id) = id := rfl

def itemOfVacancy (db : Store) (authorizationId : ℕ) (vacancyKey : String) : Option Item :=
  db.items.rows.find? fun r => r.authorizationId == authorizationId && r.vacancyKey == vacancyKey

def blockingItem (db : Store) (identityKey : String) : Option Item :=
  db.items.rows.find? fun r => r.identityKey == identityKey && r.state ∈ identityBlockingStates

/-- `insertBlindApplyItem`, with the item and whether it was created. -/
def insertBlindApplyItem (db : Store) (input : ItemInput) (now : ℤ) :
    Store × Except StoreError (Item × Bool) :=
  match db.itemOfVacancy input.authorizationId input.vacancyKey with
  | some existing => (db, .ok (existing, false))
  | none =>
    let blocking :=
      if input.state ∈ liveStates then db.blockingItem input.identityKey else none
    match blocking with
    | some blocking => (db, .error (.duplicateItem blocking.id))
    | none =>
      if (db.authorizations.get? input.authorizationId).isNone then (db, .error .foreignKey)
      else
        let row := newItem input now db.items.next
        ({ db with
            items := db.items.insert (newItem input now) (key_newItem _ _)
            events := db.events.insert (newEvent db.items.next none input.state
              { kind := .gate } input.stateDetail now) (key_newEvent _ _ _ _ _ _) },
          .ok (row, true))

def getBlindApplyItem (db : Store) (id : ℕ) : Option Item := db.items.get? id

def getBlindApplyItemByAttempt (db : Store) (attemptId : ℕ) : Option Item :=
  db.items.rows.find? fun r => r.attemptId == some attemptId

def listedBefore (a b : Item) : Prop :=
  b.updatedAt < a.updatedAt ∨ (b.updatedAt = a.updatedAt ∧ b.createdAt ≤ a.createdAt)

instance : DecidableRel listedBefore := fun _ _ =>
  inferInstanceAs (Decidable (_ ∨ (_ ∧ _)))

def listBlindApplyItems (db : Store) (authorizationId : Option ℕ)
    (states : Option (List ItemState)) : List Item :=
  (db.items.rows.filter fun r =>
    authorizationId.all (fun id => r.authorizationId == id) &&
      states.all fun states => r.state ∈ states).insertionSort listedBefore

lemma mem_listBlindApplyItems {authorizationId : Option ℕ} {r : Item} :
    r ∈ db.listBlindApplyItems authorizationId states ↔
      r ∈ db.items.rows ∧ (∀ id ∈ authorizationId, r.authorizationId = id) ∧
        ∀ sts ∈ states, r.state ∈ sts := by
  rw [listBlindApplyItems, List.mem_insertionSort, List.mem_filter]
  cases authorizationId <;> cases states <;> simp

def findIdentityBlockingBlindApplyItem (db : Store) (identityKey : String)
    (exceptItemId : Option ℕ := none) : Option Item :=
  (db.items.rows.filter fun r =>
    r.identityKey == identityKey && r.state ∈ identityBlockingStates).find?
      fun r => some r.id != exceptItemId

def moveItem (target : ItemState) (patch : ItemPatch) (now : ℤ) (r : Item) : Item :=
  { r with
    state := target
    updatedAt := now
    stateDetail := patch.stateDetail.getD r.stateDetail
    skipReason := patch.skipReason.or r.skipReason
    attemptId := patch.attemptId.getD r.attemptId
    intervention := patch.intervention
    missingFields := patch.missingFields
    prepRetries := patch.prepRetries.getD r.prepRetries }

lemma key_moveItem (target : ItemState) (patch : ItemPatch) (now : ℤ) (r : Item) :
    Keyed.key (moveItem target patch now r) = Keyed.key r := rfl

def transitionBlindApplyItem (db : Store) (itemId : ℕ) (expected : List ItemState)
    (target : ItemState) (patch : ItemPatch) (event : EventInput) (now : ℤ) :
    Store × Option Item :=
  let allowed := expected.filter fun st => st ∉ terminalStates
  match db.items.get? itemId with
  | none => (db, none)
  | some current =>
    if current.state ∈ allowed then
      let detail := (event.detail.or patch.stateDetail).getD ""
      ({ db with
          items := db.items.update itemId (moveItem target patch now) (key_moveItem _ _ _)
          events := db.events.insert (newEvent itemId (some current.state) target event detail
            now) (key_newEvent _ _ _ _ _ _) },
        some (moveItem target patch now current))
    else (db, none)

/-! ## Events -/

def appendBlindApplyEvent (db : Store) (itemId : ℕ) (state : ItemState) (event : EventInput)
    (now : ℤ) : Store × Except StoreError Event :=
  if (db.items.get? itemId).isNone then (db, .error .foreignKey)
  else
    let written := newEvent itemId (some state) state event (event.detail.getD "") now
    ({ db with events := db.events.insert written (key_newEvent _ _ _ _ _ _) },
      .ok (written db.events.next))

/-- The events of an item in the order in which they were written. -/
def eventsOf (db : Store) (itemId : ℕ) : List Event :=
  db.events.rows.filter fun e => e.itemId == itemId

/-! ## Answers -/

def findBlindApplyAnswer (db : Store) (matchKey : String) : Option Answer :=
  db.answers.rows.find? fun r => r.matchKey == matchKey

def scopedBlindAnswerKey (matchKey : String) (itemId : ℕ) : String :=
  matchKey ++ "::item:" ++ toString itemId

def findSavedAnswer (db : Store) (itemId : ℕ) (key : String) : Option (ℕ × String) :=
  ((db.findBlindApplyAnswer key).or
    (db.findBlindApplyAnswer (scopedBlindAnswerKey key itemId))).map fun r => (r.id, r.answer)

def saveBlindApplyAnswer (db : Store) (matchKey label : String) (controlType : ControlType)
    (answer : String) (optionSetHash : Option String) (now : ℤ) : Store :=
  match db.findBlindApplyAnswer matchKey with
  | some r =>
    { db with
      answers := db.answers.update r.id (fun r => { r with answer, label }) fun _ => rfl }
  | none =>
    { db with
      answers := db.answers.insert (fun id =>
        { id, matchKey, label, controlType, answer, optionSetHash
          createdAt := now, lastUsedAt := none }) fun _ => rfl }

def recordBlindApplyAnswerUsed (db : Store) (id : ℕ) (now : ℤ) : Store :=
  { db with
    answers := db.answers.update id (fun r => { r with lastUsedAt := some now }) fun _ => rfl }

end Store

end VacancyRadar.BlindApply
