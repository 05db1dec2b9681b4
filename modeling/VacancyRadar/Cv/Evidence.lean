import Mathlib.Algebra.GroupWithZero.Nat
import VacancyRadar.Data.Text

/-!
# The evidence of a case

`workspace/cv-evidence-schema.ts`: what a candidate says of their work, and the wording that may stand
in a CV because of it.  Both are lists that a caller replaces as a whole, and every write is checked
against what the case has held before.
-/

namespace VacancyRadar.Cv

open Data

/-! ## Words -/

structure Unicode where
  toLowerCase : String → String
  /-- A letter or a number: `\p{L}` or `\p{N}`. -/
  isWordChar : Char → Bool
  /-- The simple case folding, by which a pattern with the flag `i` compares characters. -/
  foldCase : Char → Char

/-- `replace(/\s+/gu, ' ')`.  The flag says that a space was just written for the spaces before. -/
def collapse : Bool → List Char → List Char
  | _, [] => []
  | true, c :: rest => if isTrimmed c then collapse true rest else c :: collapse false rest
  | false, c :: rest => if isTrimmed c then ' ' :: collapse true rest else c :: collapse false rest

def unitLength (text : List Char) : ℕ := (text.map fun c => if c.toNat ≤ 0xffff then 1 else 2).sum

variable (u : Unicode)

def normalizeWords (value : String) : String :=
  String.ofList (collapse false (u.toLowerCase (trim value)).toList)

instance instLawfulBEqText : LawfulBEq (List Char) := inferInstance

def wordSet (value : String) : List (List Char) :=
  (((normalizeWords u value).toList.splitOnP fun c => !u.isWordChar c).filter fun word =>
    2 < unitLength word).eraseDups

/-- `sameSubject`.  The quotient of two small integers is below `0.7` as a double if and only if it is
below seven tenths. -/
def sameSubject (a b : String) : Bool :=
  normalizeWords u a = normalizeWords u b ||
    let left := wordSet u a
    let right := wordSet u b
    left ≠ [] && right ≠ [] &&
      7 * min left.length right.length ≤ 10 * (left.filter fun word => word ∈ right).length

/-! ## Facts and wording -/

/-- The kind of the source entry that a fact is evidence for. -/
inductive ParentType where
  | experience
  | project
deriving DecidableEq

/-- `CvFactOwnership`. -/
inductive Ownership where
  | sole
  | shared
  | unknown
deriving DecidableEq

/-- `CvFactSourceKind`. -/
inductive SourceKind where
  | mcpProposal
  | candidateTestimony
  | repositoryInspection
deriving DecidableEq

/-- `CvFactVerification`. -/
inductive Verification where
  | unreviewed
  | selfReported
  | candidateConfirmedGap
  | corroborated
deriving DecidableEq

/-- `CvFactApproval`. -/
inductive Approval where
  | proposed
  | approved
  | rejected
  | superseded
deriving DecidableEq

/-- `CvFactAnchorField`. -/
inductive AnchorField where
  | experienceBullets
  | projectDescription
deriving DecidableEq

structure CvFactSkillAnchor where
  skill : String
  digest : String
deriving DecidableEq

structure CvFactAnchor where
  parentId : String
  field : AnchorField
  text : String
  digest : String
  profileSkills : List CvFactSkillAnchor
deriving DecidableEq

structure CvEvidenceFact where
  factId : String
  parentId : String := ""
  parentType : ParentType
  client : String := ""
  activity : String := ""
  mechanism : String := ""
  result : String := ""
  ownership : Ownership := .unknown
  sourceKind : SourceKind := .candidateTestimony
  sourceReference : String := ""
  verification : Verification := .selfReported
  metricValue : String := ""
  metricUnit : String := ""
  metricBasis : String := ""
  supersedes : String := ""
  createdAt : String := ""
  approval : Approval := .proposed
  timePhase : String := ""
  anchor : Option CvFactAnchor := none
deriving DecidableEq

/-- `CvClaimField`. -/
inductive ClaimField where
  | summary
  | skill
  | experienceBullet
  | projectDescription
deriving DecidableEq

/-- `CvWordingApprovalStatus`. -/
inductive WordingStatus where
  | draft
  | candidateApproved
  | rejected
  | superseded
deriving DecidableEq

structure CvApprovedWording where
  variantId : String
  targetField : ClaimField
  parentId : String := ""
  text : String
  factIds : List String := []
  status : WordingStatus := .draft
  approvedAt : String := ""
  sourceRevision : String := ""
  supersedes : String := ""
  rejectedAt : String := ""
deriving DecidableEq

structure CvEvidence where
  facts : List CvEvidenceFact := []
  wordingVariants : List CvApprovedWording := []

/-! ## Contradictions -/

structure CvFactConflict where
  factIds : String × String
  reason : String

def conflictBetween (a b : CvEvidenceFact) : Option CvFactConflict :=
  if a.parentId ≠ b.parentId then none
  else if a.verification = .candidateConfirmedGap ∨ b.verification = .candidateConfirmedGap then none
  else if normalizeWords u a.timePhase ≠ normalizeWords u b.timePhase then none
  else if sameSubject u a.activity b.activity = false then none
  else if a.ownership ≠ .unknown ∧ b.ownership ≠ .unknown ∧ a.ownership ≠ b.ownership then
    some ⟨(a.factId, b.factId), "one says you did this alone and the other says it was shared work"⟩
  else if trim a.metricValue ≠ "" ∧ trim b.metricValue ≠ "" ∧
      normalizeWords u a.metricValue ≠ normalizeWords u b.metricValue then
    some ⟨(a.factId, b.factId), "the two facts give different numbers for the same work"⟩
  else none

def conflictsOf : List CvEvidenceFact → List CvFactConflict
  | [] => []
  | fact :: rest => rest.filterMap (conflictBetween u fact) ++ conflictsOf rest

def findCvFactConflicts (facts : List CvEvidenceFact) : List CvFactConflict :=
  conflictsOf u (facts.filter fun fact => fact.approval = .proposed ∨ fact.approval = .approved)

def conflictedFactIdSet (facts : List CvEvidenceFact) : List String :=
  (findCvFactConflicts u facts).flatMap fun conflict => [conflict.factIds.1, conflict.factIds.2]

def isCvFactUsable (fact : CvEvidenceFact) (conflictedFactIds : List String) : Bool :=
  fact.approval = .approved && fact.verification ≠ .unreviewed && fact.factId ∉ conflictedFactIds

/-! ## Numbers -/

/-- What follows the first digit of a number. -/
def isPoint (c : Char) : Bool := c == '.' || c == ','

/-- The matches of `NUMBER_PATTERN` without the points at their ends.  The first list is what has been
read of a match, backwards. -/
def numbersFrom : List Char → List Char → List (List Char)
  | [], [] => []
  | current, [] => [(current.dropWhile isPoint).reverse]
  | [], c :: rest => if c.isDigit then numbersFrom [c] rest else numbersFrom [] rest
  | current, c :: rest =>
    if c.isDigit || isPoint c then numbersFrom (c :: current) rest
    else (current.dropWhile isPoint).reverse :: numbersFrom [] rest

def numbers (text : String) : List String := (numbersFrom [] text.toList).map String.ofList

def CvEvidenceFact.stated (fact : CvEvidenceFact) : List String :=
  [fact.activity, fact.mechanism, fact.result, fact.metricValue, fact.metricUnit]

def unbackedNumbers (text : String) (facts : List CvEvidenceFact) : List String :=
  let backed := numbers (" ".intercalate (facts.flatMap CvEvidenceFact.stated))
  (numbers text).filter fun number => number ∉ backed

/-! ## Writes -/

/-- `factSignature`, whose parts are texts or are written as texts. -/
def factSignature (fact : CvEvidenceFact) :
    List String × ParentType × Ownership × Verification :=
  ([fact.parentId, fact.client, fact.activity, fact.mechanism, fact.result, fact.timePhase,
    fact.metricValue, fact.metricUnit, fact.metricBasis],
    fact.parentType, fact.ownership, fact.verification)

def lastOf {α : Type} (id : α → String) (entries : List α) (key : String) : Option α :=
  entries.reverse.find? fun entry => id entry = key

/-- A `Map` of facts by their ids. -/
def factOf : List CvEvidenceFact → String → Option CvEvidenceFact := lastOf CvEvidenceFact.factId

/-- A `Map` of wording by its ids. -/
def variantOf : List CvApprovedWording → String → Option CvApprovedWording :=
  lastOf CvApprovedWording.variantId

structure WriteContext where
  sourceCvContentHash : String
  now : String

def CvEvidenceFact.testified (before : Option CvEvidenceFact) (incoming : CvEvidenceFact) :
    CvEvidenceFact :=
  if incoming.approval = .approved ∧ before.map CvEvidenceFact.approval ≠ some .approved ∧
      incoming.verification = .unreviewed then
    { incoming with
      verification := .selfReported
      sourceKind :=
        if incoming.sourceKind = .mcpProposal then .candidateTestimony else incoming.sourceKind }
  else incoming

/-- The part of `reconcileCvEvidence` for one fact. -/
def reconcileFact (before : Option CvEvidenceFact) (incoming : CvEvidenceFact) :
    Except String CvEvidenceFact :=
  let fact := incoming.testified before
  match before with
  | none => .ok fact
  | some before =>
    let restored := before.approval = .rejected ∧ fact.approval = .proposed
    if (before.approval = .rejected ∨ before.approval = .superseded) ∧
        fact.approval ≠ before.approval ∧ ¬ restored then
      .error "a rejected or replaced fact cannot be reused: add a corrected fact instead"
    else if before.approval = .approved ∧ fact.approval = .approved ∧
        factSignature before ≠ factSignature fact then
      .ok { fact with approval := .proposed }
    else .ok fact

def droppedFactIds (previous facts : List CvEvidenceFact) : List String :=
  (facts.filter fun fact =>
    (factOf previous fact.factId).map CvEvidenceFact.approval = some .approved ∧
      fact.approval ≠ .approved).map CvEvidenceFact.factId

def checkApproval (facts : List CvEvidenceFact) (variant : CvApprovedWording) : Except String Unit :=
  let cited := variant.factIds.map (factOf facts)
  if variant.factIds = [] ∨ none ∈ cited then
    .error "this wording cites a fact that does not exist on this case, so it cannot be approved"
  else
    let usableFacts := cited.reduceOption
    if usableFacts.any fun fact => !isCvFactUsable fact (conflictedFactIdSet u facts) then
      .error ("this wording cites a fact that is not approved or is in a contradiction, " ++
        "so it cannot be approved")
    else
      let unbacked := unbackedNumbers variant.text usableFacts
      if unbacked ≠ [] then
        .error ("this wording contains a number (" ++ ", ".intercalate unbacked ++
          ") that none of its facts state")
      else .ok ()

def backingBroken (previous facts : List CvEvidenceFact) (variant : CvApprovedWording) : Bool :=
  variant.factIds.any fun factId =>
    match factOf facts factId with
    | none => true
    | some fact =>
      factId ∈ droppedFactIds previous facts || !isCvFactUsable fact (conflictedFactIdSet u facts)

def reconcileStatus (previous facts : List CvEvidenceFact) (context : WriteContext)
    (before : Option CvApprovedWording) (variant : CvApprovedWording) :
    Except String CvApprovedWording :=
  if variant.status = .candidateApproved then
    match before.filter fun before => before.status = .candidateApproved with
    | some before =>
      if before.text ≠ variant.text ∨ before.factIds ≠ variant.factIds then
        .error "an approved wording cannot be edited in place: editing creates a new variant"
      else
        .ok { variant with
          approvedAt := before.approvedAt
          sourceRevision := before.sourceRevision
          status := if backingBroken u previous facts variant then .superseded else variant.status }
    | none =>
      (checkApproval u facts variant).map fun _ =>
        { variant with approvedAt := context.now, sourceRevision := context.sourceCvContentHash }
  else .ok variant

/-- The part of `reconcileCvEvidence` for one wording. -/
def reconcileWording (previous facts : List CvEvidenceFact) (context : WriteContext)
    (before : Option CvApprovedWording) (variant : CvApprovedWording) :
    Except String CvApprovedWording :=
  let restored := before.map CvApprovedWording.status = some .rejected ∧ variant.status = .draft
  let retired := before.map CvApprovedWording.status = some .rejected ∨
    before.map CvApprovedWording.status = some .superseded
  if retired ∧ before.map CvApprovedWording.status ≠ some variant.status ∧ ¬ restored then
    .error "a rejected or replaced wording cannot be reused: edit it into a new variant instead"
  else
    (reconcileStatus u previous facts context before variant).map fun variant =>
      { variant with
        rejectedAt :=
          if restored then ""
          else if variant.status = .rejected ∧ variant.rejectedAt = "" then context.now
          else variant.rejectedAt
        approvedAt :=
          if variant.status = .candidateApproved ∨ variant.status = .superseded then
            variant.approvedAt
          else "" }

def reconcileCvEvidence (previous next : CvEvidence) (context : WriteContext) :
    Except String CvEvidence := do
  let facts ← next.facts.mapM fun fact => reconcileFact (factOf previous.facts fact.factId) fact
  let wordingVariants ← next.wordingVariants.mapM fun variant =>
    reconcileWording u previous.facts facts context
      (variantOf previous.wordingVariants variant.variantId) variant
  return { facts, wordingVariants }

end VacancyRadar.Cv
