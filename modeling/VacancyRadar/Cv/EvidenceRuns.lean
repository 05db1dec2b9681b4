import Mathlib.Data.List.ReduceOption
import VacancyRadar.Cv.Evidence
import VacancyRadar.Data.History
import VacancyRadar.Data.Runs

/-!
# What evidence keeps

Over any number of writes approved wording stays grounded in facts that can be used, what was replaced
stays replaced, and what was rejected is reviewed again before it is approved.  A write is checked only
against what the case holds when it comes, so that this needs a caller who neither brings back what was
left out as something that it was not, nor repeats an id with something else, nor moves wording that is
approved, nor makes up the time of an approval.
-/

namespace VacancyRadar.Cv

open Data

/-! ## Entries with ids -/

section Entries

variable {α : Type} {id : α → String} {entries : List α} {entry : α} {key : String}

def Agree (id : α → String) (entries : List α) : Prop :=
  ∀ a ∈ entries, ∀ b ∈ entries, id a = id b → a = b

instance Agree.decidable [DecidableEq α] : Decidable (Agree id entries) :=
  inferInstanceAs (Decidable (∀ a ∈ entries, ∀ b ∈ entries, id a = id b → a = b))

lemma mem_of_lastOf (h : lastOf id entries key = some entry) : entry ∈ entries ∧ id entry = key := by
  have hmem := List.mem_of_find?_eq_some h
  have hid := List.find?_some h
  exact ⟨by simpa using hmem, by simpa using hid⟩

lemma lastOf_eq_none_iff : lastOf id entries key = none ↔ ∀ entry ∈ entries, id entry ≠ key := by
  simp [lastOf]

lemma Agree.lastOf_of_mem (h : Agree id entries) (hmem : entry ∈ entries) :
    lastOf id entries (id entry) = some entry := by
  rcases hlast : lastOf id entries (id entry) with _ | other
  · exact absurd rfl (lastOf_eq_none_iff.mp hlast entry hmem)
  · obtain ⟨hother, hid⟩ := mem_of_lastOf hlast
    rw [h other hother entry hmem hid]

variable {β ε : Type} {f : α → Except ε β} {results : List β}

lemma exists_of_mapM (h : entries.mapM f = .ok results) {result : β} (hmem : result ∈ results) :
    ∃ entry ∈ entries, f entry = .ok result := by
  induction entries generalizing results with
  | nil =>
    cases h
    cases hmem
  | cons first rest ih =>
    rw [List.mapM_cons] at h
    rcases hfirst : f first with error | b
    · simp [hfirst, bind, Except.bind] at h
    · rcases hrest : rest.mapM f with error | bs
      · simp [hfirst, hrest, bind, Except.bind] at h
      · simp only [hfirst, hrest, bind, Except.bind] at h
        cases h
        rcases List.mem_cons.mp hmem with rfl | hmem
        · exact ⟨first, List.mem_cons_self, hfirst⟩
        · obtain ⟨entry, hentry, heq⟩ := ih hrest hmem
          exact ⟨entry, List.mem_cons_of_mem _ hentry, heq⟩

lemma Agree.mapM {id' : β → String} (hid : ∀ a b, f a = .ok b → id' b = id a)
    (hagree : Agree id entries) (h : entries.mapM f = .ok results) : Agree id' results := by
  intro a ha b hb hab
  obtain ⟨a', ha', heqa⟩ := exists_of_mapM h ha
  obtain ⟨b', hb', heqb⟩ := exists_of_mapM h hb
  rw [hid a' a heqa, hid b' b heqb] at hab
  rw [hagree a' ha' b' hb' hab] at heqa
  exact Except.ok.inj (heqa.symm.trans heqb)

end Entries

/-! ## Numbers -/

lemma numbersFrom_append_space {current l r : List Char} :
    numbersFrom current (l ++ ' ' :: r) = numbersFrom current l ++ numbersFrom [] r := by
  induction l generalizing current with
  | nil =>
    cases current with
    | nil => simp [numbersFrom]
    | cons c current => simp [numbersFrom, isPoint]
  | cons c l ih =>
    cases current with
    | nil =>
      simp only [List.cons_append, numbersFrom]
      split
      · exact ih
      · exact ih
    | cons c' current =>
      simp only [List.cons_append, numbersFrom]
      split
      · exact ih
      · rw [ih, List.cons_append]

lemma numbers_append_space {a b : String} : numbers (a ++ " " ++ b) = numbers a ++ numbers b := by
  have hlist : (a ++ " " ++ b).toList = a.toList ++ ' ' :: b.toList := by simp
  rw [numbers, hlist, numbersFrom_append_space, List.map_append]
  rfl

lemma mem_numbers_intercalate {texts : List String} {n : String}
    (h : n ∈ numbers (" ".intercalate texts)) : ∃ text ∈ texts, n ∈ numbers text := by
  induction texts with
  | nil => simp [numbers, numbersFrom] at h
  | cons text texts ih =>
    cases texts with
    | nil => exact ⟨text, by simp, by simpa using h⟩
    | cons next texts =>
      rw [String.intercalate_cons_cons, numbers_append_space, List.mem_append] at h
      rcases h with h | h
      · exact ⟨text, by simp, h⟩
      · obtain ⟨other, hmem, hn⟩ := ih h
        exact ⟨other, List.mem_cons_of_mem _ hmem, hn⟩

def StatedBy (facts : List CvEvidenceFact) (n : String) : Prop :=
  ∃ fact ∈ facts, ∃ text ∈ fact.stated, n ∈ numbers text

lemma statedBy_of_unbackedNumbers {text : String} {facts : List CvEvidenceFact}
    (h : unbackedNumbers text facts = []) {n : String} (hn : n ∈ numbers text) : StatedBy facts n := by
  simp only [unbackedNumbers, List.filter_eq_nil_iff, decide_eq_true_eq, not_not] at h
  obtain ⟨field, hfield, hmem⟩ := mem_numbers_intercalate (h n hn)
  obtain ⟨fact, hfact, hstated⟩ := List.mem_flatMap.mp hfield
  exact ⟨fact, hfact, field, hstated, hmem⟩

/-! ## What a write does to an entry -/

variable {u : Unicode}

def Approval.Returns (s t : Approval) : Prop :=
  (s = .superseded → t = .superseded) ∧ (s = .rejected → t ≠ .approved)

def WordingStatus.Returns (s t : WordingStatus) : Prop :=
  (s = .superseded → t = .superseded) ∧ (s = .rejected → t ≠ .candidateApproved)

instance (s t : Approval) : Decidable (s.Returns t) :=
  inferInstanceAs (Decidable (_ ∧ _))

instance (s t : WordingStatus) : Decidable (s.Returns t) :=
  inferInstanceAs (Decidable (_ ∧ _))

structure FactWritten (before : Option CvEvidenceFact) (sent fact : CvEvidenceFact) : Prop where
  factId : fact.factId = sent.factId
  approval : fact.approval = sent.approval ∨ sent.approval = .approved ∧ fact.approval = .proposed
  returns : ∀ old ∈ before, old.approval.Returns sent.approval
  signature : ∀ old ∈ before, old.approval = .approved → fact.approval = .approved →
    factSignature old = factSignature fact

lemma testified_cases (before : Option CvEvidenceFact) (sent : CvEvidenceFact) :
    (sent.testified before).factId = sent.factId ∧ (sent.testified before).approval = sent.approval := by
  unfold CvEvidenceFact.testified
  split
  · exact ⟨rfl, rfl⟩
  · exact ⟨rfl, rfl⟩

lemma factWritten_of_ok {before : Option CvEvidenceFact} {sent fact : CvEvidenceFact}
    (h : reconcileFact before sent = .ok fact) : FactWritten before sent fact := by
  obtain ⟨hid, happroval⟩ := testified_cases before sent
  cases before with
  | none =>
    have heq : sent.testified none = fact := Except.ok.inj h
    rw [heq] at hid happroval
    exact ⟨hid, .inl happroval, by simp, by simp⟩
  | some old =>
    simp only [reconcileFact] at h
    generalize sent.testified (some old) = testified at h hid happroval
    split at h
    · cases h
    · next hallowed =>
      have hreturns : old.approval.Returns sent.approval := by
        rw [happroval] at hallowed
        constructor
        · intro hsuperseded
          by_contra hne
          simp [hsuperseded, hne] at hallowed
        · intro hrejected happroved
          simp [hrejected, happroved] at hallowed
      split at h
      · next hedited =>
        cases Except.ok.inj h
        refine ⟨hid, .inr ⟨happroval ▸ hedited.2.1, rfl⟩, by simpa using hreturns, by simp⟩
      · next hkept =>
        cases Except.ok.inj h
        refine ⟨hid, .inl happroval, by simpa using hreturns, ?_⟩
        simp only [Option.mem_some_iff, forall_eq']
        intro hold hnew
        by_contra hne
        exact hkept ⟨hold, hnew, hne⟩

section Wording

variable {previous facts : List CvEvidenceFact} {context : WriteContext}
variable {before : Option CvApprovedWording} {sent variant : CvApprovedWording}

inductive StatusWritten (u : Unicode) (previous facts : List CvEvidenceFact) (context : WriteContext)
    (before : Option CvApprovedWording) (sent : CvApprovedWording) : CvApprovedWording → Prop
  | sent (status : sent.status ≠ .candidateApproved) :
      StatusWritten u previous facts context before sent sent
  | kept {old : CvApprovedWording} (status : sent.status = .candidateApproved) (held : old ∈ before)
      (approved : old.status = .candidateApproved) (text : old.text = sent.text)
      (factIds : old.factIds = sent.factIds) :
      StatusWritten u previous facts context before sent
        { sent with
          approvedAt := old.approvedAt
          sourceRevision := old.sourceRevision
          status := if backingBroken u previous facts sent then .superseded else sent.status }
  | approved (status : sent.status = .candidateApproved)
      (unapproved : ∀ old ∈ before, old.status ≠ .candidateApproved)
      (checked : checkApproval u facts sent = .ok ()) :
      StatusWritten u previous facts context before sent
        { sent with approvedAt := context.now, sourceRevision := context.sourceCvContentHash }

lemma statusWritten_of_ok (h : reconcileStatus u previous facts context before sent = .ok variant) :
    StatusWritten u previous facts context before sent variant := by
  unfold reconcileStatus at h
  split at h
  · next happroved =>
    split at h
    · next old hold =>
      obtain ⟨hheld, hstatus⟩ := Option.filter_eq_some_iff.mp hold
      split at h
      · cases h
      · next hsame =>
        rw [not_or, not_not, not_not] at hsame
        cases Except.ok.inj h
        exact .kept happroved hheld (by simpa using hstatus) hsame.1 hsame.2
    · next hnone =>
      rcases hcheck : checkApproval u facts sent with error | ⟨⟩
      · rw [hcheck] at h
        cases h
      · rw [hcheck] at h
        cases Except.ok.inj h
        refine .approved happroved (fun old hheld => ?_) hcheck
        simpa using Option.filter_eq_none_iff.mp hnone old hheld
  · next hother =>
    cases Except.ok.inj h
    exact .sent hother

structure WordingWritten (u : Unicode) (previous facts : List CvEvidenceFact) (context : WriteContext)
    (before : Option CvApprovedWording) (sent variant : CvApprovedWording) : Prop where
  variantId : variant.variantId = sent.variantId
  text : variant.text = sent.text
  targetField : variant.targetField = sent.targetField
  parentId : variant.parentId = sent.parentId
  factIds : variant.factIds = sent.factIds
  status : variant.status = sent.status ∨
    sent.status = .candidateApproved ∧ variant.status = .superseded
  returns : ∀ old ∈ before, old.status.Returns sent.status
  /-- One that is approved was approved before and stands, or is approved now. -/
  approved : variant.status = .candidateApproved →
    (∃ old ∈ before, old.status = .candidateApproved ∧ old.text = sent.text ∧
      old.factIds = sent.factIds ∧ variant.approvedAt = old.approvedAt ∧
      backingBroken u previous facts sent = false) ∨
    ((∀ old ∈ before, old.status ≠ .candidateApproved) ∧ checkApproval u facts sent = .ok () ∧
      variant.approvedAt = context.now)
  /-- One that is not has no time of approval, or the one that it had, or the one it was sent with. -/
  stamp : variant.status ≠ .candidateApproved → variant.approvedAt = "" ∨
    (∃ old ∈ before, variant.approvedAt = old.approvedAt) ∨
      sent.status = .superseded ∧ variant.approvedAt = sent.approvedAt

lemma wordingWritten_of_ok
    (h : reconcileWording u previous facts context before sent = .ok variant) :
    WordingWritten u previous facts context before sent variant := by
  simp only [reconcileWording] at h
  split at h
  · cases h
  · next hallowed =>
    have hreturns : ∀ old ∈ before, old.status.Returns sent.status := by
      intro old hold
      rw [Option.mem_def.mp hold] at hallowed
      constructor
      · intro hsuperseded
        by_contra hne
        have hne' : WordingStatus.superseded ≠ sent.status := Ne.symm hne
        simp [hsuperseded, hne'] at hallowed
      · intro hrejected happroved
        simp [hrejected, happroved] at hallowed
    rcases hstatus : reconcileStatus u previous facts context before sent with error | written
    · rw [hstatus] at h
      cases h
    · rw [hstatus] at h
      cases Except.ok.inj h
      cases statusWritten_of_ok hstatus with
      | sent status =>
        refine ⟨rfl, rfl, rfl, rfl, rfl, .inl rfl, hreturns, fun happroved => absurd happroved status,
          fun _ => ?_⟩
        by_cases hsuperseded : sent.status = .superseded
        · exact .inr (.inr ⟨hsuperseded, by simp [hsuperseded]⟩)
        · exact .inl (by simp [status, hsuperseded])
      | @kept old status held approved text factIds =>
        by_cases hbroken : backingBroken u previous facts sent = true
        · refine ⟨rfl, rfl, rfl, rfl, rfl, .inr ⟨status, by simp [hbroken]⟩, hreturns, ?_, fun _ => ?_⟩
          · simp [hbroken]
          · exact .inr (.inl ⟨old, held, by simp [hbroken]⟩)
        · rw [Bool.not_eq_true] at hbroken
          refine ⟨rfl, rfl, rfl, rfl, rfl, .inl (by simp [hbroken]), hreturns, fun _ => ?_, ?_⟩
          · exact .inl ⟨old, held, approved, text, factIds, by simp [hbroken, status], hbroken⟩
          · simp [hbroken, status]
      | approved status unapproved checked =>
        refine ⟨rfl, rfl, rfl, rfl, rfl, .inl rfl, hreturns, fun _ => ?_, ?_⟩
        · exact .inr ⟨unapproved, checked, by simp [status]⟩
        · simp [status]

end Wording

/-! ## Writes one after another -/

/-- What a write left, and its clock. -/
structure Revision where
  evidence : CvEvidence
  now : String

def current : List Revision → CvEvidence
  | [] => {}
  | revision :: _ => revision.evidence

/-- The lists that a caller sends. -/
structure Write where
  next : CvEvidence
  context : WriteContext

def write (u : Unicode) (history : List Revision) (w : Write) : Option (List Revision) :=
  match reconcileCvEvidence u (current history) w.next w.context with
  | .ok evidence => some (⟨evidence, w.context.now⟩ :: history)
  | .error _ => none

def Revision.facts (revision : Revision) : List CvEvidenceFact := revision.evidence.facts

def Revision.wording (revision : Revision) : List CvApprovedWording := revision.evidence.wordingVariants

def statusOf {α σ : Type} (entries : Revision → List α) (id : α → String) (status : α → σ)
    (revision : Revision) (key : String) : Option σ :=
  (lastOf id (entries revision) key).map status

def factStatus : Revision → String → Option Approval :=
  statusOf Revision.facts CvEvidenceFact.factId CvEvidenceFact.approval

def variantStatus : Revision → String → Option WordingStatus :=
  statusOf Revision.wording CvApprovedWording.variantId CvApprovedWording.status

/-! ## What is kept -/

structure Grounded (u : Unicode) (facts : List CvEvidenceFact) (factIds : List String) (text : String) :
    Prop where
  cites : factIds ≠ []
  exist : ∀ factId ∈ factIds, ∃ fact ∈ facts, fact.factId = factId
  usable : ∀ fact ∈ facts, fact.factId ∈ factIds → fact.approval = .approved ∧
    fact.verification ≠ .unreviewed ∧ fact.factId ∉ conflictedFactIdSet u facts
  stated : ∀ n ∈ numbers text, StatedBy (facts.filter fun fact => fact.factId ∈ factIds) n

def approvedIn (evidence : CvEvidence) (variantId : String) : Bool :=
  (variantOf evidence.wordingVariants variantId).map CvApprovedWording.status =
    some .candidateApproved

def approvalClock : List Revision → String → Option String
  | [], _ => none
  | revision :: history, variantId =>
    if approvedIn revision.evidence variantId && !approvedIn (current history) variantId then
      some revision.now
    else approvalClock history variantId

section History

variable {α σ : Type} (entries : Revision → List α) (id : α → String) (status : α → σ)

def StaysIn (replaced : σ) (history : List Revision) : Prop :=
  history.Pairwise fun later earlier => ∀ old ∈ entries earlier, status old = replaced →
    ∀ entry ∈ entries later, id entry = id old → status entry = replaced

def GoesThrough (first middle last : σ) (history : List Revision) : Prop :=
  ∀ newer later between earlier older, history = newer ++ later :: (between ++ earlier :: older) →
    ∀ old ∈ entries earlier, status old = first →
      ∀ entry ∈ entries later, id entry = id old → status entry = last →
        ∃ revision ∈ between, ∃ entry ∈ entries revision, id entry = id old ∧ status entry = middle

end History

def Unedited (later earlier : Revision) : Prop :=
  ∀ old ∈ earlier.wording, ∀ variant ∈ later.wording, variant.variantId = old.variantId →
    old.status = .candidateApproved → variant.status = .candidateApproved →
      variant.text = old.text ∧ variant.targetField = old.targetField ∧
        variant.parentId = old.parentId ∧ variant.factIds = old.factIds

def Stamped : List Revision → Prop
  | [] => True
  | revision :: history =>
    (∀ variant ∈ revision.wording, variant.approvedAt ≠ "" →
      approvalClock (revision :: history) variant.variantId = some variant.approvedAt) ∧
      Stamped history

structure EvidenceKept (u : Unicode) (history : List Revision) : Prop where
  grounded : ∀ revision ∈ history, ∀ variant ∈ revision.wording,
    variant.status = .candidateApproved →
      Grounded u revision.facts variant.factIds variant.text
  facts_replaced :
    StaysIn Revision.facts CvEvidenceFact.factId CvEvidenceFact.approval .superseded history
  wording_replaced :
    StaysIn Revision.wording CvApprovedWording.variantId CvApprovedWording.status .superseded history
  facts_reviewed :
    GoesThrough Revision.facts CvEvidenceFact.factId CvEvidenceFact.approval
      .rejected .proposed .approved history
  wording_reviewed :
    GoesThrough Revision.wording CvApprovedWording.variantId CvApprovedWording.status
      .rejected .draft .candidateApproved history
  fixed : history.IsChain Unedited
  stamped : Stamped history

@[mk_iff]
structure Regular (history : List Revision) (w : Write) : Prop where
  /-- An id is repeated only by an entry that is the same. -/
  facts_agree : Agree CvEvidenceFact.factId w.next.facts
  wording_agree : Agree CvApprovedWording.variantId w.next.wordingVariants
  /-- What comes back after it was left out comes back as what it may be. -/
  facts_return : ∀ fact ∈ w.next.facts, factOf (current history).facts fact.factId = none →
    ∀ last ∈ lastHeld factStatus history fact.factId, last.Returns fact.approval
  wording_return : ∀ variant ∈ w.next.wordingVariants,
    variantOf (current history).wordingVariants variant.variantId = none →
      ∀ last ∈ lastHeld variantStatus history variant.variantId, last.Returns variant.status
  /-- Approved wording stays in its place. -/
  place : ∀ variant ∈ w.next.wordingVariants, variant.status = .candidateApproved →
    ∀ old ∈ variantOf (current history).wordingVariants variant.variantId,
      old.status = .candidateApproved →
        variant.targetField = old.targetField ∧ variant.parentId = old.parentId
  /-- Replaced wording is not sent with a time of approval that it does not have. -/
  stamp : ∀ variant ∈ w.next.wordingVariants, variant.status = .superseded →
    variant.approvedAt = "" ∨ ∃ old ∈ variantOf (current history).wordingVariants variant.variantId,
      variant.approvedAt = old.approvedAt

/-! ## One write -/

structure Reconciled (u : Unicode) (previous next : CvEvidence) (context : WriteContext)
    (evidence : CvEvidence) : Prop where
  facts : ∀ fact ∈ evidence.facts, ∃ sent ∈ next.facts,
    FactWritten (factOf previous.facts sent.factId) sent fact
  wording : ∀ variant ∈ evidence.wordingVariants, ∃ sent ∈ next.wordingVariants,
    WordingWritten u previous.facts evidence.facts context
      (variantOf previous.wordingVariants sent.variantId) sent variant
  facts_agree : Agree CvEvidenceFact.factId next.facts → Agree CvEvidenceFact.factId evidence.facts
  wording_agree : Agree CvApprovedWording.variantId next.wordingVariants →
    Agree CvApprovedWording.variantId evidence.wordingVariants

lemma reconciled_of_ok {previous next evidence : CvEvidence} {context : WriteContext}
    (h : reconcileCvEvidence u previous next context = .ok evidence) :
    Reconciled u previous next context evidence := by
  simp only [reconcileCvEvidence, bind, Except.bind] at h
  split at h
  · cases h
  · next facts hfacts =>
    split at h
    · cases h
    · next wordingVariants hwording =>
      cases h
      refine ⟨fun fact hfact => ?_, fun variant hvariant => ?_, fun hagree => ?_, fun hagree => ?_⟩
      · obtain ⟨sent, hsent, hok⟩ := exists_of_mapM hfacts hfact
        exact ⟨sent, hsent, factWritten_of_ok hok⟩
      · obtain ⟨sent, hsent, hok⟩ := exists_of_mapM hwording hvariant
        exact ⟨sent, hsent, wordingWritten_of_ok hok⟩
      · exact hagree.mapM (fun _ _ hok => (factWritten_of_ok hok).factId) hfacts
      · exact hagree.mapM (fun _ _ hok => (wordingWritten_of_ok hok).variantId) hwording

variable {history history' : List Revision} {w : Write}

lemma write_cases (h : write u history w = some history') : ∃ evidence,
      Reconciled u (current history) w.next w.context evidence ∧
        history' = ⟨evidence, w.context.now⟩ :: history := by
  unfold write at h
  split at h
  · next evidence hok =>
    cases h
    exact ⟨evidence, reconciled_of_ok hok, rfl⟩
  · cases h

lemma grounded_of_checkApproval {facts : List CvEvidenceFact} {variant : CvApprovedWording}
    (hagree : Agree CvEvidenceFact.factId facts) (h : checkApproval u facts variant = .ok ()) :
    Grounded u facts variant.factIds variant.text := by
  simp only [checkApproval] at h
  split at h
  · cases h
  · next hcites =>
    split at h
    · cases h
    · next husable =>
      split at h
      · cases h
      · next hnumbers =>
        rw [not_or, List.mem_map] at hcites
        rw [not_not] at hnumbers
        simp only [List.any_eq_true, not_exists, not_and, List.reduceOption_mem_iff,
          Bool.not_eq_true', Bool.not_eq_false] at husable
        have hfound : ∀ factId ∈ variant.factIds, ∃ fact, factOf facts factId = some fact := by
          intro factId hmem
          rcases hfact : factOf facts factId with _ | fact
          · exact absurd ⟨factId, hmem, hfact⟩ hcites.2
          · exact ⟨fact, rfl⟩
        refine ⟨hcites.1, fun factId hmem => ?_, fun fact hfact hmem => ?_, fun n hn => ?_⟩
        · obtain ⟨fact, hfact⟩ := hfound factId hmem
          exact ⟨fact, mem_of_lastOf hfact⟩
        · have hcited : some fact ∈ variant.factIds.map (factOf facts) :=
            List.mem_map.mpr ⟨_, hmem, hagree.lastOf_of_mem hfact⟩
          simpa [isCvFactUsable, and_assoc] using husable fact hcited
        · obtain ⟨fact, hfact, field, hfield, hmem⟩ := statedBy_of_unbackedNumbers hnumbers hn
          rw [List.reduceOption_mem_iff, List.mem_map] at hfact
          obtain ⟨factId, hcited, heq⟩ := hfact
          obtain ⟨hfacts, rfl⟩ := mem_of_lastOf heq
          exact ⟨fact, List.mem_filter.mpr ⟨hfacts, by simpa using hcited⟩, field, hfield, hmem⟩

lemma stated_of_signature {a b : CvEvidenceFact} (h : factSignature a = factSignature b) :
    a.stated = b.stated := by
  simp only [factSignature, Prod.mk.injEq, List.cons.injEq] at h
  simp only [CvEvidenceFact.stated, List.cons.injEq]
  tauto

lemma Grounded.kept {previous facts next : List CvEvidenceFact} {variant : CvApprovedWording}
    (h : Grounded u previous variant.factIds variant.text)
    (hprevious : Agree CvEvidenceFact.factId previous) (hagree : Agree CvEvidenceFact.factId facts)
    (hfacts : ∀ fact ∈ facts, ∃ sent ∈ next, FactWritten (factOf previous sent.factId) sent fact)
    (hbacking : backingBroken u previous facts variant = false) :
    Grounded u facts variant.factIds variant.text := by
  have hfound : ∀ factId ∈ variant.factIds, ∃ fact, factOf facts factId = some fact ∧
      isCvFactUsable fact (conflictedFactIdSet u facts) = true := by
    intro factId hmem
    have hone := List.any_eq_false.mp hbacking factId hmem
    rcases hfact : factOf facts factId with _ | fact
    · simp [hfact] at hone
    · simp only [hfact, Bool.or_eq_true, not_or, decide_eq_true_eq, Bool.not_eq_true',
        Bool.not_eq_false] at hone
      exact ⟨fact, rfl, hone.2⟩
  have husable : ∀ fact ∈ facts, fact.factId ∈ variant.factIds → fact.approval = .approved ∧
      fact.verification ≠ .unreviewed ∧ fact.factId ∉ conflictedFactIdSet u facts := by
    intro fact hfact hmem
    obtain ⟨other, hother, hok⟩ := hfound _ hmem
    cases (hagree.lastOf_of_mem hfact).symm.trans hother
    simpa [isCvFactUsable, and_assoc] using hok
  refine ⟨h.cites, fun factId hmem => ?_, husable, fun n hn => ?_⟩
  · obtain ⟨fact, hfact, _⟩ := hfound factId hmem
    exact ⟨fact, mem_of_lastOf hfact⟩
  · -- The fact that stated the number before is approved still, so that it has not changed.
    obtain ⟨old, hold, field, hfield, hmem⟩ := h.stated n hn
    obtain ⟨hold, hcited⟩ := List.mem_filter.mp hold
    have hcited : old.factId ∈ variant.factIds := by simpa using hcited
    obtain ⟨fact, hfact, _⟩ := hfound _ hcited
    obtain ⟨hfact, hid⟩ := mem_of_lastOf hfact
    obtain ⟨sent, _, hwritten⟩ := hfacts fact hfact
    have hbefore : old ∈ factOf previous sent.factId := by
      rw [← hwritten.factId, hid]
      exact hprevious.lastOf_of_mem hold
    have hsame := hwritten.signature old hbefore (h.usable old hold hcited).1
      (husable fact hfact (hid ▸ hcited)).1
    rw [stated_of_signature hsame] at hfield
    exact ⟨fact, List.mem_filter.mpr ⟨hfact, by simpa [hid] using hcited⟩, field, hfield, hmem⟩

/-! ## Many writes -/

section Statuses

variable {α σ : Type} {entries : Revision → List α} {id : α → String} {status : α → σ}
variable {Returns : σ → σ → Prop} {history : List Revision} {revision : Revision}

lemma statusOf_of_mem {entry : α} (hagree : Agree id (entries revision))
    (hmem : entry ∈ entries revision) :
    statusOf entries id status revision (id entry) = some (status entry) := by
  simp [statusOf, hagree.lastOf_of_mem hmem]

lemma exists_of_statusOf {key : String} {s : σ} (h : statusOf entries id status revision key = some s) :
    ∃ entry ∈ entries revision, id entry = key ∧ status entry = s := by
  obtain ⟨entry, hentry, hstatus⟩ := Option.map_eq_some_iff.mp h
  obtain ⟨hmem, hid⟩ := mem_of_lastOf hentry
  exact ⟨entry, hmem, hid, hstatus⟩

lemma follows_cons (hfollows : Follows (statusOf entries id status) Returns history)
    (hwritten : ∀ entry ∈ entries revision,
      ∀ last ∈ lastHeld (statusOf entries id status) history (id entry), Returns last (status entry)) :
    Follows (statusOf entries id status) Returns (revision :: history) := by
  refine ⟨fun key s t hs ht => ?_, hfollows⟩
  obtain ⟨entry, hmem, rfl, rfl⟩ := exists_of_statusOf ht
  exact hwritten entry hmem s hs

lemma staysIn_of_follows {replaced : σ} (hclosed : ∀ t, Returns replaced t → t = replaced)
    (hagree : ∀ revision ∈ history, Agree id (entries revision))
    (hfollows : Follows (statusOf entries id status) Returns history) :
    StaysIn entries id status replaced history := by
  have hpairs := hfollows.pairwise (S := (· = replaced)) fun s t hs hst => hclosed t (hs ▸ hst)
  refine hpairs.imp_of_mem fun {later earlier} hlater hearlier h old hold hstatus entry hentry hid => ?_
  refine h (id old) _ _ (statusOf_of_mem (hagree earlier hearlier) hold) hstatus ?_
  rw [← hid]
  exact statusOf_of_mem (hagree later hlater) hentry

lemma goesThrough_of_follows {first middle last : σ}
    (hnext : ∀ s, Returns s last → s = last ∨ s = middle) (hlast : first ≠ last)
    (hmiddle : first ≠ middle) (hagree : ∀ revision ∈ history, Agree id (entries revision))
    (hfollows : Follows (statusOf entries id status) Returns history) :
    GoesThrough entries id status first middle last history := by
  rintro newer later between earlier older rfl old hold hfirst entry hentry hid hstatus
  have hafter := hfollows.of_append
  have hlater : statusOf entries id status later (id old) = some last := by
    rw [← hid, ← hstatus]
    exact statusOf_of_mem (hagree later (by simp)) hentry
  have hearlier : statusOf entries id status earlier (id old) = some first := by
    rw [← hfirst]
    exact statusOf_of_mem (hagree earlier (by simp)) hold
  obtain ⟨found, hfound, hheld⟩ := hafter.2.exists_between hnext hlast hmiddle
    (fun t ht => hafter.1 (id old) t last ht hlater) hearlier
  exact ⟨found, hfound, exists_of_statusOf hheld⟩

end Statuses

structure Kept (u : Unicode) (history : List Revision) : Prop where
  facts_agree : ∀ revision ∈ history, Agree CvEvidenceFact.factId revision.facts
  wording_agree : ∀ revision ∈ history, Agree CvApprovedWording.variantId revision.wording
  facts_follow : Follows factStatus Approval.Returns history
  wording_follow : Follows variantStatus WordingStatus.Returns history
  grounded : ∀ revision ∈ history, ∀ variant ∈ revision.wording,
    variant.status = .candidateApproved → Grounded u revision.facts variant.factIds variant.text
  fixed : history.IsChain Unedited
  stamped : Stamped history

section Step

variable {history : List Revision}

lemma lastHeld_current_fact {factId : String} {old : CvEvidenceFact}
    (h : factOf (current history).facts factId = some old) :
    lastHeld factStatus history factId = some old.approval := by
  cases history with
  | nil => cases h
  | cons revision history =>
    refine lastHeld_cons_of_some ?_
    exact Option.map_eq_some_iff.mpr ⟨old, h, rfl⟩

lemma lastHeld_current_variant {variantId : String} {old : CvApprovedWording}
    (h : variantOf (current history).wordingVariants variantId = some old) :
    lastHeld variantStatus history variantId = some old.status := by
  cases history with
  | nil => cases h
  | cons revision history =>
    refine lastHeld_cons_of_some ?_
    exact Option.map_eq_some_iff.mpr ⟨old, h, rfl⟩

lemma Kept.agree_current (h : Kept u history) :
    Agree CvEvidenceFact.factId (current history).facts ∧
      Agree CvApprovedWording.variantId (current history).wordingVariants := by
  cases history with
  | nil => simp [Agree, current]
  | cons revision history =>
    exact ⟨h.facts_agree revision List.mem_cons_self, h.wording_agree revision List.mem_cons_self⟩

variable {variant : CvApprovedWording}

lemma Kept.grounded_current (h : Kept u history)
    (hmem : variant ∈ (current history).wordingVariants)
    (happroved : variant.status = .candidateApproved) :
    Grounded u (current history).facts variant.factIds variant.text := by
  cases history with
  | nil => cases hmem
  | cons revision history =>
    exact h.grounded revision List.mem_cons_self variant hmem happroved

lemma Kept.stamped_current (h : Kept u history) (hmem : variant ∈ (current history).wordingVariants)
    (hstamp : variant.approvedAt ≠ "") :
    approvalClock history variant.variantId = some variant.approvedAt := by
  cases history with
  | nil => cases hmem
  | cons revision history => exact h.stamped.1 variant hmem hstamp

variable {w : Write} {evidence : CvEvidence}

lemma Approval.Returns.written {s : Approval} {before : Option CvEvidenceFact}
    {sent fact : CvEvidenceFact} (h : s.Returns sent.approval) (hwritten : FactWritten before sent fact) :
    s.Returns fact.approval := by
  rcases hwritten.approval with heq | ⟨happroved, hproposed⟩
  · rw [heq]
    exact h
  · refine ⟨fun hs => ?_, fun _ => by simp [hproposed]⟩
    rw [h.1 hs] at happroved
    cases happroved

lemma WordingStatus.Returns.written {s : WordingStatus} {previous facts : List CvEvidenceFact}
    {context : WriteContext} {before : Option CvApprovedWording} {sent : CvApprovedWording}
    (h : s.Returns sent.status)
    (hwritten : WordingWritten u previous facts context before sent variant) :
    s.Returns variant.status := by
  rcases hwritten.status with heq | ⟨_, hsuperseded⟩
  · rw [heq]
    exact h
  · exact ⟨fun _ => hsuperseded, fun _ => by simp [hsuperseded]⟩

lemma Kept.facts_step (h : Kept u history) (hregular : Regular history w)
    (hwritten : Reconciled u (current history) w.next w.context evidence) :
    Follows factStatus Approval.Returns (⟨evidence, w.context.now⟩ :: history) := by
  refine follows_cons h.facts_follow fun fact hfact last hlast => ?_
  obtain ⟨sent, hsent, hstep⟩ := hwritten.facts fact hfact
  rw [hstep.factId] at hlast
  refine Approval.Returns.written ?_ hstep
  rcases hbefore : factOf (current history).facts sent.factId with _ | old
  · exact hregular.facts_return sent hsent hbefore last hlast
  · cases (lastHeld_current_fact hbefore).symm.trans hlast
    exact hstep.returns old hbefore

lemma Kept.wording_step (h : Kept u history) (hregular : Regular history w)
    (hwritten : Reconciled u (current history) w.next w.context evidence) :
    Follows variantStatus WordingStatus.Returns (⟨evidence, w.context.now⟩ :: history) := by
  refine follows_cons h.wording_follow fun variant hvariant last hlast => ?_
  obtain ⟨sent, hsent, hstep⟩ := hwritten.wording variant hvariant
  rw [hstep.variantId] at hlast
  refine WordingStatus.Returns.written ?_ hstep
  rcases hbefore : variantOf (current history).wordingVariants sent.variantId with _ | old
  · exact hregular.wording_return sent hsent hbefore last hlast
  · cases (lastHeld_current_variant hbefore).symm.trans hlast
    exact hstep.returns old hbefore

lemma Kept.grounded_step (h : Kept u history) (hregular : Regular history w)
    (hwritten : Reconciled u (current history) w.next w.context evidence)
    (hmem : variant ∈ evidence.wordingVariants) (happroved : variant.status = .candidateApproved) :
    Grounded u evidence.facts variant.factIds variant.text := by
  obtain ⟨sent, _, hstep⟩ := hwritten.wording variant hmem
  have hagree := hwritten.facts_agree hregular.facts_agree
  rw [hstep.factIds, hstep.text]
  rcases hstep.approved happroved with
    ⟨old, hold, hstatus, htext, hfactIds, _, hbacking⟩ | ⟨_, hcheck, _⟩
  · have hground := h.grounded_current (mem_of_lastOf hold).1 hstatus
    rw [htext, hfactIds] at hground
    exact hground.kept h.agree_current.1 hagree hwritten.facts hbacking
  · exact grounded_of_checkApproval hagree hcheck

lemma Kept.fixed_step (h : Kept u history) (hregular : Regular history w)
    (hwritten : Reconciled u (current history) w.next w.context evidence) {old : CvApprovedWording}
    (hold : old ∈ (current history).wordingVariants) (hmem : variant ∈ evidence.wordingVariants)
    (hid : variant.variantId = old.variantId) (holdApproved : old.status = .candidateApproved)
    (happroved : variant.status = .candidateApproved) :
    variant.text = old.text ∧ variant.targetField = old.targetField ∧
      variant.parentId = old.parentId ∧ variant.factIds = old.factIds := by
  obtain ⟨sent, hsent, hstep⟩ := hwritten.wording variant hmem
  have hbefore : variantOf (current history).wordingVariants sent.variantId = some old := by
    rw [← hstep.variantId, hid]
    exact h.agree_current.2.lastOf_of_mem hold
  have hasked : sent.status = .candidateApproved := by
    rcases hstep.status with heq | ⟨heq, _⟩
    · rw [← heq]
      exact happroved
    · exact heq
  obtain ⟨hfield, hparent⟩ := hregular.place sent hsent hasked old hbefore holdApproved
  rw [hstep.text, hstep.targetField, hstep.parentId, hstep.factIds]
  rcases hstep.approved happroved with ⟨other, hother, _, htext, hfactIds, _⟩ | ⟨hnone, _⟩
  · cases hbefore.symm.trans hother
    exact ⟨htext.symm, hfield, hparent, hfactIds.symm⟩
  · exact absurd holdApproved (hnone old hbefore)

lemma approvedIn_of_mem (hagree : Agree CvApprovedWording.variantId evidence.wordingVariants)
    (hmem : variant ∈ evidence.wordingVariants) :
    approvedIn evidence variant.variantId = decide (variant.status = .candidateApproved) := by
  have hlast : variantOf evidence.wordingVariants variant.variantId = some variant :=
    hagree.lastOf_of_mem hmem
  simp [approvedIn, hlast]

lemma Kept.stamped_step (h : Kept u history) (hregular : Regular history w)
    (hwritten : Reconciled u (current history) w.next w.context evidence)
    (hmem : variant ∈ evidence.wordingVariants) (hstamp : variant.approvedAt ≠ "") :
    approvalClock (⟨evidence, w.context.now⟩ :: history) variant.variantId =
      some variant.approvedAt := by
  obtain ⟨sent, hsent, hstep⟩ := hwritten.wording variant hmem
  have hhead := approvedIn_of_mem (hwritten.wording_agree hregular.wording_agree) hmem
  -- A time that the case had is the clock of the write that it came from.
  have hbefore : ∀ old ∈ variantOf (current history).wordingVariants sent.variantId,
      variant.approvedAt = old.approvedAt →
        approvalClock history variant.variantId = some variant.approvedAt := by
    intro old hold heq
    obtain ⟨hcurrent, hid⟩ := mem_of_lastOf hold
    have hclock := h.stamped_current hcurrent (heq ▸ hstamp)
    rw [heq, hstep.variantId, ← hid]
    exact hclock
  rw [approvalClock, hhead]
  by_cases happroved : variant.status = .candidateApproved
  · rcases hstep.approved happroved with ⟨old, hold, hstatus, _, _, heq, _⟩ | ⟨hnone, _, heq⟩
    · have happroved : approvedIn (current history) variant.variantId = true := by
        simp [approvedIn, hstep.variantId, Option.mem_def.mp hold, hstatus]
      simp only [happroved, Bool.not_true, Bool.and_false, Bool.false_eq_true, if_false]
      exact hbefore old hold heq
    · have hfresh : approvedIn (current history) variant.variantId = false := by
        rcases hbefore : variantOf (current history).wordingVariants sent.variantId with _ | old
        · simp [approvedIn, hstep.variantId, hbefore]
        · simp [approvedIn, hstep.variantId, hbefore, hnone old hbefore]
      simp [happroved, hfresh, heq]
  · simp only [happroved, decide_false, Bool.false_and, Bool.false_eq_true, if_false]
    rcases hstep.stamp happroved with hnone | ⟨old, hold, heq⟩ | ⟨hstatus, heq⟩
    · exact absurd hnone hstamp
    · exact hbefore old hold heq
    · rcases hregular.stamp sent hsent hstatus with hempty | ⟨old, hold, hsame⟩
      · exact absurd (heq.trans hempty) hstamp
      · exact hbefore old hold (heq.trans hsame)

end Step

lemma kept_nil : Kept u [] where
  facts_agree := by simp
  wording_agree := by simp
  facts_follow := trivial
  wording_follow := trivial
  grounded := by simp
  fixed := .nil
  stamped := trivial

lemma Kept.write (h : Kept u history) (hregular : Regular history w)
    (hwrite : write u history w = some history') : Kept u history' := by
  obtain ⟨evidence, hwritten, rfl⟩ := write_cases hwrite
  constructor
  case facts_agree =>
    rintro revision (_ | ⟨_, hmem⟩)
    · exact hwritten.facts_agree hregular.facts_agree
    · exact h.facts_agree revision hmem
  case wording_agree =>
    rintro revision (_ | ⟨_, hmem⟩)
    · exact hwritten.wording_agree hregular.wording_agree
    · exact h.wording_agree revision hmem
  case facts_follow => exact h.facts_step hregular hwritten
  case wording_follow => exact h.wording_step hregular hwritten
  case grounded =>
    rintro revision (_ | ⟨_, hmem⟩) variant hvariant happroved
    · exact h.grounded_step hregular hwritten hvariant happroved
    · exact h.grounded revision hmem variant hvariant happroved
  case fixed =>
    cases history with
    | nil => exact .singleton _
    | cons revision history =>
      exact .cons_cons (fun old hold variant hvariant => h.fixed_step hregular hwritten hold hvariant)
        h.fixed
  case stamped =>
    exact ⟨fun variant hvariant => h.stamped_step hregular hwritten hvariant, h.stamped⟩

lemma Kept.evidenceKept (h : Kept u history) : EvidenceKept u history where
  grounded := h.grounded
  facts_replaced := staysIn_of_follows (fun _ hnext => hnext.1 rfl) h.facts_agree h.facts_follow
  wording_replaced := staysIn_of_follows (fun _ hnext => hnext.1 rfl) h.wording_agree h.wording_follow
  facts_reviewed := goesThrough_of_follows
    (by
      rintro (_ | _ | _ | _) ⟨hsuperseded, hrejected⟩
      · exact .inr rfl
      · exact .inl rfl
      · exact absurd rfl (hrejected rfl)
      · cases hsuperseded rfl)
    (by decide) (by decide) h.facts_agree h.facts_follow
  wording_reviewed := goesThrough_of_follows
    (by
      rintro (_ | _ | _ | _) ⟨hsuperseded, hrejected⟩
      · exact .inr rfl
      · exact .inl rfl
      · exact absurd rfl (hrejected rfl)
      · cases hsuperseded rfl)
    (by decide) (by decide) h.wording_agree h.wording_follow
  fixed := h.fixed
  stamped := h.stamped

/-- After any number of writes that are regular, starting with no evidence at all, the evidence of a
case is what it should be. -/
theorem evidence_kept (u : Unicode) {writes : List Write} {history : List Revision}
    (hregular : AlongRun (write u) Regular writes []) (hrun : runSteps (write u) writes [] = some history) :
    EvidenceKept u history :=
  (runSteps_induction_of_along (fun _ _ _ h hregular hwrite => h.write hregular hwrite) kept_nil
    hregular hrun).evidenceKept

/-! ## Runs -/

instance Regular.decidable (history : List Revision) (w : Write) : Decidable (Regular history w) :=
  decidable_of_iff' _ (regular_iff history w)

instance Stamped.decidable : ∀ history, Decidable (Stamped history)
  | [] => isTrue trivial
  | revision :: history =>
    have : Decidable (Stamped history) := Stamped.decidable history
    inferInstanceAs (Decidable ((∀ variant ∈ revision.wording, variant.approvedAt ≠ "" →
      approvalClock (revision :: history) variant.variantId = some variant.approvedAt) ∧
        Stamped history))

instance (later earlier : Revision) : Decidable (Unedited later earlier) :=
  inferInstanceAs (Decidable (∀ old ∈ earlier.wording, ∀ variant ∈ later.wording, _))

def ascii : Unicode where
  toLowerCase := String.toLower
  isWordChar := Char.isAlphanum
  foldCase := Char.toLower

def bookingFact : CvEvidenceFact where
  factId := "fact-1"
  parentId := "role-1"
  parentType := .experience
  activity := "Built the booking screens"
  metricValue := "40000"
  metricUnit := "users"
  metricBasis := "the dashboard of the team"
  approval := .approved

def bookingWording : CvApprovedWording where
  variantId := "wording-1"
  targetField := .experienceBullet
  parentId := "role-1"
  text := "Built the booking screens for 40000 users."
  factIds := ["fact-1"]
  status := .candidateApproved

def sampleWrite (now : String) (facts : List CvEvidenceFact) (wording : List CvApprovedWording) :
    Write where
  next := { facts, wordingVariants := wording }
  context := { sourceCvContentHash := "c0ffee", now }

def sampleWrites : List Write :=
  [sampleWrite "2026-10-01T00:00:00.000Z" [bookingFact] [{ bookingWording with status := .draft }],
    sampleWrite "2026-10-02T00:00:00.000Z" [bookingFact] [bookingWording],
    sampleWrite "2026-10-03T00:00:00.000Z" [bookingFact]
      [{ bookingWording with status := .superseded, approvedAt := "2026-10-02T00:00:00.000Z" }]]

theorem evidence_kept_sample :
    EvidenceKept ascii ((runSteps (write ascii) sampleWrites []).getD []) :=
  evidence_kept ascii (by decide) (Option.getD_of_ne_none (by decide) _).symm

def revivingWrites : List Write :=
  [sampleWrite "2026-10-01T00:00:00.000Z" [{ bookingFact with approval := .superseded }] [],
    sampleWrite "2026-10-02T00:00:00.000Z" [] [],
    sampleWrite "2026-10-03T00:00:00.000Z" [bookingFact]
      [bookingWording,
        { bookingWording with
          variantId := "wording-2", status := .superseded, approvedAt := "1999-01-01T00:00:00.000Z" }],
    sampleWrite "2026-10-04T00:00:00.000Z" [bookingFact]
      [{ bookingWording with targetField := .summary, parentId := "" }]]

/-- All four writes are accepted, and what they leave is not what it should be in three ways. -/
theorem evidence_revived : ∃ history, runSteps (write ascii) revivingWrites [] = some history ∧
    ¬ StaysIn Revision.facts CvEvidenceFact.factId CvEvidenceFact.approval .superseded history ∧
    ¬ history.IsChain Unedited ∧ ¬ Stamped history ∧ ¬ EvidenceKept ascii history := by
  refine ⟨(runSteps (write ascii) revivingWrites []).getD [],
    (Option.getD_of_ne_none (by decide) _).symm, ?_, by decide, by decide,
    fun h => absurd h.stamped (by decide)⟩
  unfold StaysIn
  decide

end VacancyRadar.Cv
