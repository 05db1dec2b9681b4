import VacancyRadar.Cv.Case
import VacancyRadar.Cv.EvidenceRuns

/-!
# What an approval stands for

A case that may be exported is a case that would be approved as it is, and the CV that would be put
together for it is the one that was approved.  Every operation either keeps all that an approval stands
on, or drops the approval; what may change without that is checked before an export.
-/

namespace VacancyRadar.Cv

open Data

variable {p : Platform} {u : Unicode}

/-! ## Calls that go through -/

lemma exists_of_bind_ok {ε α β : Type} {x : Except ε α} {f : α → Except ε β} {b : β}
    (h : x >>= f = .ok b) : ∃ a, x = .ok a ∧ f a = .ok b := by
  rcases x with error | a
  · exact absurd h (by simp [bind, Except.bind])
  · exact ⟨a, rfl, h⟩

lemma exists_of_map_ok {ε α β : Type} {x : Except ε α} {f : α → β} {b : β}
    (h : x.map f = .ok b) : ∃ a, x = .ok a ∧ f a = b := by
  rcases x with error | a
  · exact absurd h (by simp [Except.map])
  · exact ⟨a, rfl, Except.ok.inj h⟩

/-! ## The composition -/

variable {blockers : List String} {reason : String} {before : CvEvidenceOverlay}

lemma mem_flag : reason ∈ flag blockers reason := by
  unfold flag
  split
  · assumption
  · simp

lemma subset_flag : blockers ⊆ flag blockers reason := by
  unfold flag
  split
  · exact List.Subset.refl _
  · simp

lemma subset_flags {blockers reasons : List String} :
    blockers ⊆ reasons.foldl flag blockers ∧ reasons ⊆ reasons.foldl flag blockers := by
  induction reasons generalizing blockers with
  | nil => simp
  | cons reason reasons ih =>
    obtain ⟨hbefore, hrest⟩ := @ih (flag blockers reason)
    refine ⟨fun _ hmem => hbefore (subset_flag hmem), List.cons_subset.mpr ⟨hbefore mem_flag, hrest⟩⟩

lemma flags_eq_nil_iff {reasons : List String} :
    reasons.foldl flag blockers = [] ↔ blockers = [] ∧ reasons = [] := by
  constructor
  · intro h
    obtain ⟨hbefore, hreasons⟩ := @subset_flags blockers reasons
    rw [h] at hbefore hreasons
    exact ⟨List.subset_nil.mp hbefore, List.subset_nil.mp hreasons⟩
  · rintro ⟨rfl, rfl⟩
    rfl

section Compose

variable {blockers : List String} {source : CvSourceDocument} {facts : List CvEvidenceFact}
  {wordingVariants : List CvApprovedWording} {hash : String} {skills : List String}
  {selection other : Option CvProjectSelection}

lemma composeFrom_of_blockers_eq_nil
    (h : (composeFrom u blockers source facts wordingVariants hash skills selection).blockers = []) :
    blockers = [] ∧ selectionProblem source selection = none ∧
      composeFrom u blockers source facts wordingVariants hash skills selection =
        composeFrom u [] source facts wordingVariants hash skills selection := by
  obtain ⟨rfl, hreasons⟩ := flags_eq_nil_iff.mp h
  have hselection := (List.append_eq_nil_iff.mp hreasons).2
  exact ⟨rfl, by simpa using hselection, rfl⟩

lemma composeFrom_congr_selection
    (h : selectionProblem source selection = selectionProblem source other) :
    composeFrom u blockers source facts wordingVariants hash skills selection =
      composeFrom u blockers source facts wordingVariants hash skills other := by
  simp only [composeFrom, h]

end Compose

lemma selectionProblem_of_kept {source : CvSourceDocument} {before after : Option CvProjectSelection}
    (hkept : ∀ selection ∈ before, ∃ other ∈ after,
      joinedIds other.projectIds = joinedIds selection.projectIds)
    (h : selectionProblem source before = none) : selectionProblem source after = none := by
  unfold selectionProblem at h ⊢
  dsimp only at h ⊢
  split
  · rfl
  · next hprojects =>
    rw [if_neg hprojects] at h
    rcases before with _ | selection
    · cases h
    · obtain ⟨other, hother, hjoined⟩ := hkept selection rfl
      obtain rfl : after = some other := hother
      dsimp only at h ⊢
      rw [show "\n".intercalate other.projectIds = "\n".intercalate selection.projectIds from hjoined]
      exact h

/-! ## What an approval stands on -/

lemma describeEvidenceGaps_eq_nil {after : CvEvidenceOverlay}
    (h : describeEvidenceGaps u before = [])
    (hinputs : after.approvalInputs = before.approvalInputs) (hstate : after.state ≠ .conflict) :
    describeEvidenceGaps u after = [] := by
  have hfacts : after.facts = before.facts := congrArg ApprovalInputs.facts hinputs
  have hwording : after.wordingVariants = before.wordingVariants :=
    congrArg ApprovalInputs.wordingVariants hinputs
  have hhash : after.sourceCvContentHash = before.sourceCvContentHash :=
    congrArg ApprovalInputs.sourceCvContentHash hinputs
  unfold describeEvidenceGaps at h ⊢
  dsimp only at h ⊢
  rw [hfacts, hwording, hhash, if_neg hstate]
  obtain ⟨hwordings, hconflicts⟩ := List.append_eq_nil_iff.mp h
  have hclean : conflictedFactIdSet u before.facts = [] := by
    by_contra hne
    rw [if_pos hne] at hconflicts
    cases hconflicts
  rw [hwordings, if_neg (by simpa using hclean)]
  rfl

lemma describeCvRequirementGaps_congr {after : CvEvidenceOverlay}
    (hinputs : after.approvalInputs = before.approvalInputs)
    (hrevision : currentCvJdRevisionId after.jdRevisions = currentCvJdRevisionId before.jdRevisions) :
    describeCvRequirementGaps after = describeCvRequirementGaps before := by
  have hfacts : after.facts = before.facts := congrArg ApprovalInputs.facts hinputs
  have hrequirements : after.requirements = before.requirements :=
    congrArg ApprovalInputs.requirements hinputs
  have hcoverage : after.requirementCoverage = before.requirementCoverage :=
    congrArg ApprovalInputs.requirementCoverage hinputs
  simp only [describeCvRequirementGaps, describeCvRequirementGapRows, hfacts, hrequirements, hcoverage,
    hrevision]

structure ApprovalStands (p : Platform) (overlay : CvEvidenceOverlay) (inputs : CvCurrentInputs)
    (source : CvSourceDocument) (snapshot : CvApprovedResumeSnapshot) : Prop where
  source_eq : inputs.source = some source
  snapshot_eq : overlay.approvedResumeSnapshot = some snapshot
  baseline : ∃ baseline, overlay.sourceBaseline = some baseline ∧
    baseline.inputsDigest = p.computeCaseInputsDigest inputs
  hash : overlay.sourceCvContentHash = p.computeSourceCvContentHash source
  requirements : describeCvRequirementGaps overlay = []
  evidence : describeEvidenceGaps p.unicode overlay = []
  selection : selectionProblem source overlay.projectSelection = none
  composed : composeFrom p.unicode [] source overlay.facts overlay.wordingVariants
    (p.computeSourceCvContentHash source) inputs.skills overlay.projectSelection =
      ⟨snapshot.resume, []⟩

structure KeepsApproval (before after : CvEvidenceOverlay) : Prop where
  state : before.state = .candidateApproved
  snapshot : after.approvedResumeSnapshot = before.approvedResumeSnapshot
  baseline : after.sourceBaseline = before.sourceBaseline
  inputs : after.approvalInputs = before.approvalInputs
  revision : currentCvJdRevisionId after.jdRevisions = currentCvJdRevisionId before.jdRevisions
  selection : ∀ selection ∈ before.projectSelection, ∃ other ∈ after.projectSelection,
    joinedIds other.projectIds = joinedIds selection.projectIds

section Stands

variable {before after overlay : CvEvidenceOverlay} {inputs : CvCurrentInputs}
  {source : CvSourceDocument} {snapshot : CvApprovedResumeSnapshot}

lemma KeepsApproval.stands (hkept : KeepsApproval before after)
    (hstate : after.state = .candidateApproved)
    (h : ApprovalStands p before inputs source snapshot) :
    ApprovalStands p after inputs source snapshot := by
  have hfacts : after.facts = before.facts := congrArg ApprovalInputs.facts hkept.inputs
  have hwording : after.wordingVariants = before.wordingVariants :=
    congrArg ApprovalInputs.wordingVariants hkept.inputs
  have hhash : after.sourceCvContentHash = before.sourceCvContentHash :=
    congrArg ApprovalInputs.sourceCvContentHash hkept.inputs
  have hselection := selectionProblem_of_kept hkept.selection h.selection
  exact
    { source_eq := h.source_eq
      snapshot_eq := hkept.snapshot.trans h.snapshot_eq
      baseline := by rw [hkept.baseline]; exact h.baseline
      hash := hhash.trans h.hash
      requirements :=
        (describeCvRequirementGaps_congr hkept.inputs hkept.revision).trans h.requirements
      evidence := describeEvidenceGaps_eq_nil h.evidence hkept.inputs (by rw [hstate]; simp)
      selection := hselection
      composed := by
        rw [hfacts, hwording, composeFrom_congr_selection (hselection.trans h.selection.symm)]
        exact h.composed }

lemma ApprovalStands.composeCase (h : ApprovalStands p overlay inputs source snapshot)
    (hjd : describeCvJdGaps overlay = []) :
    composeCase p overlay source inputs.skills = ⟨snapshot.resume, []⟩ := by
  have hgaps : describeCvEvidenceOverlayGaps p.unicode overlay
      (p.computeSourceCvContentHash source) = [] := by
    rw [describeCvEvidenceOverlayGaps, if_neg (by rw [h.hash]; simp), hjd, h.requirements, h.evidence]
    rfl
  rw [Cv.composeCase, composeApprovedTailoredResume, hgaps]
  exact h.composed

end Stands

/-! ## Calls other than an approval -/

lemma invalidatedOverlayState_ne {state other : OverlayState} (h : state = .artifactApproved → False)
    (hother : other = .candidateApproved ∨ other = .artifactApproved) :
    invalidatedOverlayState state ≠ other := by
  unfold invalidatedOverlayState
  split
  · rcases hother with rfl | rfl <;> simp
  · next hstate =>
    rintro rfl
    rcases hother with hother | hother
    · exact hstate (.inl hother)
    · exact h hother

structure CaseWritten (before after : CvEvidenceOverlay) : Prop where
  baseline : before.sourceBaseline.isSome → after.sourceBaseline.isSome
  state : after.state ≠ .artifactApproved
  approval : after.state = .candidateApproved → KeepsApproval before after

lemma read_of_ne {row : CvEvidenceOverlay} (h : row.state ≠ .artifactApproved) : row.read = row := by
  rw [CvEvidenceOverlay.read, if_neg h]

lemma caseWritten_of_dropped {after : CvEvidenceOverlay}
    (hbaseline : before.sourceBaseline.isSome → after.sourceBaseline.isSome)
    (hstate : ∀ state, state = .candidateApproved ∨ state = .artifactApproved → after.state ≠ state) :
    CaseWritten before after where
  baseline := hbaseline
  state := hstate _ (.inr rfl)
  approval h := absurd h (hstate _ (.inl rfl))

section Update

variable {row overlay next : CvEvidenceOverlay} {values : CvEvidenceOverlayPatch} {fresh : Fresh}

/-- What the later parts of an update leave of a case. -/
structure SameText (before after : CvEvidenceOverlay) : Prop where
  jdSnapshot : after.jdSnapshot = before.jdSnapshot
  jdSnapshotHash : after.jdSnapshotHash = before.jdSnapshotHash
  jdComplete : after.jdComplete = before.jdComplete
  jdRevisions : after.jdRevisions = before.jdRevisions
  snapshot : after.approvedResumeSnapshot = before.approvedResumeSnapshot
  baseline : after.sourceBaseline = before.sourceBaseline
  selection : after.projectSelection = before.projectSelection

lemma SameText.refl : SameText overlay overlay := ⟨rfl, rfl, rfl, rfl, rfl, rfl, rfl⟩

lemma sameText_patchConfirmation (h : patchConfirmation overlay values = .ok next) :
    SameText overlay next := by
  unfold patchConfirmation at h
  split at h
  · cases h
    exact .refl
  · split at h
    · cases h
    · cases h
      exact ⟨rfl, rfl, rfl, rfl, rfl, rfl, rfl⟩

lemma sameText_clearReviews : SameText overlay (clearReviews row overlay values) := by
  unfold clearReviews
  split
  · exact ⟨rfl, rfl, rfl, rfl, rfl, rfl, rfl⟩
  · exact .refl

variable {doc : CvDocumentRecord}

lemma sameText_patchEvidence {now : String} (h : patchEvidence p overlay values doc now = .ok next) :
    SameText overlay next := by
  unfold patchEvidence at h
  split at h
  · cases h
    exact .refl
  · dsimp only at h
    split at h
    · cases h
    · cases h
      exact ⟨rfl, rfl, rfl, rfl, rfl, rfl, rfl⟩

lemma sameText_patchRequirements (h : patchRequirements overlay values doc = .ok next) :
    SameText overlay next := by
  unfold patchRequirements at h
  split at h
  · cases h
    exact .refl
  · split at h
    · cases h
    · split at h
      · cases h
      · cases h
        exact ⟨rfl, rfl, rfl, rfl, rfl, rfl, rfl⟩

lemma sameText_patchCoverage (h : patchCoverage overlay values = .ok next) : SameText overlay next := by
  unfold patchCoverage at h
  split at h
  · cases h
    exact .refl
  · split at h
    · cases h
    · cases h
      exact ⟨rfl, rfl, rfl, rfl, rfl, rfl, rfl⟩

structure PatchedText (row after : CvEvidenceOverlay) : Prop where
  jdRevisions : after.jdSnapshot = row.jdSnapshot → after.jdSnapshotHash = row.jdSnapshotHash →
    after.jdComplete = row.jdComplete → after.jdRevisions = row.jdRevisions
  snapshot : after.approvedResumeSnapshot = row.approvedResumeSnapshot
  baseline : after.sourceBaseline = row.sourceBaseline
  selection : after.projectSelection = row.projectSelection

lemma patchedText_patchJd : PatchedText overlay (patchJd p overlay values fresh) := by
  unfold patchJd
  split
  · exact ⟨fun _ _ _ => rfl, rfl, rfl, rfl⟩
  · refine ⟨fun htext hhash hcomplete => ?_, rfl, rfl, rfl⟩
    -- A revision is added in the other case alone.
    dsimp only at htext hhash hcomplete ⊢
    rw [withJdRevision, if_pos ⟨htext, hhash, hcomplete⟩]

lemma PatchedText.trans (h : PatchedText row overlay) (h' : SameText overlay next) :
    PatchedText row next where
  jdRevisions htext hhash hcomplete := h'.jdRevisions.trans (h.jdRevisions
    (h'.jdSnapshot.symm.trans htext) (h'.jdSnapshotHash.symm.trans hhash)
    (h'.jdComplete.symm.trans hcomplete))
  snapshot := h'.snapshot.trans h.snapshot
  baseline := h'.baseline.trans h.baseline
  selection := h'.selection.trans h.selection

lemma patchState_spec (hrow : row.state ≠ .artifactApproved) :
    patchState p row overlay values ≠ .artifactApproved ∧
      (patchState p row overlay values = .candidateApproved →
        row.state = .candidateApproved ∧ overlay.approvalInputs = row.approvalInputs) := by
  unfold patchState
  rw [read_of_ne hrow]
  dsimp only
  split
  · next state _ => exact ⟨state.2.2.2, fun h => absurd h state.2.1⟩
  · split_ifs with hconflict hresolved htouched
    · exact ⟨by simp, by simp⟩
    · exact ⟨by simp, by simp⟩
    · exact ⟨invalidatedOverlayState_ne hrow (.inr rfl),
        fun h => absurd h (invalidatedOverlayState_ne hrow (.inl rfl))⟩
    · exact ⟨hrow, fun h => ⟨h, not_not.mp htouched⟩⟩

lemma updateCvEvidenceOverlay_spec {doc : CvDocument}
    (hrow : row.state ≠ .artifactApproved)
    (h : updateCvEvidenceOverlay p row doc values fresh = .ok next) : CaseWritten row next := by
  obtain ⟨confirmed, hconfirmed, h⟩ := exists_of_bind_ok h
  obtain ⟨proven, hproven, h⟩ := exists_of_bind_ok h
  obtain ⟨required, hrequired, h⟩ := exists_of_bind_ok h
  obtain ⟨covered, hcovered, h⟩ := exists_of_bind_ok h
  have htext : PatchedText row covered := by
    have hjd : PatchedText row (patchJd p { row with
        sourceCvContentHash := values.sourceCvContentHash.getD row.sourceCvContentHash } values
        fresh) :=
      ⟨patchedText_patchJd.jdRevisions, patchedText_patchJd.snapshot, patchedText_patchJd.baseline,
        patchedText_patchJd.selection⟩
    exact ((((hjd.trans (sameText_patchConfirmation hconfirmed)).trans sameText_clearReviews).trans
      (sameText_patchEvidence hproven)).trans (sameText_patchRequirements hrequired)).trans
      (sameText_patchCoverage hcovered)
  obtain ⟨hlegacy, happroved⟩ := @patchState_spec p row covered values hrow
  obtain rfl := Except.ok.inj h
  exact
    { baseline := fun hsome => (congrArg Option.isSome htext.baseline).trans hsome
      state := hlegacy
      approval := fun hstate => by
        obtain ⟨hbefore, hinputs⟩ := happroved hstate
        have hrevisions := htext.jdRevisions (congrArg ApprovalInputs.jdSnapshot hinputs)
          (congrArg ApprovalInputs.jdSnapshotHash hinputs) (congrArg ApprovalInputs.jdComplete hinputs)
        exact
          { state := hbefore
            snapshot := htext.snapshot
            baseline := htext.baseline
            inputs := hinputs
            revision := congrArg currentCvJdRevisionId hrevisions
            selection := fun selection hselection =>
              ⟨selection, htext.selection.trans hselection, rfl⟩ } }

end Update

section Calls

variable {row next : CvEvidenceOverlay} {doc : CvDocumentRecord}

variable {fresh : Fresh} {payload : CvProposalPayload} {expected : ℕ}

lemma sameText_promote (h : promote p row doc fresh payload = .ok next) : SameText row next := by
  unfold promote at h
  split at h
  · split at h
    · cases h
    · split at h
      · cases h
      · dsimp only at h
        split at h
        · cases h
        · cases h
          exact ⟨rfl, rfl, rfl, rfl, rfl, rfl, rfl⟩
  · split_ifs at h
    cases h
    exact ⟨rfl, rfl, rfl, rfl, rfl, rfl, rfl⟩
  · split_ifs at h
    cases h
    exact ⟨rfl, rfl, rfl, rfl, rfl, rfl, rfl⟩
  · split_ifs at h
    cases h
    exact ⟨rfl, rfl, rfl, rfl, rfl, rfl, rfl⟩
  · split_ifs at h
    cases h
    exact ⟨rfl, rfl, rfl, rfl, rfl, rfl, rfl⟩

lemma acceptCvTailoringProposal_spec {stored : CvDocument} (hrow : row.state ≠ .artifactApproved)
    (h : acceptCvTailoringProposal p row stored payload fresh = .ok next) :
    CaseWritten row next := by
  obtain ⟨promoted, hpromoted, rfl⟩ := exists_of_map_ok h
  refine caseWritten_of_dropped
    (fun hsome => (congrArg Option.isSome (sameText_promote hpromoted).baseline).trans hsome)
    fun state hstate => ?_
  rw [read_of_ne hrow]
  split_ifs with hconflict
  · rcases hstate with rfl | rfl <;> simp
  · exact invalidatedOverlayState_ne hrow hstate

lemma approveCvProjectSelection_spec {now : String} (hrow : row.state ≠ .artifactApproved)
    (h : approveCvProjectSelection row doc expected now = .ok next) : CaseWritten row next := by
  obtain ⟨-, -, h⟩ := exists_of_bind_ok h
  obtain ⟨source, -, h⟩ := exists_of_bind_ok h
  obtain ⟨-, -, h⟩ := exists_of_bind_ok h
  obtain rfl := Except.ok.inj h
  rw [read_of_ne hrow]
  by_cases hchanged : row.projectSelection.any fun selection =>
      joinedIds selection.projectIds ≠ joinedIds (selectedIds source)
  · refine caseWritten_of_dropped id fun state hstate => ?_
    rw [if_pos hchanged]
    exact invalidatedOverlayState_ne hrow hstate
  · rw [if_neg hchanged]
    exact
      { baseline := id
        state := hrow
        approval := fun hstate =>
          { state := hstate
            snapshot := rfl
            baseline := rfl
            inputs := rfl
            revision := rfl
            selection := fun selection (hselection : row.projectSelection = some selection) => by
              have hjoined : joinedIds selection.projectIds = joinedIds (selectedIds source) := by
                by_contra hne
                exact hchanged (by rw [hselection, Option.any_some]; exact decide_eq_true hne)
              exact ⟨_, rfl, hjoined.symm⟩ } }

lemma rebaseCvEvidenceOverlay_spec {now : String} (hrow : row.state ≠ .artifactApproved)
    (h : rebaseCvEvidenceOverlay p row doc expected now = .ok next) : CaseWritten row next := by
  obtain ⟨-, -, h⟩ := exists_of_bind_ok h
  obtain ⟨source, -, h⟩ := exists_of_bind_ok h
  obtain rfl := Except.ok.inj h
  refine caseWritten_of_dropped (fun _ => rfl) fun state hstate => ?_
  rw [read_of_ne hrow]
  exact invalidatedOverlayState_ne hrow hstate

lemma caseWritten_refl (hrow : row.state ≠ .artifactApproved) : CaseWritten row row where
  baseline := id
  state := hrow
  approval hstate :=
    ⟨hstate, rfl, rfl, rfl, rfl, fun selection hselection => ⟨selection, hselection, rfl⟩⟩

lemma writeCvArtifacts_spec {artifacts : List CvArtifactRecord} (hrow : row.state ≠ .artifactApproved) :
    CaseWritten row (writeCvArtifacts row artifacts) := by
  rw [writeCvArtifacts, if_neg hrow]
  exact ⟨id, hrow, fun hstate =>
    ⟨hstate, rfl, rfl, rfl, rfl, fun selection hselection => ⟨selection, hselection, rfl⟩⟩⟩

variable {artifactId now : String}

lemma markCvArtifactReviewOpened_spec (hrow : row.state ≠ .artifactApproved)
    (h : markCvArtifactReviewOpened row artifactId now = .ok next) : CaseWritten row next := by
  obtain ⟨artifact, -, h⟩ := exists_of_bind_ok h
  obtain ⟨-, -, h⟩ := exists_of_bind_ok h
  obtain rfl := Except.ok.inj h
  exact writeCvArtifacts_spec hrow

lemma markCvArtifactPagesViewed_spec {pagesShown : ℕ} (hrow : row.state ≠ .artifactApproved)
    (h : markCvArtifactPagesViewed row artifactId pagesShown now = .ok next) : CaseWritten row next := by
  obtain ⟨artifact, -, h⟩ := exists_of_bind_ok h
  obtain ⟨-, -, h⟩ := exists_of_bind_ok h
  obtain rfl := Except.ok.inj h
  exact writeCvArtifacts_spec hrow

lemma confirmCvArtifact_spec (hrow : row.state ≠ .artifactApproved)
    (h : confirmCvArtifact row artifactId now = .ok next) : CaseWritten row next := by
  obtain ⟨artifact, -, h⟩ := exists_of_bind_ok h
  obtain ⟨-, -, h⟩ := exists_of_bind_ok h
  split at h
  · obtain rfl := Except.ok.inj h
    exact caseWritten_refl hrow
  · obtain rfl := Except.ok.inj h
    exact writeCvArtifacts_spec hrow

lemma invalidateApprovedCase_spec (hrow : row.state ≠ .artifactApproved) :
    CaseWritten row (invalidateApprovedCase row) := by
  unfold invalidateApprovedCase
  split
  · exact caseWritten_of_dropped id fun state hstate => invalidatedOverlayState_ne hrow hstate
  · exact caseWritten_refl hrow

end Calls

/-! ## Approvals -/

section Approve

variable {row next : CvEvidenceOverlay} {doc : CvDocumentRecord} {expected : ℕ} {now : String}

lemma approveCvEvidenceOverlay_spec (hbaseline : row.sourceBaseline.isSome)
    (h : approveCvEvidenceOverlay p row doc expected now = .ok next) :
    next.sourceBaseline = row.sourceBaseline ∧ next.state = .candidateApproved ∧
      ∃ source snapshot, ApprovalStands p next (currentCaseInputs p doc) source snapshot := by
  obtain ⟨-, -, h⟩ := exists_of_bind_ok h
  obtain ⟨source, hsource, h⟩ := exists_of_bind_ok h
  obtain ⟨-, -, h⟩ := exists_of_bind_ok h
  obtain ⟨baseline, hbaseline⟩ := Option.isSome_iff_exists.mp hbaseline
  dsimp only at h
  rw [hbaseline, Option.any_some] at h
  split at h
  · cases h
  · next hdigest =>
    split at h
    · cases h
    · next hblockers =>
      obtain rfl := Except.ok.inj h
      rw [not_not] at hblockers
      have hfound : doc.source = some source := by
        unfold requireSource at hsource
        split at hsource
        · cases hsource
        · next found =>
          obtain rfl := Except.ok.inj hsource
          exact found
      obtain ⟨hgaps, hselection, hcomposed⟩ := composeFrom_of_blockers_eq_nil hblockers
      obtain ⟨hrest, hevidence⟩ := List.append_eq_nil_iff.mp hgaps
      obtain ⟨hrest, hrequirements⟩ := List.append_eq_nil_iff.mp hrest
      obtain ⟨hsame, -⟩ := List.append_eq_nil_iff.mp hrest
      have hhash : row.sourceCvContentHash = p.computeSourceCvContentHash source := by
        by_contra hne
        rw [if_pos (show row.read.sourceCvContentHash ≠ _ from hne)] at hsame
        cases hsame
      exact ⟨hbaseline.symm, rfl, source, _,
        { source_eq := hfound
          snapshot_eq := rfl
          baseline := ⟨baseline, rfl, by simpa using hdigest⟩
          hash := hhash
          requirements := hrequirements
          evidence := describeEvidenceGaps_eq_nil hevidence rfl (by simp)
          selection := hselection
          composed := hcomposed.symm.trans (congrArg (ComposedTailoredResume.mk _) hblockers) }⟩

lemma checkCvCaseExportReadiness_spec (h : (checkCvCaseExportReadiness p row doc).blockers = []) :
    row.read.state = .candidateApproved ∧ describeCvJdGaps row.read = [] ∧
      (checkCvCaseExportReadiness p row doc).snapshot = row.approvedResumeSnapshot ∧
      ∀ baseline, row.sourceBaseline = some baseline →
        baseline.inputsDigest = p.computeCaseInputsDigest (currentCaseInputs p doc) := by
  unfold checkCvCaseExportReadiness at h ⊢
  dsimp only at h ⊢
  split at h
  · cases h
  · next snapshot hfound =>
    obtain ⟨hsnapshot, hstate⟩ := Option.filter_eq_some_iff.mp hfound
    obtain ⟨hrest, hdigest⟩ := List.append_eq_nil_iff.mp h
    obtain ⟨hrest, -⟩ := List.append_eq_nil_iff.mp hrest
    obtain ⟨hrest, -⟩ := List.append_eq_nil_iff.mp hrest
    obtain ⟨-, hjd⟩ := List.append_eq_nil_iff.mp hrest
    refine ⟨of_decide_eq_true hstate, hjd, ?_, fun baseline hbaseline => ?_⟩
    · exact hsnapshot.symm
    · by_contra hne
      have hany : row.read.sourceBaseline.any fun baseline => baseline.inputsDigest ≠
          p.computeCaseInputsDigest (currentCaseInputs p doc) := by
        rw [show row.read.sourceBaseline = some baseline from hbaseline, Option.any_some]
        exact decide_eq_true hne
      rw [if_pos hany] at hdigest
      cases hdigest

end Approve

/-! ## Runs -/

/-- What holds of a case after any calls. -/
structure CaseWorld.Inv (p : Platform) (w : CaseWorld) : Prop where
  baseline : w.overlay.sourceBaseline.isSome
  state : w.overlay.state ≠ .artifactApproved
  stands : w.overlay.state = .candidateApproved → ∃ inputs ∈ w.digested, ∃ source snapshot,
    ApprovalStands p w.overlay inputs source snapshot

section Runs

variable {w next : CaseWorld} {fresh : Fresh}

lemma CaseWorld.Inv.written (hw : w.Inv p) (hdigested : w.digested ⊆ next.digested)
    (h : CaseWritten w.overlay next.overlay) : next.Inv p where
  baseline := h.baseline hw.baseline
  state := h.state
  stands hstate := by
    have hkept := h.approval hstate
    obtain ⟨inputs, hmem, source, snapshot, hstands⟩ := hw.stands hkept.state
    exact ⟨inputs, hdigested hmem, source, snapshot, hkept.stands hstate hstands⟩

lemma call_cases (hw : w.Inv p) {c : CaseCall} (h : call p w fresh c = .ok next) :
    (∃ expected, c = .approve expected ∧ ∃ overlay,
      approveCvEvidenceOverlay p w.overlay (w.doc.read fresh.mint) expected fresh.now = .ok overlay ∧
        next = w.digesting p (w.doc.read fresh.mint) overlay) ∨
    (w.digested ⊆ next.digested ∧ CaseWritten w.overlay next.overlay) := by
  cases c with
  | update values =>
    obtain ⟨overlay, hoverlay, rfl⟩ := exists_of_map_ok h
    exact .inr ⟨List.Subset.refl _, updateCvEvidenceOverlay_spec hw.state hoverlay⟩
  | accept payload =>
    obtain ⟨overlay, hoverlay, rfl⟩ := exists_of_map_ok h
    exact .inr ⟨List.Subset.refl _, acceptCvTailoringProposal_spec hw.state hoverlay⟩
  | approveSelection expected =>
    obtain ⟨overlay, hoverlay, rfl⟩ := exists_of_map_ok h
    exact .inr ⟨List.Subset.refl _, approveCvProjectSelection_spec hw.state hoverlay⟩
  | approve expected =>
    obtain ⟨overlay, hoverlay, rfl⟩ := exists_of_map_ok h
    exact .inl ⟨expected, rfl, overlay, hoverlay, rfl⟩
  | rebase expected =>
    obtain ⟨overlay, hoverlay, rfl⟩ := exists_of_map_ok h
    exact .inr ⟨List.subset_cons_self _ _, rebaseCvEvidenceOverlay_spec hw.state hoverlay⟩
  | recordArtifact input =>
    obtain rfl := Except.ok.inj h
    exact .inr ⟨List.Subset.refl _, writeCvArtifacts_spec hw.state⟩
  | openArtifact artifactId =>
    obtain ⟨overlay, hoverlay, rfl⟩ := exists_of_map_ok h
    exact .inr ⟨List.Subset.refl _, markCvArtifactReviewOpened_spec hw.state hoverlay⟩
  | viewPages artifactId pagesShown =>
    obtain ⟨overlay, hoverlay, rfl⟩ := exists_of_map_ok h
    exact .inr ⟨List.Subset.refl _, markCvArtifactPagesViewed_spec hw.state hoverlay⟩
  | confirmArtifact artifactId =>
    obtain ⟨overlay, hoverlay, rfl⟩ := exists_of_map_ok h
    exact .inr ⟨List.Subset.refl _, confirmCvArtifact_spec hw.state hoverlay⟩
  | editCv values =>
    obtain rfl := Except.ok.inj h
    refine .inr ⟨fun _ hmem => List.mem_cons_of_mem _ (List.mem_cons_of_mem _ hmem), ?_⟩
    show CaseWritten w.overlay (if _ then _ else _)
    split
    · exact invalidateApprovedCase_spec hw.state
    · exact caseWritten_refl hw.state

lemma inv_createdCase {doc : CvDocument} {input : CvEvidenceOverlayInput} :
    (createdCase p doc input fresh).Inv p :=
  ⟨rfl, by simp [createdCase, createCvEvidenceOverlay],
    by simp [createdCase, createCvEvidenceOverlay]⟩

lemma CaseWorld.Inv.step (hw : w.Inv p) {move : Fresh × CaseCall} : (caseStep p w move).Inv p := by
  unfold caseStep
  split
  · exact hw
  · next next hnext =>
    rcases call_cases hw hnext with ⟨expected, -, overlay, happroved, rfl⟩ | ⟨hdigested, hwritten⟩
    · obtain ⟨hbaseline, hstate, source, snapshot, hstands⟩ :=
        approveCvEvidenceOverlay_spec hw.baseline happroved
      exact
        { baseline := (congrArg Option.isSome hbaseline).trans hw.baseline
          state := fun hlegacy => by cases hstate.symm.trans hlegacy
          stands := fun _ => ⟨_, List.mem_cons_self, source, snapshot, hstands⟩ }
    · exact hw.written hdigested hwritten

lemma CaseWorld.Inv.after (hw : w.Inv p) {moves : List (Fresh × CaseCall)} : (w.after p moves).Inv p := by
  induction moves generalizing w with
  | nil => exact hw
  | cons move moves ih => exact ih hw.step

end Runs

/-- A case that may be exported is one whose approved CV would be put together again, as long as no
digests collide; and a case becomes approved by an approval alone. -/
theorem exportable_is_approved (p : Platform) (doc : CvDocument) (input : CvEvidenceOverlayInput)
    (created : Fresh) (moves : List (Fresh × CaseCall)) (mint : ℕ → String) :
    let w := (createdCase p doc input created).after p moves
    let current := w.doc.read mint
    (Set.InjOn p.computeCaseInputsDigest
        {inputs | inputs ∈ currentCaseInputs p current :: w.digested} →
      (checkCvCaseExportReadiness p w.overlay current).blockers = [] →
      ∃ source snapshot, current.source = some source ∧
        w.overlay.read.approvedResumeSnapshot = some snapshot ∧
        (checkCvCaseExportReadiness p w.overlay current).snapshot = some snapshot ∧
        composeCase p w.overlay.read source current.profile.skills = ⟨snapshot.resume, []⟩) ∧
    ∀ move, w.overlay.read.state ≠ .candidateApproved →
      (caseStep p w move).overlay.read.state = .candidateApproved →
      ∃ expectedCaseRevision, move.2 = .approve expectedCaseRevision := by
  intro w current
  have hw : w.Inv p := inv_createdCase.after
  have hread : w.overlay.read = w.overlay := read_of_ne hw.state
  constructor
  · intro hinjective hblockers
    obtain ⟨hstate, hjd, hchecked, hdigest⟩ := checkCvCaseExportReadiness_spec hblockers
    rw [hread] at hstate hjd ⊢
    obtain ⟨inputs, hmem, source, snapshot, hstands⟩ := hw.stands hstate
    obtain ⟨baseline, hbaseline, happroved⟩ := hstands.baseline
    -- What was approved and what is read now have one digest, which is that of the baseline.
    have hsame : inputs = currentCaseInputs p current :=
      hinjective (List.mem_cons_of_mem _ hmem) List.mem_cons_self
        (happroved.symm.trans (hdigest baseline hbaseline))
    subst hsame
    exact ⟨source, snapshot, hstands.source_eq, hstands.snapshot_eq,
      hchecked.trans hstands.snapshot_eq, hstands.composeCase hjd⟩
  · intro move hbefore hafter
    have hnext : (caseStep p w move).Inv p := hw.step
    rw [read_of_ne hnext.state] at hafter
    rw [hread] at hbefore
    unfold caseStep at hafter
    split at hafter
    · exact absurd hafter hbefore
    · next next hcall =>
      rcases call_cases hw hcall with ⟨expected, hmove, -⟩ | ⟨-, hwritten⟩
      · exact ⟨expected, hmove⟩
      · exact absurd (hwritten.approval hafter).state hbefore

/-! A case of a CV with one project, which is confirmed, approved and exported. -/

def routerSource : CvSourceDocument where
  contact := { name := "Ada" }
  projects :=
    [{ id := "project-1", name := "Router", description := "A router in Go", pinned := true }]
  reviewedAt := "2026-10-01T00:00:00.000Z"

def routerDocument : CvDocument where
  profile := { skills := ["Go"] }
  sourceCv := some routerSource

def routerText : String := "You must know Go."

def routerHash : String := "2fa8068d924547107d27d161987d8f408403dcb9b429425b9e35f77320543f16"

def routerTextHash : String := "0e6617bd9de153e0701f9489ae7151d17caf58f4df7acfa307dd9ac2e25f5135"

def routerInputs : CvCurrentInputs where
  source := some routerSource
  skills := ["Go"]
  profileSummary := ""
  textDigest := "e3b0c44298fc1c149afbf4c8996fb92427ae41e4649b934ca495991b7852b855"

def routerResume : TailoredResume where
  contact := { name := "Ada" }
  summary := ""
  experience := []
  projects := [⟨"Router", "", "", "", "A router in Go", [], []⟩]
  skills := ["Go"]
  education := []

def routerPlatform : Platform where
  unicode := ascii
  sha256Hex text := if text = routerText then routerTextHash else routerInputs.textDigest
  computeSourceCvContentHash source := if source = routerSource then routerHash else ""
  computeCaseInputsDigest inputs :=
    if inputs = routerInputs then "4199d04c21f9fe5655965053bae7897fd94a328735117e4e76de238e6061aaf4"
    else ""
  resumeDigest resume :=
    if resume = routerResume then "4c82fb46e19cb1817164706f987eb48c045ea11894fb4554f2083908c13a9eb9"
    else ""
  assessJdCompleteness text :=
    if text = routerText then
      ([.postingTextTooThin], ["Only 17 characters of posting text were captured, which is a listing " ++
        "summary rather than the posting itself."])
    else ([], [])

def routerInput : CvEvidenceOverlayInput where
  sourceCvContentHash := routerHash
  jdSnapshot := some routerText
  jdSnapshotHash := routerTextHash

def freshAt (id now : String) : Fresh := ⟨id, now, fun n => toString n, fun n => toString n⟩

def routerCalls : List (Fresh × CaseCall) :=
  [(freshAt "id-2" "2026-10-02T00:00:00.000Z",
      .update { jdConfirmedComplete := some true, requirementCoverage := some (true, 1) }),
    (freshAt "id-3" "2026-10-03T00:00:00.000Z", .approveSelection 2),
    (freshAt "id-4" "2026-10-04T00:00:00.000Z", .approve 3),
    (freshAt "id-5" "2026-10-05T00:00:00.000Z", .approveSelection 4),
    (freshAt "id-6" "2026-10-06T00:00:00.000Z", .editCv {})]

def routerCase : CaseWorld :=
  (createdCase routerPlatform routerDocument routerInput
    (freshAt "id-1" "2026-10-01T12:00:00.000Z")).after routerPlatform routerCalls

theorem exportable_is_approved_sample :
    ∃ source snapshot, (routerCase.doc.read fun n => toString n).source = some source ∧
      routerCase.overlay.read.approvedResumeSnapshot = some snapshot ∧
      (checkCvCaseExportReadiness routerPlatform routerCase.overlay
        (routerCase.doc.read fun n => toString n)).snapshot = some snapshot ∧
      composeCase routerPlatform routerCase.overlay.read source
        (routerCase.doc.read fun n => toString n).profile.skills = ⟨snapshot.resume, []⟩ := by
  refine (exportable_is_approved routerPlatform routerDocument routerInput
    (freshAt "id-1" "2026-10-01T12:00:00.000Z") routerCalls fun n => toString n).1 ?_
    (by decide)
  have hdigested : ∀ inputs ∈ currentCaseInputs routerPlatform (routerCase.doc.read fun n => toString n)
      :: routerCase.digested, inputs = routerInputs := by
    decide
  intro a ha b hb _
  exact (hdigested a ha).trans (hdigested b hb).symm

end VacancyRadar.Cv
