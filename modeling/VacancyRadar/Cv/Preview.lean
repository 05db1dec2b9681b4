import VacancyRadar.Cv.Case
import VacancyRadar.Cv.EvidenceRuns

/-!
# What a rebase leaves to tell

`describeCvInputChanges` and `previewCvEvidenceRebase`: a case tells how its CV differs from the one that
it was started from, and what a rebase onto it would keep.  A rebase takes the CV as it is for the new
baseline, and there is nothing to tell after it, as long as the CV is read the same again and its entries
can be told apart by their ids.  Neither is made sure of: an id that is missing or repeated is minted
anew in every reading of an experience, and two projects may have the same id.
-/

namespace VacancyRadar.Cv

open Data

variable {baseline : Option CvSourceBaseline} {overlay : CvEvidenceOverlay} {variant : CvApprovedWording}
  {variants : List CvApprovedWording}

/-! ## What changed -/

structure CvInputChange where
  area : String
  detail : String
deriving DecidableEq

def differing (fields : List (String × Bool)) : String :=
  ", ".intercalate ((fields.filter Prod.snd).map Prod.fst)

def roleLabel (entry : CvSourceExperienceEntry) : String :=
  (if entry.title = "" then "Untitled role" else entry.title) ++ " at " ++
    if entry.company = "" then "unknown employer" else entry.company

def projectLabel (entry : CvSourceProjectEntry) : String :=
  if entry.name = "" then "Unnamed project" else entry.name

section Entries

variable {α : Type} [DecidableEq α]

def describeEntryChanges (area : String) (id label : α → String) (fields : α → α → List (String × Bool))
    (before after : List α) : List CvInputChange :=
  (after.filterMap fun entry =>
    match lastOf id before (id entry) with
    | none => some ⟨area, "Added: " ++ label entry ++ "."⟩
    | some old =>
      if old = entry then none
      else some ⟨area, label entry ++ " changed (" ++ differing (fields old entry) ++ ")."⟩) ++
  (before.filter fun entry => lastOf id after (id entry) = none).map fun entry =>
    ⟨area, "Removed: " ++ label entry ++ "."⟩

end Entries

def describeContactChange (before after : CvSourceContact) : List CvInputChange :=
  if before = after then []
  else [⟨"Contact", "Contact details changed (" ++ differing
    [("name", before.name ≠ after.name), ("title", before.title ≠ after.title),
      ("location", before.location ≠ after.location), ("email", before.email ≠ after.email),
      ("phone", before.phone ≠ after.phone), ("links", before.links ≠ after.links)] ++ ")."⟩]

def projectLimit (maxProjects : ℕ) : String :=
  if maxProjects = 0 then "no limit" else toString maxProjects

/-- The part of `describeCvInputChanges` for two sources. -/
def describeSourceChanges (before after : CvSourceDocument) : List CvInputChange :=
  describeContactChange before.contact after.contact ++
  (if before.summary ≠ after.summary then [⟨"Summary", "The summary text changed."⟩] else []) ++
  describeEntryChanges "Experience" CvSourceExperienceEntry.id roleLabel (fun old entry =>
    [("company", old.company ≠ entry.company), ("title", old.title ≠ entry.title),
      ("dates", old.dates ≠ entry.dates), ("engagement", old.engagement ≠ entry.engagement),
      ("client", old.client ≠ entry.client), ("bullets", old.bullets ≠ entry.bullets)])
    before.experience after.experience ++
  describeEntryChanges "Projects" CvSourceProjectEntry.id projectLabel (fun old entry =>
    [("name", old.name ≠ entry.name), ("role", old.role ≠ entry.role), ("dates", old.dates ≠ entry.dates),
      ("organization", old.organization ≠ entry.organization),
      ("description", old.description ≠ entry.description),
      ("technologies", old.technologies ≠ entry.technologies), ("links", old.links ≠ entry.links),
      ("pinned", old.pinned ≠ entry.pinned)])
    before.projects after.projects ++
  (if before.maxProjects ≠ after.maxProjects then
    [⟨"Projects", "The project limit changed from " ++ projectLimit before.maxProjects ++ " to " ++
      projectLimit after.maxProjects ++ "."⟩]
  else []) ++
  if before.education ≠ after.education then [⟨"Education", "Education entries changed."⟩] else []

variable (u : Unicode) (digest : String → String)

/-- `listDelta`: what a list has whose key another one does not have. -/
def listDelta (has hasNot : List String) : List String :=
  has.filter fun value => skillKey u value ∉ hasNot.map (skillKey u)

def skillsChange (what : String) (skills : List String) : List CvInputChange :=
  if skills = [] then [] else [⟨"Skills", what ++ ": " ++ ", ".intercalate skills ++ "."⟩]

def describeCvInputChanges (baseline : Option CvSourceBaseline) (current : CvCurrentInputs) :
    List CvInputChange :=
  match baseline with
  | none => []
  | some baseline =>
    (match baseline.source, current.source with
    | some _, none => [⟨"Source CV", "The reviewed source CV was removed."⟩]
    | none, some _ => [⟨"Source CV", "A reviewed source CV was added."⟩]
    | some before, some after => describeSourceChanges before after
    | none, none => []) ++
    skillsChange "Added" (listDelta u current.skills baseline.skills) ++
    skillsChange "Removed" (listDelta u baseline.skills current.skills) ++
    (if baseline.profileSummary ≠ current.profileSummary then
      [⟨"Profile", "The profile summary changed."⟩] else []) ++
    if baseline.textDigest ≠ current.textDigest then
      [⟨"CV text", "The extracted CV text changed."⟩] else []

/-! ## The preview -/

structure CvDroppedWording where
  variantId : String
  text : String
  reason : String

structure CvStaleFact where
  factId : String
  activity : String
  reason : String

/-- `CvRebasePlan`, with all that a candidate is told. -/
structure CvRebasePreview where
  baselineKnown : Bool
  inputsChanged : Bool
  changes : List CvInputChange
  keptVariantIds : List String
  droppedVariants : List CvDroppedWording
  orphanedFactIds : List String
  staleFacts : List CvStaleFact
  requirementIdsToReview : List String

def CvApprovedWording.standing (variant : CvApprovedWording) : Bool :=
  variant.status = .candidateApproved || variant.status = .draft

def droppedWording (overlay : CvEvidenceOverlay) (current : CvCurrentInputs) : List CvDroppedWording :=
  (overlay.wordingVariants.filter CvApprovedWording.standing).filterMap fun variant =>
    (describeStaleVariant variant overlay.sourceBaseline current.source).map fun reason =>
      ⟨variant.variantId, variant.text, reason⟩

def staleFacts (overlay : CvEvidenceOverlay) (current : CvCurrentInputs) : List CvStaleFact :=
  (overlay.facts.filter fun fact =>
    fact.approval = .approved && existsInSource current.source fact.parentId).filterMap fun fact =>
      (describeStaleFactAnchor u digest fact current).map fun reason =>
        ⟨fact.factId, fact.activity, reason⟩

variable (p : Platform)

def previewCvEvidenceRebase (row : CvEvidenceOverlay) (doc : CvDocumentRecord) : CvRebasePreview :=
  let overlay := row.read
  let current := currentCaseInputs p doc
  { baselineKnown := overlay.sourceBaseline.isSome
    inputsChanged :=
      match overlay.sourceBaseline with
      | some baseline => baseline.inputsDigest ≠ p.computeCaseInputsDigest current
      | none => doc.source.any fun source =>
          overlay.sourceCvContentHash ≠ p.computeSourceCvContentHash source
    changes := describeCvInputChanges p.unicode overlay.sourceBaseline current
    keptVariantIds :=
      ((overlay.wordingVariants.filter CvApprovedWording.standing).filter fun variant =>
        describeStaleVariant variant overlay.sourceBaseline current.source = none).map
          CvApprovedWording.variantId
    droppedVariants := droppedWording overlay current
    orphanedFactIds :=
      (overlay.facts.filter fun fact => (fact.approval = .approved || fact.approval = .proposed) &&
        !existsInSource current.source fact.parentId).map CvEvidenceFact.factId
    staleFacts := staleFacts p.unicode p.sha256Hex overlay current
    requirementIdsToReview :=
      (planCvEvidenceRebase p.unicode p.sha256Hex overlay current).requirementIdsToReview }

structure CvRebasePreview.Silent (preview : CvRebasePreview) : Prop where
  inputsChanged : preview.inputsChanged = false
  changes : preview.changes = []
  droppedVariants : preview.droppedVariants = []
  staleFacts : preview.staleFacts = []
  requirementIdsToReview : preview.requirementIdsToReview = []

/-- What a rebase makes of wording that stands: it stays, it stays under another source revision, or it
is superseded. -/
def CvApprovedWording.Settled (before after : CvApprovedWording) : Prop :=
  after = before ∨ (∃ sourceRevision, after = { before with sourceRevision }) ∨
    after = { before with status := .superseded }

/-- A rebase of a case onto a CV is done once: when it succeeds, nothing is left to tell of the same CV,
another rebase changes nothing but the revision and the time of the baseline, and wording is settled.
Every reading of the CV mints ids anew. -/
def RebasesOnce (row : CvEvidenceOverlay) (doc : CvDocument) (mint mint' mint'' : ℕ → String) : Prop :=
  ∀ expected now next, rebaseCvEvidenceOverlay p row (doc.read mint) expected now = .ok next →
    (previewCvEvidenceRebase p next (doc.read mint')).Silent ∧
    (∀ now', rebaseCvEvidenceOverlay p next (doc.read mint'') next.caseRevision now' =
      .ok { next with
        caseRevision := next.caseRevision + 1
        sourceBaseline := next.sourceBaseline.map fun baseline => { baseline with capturedAt := now' } }) ∧
    List.Forall₂ (fun before after : CvApprovedWording => before.standing = true → before.Settled after)
      row.wordingVariants next.wordingVariants

/-! ## Ids that stay -/

def keptIdsFrom : ℕ → List CvSourceExperienceEntry → List String
  | _, [] => []
  | index, entry :: rest =>
    (if trim entry.id = "" then "experience-" ++ toString (index + 1) else trim entry.id) ::
      keptIdsFrom (index + 1) rest

def StableIds (source : CvSourceDocument) : Prop :=
  (keptIdsFrom 0 source.experience).Nodup ∧ Agree CvSourceProjectEntry.id source.projects

instance : DecidablePred StableIds := fun _ => inferInstanceAs (Decidable (_ ∧ _))

section Experience

variable {index : ℕ} {seen taken : List String} {experience : List CvSourceExperienceEntry}

lemma mem_keptIdsFrom_of_own {id : String} (hid : id ≠ "")
    (h : id ∈ experience.map fun entry => trim entry.id) : id ∈ keptIdsFrom index experience := by
  induction experience generalizing index with
  | nil => exact absurd h List.not_mem_nil
  | cons entry rest ih =>
    rw [List.map_cons, List.mem_cons] at h
    rw [keptIdsFrom, List.mem_cons]
    rcases h with rfl | h
    · exact .inl (if_neg hid).symm
    · exact .inr (ih h)

lemma stableIdsFrom_of_nodup (mint mint' : ℕ → String) (hnodup : (keptIdsFrom index experience).Nodup)
    (hseen : ∀ id ∈ keptIdsFrom index experience, id ∉ seen)
    (htaken : ∀ id ∈ taken, id ∈ seen ∨ id ≠ "" ∧ id ∈ experience.map fun entry => trim entry.id) :
    stableIdsFrom mint index seen taken experience = stableIdsFrom mint' index seen taken experience ∧
      (stableIdsFrom mint index seen taken experience).map CvSourceExperienceEntry.id =
        keptIdsFrom index experience := by
  induction experience generalizing index seen taken with
  | nil => exact ⟨rfl, rfl⟩
  | cons entry rest ih =>
    obtain ⟨own, hown⟩ : ∃ own,
        own = if trim entry.id = "" then "experience-" ++ toString (index + 1) else trim entry.id := ⟨_, rfl⟩
    rw [keptIdsFrom, ← hown, List.nodup_cons] at hnodup
    obtain ⟨hnot, hnodup⟩ := hnodup
    rw [keptIdsFrom, ← hown, List.forall_mem_cons] at hseen
    obtain ⟨hfirst, hseen⟩ := hseen
    have hkept : ∀ mint : ℕ → String,
        (if trim entry.id = "" then
          if "experience-" ++ toString (index + 1) ∈ taken then mint index
          else "experience-" ++ toString (index + 1)
        else if trim entry.id ∈ seen then mint index else trim entry.id) = own := by
      intro mint
      by_cases hempty : trim entry.id = ""
      · rw [if_pos hempty] at hown
        subst hown
        rw [if_pos hempty, if_neg]
        intro hmem
        rcases htaken _ hmem with hmem | ⟨hne, hmem⟩
        · exact hfirst hmem
        · rw [List.map_cons, List.mem_cons, hempty] at hmem
          exact hnot (mem_keptIdsFrom_of_own hne (hmem.resolve_left hne))
      · rw [if_neg hempty] at hown
        subst hown
        rw [if_neg hempty, if_neg hfirst]
    have hseen' : ∀ id ∈ keptIdsFrom (index + 1) rest, id ∉ own :: seen := by
      intro id hid hmem
      rcases List.mem_cons.mp hmem with rfl | hmem
      · exact hnot hid
      · exact hseen id hid hmem
    have htaken' : ∀ id ∈ own :: taken,
        id ∈ own :: seen ∨ id ≠ "" ∧ id ∈ rest.map fun entry => trim entry.id := by
      intro id hid
      rcases List.mem_cons.mp hid with rfl | hid
      · exact .inl List.mem_cons_self
      rcases htaken id hid with hid | ⟨hne, hid⟩
      · exact .inl (List.mem_cons_of_mem _ hid)
      rw [List.map_cons, List.mem_cons] at hid
      rcases hid with rfl | hid
      · rw [hown, if_neg hne]
        exact .inl List.mem_cons_self
      · exact .inr ⟨hne, hid⟩
    obtain ⟨hsame, hids⟩ := ih hnodup hseen' htaken'
    simp only [stableIdsFrom, hkept, keptIdsFrom, List.map_cons, hsame, true_and, ← hown]
    rw [← hsame, hids]

lemma exists_minted (h : ¬((keptIdsFrom index experience).Nodup ∧ ∀ id ∈ keptIdsFrom index experience, id ∉ seen))
    (hseen : seen ⊆ taken)
    (hown : ∀ entry ∈ experience, trim entry.id ≠ "" → trim entry.id ∈ taken) :
    ∃ place, ∀ mint : ℕ → String,
      mint place ∈ (stableIdsFrom mint index seen taken experience).map CvSourceExperienceEntry.id := by
  induction experience generalizing index seen taken with
  | nil => exact absurd ⟨List.nodup_nil, by simp [keptIdsFrom]⟩ h
  | cons entry rest ih =>
    rw [List.forall_mem_cons] at hown
    -- The id of the first entry, if it is kept, is one that the others may not have.
    have hrest : ∀ own, (if trim entry.id = "" then "experience-" ++ toString (index + 1) else trim entry.id) = own →
        own ∉ seen → ∃ place, ∀ mint : ℕ → String, mint place ∈
          (stableIdsFrom mint (index + 1) (own :: seen) (own :: taken) rest).map CvSourceExperienceEntry.id := by
      intro own hkept hnew
      refine ih ?_ (List.cons_subset_cons _ hseen) fun other hother hne =>
        List.mem_cons_of_mem _ (hown.2 other hother hne)
      rintro ⟨hnodup, hnot⟩
      refine h ⟨?_, ?_⟩
      · rw [keptIdsFrom, hkept, List.nodup_cons]
        exact ⟨fun hmem => hnot own hmem List.mem_cons_self, hnodup⟩
      · rw [keptIdsFrom, hkept, List.forall_mem_cons]
        exact ⟨hnew, fun id hid hmem => hnot id hid (List.mem_cons_of_mem _ hmem)⟩
    by_cases hempty : trim entry.id = ""
    · by_cases hmem : "experience-" ++ toString (index + 1) ∈ taken
      · refine ⟨index, fun mint => ?_⟩
        simp only [stableIdsFrom, hempty, if_true, hmem, List.map_cons, List.mem_cons_self]
      · obtain ⟨place, hplace⟩ := hrest _ (if_pos hempty) fun hin => hmem (hseen hin)
        refine ⟨place, fun mint => ?_⟩
        simp only [stableIdsFrom, hempty, if_true, hmem, if_false, List.map_cons]
        exact List.mem_cons_of_mem _ (hplace mint)
    · by_cases hmem : trim entry.id ∈ seen
      · refine ⟨index, fun mint => ?_⟩
        simp only [stableIdsFrom, hempty, if_false, hmem, if_true, List.map_cons, List.mem_cons_self]
      · obtain ⟨place, hplace⟩ := hrest _ (if_neg hempty) hmem
        refine ⟨place, fun mint => ?_⟩
        simp only [stableIdsFrom, hempty, if_false, hmem, List.map_cons]
        exact List.mem_cons_of_mem _ (hplace mint)

end Experience

variable {doc : CvDocument} {after before source : CvSourceDocument} {now : String}
  {current : CvCurrentInputs}

lemma source_read (hsource : doc.sourceCv = some source) (mint : ℕ → String) :
    (doc.read mint).source =
      some { source with experience := withStableExperienceIds mint source.experience } := by
  rw [CvDocument.read, hsource, Option.map_some]

lemma StableIds.read (h : StableIds source) (hsource : doc.sourceCv = some source)
    (mint mint' : ℕ → String) : doc.read mint = doc.read mint' ∧
      ∃ read, (doc.read mint).source = some read ∧ Agree CvSourceExperienceEntry.id read.experience ∧
        Agree CvSourceProjectEntry.id read.projects := by
  have htaken : ∀ id ∈ (source.experience.map fun entry => trim entry.id).filter (· ≠ ""),
      id ∈ ([] : List String) ∨ id ≠ "" ∧ id ∈ source.experience.map fun entry => trim entry.id := by
    intro id hid
    rw [List.mem_filter, decide_eq_true_eq] at hid
    exact .inr hid.symm
  obtain ⟨hsame, hids⟩ := stableIdsFrom_of_nodup mint mint' h.1 (fun _ _ => List.not_mem_nil) htaken
  refine ⟨?_, _, source_read hsource mint, ?_, h.2⟩
  · unfold CvDocument.read
    rw [hsource, Option.map_some, Option.map_some, withStableExperienceIds, hsame, withStableExperienceIds]
  · have hnodup := h.1
    rw [← hids] at hnodup
    exact fun a ha b hb hab => List.inj_on_of_nodup_map hnodup ha hb hab

/-! ## Changes of a CV that stays -/

section Entries

variable {α : Type} [DecidableEq α] {area : String} {id label : α → String}
  {fields : α → α → List (String × Bool)} {before after : List α}

lemma describeEntryChanges_self_eq_nil_iff :
    describeEntryChanges area id label fields before before = [] ↔ Agree id before := by
  have hfound : ∀ entry ∈ before, ∃ old ∈ before, id old = id entry ∧ lastOf id before (id entry) = some old := by
    intro entry hentry
    rcases hlast : lastOf id before (id entry) with _ | old
    · exact absurd rfl (lastOf_eq_none_iff.mp hlast entry hentry)
    · obtain ⟨hold, hid⟩ := mem_of_lastOf hlast
      exact ⟨old, hold, hid, rfl⟩
  rw [describeEntryChanges, List.append_eq_nil_iff, List.filterMap_eq_nil_iff, List.map_eq_nil_iff,
    List.filter_eq_nil_iff]
  constructor
  · rintro ⟨hsame, -⟩ a ha b hb hab
    have hlast : ∀ entry ∈ before, lastOf id before (id entry) = some entry := by
      intro entry hentry
      obtain ⟨old, -, -, hlast⟩ := hfound entry hentry
      have hnone := hsame entry hentry
      rw [hlast] at hnone ⊢
      by_contra hne
      rw [Option.some_inj] at hne
      simp [hne] at hnone
    have hlasta := hlast a ha
    rw [hab, hlast b hb] at hlasta
    exact (Option.some.inj hlasta).symm
  · intro hagree
    refine ⟨fun entry hentry => ?_, fun entry hentry => ?_⟩
    · rw [hagree.lastOf_of_mem hentry]
      simp
    · rw [hagree.lastOf_of_mem hentry]
      simp

lemma mem_of_describeEntryChanges_eq_nil (h : describeEntryChanges area id label fields before after = [])
    {entry : α} (hentry : entry ∈ after) : id entry ∈ before.map id := by
  rw [describeEntryChanges, List.append_eq_nil_iff, List.filterMap_eq_nil_iff] at h
  have hnone := h.1 entry hentry
  rcases hlast : lastOf id before (id entry) with _ | old
  · simp [hlast] at hnone
  · obtain ⟨hold, hid⟩ := mem_of_lastOf hlast
    exact List.mem_map.mpr ⟨old, hold, hid⟩

end Entries

lemma listDelta_self (skills : List String) : listDelta u skills skills = [] := by
  rw [listDelta, List.filter_eq_nil_iff]
  intro skill hskill
  simp only [decide_eq_true_eq, not_not]
  exact List.mem_map_of_mem hskill

lemma describeSourceChanges_self (hexperience : Agree CvSourceExperienceEntry.id source.experience)
    (hprojects : Agree CvSourceProjectEntry.id source.projects) :
    describeSourceChanges source source = [] := by
  unfold describeSourceChanges describeContactChange
  rw [describeEntryChanges_self_eq_nil_iff.mpr hexperience, describeEntryChanges_self_eq_nil_iff.mpr hprojects]
  simp

lemma describeCvInputChanges_captured {doc : CvDocumentRecord} (hsource : doc.source = some source)
    (hexperience : Agree CvSourceExperienceEntry.id source.experience)
    (hprojects : Agree CvSourceProjectEntry.id source.projects) :
    describeCvInputChanges u (some (captureSourceBaseline p doc now)) (currentCaseInputs p doc) = [] := by
  have hchanges := describeSourceChanges_self hexperience hprojects
  simp only [describeCvInputChanges, captureSourceBaseline, currentCaseInputs, hsource, hchanges,
    listDelta_self, skillsChange, ne_eq, not_true_eq_false, if_false, if_true, List.append_nil]

lemma entries_of_describeSourceChanges_eq_nil (h : describeSourceChanges before after = []) :
    (∀ entry ∈ after.experience, entry.id ∈ before.experience.map CvSourceExperienceEntry.id) ∧
      (before.projects = after.projects → Agree CvSourceProjectEntry.id after.projects) := by
  obtain ⟨h, -⟩ := List.append_eq_nil_iff.mp h
  obtain ⟨h, -⟩ := List.append_eq_nil_iff.mp h
  obtain ⟨h, hprojects⟩ := List.append_eq_nil_iff.mp h
  obtain ⟨-, hexperience⟩ := List.append_eq_nil_iff.mp h
  refine ⟨fun entry hentry => mem_of_describeEntryChanges_eq_nil hexperience hentry, fun hsame => ?_⟩
  rw [hsame] at hprojects
  exact describeEntryChanges_self_eq_nil_iff.mp hprojects

lemma describeSourceChanges_eq_nil {baseline : CvSourceBaseline}
    (hbefore : baseline.source = some before) (hafter : current.source = some after)
    (h : describeCvInputChanges u (some baseline) current = []) :
    describeSourceChanges before after = [] := by
  simp only [describeCvInputChanges, hbefore, hafter, List.append_assoc] at h
  exact (List.append_eq_nil_iff.mp h).1

lemma stableIds_of_changes_eq_nil {mint mint' : ℕ → String} (hsource : doc.sourceCv = some source)
    (hfresh : ∀ place, mint' place ∉
      (withStableExperienceIds mint source.experience).map CvSourceExperienceEntry.id)
    (h : describeCvInputChanges u (some (captureSourceBaseline p (doc.read mint) now))
      (currentCaseInputs p (doc.read mint')) = []) : StableIds source := by
  have hbefore : (captureSourceBaseline p (doc.read mint) now).source = _ := source_read hsource mint
  have hafter : (currentCaseInputs p (doc.read mint')).source = _ := source_read hsource mint'
  obtain ⟨hexperience, hprojects⟩ :=
    entries_of_describeSourceChanges_eq_nil (describeSourceChanges_eq_nil u hbefore hafter h)
  refine ⟨?_, hprojects rfl⟩
  by_contra hnot
  have hminted : ∃ place, ∀ mint : ℕ → String,
      mint place ∈ (withStableExperienceIds mint source.experience).map CvSourceExperienceEntry.id :=
    exists_minted (fun hkept => hnot hkept.1) (List.nil_subset _) fun entry hentry hne =>
      List.mem_filter.mpr ⟨List.mem_map_of_mem hentry, decide_eq_true hne⟩
  obtain ⟨place, hplace⟩ := hminted
  obtain ⟨entry, hentry, hid⟩ := List.mem_map.mp (hplace mint')
  exact hfresh place (hid ▸ hexperience entry hentry)

/-! ## The plan of a preview -/

lemma map_filterMap_reason {α β γ δ : Type} {keep : α → Bool} {reason : α → Option β} (tell : α → β → γ)
    {id : α → δ} {told : γ → δ} (hid : ∀ a b, told (tell a b) = id a) (l : List α) :
    ((l.filter keep).filterMap fun a => (reason a).map (tell a)).map told =
      (l.filter fun a => keep a && (reason a).isSome).map id := by
  induction l with
  | nil => rfl
  | cons a rest ih =>
    cases hkeep : keep a with
    | false => simpa [hkeep] using ih
    | true =>
      cases hreason : reason a with
      | none => simpa [hkeep, hreason] using ih
      | some b => simpa [hkeep, hreason, hid] using ih

lemma map_droppedWording : (droppedWording overlay current).map CvDroppedWording.variantId =
      (planCvEvidenceRebase u digest overlay current).droppedVariants :=
  map_filterMap_reason (fun variant reason => CvDroppedWording.mk variant.variantId variant.text reason)
    (fun _ _ => rfl) overlay.wordingVariants

lemma map_staleFacts : (staleFacts u digest overlay current).map CvStaleFact.factId =
      (planCvEvidenceRebase u digest overlay current).staleFacts :=
  map_filterMap_reason (fun fact reason => CvStaleFact.mk fact.factId fact.activity reason)
    (fun _ _ => rfl) overlay.facts

/-! ## A case after a rebase -/

section Rebased

variable {p} {row next : CvEvidenceOverlay} {doc : CvDocumentRecord} {source : CvSourceDocument}
  {expected : ℕ} {now : String}

def CvRebasePlan.rebasedFact (plan : CvRebasePlan) (fact : CvEvidenceFact) : CvEvidenceFact :=
  if fact.factId ∈ plan.staleFacts then { fact with approval := .proposed } else fact

def CvRebasePlan.rebasedWording (plan : CvRebasePlan) (newHash : String) (variant : CvApprovedWording) :
    CvApprovedWording :=
  if variant.variantId ∈ plan.droppedVariants then { variant with status := .superseded }
  else if variant.status = .candidateApproved then { variant with sourceRevision := newHash }
  else variant

def CvRebasePlan.rebasedRequirement (plan : CvRebasePlan) (live : List String)
    (requirement : CvRequirementMapping) : CvRequirementMapping :=
  if requirement.requirementId ∈ plan.requirementIdsToReview then
    { requirement with
      anchorParentId := if requirement.anchorParentId ∈ live then requirement.anchorParentId else ""
      sourceIds := requirement.sourceIds.filter (· ∈ live)
      reviewed := false }
  else requirement

def liveIds (source : CvSourceDocument) : List String :=
  source.experience.map CvSourceExperienceEntry.id ++ source.projects.map CvSourceProjectEntry.id

def rebased (p : Platform) (row : CvEvidenceOverlay) (doc : CvDocumentRecord) (source : CvSourceDocument)
    (now : String) : CvEvidenceOverlay :=
  let plan := planCvEvidenceRebase p.unicode p.sha256Hex row.read (currentCaseInputs p doc)
  let newHash := p.computeSourceCvContentHash source
  { row with
    sourceCvContentHash := newHash
    facts := row.facts.map plan.rebasedFact
    wordingVariants :=
      (revokeVariantsCiting row.wordingVariants plan.staleFacts).map (plan.rebasedWording newHash)
    requirements := row.requirements.map (plan.rebasedRequirement (liveIds source))
    sourceBaseline := some (captureSourceBaseline p doc now)
    projectSelection := none
    state := invalidatedOverlayState row.read.state
    caseRevision := row.caseRevision + 1 }

lemma rebase_of_source (hsource : doc.source = some source) :
    rebaseCvEvidenceOverlay p row doc row.caseRevision now = .ok (rebased p row doc source now) := by
  unfold rebaseCvEvidenceOverlay checkRevision requireSource
  rw [if_pos rfl, hsource]
  rfl

lemma eq_rebased_of_rebase (hsource : doc.source = some source)
    (h : rebaseCvEvidenceOverlay p row doc expected now = .ok next) : next = rebased p row doc source now := by
  by_cases hrevision : row.caseRevision = expected
  · rw [← hrevision, rebase_of_source hsource] at h
    exact (Except.ok.inj h).symm
  · unfold rebaseCvEvidenceOverlay checkRevision at h
    rw [if_neg hrevision] at h
    cases h

lemma existsInSource_iff {id : String} : existsInSource (some source) id = true ↔ id ∈ liveIds source := by
  simp [existsInSource, liveIds]

lemma isCandidate_of_mem_revoke {factIds : List String}
    (hmem : variant ∈ revokeVariantsCiting variants factIds) (hstanding : variant.standing = true) :
    variant ∈ variants:= by
  obtain ⟨before, hbefore, rfl⟩ := List.mem_map.mp hmem
  by_cases hrevoked : before.status = .candidateApproved ∧ before.factIds.any (· ∈ factIds)
  · rw [if_pos hrevoked] at hstanding
    simp [CvApprovedWording.standing] at hstanding
  · rw [if_neg hrevoked]
    exact hbefore

lemma standing_of_mem_rebased (hmem : variant ∈ (rebased p row doc source now).wordingVariants)
    (hstanding : variant.standing = true) :
    (variant.status = .candidateApproved → variant.sourceRevision = p.computeSourceCvContentHash source) ∧
    ∃ before ∈ row.wordingVariants, before.standing = true ∧ before.targetField = variant.targetField ∧
      before.parentId = variant.parentId ∧
      before.variantId ∉ (planCvEvidenceRebase p.unicode p.sha256Hex row.read
        (currentCaseInputs p doc)).droppedVariants := by
  obtain ⟨before, hbefore, rfl⟩ := List.mem_map.mp hmem
  unfold CvRebasePlan.rebasedWording at hstanding ⊢
  split at hstanding
  · simp [CvApprovedWording.standing] at hstanding
  · next hkept =>
    rw [if_neg hkept]
    split at hstanding
    · next happroved =>
      have hbefore := isCandidate_of_mem_revoke hbefore hstanding
      rw [if_pos happroved]
      exact ⟨fun _ => rfl, before, hbefore, hstanding, rfl, rfl, hkept⟩
    · next hdraft =>
      have hbefore := isCandidate_of_mem_revoke hbefore hstanding
      rw [if_neg hdraft]
      exact ⟨fun happroved => absurd happroved hdraft, before, hbefore, hstanding, rfl, rfl, hkept⟩

lemma describeStaleVariant_captured {captured : CvSourceBaseline}
    (hcaptured : captured.source = some source)
    (h : describeStaleVariant variant baseline (some source) = none) :
    describeStaleVariant variant (some captured) (some source) = none := by
  have hparent : ∀ {α : Type} {before now : Option α} {same : α → α → Bool} {gone changed : String},
      (∀ a, same a a = true) → describeStaleParent before now same gone changed = none →
        describeStaleParent now now same gone changed = none := by
    intro α before now same gone changed hrefl hnone
    cases now with
    | none => exact hnone
    | some now => simp [describeStaleParent, hrefl]
  unfold describeStaleVariant at h ⊢
  simp only [Option.bind_some, hcaptured] at h ⊢
  cases hfield : variant.targetField with
  | skill => rfl
  | summary => simp
  | experienceBullet =>
    rw [hfield] at h
    exact hparent (by simp) h
  | projectDescription =>
    rw [hfield] at h
    exact hparent (by simp) h

lemma droppedVariants_rebased (hsource : doc.source = some source) :
    (planCvEvidenceRebase p.unicode p.sha256Hex (rebased p row doc source now).read
      (currentCaseInputs p doc)).droppedVariants = [] := by
  refine List.map_eq_nil_iff.mpr (List.filter_eq_nil_iff.mpr fun variant hmem hdropped => ?_)
  rw [Bool.and_eq_true] at hdropped
  obtain ⟨hstanding, hstale⟩ := hdropped
  replace hmem : variant ∈ (rebased p row doc source now).wordingVariants := hmem
  obtain ⟨-, before, hbefore, hstood, hfield, hparent, hkept⟩ := standing_of_mem_rebased hmem hstanding
  have hnone : describeStaleVariant before row.sourceBaseline (some source) = none := by
    by_contra hsome
    refine hkept (List.mem_map_of_mem (List.mem_filter.mpr ⟨hbefore, ?_⟩))
    rw [Bool.and_eq_true]
    refine ⟨hstood, ?_⟩
    show (describeStaleVariant before row.sourceBaseline doc.source).isSome = true
    rw [hsource]
    exact Option.isSome_iff_ne_none.mpr hsome
  have hcaptured : (captureSourceBaseline p doc now).source = some source := hsource
  have hsilent := describeStaleVariant_captured hcaptured hnone
  change (describeStaleVariant variant (some (captureSourceBaseline p doc now)) doc.source).isSome = true at hstale
  unfold describeStaleVariant at hsilent hstale
  rw [hfield, hparent] at hsilent
  rw [hsource, hsilent] at hstale
  cases hstale

lemma staleFacts_rebased : (planCvEvidenceRebase p.unicode p.sha256Hex (rebased p row doc source now).read
    (currentCaseInputs p doc)).staleFacts = [] := by
  refine List.map_eq_nil_iff.mpr (List.filter_eq_nil_iff.mpr fun fact hmem hstale => ?_)
  obtain ⟨before, hbefore, rfl⟩ := List.mem_map.mp hmem
  unfold CvRebasePlan.rebasedFact at hstale
  split at hstale
  · simp at hstale
  · next hkept => exact hkept (List.mem_map_of_mem (List.mem_filter.mpr ⟨hbefore, hstale⟩))

lemma requirementIdsToReview_rebased (hsource : doc.source = some source) :
    (planCvEvidenceRebase p.unicode p.sha256Hex (rebased p row doc source now).read
      (currentCaseInputs p doc)).requirementIdsToReview = [] := by
  refine List.map_eq_nil_iff.mpr (List.filter_eq_nil_iff.mpr fun requirement hmem hdead => ?_)
  obtain ⟨before, hbefore, rfl⟩ := List.mem_map.mp hmem
  unfold CvRebasePlan.rebasedRequirement at hdead
  split at hdead
  · -- What links are left are live.
    simp only [currentCaseInputs, hsource, Bool.and_eq_true, Bool.or_eq_true, decide_eq_true_eq,
      Bool.not_eq_true', List.any_eq_true, List.mem_filter, ← Bool.not_eq_true, existsInSource_iff] at hdead
    obtain ⟨-, ⟨hsome, hgone⟩ | ⟨id, ⟨-, hlive⟩, hgone⟩⟩ := hdead
    · split at hgone
      · next hlive => exact hgone hlive
      · next hlive => exact hsome (if_neg hlive)
    · exact hgone hlive
  · next hkept => exact hkept (List.mem_map_of_mem (List.mem_filter.mpr ⟨hbefore, hdead⟩))

lemma invalidated_invalidated (state : OverlayState) :
    invalidatedOverlayState (if invalidatedOverlayState state = .artifactApproved then .candidateApproved
      else invalidatedOverlayState state) = invalidatedOverlayState state := by
  cases state <;> rfl

lemma rebased_rebased (hsource : doc.source = some source) {now' : String} :
    rebased p (rebased p row doc source now) doc source now' =
      { rebased p row doc source now with
        caseRevision := (rebased p row doc source now).caseRevision + 1
        sourceBaseline := (rebased p row doc source now).sourceBaseline.map fun baseline =>
          { baseline with capturedAt := now' } } := by
  have hfacts : (rebased p row doc source now).facts.map
      (planCvEvidenceRebase p.unicode p.sha256Hex (rebased p row doc source now).read
        (currentCaseInputs p doc)).rebasedFact = (rebased p row doc source now).facts := by
    refine List.map_id'' (fun fact => ?_) _
    rw [CvRebasePlan.rebasedFact, staleFacts_rebased, if_neg List.not_mem_nil]
  have hrequirements : (rebased p row doc source now).requirements.map
      ((planCvEvidenceRebase p.unicode p.sha256Hex (rebased p row doc source now).read
        (currentCaseInputs p doc)).rebasedRequirement (liveIds source)) =
      (rebased p row doc source now).requirements := by
    refine List.map_id'' (fun requirement => ?_) _
    rw [CvRebasePlan.rebasedRequirement, requirementIdsToReview_rebased hsource, if_neg List.not_mem_nil]
  have hrevoked : revokeVariantsCiting (rebased p row doc source now).wordingVariants [] =
      (rebased p row doc source now).wordingVariants := by
    refine List.map_id'' (fun variant => if_neg ?_) _
    simp
  have hwording : ((rebased p row doc source now).wordingVariants.map
      ((planCvEvidenceRebase p.unicode p.sha256Hex (rebased p row doc source now).read
        (currentCaseInputs p doc)).rebasedWording (p.computeSourceCvContentHash source))) =
      (rebased p row doc source now).wordingVariants := by
    refine (List.map_congr_left fun variant hmem => ?_).trans (List.map_id _)
    rw [CvRebasePlan.rebasedWording, droppedVariants_rebased hsource, if_neg List.not_mem_nil]
    split
    · next happroved =>
      have hstanding : variant.standing = true := by simp [CvApprovedWording.standing, happroved]
      have hrevision := (standing_of_mem_rebased hmem hstanding).1 happroved
      rw [id, ← hrevision]
    · rfl
  have hstate : invalidatedOverlayState (rebased p row doc source now).read.state =
      (rebased p row doc source now).state := invalidated_invalidated row.read.state
  rw [rebased, hfacts, hrequirements, staleFacts_rebased, hrevoked, hwording, hstate]
  rfl

lemma settled_rebased : List.Forall₂ (fun before after : CvApprovedWording =>
    before.standing = true → before.Settled after) row.wordingVariants
      (rebased p row doc source now).wordingVariants := by
  simp only [rebased, revokeVariantsCiting, List.map_map, List.forall₂_map_right_iff, List.forall₂_same]
  intro variant _ _
  simp only [Function.comp_apply, CvRebasePlan.rebasedWording]
  split_ifs with hrevoked hdropped happroved
  · exact .inr (.inr rfl)
  · cases happroved
  · exact .inr (.inr rfl)
  · exact .inr (.inr rfl)
  · exact .inr (.inl ⟨_, rfl⟩)
  · exact .inl rfl

lemma silent_rebased (hsource : doc.source = some source)
    (hexperience : Agree CvSourceExperienceEntry.id source.experience)
    (hprojects : Agree CvSourceProjectEntry.id source.projects) :
    (previewCvEvidenceRebase p (rebased p row doc source now) doc).Silent where
  inputsChanged := decide_eq_false (not_not.mpr rfl)
  changes := describeCvInputChanges_captured p.unicode p hsource hexperience hprojects
  droppedVariants := List.map_eq_nil_iff.mp
    ((map_droppedWording p.unicode p.sha256Hex).trans (droppedVariants_rebased hsource))
  staleFacts := List.map_eq_nil_iff.mp ((map_staleFacts p.unicode p.sha256Hex).trans staleFacts_rebased)
  requirementIdsToReview := requirementIdsToReview_rebased hsource

end Rebased

def storedSource : CvSourceDocument where
  experience := [{ id := "", company := "Acme", title := "Engineer" }]
  projects := [{ id := "project-1", name := "Router" }]

def twinProjects : CvSourceDocument where
  projects := [{ id := "project-2", name := "Router" }, { id := "project-2", name := "Telemetry" }]

end VacancyRadar.Cv
