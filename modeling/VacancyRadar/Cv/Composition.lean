import VacancyRadar.Cv.Approval

/-!
# What a composition invents and what it drops

`composeApprovedTailoredResume` invents nothing: each text of the resume is a text of the source or of the skills, or
an approved wording in its place.  But a wording that replaces a text may be replaced by another one, a wording for
a project that is not selected has no place, and nothing is told of either.
-/

namespace VacancyRadar.Cv

open Data

variable (u : Unicode)

/-! ## The code -/

def usableWordings (source : CvSourceDocument) (overlay : CvEvidenceOverlay) (currentSourceCvContentHash : String)
    (skills : List String) : List CvApprovedWording :=
  overlay.wordingVariants.filter fun variant =>
    (variantProblem u source overlay.facts currentSourceCvContentHash skills variant).1

def sharedIdsProblem (source : CvSourceDocument) : Option String :=
  let ids := source.experience.map fun entry => trim entry.id
  if "" ∈ ids ∨ ¬ ids.Nodup then
    some ("two roles in your reviewed source share one id or have none, so wording cannot be " ++
      "placed on the right role")
  else none

def composeWithOptions (source : CvSourceDocument) (overlay : CvEvidenceOverlay)
    (currentSourceCvContentHash : String) (skills : List String)
    (projectSelection : Option (Option CvProjectSelection)) : ComposedTailoredResume where
  resume := (usableWordings u source overlay currentSourceCvContentHash skills).foldl (placeVariant u source)
    (tailoredResumeFromSource source skills)
  blockers :=
    ((sharedIdsProblem source).toList ++
      (overlay.wordingVariants.map
        (variantProblem u source overlay.facts currentSourceCvContentHash skills)).filterMap Prod.snd ++
      (projectSelection.bind (selectionProblem source)).toList).foldl flag
        (describeCvEvidenceOverlayGaps u overlay currentSourceCvContentHash)

/-! ## Texts -/

def CvSourceContact.texts (contact : CvSourceContact) : List String :=
  [contact.name, contact.title, contact.location, contact.email, contact.phone] ++ contact.links

def ResumeExperienceEntry.texts (entry : ResumeExperienceEntry) : List String :=
  [entry.company, entry.title, entry.dates, entry.client] ++ entry.bullets

def ResumeProjectEntry.facts (entry : ResumeProjectEntry) : List String :=
  [entry.name, entry.role, entry.dates, entry.organization] ++ entry.technologies ++ entry.links

def CvSourceEducationEntry.texts (entry : CvSourceEducationEntry) : List String :=
  [entry.institution, entry.credential, entry.dates]

def TailoredResume.texts (resume : TailoredResume) : List String :=
  resume.contact.texts ++ [resume.summary] ++ resume.skills ++
    resume.experience.flatMap ResumeExperienceEntry.texts ++
      resume.projects.flatMap (fun entry => entry.description :: entry.facts) ++
        resume.education.flatMap CvSourceEducationEntry.texts

/-! ## The law -/

structure Backed (overlay : CvEvidenceOverlay) (variant : CvApprovedWording) : Prop where
  mem : variant ∈ overlay.wordingVariants
  approved : variant.status = .candidateApproved
  cites : variant.factIds ≠ []
  usable : ∀ factId ∈ variant.factIds, ∃ fact, factOf overlay.facts factId = some fact ∧
    isCvFactUsable fact (conflictedFactIdSet u overlay.facts)

structure RoleComposed (overlay : CvEvidenceOverlay) (role : CvSourceExperienceEntry)
    (entry : ResumeExperienceEntry) : Prop where
  same : { entry with bullets := role.bullets } = sourceExperienceToResumeEntry role
  kept : role.bullets <+: entry.bullets
  worded : ∀ bullet ∈ entry.bullets, bullet ∈ role.bullets ∨
    ∃ variant, Backed u overlay variant ∧ variant.targetField = .experienceBullet ∧
      variant.parentId = role.id ∧ variant.text = bullet

structure ProjectComposed (overlay : CvEvidenceOverlay) (project : CvSourceProjectEntry)
    (entry : ResumeProjectEntry) : Prop where
  same : { entry with description := project.description } = sourceProjectToResumeEntry project
  worded : entry.description = project.description ∨
    ∃ variant, Backed u overlay variant ∧ variant.targetField = .projectDescription ∧
      variant.parentId = project.id ∧ variant.text = entry.description

/-- A composition invents nothing and, if nothing is told, drops nothing. -/
structure Composed (source : CvSourceDocument) (overlay : CvEvidenceOverlay) (skills : List String)
    (composed : ComposedTailoredResume) : Prop where
  contact : composed.resume.contact = source.contact
  education : composed.resume.education = source.education
  summary : composed.resume.summary = source.summary ∨
    ∃ variant, Backed u overlay variant ∧ variant.targetField = .summary ∧
      variant.text = composed.resume.summary
  skills : ∀ skill ∈ composed.resume.skills, skill ∈ skills ∨
    ∃ variant, Backed u overlay variant ∧ variant.targetField = .skill ∧ variant.text = skill
  experience : List.Forall₂ (RoleComposed u overlay) source.experience composed.resume.experience
  projects : List.Forall₂ (ProjectComposed u overlay) (selectSourceProjects source) composed.resume.projects
  complete : composed.blockers = [] → ∀ variant ∈ overlay.wordingVariants,
    variant.status = .candidateApproved → variant.text ∈ composed.resume.texts

/-! ## The condition -/

def wordingsOf (field : ClaimField) (usable : List CvApprovedWording) : List CvApprovedWording :=
  usable.filter fun variant => variant.targetField = field

def descriptionsOf (usable : List CvApprovedWording) (parentId : String) : List CvApprovedWording :=
  (wordingsOf .projectDescription usable).filter fun variant => variant.parentId = parentId

def Stands (source : CvSourceDocument) (skills : List String) (usable : List CvApprovedWording)
    (variant : CvApprovedWording) : Prop :=
  match variant.targetField with
  | .summary => (wordingsOf .summary usable).getLast? = some variant
  | .skill => (∀ skill ∈ skills, matchKey u skill ≠ matchKey u variant.text) ∧
      (wordingsOf .skill usable).find? (fun other => matchKey u other.text = matchKey u variant.text) =
        some variant
  | .experienceBullet => variant ∈ wordingsOf .experienceBullet usable
  | .projectDescription => variant.parentId ∈ (selectSourceProjects source).map CvSourceProjectEntry.id ∧
      (descriptionsOf usable variant.parentId).getLast? = some variant

inductive Remains (source : CvSourceDocument) (skills : List String) (usable : List CvApprovedWording)
    (text : String) : Prop where
  | contact (h : text ∈ source.contact.texts)
  | summary (h : text = source.summary) (hnone : wordingsOf .summary usable = [])
  | skill (h : text ∈ skills)
  | role (role : CvSourceExperienceEntry) (hrole : role ∈ source.experience)
      (h : text ∈ (sourceExperienceToResumeEntry role).texts)
  | project (project : CvSourceProjectEntry) (hproject : project ∈ selectSourceProjects source)
      (h : text ∈ (sourceProjectToResumeEntry project).facts)
  | description (before after : List CvSourceProjectEntry) (project : CvSourceProjectEntry)
      (hproject : selectSourceProjects source = before ++ project :: after) (h : text = project.description)
      (hnone : (∀ other ∈ after, other.id ≠ project.id) → descriptionsOf usable project.id = [])
  | education (entry : CvSourceEducationEntry) (hentry : entry ∈ source.education) (h : text ∈ entry.texts)

structure NothingToTell (source : CvSourceDocument) (overlay : CvEvidenceOverlay)
    (currentSourceCvContentHash : String) (skills : List String)
    (projectSelection : Option (Option CvProjectSelection)) : Prop where
  gaps : describeCvEvidenceOverlayGaps u overlay currentSourceCvContentHash = []
  ids : sharedIdsProblem source = none
  variants : ∀ variant ∈ overlay.wordingVariants,
    (variantProblem u source overlay.facts currentSourceCvContentHash skills variant).2 = none
  selection : projectSelection.bind (selectionProblem source) = none

def AllStand (source : CvSourceDocument) (overlay : CvEvidenceOverlay) (currentSourceCvContentHash : String)
    (skills : List String) (projectSelection : Option (Option CvProjectSelection)) : Prop :=
  let usable := usableWordings u source overlay currentSourceCvContentHash skills
  NothingToTell u source overlay currentSourceCvContentHash skills projectSelection →
    ∀ variant ∈ overlay.wordingVariants, variant.status = .candidateApproved →
      Remains source skills usable variant.text ∨
        ∃ other, Stands u source skills usable other ∧ other.text = variant.text

/-! ## Folds -/

section

variable {α β γ : Type} {id : α → String} {key : String} {mk g : α → β} {records : List α}

lemma foldl_part (place : β → α → β) (part : β → γ) (counts : α → Bool) (placePart : γ → α → γ)
    (hcounts : ∀ state entry, counts entry → part (place state entry) = placePart (part state) entry)
    (hother : ∀ state entry, counts entry = false → part (place state entry) = part state) (entries : List α)
    (state : β) : part (entries.foldl place state) = (entries.filter counts).foldl placePart (part state) := by
  induction entries generalizing state with
  | nil => rfl
  | cons entry rest ih =>
    rw [List.foldl_cons, ih]
    cases hentry : counts entry with
    | true => rw [List.filter_cons_of_pos hentry, List.foldl_cons, hcounts state entry hentry]
    | false => rw [List.filter_cons_of_neg (by simp [hentry]), hother state entry hentry]

def atLast (id : α → String) (mk g : α → β) : List α → List β
  | [] => []
  | record :: records =>
    (if ∀ other ∈ records, id other ≠ id record then g record else mk record) :: atLast id mk g records

lemma atLast_self (id : α → String) : atLast id mk mk records = records.map mk := by
  induction records with
  | nil => rfl
  | cons record records ih => rw [atLast, ih, ite_self, List.map_cons]

lemma atLast_congr {g' : α → β} (h : ∀ record ∈ records, g record = g' record) :
    atLast id mk g records = atLast id mk g' records := by
  induction records with
  | nil => rfl
  | cons record records ih =>
    rw [atLast, atLast, ih fun other hother => h other (List.mem_cons_of_mem _ hother), h record List.mem_cons_self]

lemma setLast_atLast (f : β → β) :
    setLast id key f records (atLast id mk g records) =
      atLast id mk (fun record => if id record = key then f (g record) else g record) records := by
  induction records with
  | nil => rfl
  | cons record records ih =>
    rw [atLast, atLast, setLast]
    by_cases hkey : id record = key
    · by_cases hlast : ∀ other ∈ records, id other ≠ id record
      · have hall : (records.all fun other => decide (id other ≠ key)) = true :=
          List.all_eq_true.mpr fun other hother => decide_eq_true (hkey ▸ hlast other hother)
        rw [if_pos ⟨hkey, hall⟩, if_pos hlast, if_pos hlast, if_pos hkey]
        refine congrArg _ (atLast_congr fun other hother => ?_)
        rw [if_neg (hkey ▸ hlast other hother)]
      · have hall : ¬ (records.all fun other => decide (id other ≠ key)) = true := fun hall =>
          hlast fun other hother => hkey ▸ of_decide_eq_true (List.all_eq_true.mp hall other hother)
        rw [if_neg fun h => hall h.2, if_neg hlast, if_neg hlast, ih]
    · rw [if_neg fun h => hkey h.1, if_neg hkey, ih]

lemma foldl_setLast {δ : Type} (target : δ → String) (f : δ → β → β) (changes : List δ) :
    changes.foldl (fun entries change => setLast id (target change) (f change) records entries)
        (atLast id mk g records) =
      atLast id mk (fun record => (changes.filter fun change => target change = id record).foldl
        (fun entry change => f change entry) (g record)) records := by
  induction changes generalizing g with
  | nil => rfl
  | cons change rest ih =>
    rw [List.foldl_cons, setLast_atLast, ih]
    refine atLast_congr fun record _ => ?_
    by_cases hkey : id record = target change
    · rw [if_pos hkey, List.filter_cons_of_pos (by simpa using hkey.symm), List.foldl_cons]
    · rw [if_neg hkey, List.filter_cons_of_neg (by simpa using Ne.symm hkey)]

lemma mem_atLast_iff {entry : β} :
    entry ∈ atLast id mk g records ↔ ∃ before record after, records = before ++ record :: after ∧
      entry = if ∀ other ∈ after, id other ≠ id record then g record else mk record := by
  induction records with
  | nil => simp [atLast]
  | cons record records ih =>
    rw [atLast, List.mem_cons, ih]
    constructor
    · rintro (rfl | ⟨before, other, after, rfl, rfl⟩)
      · exact ⟨[], record, records, rfl, rfl⟩
      · exact ⟨record :: before, other, after, rfl, rfl⟩
    · rintro ⟨before, other, after, heq, rfl⟩
      cases before with
      | nil =>
        obtain ⟨rfl, rfl⟩ := List.cons.inj heq
        exact .inl rfl
      | cons first before =>
        obtain ⟨rfl, rfl⟩ := List.cons.inj heq
        exact .inr ⟨before, other, after, rfl, rfl⟩

lemma forall₂_atLast {R : α → β → Prop} (hmk : ∀ record ∈ records, R record (mk record))
    (hg : ∀ record ∈ records, R record (g record)) : List.Forall₂ R records (atLast id mk g records) := by
  induction records with
  | nil => exact .nil
  | cons record records ih =>
    refine .cons ?_ (ih (fun other hother => hmk other (List.mem_cons_of_mem _ hother))
      fun other hother => hg other (List.mem_cons_of_mem _ hother))
    split
    · exact hg record List.mem_cons_self
    · exact hmk record List.mem_cons_self

lemma foldl_replace {δ : Type} (f : δ → β) (changes : List δ) (first : β) :
    changes.foldl (fun _ change => f change) first = (changes.getLast?.map f).getD first := by
  induction changes generalizing first with
  | nil => rfl
  | cons change rest ih =>
    rw [List.foldl_cons, ih]
    cases hlast : rest.getLast? <;> simp [List.getLast?_cons, hlast]

end

/-! ## The wordings that are placed -/

variable {u} {source : CvSourceDocument} {overlay : CvEvidenceOverlay} {currentSourceCvContentHash : String}
  {skills : List String} {usable : List CvApprovedWording} {resume : TailoredResume} {text : String}
  {variant : CvApprovedWording} {facts : List CvEvidenceFact} {cited : List CvEvidenceFact}

lemma exists_of_mapM_some {α β : Type} {f : α → Option β} {entries : List α} {results : List β}
    (h : entries.mapM f = some results) :
    results.length = entries.length ∧ ∀ entry ∈ entries, ∃ result, f entry = some result := by
  induction entries generalizing results with
  | nil =>
    obtain rfl : [] = results := by simpa using h
    simp
  | cons entry rest ih =>
    rw [List.mapM_cons] at h
    obtain ⟨result, hresult, h⟩ := Option.bind_eq_some_iff.mp h
    obtain ⟨others, hothers, h⟩ := Option.bind_eq_some_iff.mp h
    obtain rfl : result :: others = results := by simpa using h
    obtain ⟨hlength, hrest⟩ := ih hothers
    refine ⟨by simp [hlength], fun other hother => ?_⟩
    rcases List.mem_cons.mp hother with rfl | hother
    · exact ⟨result, hresult⟩
    · exact hrest other hother

lemma variantProblem_spec
    (h : (variantProblem u source facts currentSourceCvContentHash skills variant).1) :
    variant.status = .candidateApproved ∧ ∃ cited, citedFacts u facts variant = some cited ∧
      describeVariantScopeProblem u source skills variant cited = none := by
  unfold variantProblem at h
  split at h
  · exact absurd h Bool.false_ne_true
  · next hstatus =>
    refine ⟨not_not.mp hstatus, ?_⟩
    cases hcited : citedFacts u facts variant with
    | none => simp [hcited] at h
    | some cited =>
      refine ⟨cited, rfl, ?_⟩
      simp only [hcited] at h
      split at h
      · exact absurd h Bool.false_ne_true
      split at h
      · exact absurd h Bool.false_ne_true
      split at h
      · exact absurd h Bool.false_ne_true
      · assumption

lemma backed_of_mem_usable (h : variant ∈ usableWordings u source overlay currentSourceCvContentHash skills) :
    Backed u overlay variant := by
  obtain ⟨hmem, hvariant⟩ := List.mem_filter.mp h
  obtain ⟨hstatus, cited, hcited, -⟩ := variantProblem_spec hvariant
  obtain ⟨hmap, hne⟩ := Option.filter_eq_some_iff.mp hcited
  obtain ⟨hlength, hfacts⟩ := exists_of_mapM_some hmap
  have hcites : variant.factIds ≠ [] := by
    intro hnil
    rw [hnil, List.length_nil, List.length_eq_zero_iff] at hlength
    exact of_decide_eq_true hne hlength
  refine ⟨hmem, hstatus, hcites, fun factId hfactId => ?_⟩
  obtain ⟨fact, hfact⟩ := hfacts factId hfactId
  obtain ⟨hfact, husable⟩ := Option.filter_eq_some_iff.mp hfact
  exact ⟨fact, hfact, husable⟩

lemma exists_role_of_usable
    (h : variant ∈ usableWordings u source overlay currentSourceCvContentHash skills)
    (hfield : variant.targetField = .experienceBullet) :
    ∃ role ∈ source.experience, role.id = variant.parentId := by
  obtain ⟨-, hvariant⟩ := List.mem_filter.mp h
  obtain ⟨-, cited, -, hscope⟩ := variantProblem_spec hvariant
  cases hrole : experienceOf source.experience variant.parentId with
  | none => simp [describeVariantScopeProblem, hfield, describeParentProblem, hrole] at hscope
  | some role =>
    have hmem := List.mem_of_find?_eq_some hrole
    have hid := List.find?_some hrole
    exact ⟨role, by simpa using hmem, of_decide_eq_true hid⟩

/-! ## The parts of the resume -/

def addBullet (entry : ResumeExperienceEntry) (variant : CvApprovedWording) : ResumeExperienceEntry :=
  if variant.text ∈ entry.bullets then entry else { entry with bullets := entry.bullets ++ [variant.text] }

def addSkill (u : Unicode) (skills : List String) (variant : CvApprovedWording) : List String :=
  if skills.any fun skill => matchKey u skill = matchKey u variant.text then skills else skills ++ [variant.text]

def describeAs (entry : ResumeProjectEntry) (variant : CvApprovedWording) : ResumeProjectEntry :=
  { entry with description := variant.text }

def bulletsOf (usable : List CvApprovedWording) (parentId : String) : List CvApprovedWording :=
  (wordingsOf .experienceBullet usable).filter fun variant => variant.parentId = parentId

lemma contact_placed : (usable.foldl (placeVariant u source) resume).contact = resume.contact := by
  have hpart := foldl_part (placeVariant u source) TailoredResume.contact (fun _ => false)
    (fun contact _ => contact) (by simp)
    (fun resume variant _ => by cases hfield : variant.targetField <;> simp [placeVariant, hfield, apply_ite])
    usable resume
  simpa using hpart

lemma education_placed : (usable.foldl (placeVariant u source) resume).education = resume.education := by
  have hpart := foldl_part (placeVariant u source) TailoredResume.education (fun _ => false)
    (fun education _ => education) (by simp)
    (fun resume variant _ => by cases hfield : variant.targetField <;> simp [placeVariant, hfield, apply_ite])
    usable resume
  simpa using hpart

lemma summary_placed :
    (usable.foldl (placeVariant u source) resume).summary =
      ((wordingsOf .summary usable).getLast?.map CvApprovedWording.text).getD resume.summary := by
  rw [← foldl_replace]
  refine foldl_part _ TailoredResume.summary _ (fun _ variant => variant.text) ?_ ?_ usable resume
  · intro resume variant hfield
    simp [placeVariant, of_decide_eq_true hfield]
  · intro resume variant hother
    cases hfield : variant.targetField <;> simp [placeVariant, hfield, apply_ite] at hother ⊢

lemma skills_placed :
    (usable.foldl (placeVariant u source) resume).skills =
      (wordingsOf .skill usable).foldl (addSkill u) resume.skills := by
  refine foldl_part _ TailoredResume.skills _ (addSkill u) ?_ ?_ usable resume
  · intro resume variant hfield
    simp [placeVariant, of_decide_eq_true hfield, addSkill, apply_ite TailoredResume.skills]
  · intro resume variant hother
    cases hfield : variant.targetField <;> simp [placeVariant, hfield] at hother ⊢

lemma experience_placed :
    (usable.foldl (placeVariant u source) (tailoredResumeFromSource source skills)).experience =
      atLast CvSourceExperienceEntry.id sourceExperienceToResumeEntry
        (fun role => (bulletsOf usable role.id).foldl addBullet (sourceExperienceToResumeEntry role))
        source.experience := by
  have hpart := foldl_part (placeVariant u source) TailoredResume.experience
    (fun variant => variant.targetField = .experienceBullet)
    (fun entries variant => setLast CvSourceExperienceEntry.id variant.parentId
      (fun entry => addBullet entry variant) source.experience entries)
    (fun resume variant hfield => by simp [placeVariant, of_decide_eq_true hfield, addBullet])
    (fun resume variant hother => by
      cases hfield : variant.targetField <;> simp [placeVariant, hfield, apply_ite] at hother ⊢)
    usable (tailoredResumeFromSource source skills)
  rw [hpart, tailoredResumeFromSource, ← atLast_self CvSourceExperienceEntry.id, foldl_setLast]
  rfl

lemma projects_placed :
    (usable.foldl (placeVariant u source) (tailoredResumeFromSource source skills)).projects =
      atLast CvSourceProjectEntry.id sourceProjectToResumeEntry
        (fun project => (descriptionsOf usable project.id).foldl describeAs (sourceProjectToResumeEntry project))
        (selectSourceProjects source) := by
  have hpart := foldl_part (placeVariant u source) TailoredResume.projects
    (fun variant => variant.targetField = .projectDescription)
    (fun entries variant => setLast CvSourceProjectEntry.id variant.parentId
      (fun entry => describeAs entry variant) (selectSourceProjects source) entries)
    (fun resume variant hfield => by simp [placeVariant, of_decide_eq_true hfield, describeAs])
    (fun resume variant hother => by
      cases hfield : variant.targetField <;> simp [placeVariant, hfield, apply_ite] at hother ⊢)
    usable (tailoredResumeFromSource source skills)
  rw [hpart, tailoredResumeFromSource, ← atLast_self CvSourceProjectEntry.id, foldl_setLast]
  rfl

/-! ## What is added to a role, to the skills and to a project -/

lemma foldl_addBullet (variants : List CvApprovedWording) (entry : ResumeExperienceEntry) :
    ∃ added, variants.foldl addBullet entry = { entry with bullets := entry.bullets ++ added } ∧
      ∀ bullet, bullet ∈ entry.bullets ++ added ↔
        bullet ∈ entry.bullets ∨ ∃ variant ∈ variants, variant.text = bullet := by
  induction variants generalizing entry with
  | nil => exact ⟨[], by simp⟩
  | cons variant rest ih =>
    rw [List.foldl_cons]
    by_cases hin : variant.text ∈ entry.bullets
    · have hadd : addBullet entry variant = entry := if_pos hin
      rw [hadd]
      obtain ⟨added, heq, hmem⟩ := ih entry
      refine ⟨added, heq, fun bullet => (hmem bullet).trans ?_⟩
      constructor
      · rintro (h | ⟨other, hother, rfl⟩)
        · exact .inl h
        · exact .inr ⟨other, List.mem_cons_of_mem _ hother, rfl⟩
      · rintro (h | ⟨other, hother, rfl⟩)
        · exact .inl h
        · rcases List.mem_cons.mp hother with rfl | hother
          · exact .inl hin
          · exact .inr ⟨other, hother, rfl⟩
    · have hadd : addBullet entry variant = { entry with bullets := entry.bullets ++ [variant.text] } := if_neg hin
      rw [hadd]
      obtain ⟨added, heq, hmem⟩ := ih { entry with bullets := entry.bullets ++ [variant.text] }
      refine ⟨variant.text :: added, by simpa using heq, fun bullet => ?_⟩
      have hbullet := hmem bullet
      simp only [List.append_assoc, List.singleton_append] at hbullet
      rw [hbullet]
      simp [or_assoc, eq_comm]

lemma mem_foldl_addSkill_iff (variants : List CvApprovedWording) (skills : List String) :
    text ∈ variants.foldl (addSkill u) skills ↔
      text ∈ skills ∨ ∃ variant, ((∀ skill ∈ skills, matchKey u skill ≠ matchKey u variant.text) ∧
        variants.find? (fun other => matchKey u other.text = matchKey u variant.text) = some variant) ∧
          variant.text = text := by
  induction variants generalizing skills with
  | nil => simp
  | cons first rest ih =>
    rw [List.foldl_cons, ih]
    by_cases hthere : ∃ skill ∈ skills, matchKey u skill = matchKey u first.text
    · have hadd : addSkill u skills first = skills := if_pos (by simpa using hthere)
      rw [hadd]
      refine or_congr_right (exists_congr fun variant => and_congr_left fun _ => and_congr_right fun hnew => ?_)
      rw [List.find?_cons_of_neg]
      obtain ⟨skill, hskill, hkey⟩ := hthere
      simpa [← hkey] using hnew skill hskill
    · have hadd : addSkill u skills first = skills ++ [first.text] := if_neg (by simpa using hthere)
      push Not at hthere
      rw [hadd]
      constructor
      · rintro (h | ⟨variant, ⟨hnew, hfind⟩, rfl⟩)
        · rcases List.mem_append.mp h with h | h
          · exact .inl h
          · obtain rfl := List.mem_singleton.mp h
            exact .inr ⟨first, ⟨hthere, List.find?_cons_of_pos (by simp)⟩, rfl⟩
        · have hfirst : matchKey u first.text ≠ matchKey u variant.text := hnew _ (by simp)
          exact .inr ⟨variant, ⟨fun skill hskill => hnew skill (List.mem_append_left _ hskill),
            by rw [List.find?_cons_of_neg (by simpa using hfirst), hfind]⟩, rfl⟩
      · rintro (h | ⟨variant, ⟨hnew, hfind⟩, rfl⟩)
        · exact .inl (List.mem_append_left _ h)
        · by_cases hfirst : matchKey u first.text = matchKey u variant.text
          · rw [List.find?_cons_of_pos (by simpa using hfirst)] at hfind
            obtain rfl := Option.some.inj hfind
            exact .inl (by simp)
          · rw [List.find?_cons_of_neg (by simpa using hfirst)] at hfind
            refine .inr ⟨variant, ⟨fun skill hskill => ?_, hfind⟩, rfl⟩
            rcases List.mem_append.mp hskill with hskill | hskill
            · exact hnew skill hskill
            · obtain rfl := List.mem_singleton.mp hskill
              exact hfirst

lemma foldl_describeAs (variants : List CvApprovedWording) (entry : ResumeProjectEntry) :
    variants.foldl describeAs entry =
      { entry with description := (variants.getLast?.map CvApprovedWording.text).getD entry.description } := by
  induction variants generalizing entry with
  | nil => rfl
  | cons variant rest ih =>
    rw [List.foldl_cons, ih]
    cases hlast : rest.getLast? <;> simp [describeAs, List.getLast?_cons, hlast]

/-! ## The texts of the resume -/

lemma mem_wordingsOf_iff {field : ClaimField} :
    variant ∈ wordingsOf field usable ↔ variant ∈ usable ∧ variant.targetField = field := by
  simp [wordingsOf]

lemma mem_bulletsOf_iff {parentId : String} :
    variant ∈ bulletsOf usable parentId ↔
      variant ∈ wordingsOf .experienceBullet usable ∧ variant.parentId = parentId := by
  simp [bulletsOf]

lemma mem_descriptionsOf_iff {parentId : String} :
    variant ∈ descriptionsOf usable parentId ↔
      variant ∈ wordingsOf .projectDescription usable ∧ variant.parentId = parentId := by
  simp [descriptionsOf]

lemma exists_last_of_mem {α : Type} {id : α → String} {key : String} {records : List α}
    (h : ∃ record ∈ records, id record = key) :
    ∃ before record after, records = before ++ record :: after ∧ id record = key ∧
      ∀ other ∈ after, id other ≠ key := by
  induction records with
  | nil => simp at h
  | cons first rest ih =>
    by_cases hrest : ∃ record ∈ rest, id record = key
    · obtain ⟨before, record, after, rfl, hkey, hlast⟩ := ih hrest
      exact ⟨first :: before, record, after, rfl, hkey, hlast⟩
    · push Not at hrest
      obtain ⟨record, hmem, hkey⟩ := h
      rcases List.mem_cons.mp hmem with rfl | hmem
      · exact ⟨[], record, rest, rfl, hkey, hrest⟩
      · exact absurd hkey (hrest record hmem)

lemma mem_texts_experience_iff
    (hroles : ∀ variant ∈ wordingsOf .experienceBullet usable,
      ∃ role ∈ source.experience, role.id = variant.parentId) :
    text ∈ (usable.foldl (placeVariant u source)
        (tailoredResumeFromSource source skills)).experience.flatMap ResumeExperienceEntry.texts ↔
      (∃ role ∈ source.experience, text ∈ (sourceExperienceToResumeEntry role).texts) ∨
        ∃ variant ∈ wordingsOf .experienceBullet usable, variant.text = text := by
  rw [experience_placed, List.mem_flatMap]
  constructor
  · rintro ⟨entry, hentry, htext⟩
    obtain ⟨before, role, after, hsource, rfl⟩ := mem_atLast_iff.mp hentry
    have hrole : role ∈ source.experience := by simp [hsource]
    split at htext
    · obtain ⟨added, heq, hadded⟩ := foldl_addBullet (bulletsOf usable role.id) (sourceExperienceToResumeEntry role)
      rw [heq] at htext
      rcases List.mem_append.mp htext with htext | htext
      · exact .inl ⟨role, hrole, List.mem_append_left _ htext⟩
      · rcases (hadded text).mp htext with htext | ⟨variant, hvariant, hword⟩
        · exact .inl ⟨role, hrole, List.mem_append_right _ htext⟩
        · exact .inr ⟨variant, (mem_bulletsOf_iff.mp hvariant).1, hword⟩
    · exact .inl ⟨role, hrole, htext⟩
  · rintro (⟨role, hrole, htext⟩ | ⟨variant, hvariant, rfl⟩)
    · obtain ⟨before, after, hsource⟩ := List.append_of_mem hrole
      refine ⟨_, mem_atLast_iff.mpr ⟨before, role, after, hsource, rfl⟩, ?_⟩
      split
      · obtain ⟨added, heq, -⟩ := foldl_addBullet (bulletsOf usable role.id) (sourceExperienceToResumeEntry role)
        rw [heq]
        rcases List.mem_append.mp htext with htext | htext
        · exact List.mem_append_left _ htext
        · exact List.mem_append_right _ (List.mem_append_left _ htext)
      · exact htext
    · obtain ⟨before, role, after, hsource, hid, hlast⟩ := exists_last_of_mem (hroles variant hvariant)
      refine ⟨_, mem_atLast_iff.mpr ⟨before, role, after, hsource, rfl⟩, ?_⟩
      obtain ⟨added, heq, hadded⟩ := foldl_addBullet (bulletsOf usable role.id) (sourceExperienceToResumeEntry role)
      rw [if_pos fun other hother => hid ▸ hlast other hother, heq]
      exact List.mem_append_right _
        ((hadded variant.text).mpr (.inr ⟨variant, mem_bulletsOf_iff.mpr ⟨hvariant, hid.symm⟩, rfl⟩))

lemma mem_texts_projects_iff :
    text ∈ (usable.foldl (placeVariant u source)
        (tailoredResumeFromSource source skills)).projects.flatMap
          (fun entry => entry.description :: entry.facts) ↔
      (∃ project ∈ selectSourceProjects source, text ∈ (sourceProjectToResumeEntry project).facts) ∨
        (∃ before project after, selectSourceProjects source = before ++ project :: after ∧
          text = project.description ∧
            ((∀ other ∈ after, other.id ≠ project.id) → descriptionsOf usable project.id = [])) ∨
          ∃ variant, (variant.parentId ∈ (selectSourceProjects source).map CvSourceProjectEntry.id ∧
            (descriptionsOf usable variant.parentId).getLast? = some variant) ∧ variant.text = text := by
  rw [projects_placed, List.mem_flatMap]
  constructor
  · rintro ⟨entry, hentry, htext⟩
    obtain ⟨before, project, after, hsource, rfl⟩ := mem_atLast_iff.mp hentry
    have hproject : project ∈ selectSourceProjects source := by simp [hsource]
    split at htext
    · rw [foldl_describeAs] at htext
      rcases List.mem_cons.mp htext with htext | htext
      · cases hlast : (descriptionsOf usable project.id).getLast? with
        | none =>
          rw [hlast] at htext
          exact .inr (.inl ⟨before, project, after, hsource, htext, fun _ => List.getLast?_eq_none_iff.mp hlast⟩)
        | some variant =>
          have hid := (mem_descriptionsOf_iff.mp (List.mem_of_getLast? hlast)).2
          rw [hlast] at htext
          exact .inr (.inr ⟨variant, ⟨List.mem_map.mpr ⟨project, hproject, hid.symm⟩, hid ▸ hlast⟩, htext.symm⟩)
      · exact .inl ⟨project, hproject, htext⟩
    · next hlast =>
      rcases List.mem_cons.mp htext with htext | htext
      · exact .inr (.inl ⟨before, project, after, hsource, htext, fun h => absurd h hlast⟩)
      · exact .inl ⟨project, hproject, htext⟩
  · rintro (⟨project, hproject, htext⟩ | ⟨before, project, after, hsource, htext, hnone⟩ |
      ⟨variant, ⟨hparent, hlast⟩, rfl⟩)
    · obtain ⟨before, after, hsource⟩ := List.append_of_mem hproject
      refine ⟨_, mem_atLast_iff.mpr ⟨before, project, after, hsource, rfl⟩, List.mem_cons_of_mem _ ?_⟩
      split
      · rw [foldl_describeAs]
        exact htext
      · exact htext
    · refine ⟨_, mem_atLast_iff.mpr ⟨before, project, after, hsource, rfl⟩, List.mem_cons.mpr (.inl ?_)⟩
      split
      · next hend =>
        rw [hnone hend]
        exact htext
      · exact htext
    · obtain ⟨before, project, after, hsource, hid, hend⟩ := exists_last_of_mem (List.mem_map.mp hparent)
      refine ⟨_, mem_atLast_iff.mpr ⟨before, project, after, hsource, rfl⟩, List.mem_cons.mpr (.inl ?_)⟩
      rw [if_pos fun other hother => hid ▸ hend other hother, foldl_describeAs, hid, hlast]
      rfl

lemma mem_texts_placed_iff
    (hroles : ∀ variant ∈ wordingsOf .experienceBullet usable,
      ∃ role ∈ source.experience, role.id = variant.parentId) :
    text ∈ (usable.foldl (placeVariant u source) (tailoredResumeFromSource source skills)).texts ↔
      Remains source skills usable text ∨
        ∃ variant, Stands u source skills usable variant ∧ variant.text = text := by
  simp only [TailoredResume.texts, List.mem_append, List.mem_singleton]
  rw [mem_texts_experience_iff hroles, mem_texts_projects_iff, contact_placed, education_placed, summary_placed,
    skills_placed, mem_foldl_addSkill_iff]
  constructor
  · rintro (((((hcontact | hsummary) | (hskill | ⟨variant, ⟨hnew, hfirst⟩, hword⟩)) |
      (⟨role, hrole, htext⟩ | ⟨variant, hvariant, hword⟩)) | (⟨project, hproject, htext⟩ |
        ⟨before, project, after, hsource, htext, hnone⟩ | ⟨variant, ⟨hparent, hlast⟩, hword⟩)) | heducation)
    · exact .inl (.contact hcontact)
    · cases hlast : (wordingsOf .summary usable).getLast? with
      | none =>
        rw [hlast] at hsummary
        exact .inl (.summary hsummary (List.getLast?_eq_none_iff.mp hlast))
      | some variant =>
        rw [hlast] at hsummary
        have hfield := (mem_wordingsOf_iff.mp (List.mem_of_getLast? hlast)).2
        exact .inr ⟨variant, by rwa [Stands, hfield], hsummary.symm⟩
    · exact .inl (.skill hskill)
    · have hfield := (mem_wordingsOf_iff.mp (List.mem_of_find?_eq_some hfirst)).2
      exact .inr ⟨variant, by rw [Stands, hfield]; exact ⟨hnew, hfirst⟩, hword⟩
    · exact .inl (.role role hrole htext)
    · have hfield := (mem_wordingsOf_iff.mp hvariant).2
      exact .inr ⟨variant, by rwa [Stands, hfield], hword⟩
    · exact .inl (.project project hproject htext)
    · exact .inl (.description before after project hsource htext hnone)
    · have hfield := (mem_wordingsOf_iff.mp (mem_descriptionsOf_iff.mp (List.mem_of_getLast? hlast)).1).2
      exact .inr ⟨variant, by rw [Stands, hfield]; exact ⟨hparent, hlast⟩, hword⟩
    · obtain ⟨entry, hentry, htext⟩ := List.mem_flatMap.mp heducation
      exact .inl (.education entry hentry htext)
  · rintro (hremains | ⟨variant, hstands, rfl⟩)
    · cases hremains with
      | contact h => exact .inl (.inl (.inl (.inl (.inl h))))
      | summary h hnone => exact .inl (.inl (.inl (.inl (.inr (by rw [hnone]; exact h)))))
      | skill h => exact .inl (.inl (.inl (.inr (.inl h))))
      | role role hrole h => exact .inl (.inl (.inr (.inl ⟨role, hrole, h⟩)))
      | project project hproject h => exact .inl (.inr (.inl ⟨project, hproject, h⟩))
      | description before after project hproject h hnone =>
        exact .inl (.inr (.inr (.inl ⟨before, project, after, hproject, h, hnone⟩)))
      | education entry hentry h => exact .inr (List.mem_flatMap.mpr ⟨entry, hentry, h⟩)
    · cases hfield : variant.targetField with
      | summary =>
        rw [Stands, hfield] at hstands
        exact .inl (.inl (.inl (.inl (.inr (by rw [hstands]; rfl)))))
      | skill =>
        rw [Stands, hfield] at hstands
        exact .inl (.inl (.inl (.inr (.inr ⟨variant, hstands, rfl⟩))))
      | experienceBullet =>
        rw [Stands, hfield] at hstands
        exact .inl (.inl (.inr (.inr ⟨variant, hstands, rfl⟩)))
      | projectDescription =>
        rw [Stands, hfield] at hstands
        exact .inl (.inr (.inr (.inr ⟨variant, hstands, rfl⟩)))

/-! ## The composition -/

variable {projectSelection : Option (Option CvProjectSelection)}

lemma blockers_eq_nil_iff :
    (composeWithOptions u source overlay currentSourceCvContentHash skills projectSelection).blockers = [] ↔
      NothingToTell u source overlay currentSourceCvContentHash skills projectSelection := by
  rw [composeWithOptions, flags_eq_nil_iff]
  simp only [List.append_eq_nil_iff, Option.toList_eq_nil_iff, List.filterMap_eq_nil_iff, List.forall_mem_map]
  constructor
  · rintro ⟨hgaps, ⟨hids, hvariants⟩, hselection⟩
    exact ⟨hgaps, hids, hvariants, hselection⟩
  · rintro ⟨hgaps, hids, hvariants, hselection⟩
    exact ⟨hgaps, ⟨hids, hvariants⟩, hselection⟩

lemma roles_composed :
    List.Forall₂ (RoleComposed u overlay) source.experience
      (composeWithOptions u source overlay currentSourceCvContentHash skills
        projectSelection).resume.experience := by
  rw [composeWithOptions, experience_placed]
  refine forall₂_atLast (fun role _ => ⟨rfl, List.prefix_refl _, fun _ h => .inl h⟩) fun role _ => ?_
  obtain ⟨added, heq, hadded⟩ := foldl_addBullet
    (bulletsOf (usableWordings u source overlay currentSourceCvContentHash skills) role.id)
    (sourceExperienceToResumeEntry role)
  rw [heq]
  refine ⟨rfl, List.prefix_append _ _, fun bullet hbullet => ?_⟩
  rcases (hadded bullet).mp hbullet with h | ⟨variant, hvariant, hword⟩
  · exact .inl h
  · obtain ⟨hvariant, hid⟩ := mem_bulletsOf_iff.mp hvariant
    obtain ⟨husable, hfield⟩ := mem_wordingsOf_iff.mp hvariant
    exact .inr ⟨variant, backed_of_mem_usable husable, hfield, hid, hword⟩

lemma projects_composed :
    List.Forall₂ (ProjectComposed u overlay) (selectSourceProjects source)
      (composeWithOptions u source overlay currentSourceCvContentHash skills projectSelection).resume.projects := by
  rw [composeWithOptions, projects_placed]
  refine forall₂_atLast (fun project _ => ⟨rfl, .inl rfl⟩) fun project _ => ?_
  rw [foldl_describeAs]
  refine ⟨rfl, ?_⟩
  cases hlast : (descriptionsOf (usableWordings u source overlay currentSourceCvContentHash skills)
      project.id).getLast? with
  | none => exact .inl rfl
  | some variant =>
    obtain ⟨hvariant, hid⟩ := mem_descriptionsOf_iff.mp (List.mem_of_getLast? hlast)
    obtain ⟨husable, hfield⟩ := mem_wordingsOf_iff.mp hvariant
    exact .inr ⟨variant, backed_of_mem_usable husable, hfield, hid, rfl⟩

/-- **Compositions invent nothing, and drop nothing where the wordings stand.**  Each text is one of
the source or the skills, or an approved wording in its place, and with no blocker each approved
text is in the resume, if and only if, where there is nothing to tell, each approved text is that of
a wording that stands or of something that remains. -/
theorem composed_iff (u : Unicode) (source : CvSourceDocument) (overlay : CvEvidenceOverlay)
    (currentSourceCvContentHash : String) (skills : List String)
    (projectSelection : Option (Option CvProjectSelection)) :
    Composed u source overlay skills
        (composeWithOptions u source overlay currentSourceCvContentHash skills projectSelection) ↔
      AllStand u source overlay currentSourceCvContentHash skills projectSelection := by
  have hroles : ∀ variant ∈ wordingsOf .experienceBullet
      (usableWordings u source overlay currentSourceCvContentHash skills),
        ∃ role ∈ source.experience, role.id = variant.parentId := by
    intro variant hvariant
    obtain ⟨husable, hfield⟩ := mem_wordingsOf_iff.mp hvariant
    exact exists_role_of_usable husable hfield
  constructor
  · intro h htold variant hmem happroved
    exact (mem_texts_placed_iff hroles).mp (h.complete (blockers_eq_nil_iff.mpr htold) variant hmem happroved)
  · intro hstand
    exact
      { contact := contact_placed
        education := education_placed
        summary := by
          rw [composeWithOptions, summary_placed]
          cases hlast : (wordingsOf .summary
              (usableWordings u source overlay currentSourceCvContentHash skills)).getLast? with
          | none => exact .inl rfl
          | some variant =>
            obtain ⟨husable, hfield⟩ := mem_wordingsOf_iff.mp (List.mem_of_getLast? hlast)
            exact .inr ⟨variant, backed_of_mem_usable husable, hfield, rfl⟩
        skills := by
          intro skill hskill
          rw [composeWithOptions, skills_placed, mem_foldl_addSkill_iff] at hskill
          rcases hskill with hskill | ⟨variant, ⟨-, hfirst⟩, hword⟩
          · exact .inl hskill
          · obtain ⟨husable, hfield⟩ := mem_wordingsOf_iff.mp (List.mem_of_find?_eq_some hfirst)
            exact .inr ⟨variant, backed_of_mem_usable husable, hfield, hword⟩
        experience := roles_composed
        projects := projects_composed
        complete := fun hblockers variant hmem happroved =>
          (mem_texts_placed_iff hroles).mpr (hstand (blockers_eq_nil_iff.mp hblockers) variant hmem happroved) }

/-! ## Two summaries -/

def goSource : CvSourceDocument where
  experience := [{ id := "experience-1", company := "Acme", title := "Engineer", bullets := ["Wrote services in Go"] }]
  reviewedAt := "2026-05-01T09:00:00.000Z"

def goSummary (variantId text : String) : CvApprovedWording where
  variantId := variantId
  targetField := .summary
  text := text
  factIds := ["fact-1"]
  status := .candidateApproved
  approvedAt := "2026-05-02T09:00:00.000Z"
  sourceRevision := "revision-1"

def twoSummaries : CvEvidenceOverlay where
  sourceCvContentHash := "revision-1"
  jdSnapshot := "You must know Go."
  state := .draft
  requirementCoverage := { status := .complete }
  facts :=
    [{ factId := "fact-1", parentId := "experience-1", parentType := .experience, activity := "Wrote services in Go",
       approval := .approved }]
  wordingVariants := [goSummary "variant-1" "Engineer who writes Go.", goSummary "variant-2" "Go engineer."]

/-- Both summaries are approved and nothing is told, but the first one is in no part of the resume. -/
theorem not_composed_twoSummaries :
    ¬ ∀ (u : Unicode) (source : CvSourceDocument) (overlay : CvEvidenceOverlay) (currentSourceCvContentHash : String)
      (skills : List String) (projectSelection : Option (Option CvProjectSelection)),
        Composed u source overlay skills
          (composeWithOptions u source overlay currentSourceCvContentHash skills projectSelection) := by
  intro hall
  have hcomplete := (hall ascii goSource twoSummaries "revision-1" [] (some none)).complete (by decide)
    (goSummary "variant-1" "Engineer who writes Go.") (by decide) rfl
  exact absurd hcomplete (by decide)

end VacancyRadar.Cv
