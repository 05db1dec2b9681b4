import VacancyRadar.Cv.Overlay

/-!
# What a case keeps of a CV that changes

`workspace/cv-case-rebase.ts`: a fact is anchored to the part of the source that it was reviewed
against, and what still fits a source that changed is told by comparing.
-/

namespace VacancyRadar.Cv

open Data

variable (u : Unicode) (digest : String → String)

/-! ## Anchors -/

def AnchorField.text : AnchorField → String
  | .experienceBullets => "experience_bullets"
  | .projectDescription => "project_description"

structure AnchorReading where
  field : AnchorField
  text : String
  parts : List String

/-- `readCvAnchorField`.  The first entry of an id counts here. -/
def readCvAnchorField (source : Option CvSourceDocument) (parentId : String) : Option AnchorReading :=
  (source.filter fun _ => parentId ≠ "").bind fun source =>
    match source.experience.find? fun entry => entry.id = parentId with
    | some role => some ⟨.experienceBullets, "\n".intercalate role.bullets, role.bullets⟩
    | none =>
      (source.projects.find? fun entry => entry.id = parentId).map fun project =>
        ⟨.projectDescription, project.description, [project.description]⟩

def skillKey (skill : String) : String := u.toLowerCase (trim skill)

def anchorFieldDigest (field : AnchorField) (text : String) : String :=
  digest (field.text ++ "\n" ++ text)

def anchoredSkills (inProfile : List String) : (seen : List String) → List String →
    List CvFactSkillAnchor
  | _, [] => []
  | seen, skill :: rest =>
    let key := skillKey u skill
    if key = "" ∨ key ∈ seen ∨ key ∉ inProfile then anchoredSkills inProfile seen rest
    else ⟨skill, digest key⟩ :: anchoredSkills inProfile (key :: seen) rest

def buildCvFactAnchor (source : Option CvSourceDocument) (parentId : String)
    (backedSkills profileSkills : List String) : Option CvFactAnchor :=
  (readCvAnchorField source parentId).map fun read =>
    { parentId
      field := read.field
      text := read.text
      digest := anchorFieldDigest digest read.field read.text
      profileSkills := anchoredSkills u digest (profileSkills.map (skillKey u)) [] backedSkills }

def backedSkills (variants : List CvApprovedWording) (factId : String) : List String :=
  (variants.filter fun variant => variant.targetField = .skill && variant.status ≠ .rejected &&
    variant.status ≠ .superseded && factId ∈ variant.factIds).map CvApprovedWording.text

/-- The part of `anchorCvFacts` for one fact. -/
def anchorCvFact (prior : Option CvEvidenceFact) (variants : List CvApprovedWording)
    (doc : CvDocumentRecord) (fact : CvEvidenceFact) : CvEvidenceFact :=
  let fresh := buildCvFactAnchor u digest doc.source fact.parentId
    (backedSkills variants fact.factId) doc.profile.skills
  if fact.approval = .rejected ∨ fact.approval = .superseded then
    { fact with anchor := prior.bind CvEvidenceFact.anchor }
  else
    match prior.filter fun prior => prior.parentId = fact.parentId ∧
        (fact.approval = .approved → prior.approval = .approved) with
    | none => { fact with anchor := fresh }
    | some prior =>
      { fact with
        anchor := prior.anchor.map fun anchor =>
          let added := (fresh.map CvFactAnchor.profileSkills).getD []
          let known := anchor.profileSkills.map CvFactSkillAnchor.digest
          { anchor with
            profileSkills := anchor.profileSkills ++
              added.filter fun entry => entry.digest ∉ known } }

def anchorCvFacts (facts previous : List CvEvidenceFact) (variants : List CvApprovedWording)
    (doc : CvDocumentRecord) : List CvEvidenceFact :=
  facts.map fun fact => anchorCvFact u digest (factOf previous fact.factId) variants doc fact

def describeStaleFactAnchor (fact : CvEvidenceFact) (current : CvCurrentInputs) : Option String :=
  fact.anchor.bind fun anchor =>
    (readCvAnchorField current.source fact.parentId).bind fun read =>
      let changed := anchorFieldDigest digest read.field read.text ≠ anchor.digest
      let parts := read.parts.map String.toList
      let inProfile := current.skills.map fun skill => digest (skillKey u skill)
      if read.field ≠ anchor.field then
        some "the role or project it was reviewed against changed kind"
      else if changed ∧ read.field = .projectDescription then
        some "the project description it was reviewed against changed"
      else if changed ∧ (anchor.text.toList.splitOn '\n').any
          fun bullet => bullet ≠ [] && bullet ∉ parts then
        some "a role bullet it was reviewed against changed"
      else
        (anchor.profileSkills.find? fun entry => entry.digest ∉ inProfile).map fun missing =>
          "the profile skill \"" ++ missing.skill ++ "\" it backs was removed"

/-! ## Wording -/

/-- The part of `describeStaleVariant` for a wording under an entry of the source, whose parts that
count are compared. -/
def describeStaleParent {α : Type} (before now : Option α) (same : α → α → Bool)
    (gone changed : String) : Option String :=
  match now with
  | none => some gone
  | some now => (before.filter fun old => !same old now).map fun _ => changed

def describeStaleVariant (variant : CvApprovedWording) (baseline : Option CvSourceBaseline)
    (current : Option CvSourceDocument) : Option String :=
  let before := baseline.bind CvSourceBaseline.source
  match variant.targetField with
  | .skill => none
  | .summary =>
    before.bind fun before => current.bind fun current =>
      if before.summary ≠ current.summary then some "the summary it replaces changed" else none
  | .experienceBullet =>
    let find := fun source : CvSourceDocument =>
      source.experience.find? fun entry => entry.id = variant.parentId
    describeStaleParent (before.bind find) (current.bind find)
      (fun old now => old.company = now.company && old.title = now.title && old.dates = now.dates &&
        old.engagement = now.engagement && old.client = now.client)
      "its role is no longer in your CV" "its role changed (employer, title, dates or client)"
  | .projectDescription =>
    let find := fun source : CvSourceDocument =>
      source.projects.find? fun entry => entry.id = variant.parentId
    describeStaleParent (before.bind find) (current.bind find)
      (fun old now => old.name = now.name && old.dates = now.dates &&
        old.organization = now.organization && old.description = now.description)
      "its project is no longer in your CV" "the project text it replaces changed"

def revokeVariantsCiting (variants : List CvApprovedWording) (factIds : List String) :
    List CvApprovedWording :=
  variants.map fun variant =>
    if variant.status = .candidateApproved ∧ variant.factIds.any (· ∈ factIds) then
      { variant with status := .superseded }
    else variant

/-! ## The plan -/

structure CvRebasePlan where
  droppedVariants : List String
  staleFacts : List String
  requirementIdsToReview : List String

def existsInSource (source : Option CvSourceDocument) (id : String) : Bool :=
  source.any fun source =>
    (source.experience.any fun entry => entry.id = id) ||
      source.projects.any fun project => project.id = id

def planCvEvidenceRebase (overlay : CvEvidenceOverlay) (current : CvCurrentInputs) : CvRebasePlan where
  droppedVariants :=
    (overlay.wordingVariants.filter fun variant =>
      (variant.status = .candidateApproved || variant.status = .draft) &&
        (describeStaleVariant variant overlay.sourceBaseline current.source).isSome).map
      CvApprovedWording.variantId
  staleFacts :=
    (overlay.facts.filter fun fact =>
      fact.approval = .approved && existsInSource current.source fact.parentId &&
        (describeStaleFactAnchor u digest fact current).isSome).map CvEvidenceFact.factId
  requirementIdsToReview :=
    (overlay.requirements.filter fun requirement => !requirement.excluded &&
      (requirement.anchorParentId ≠ "" && !existsInSource current.source requirement.anchorParentId ||
        requirement.sourceIds.any fun id => !existsInSource current.source id)).map
      CvRequirementMapping.requirementId

end VacancyRadar.Cv
