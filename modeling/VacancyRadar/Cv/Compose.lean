import VacancyRadar.Cv.Overlay

/-!
# The CV that a case stands for

`resume-source.ts`: a CV is put together from the reviewed source and from the wording that the
candidate approved, and from nothing else.  Whatever keeps it from being approved is told.
-/

namespace VacancyRadar.Cv

open Data

variable (u : Unicode)

/-! ## From the source -/

def sourceExperienceToResumeEntry (entry : CvSourceExperienceEntry) : ResumeExperienceEntry where
  company := entry.company
  title := entry.title
  dates := entry.dates
  engagement := entry.engagement
  client := entry.client
  bullets := entry.bullets

def sourceProjectToResumeEntry (project : CvSourceProjectEntry) : ResumeProjectEntry where
  name := project.name
  role := project.role
  dates := project.dates
  organization := project.organization
  description := project.description
  technologies := project.technologies
  links := project.links

def tailoredResumeFromSource (source : CvSourceDocument) (skills : List String) : TailoredResume where
  contact := source.contact
  summary := source.summary
  experience := source.experience.map sourceExperienceToResumeEntry
  projects := (selectSourceProjects source).map sourceProjectToResumeEntry
  skills := skills
  education := source.education

/-! ## What a text mentions -/

def matchKey (value : String) : String := normalizeWords u value

/-- The characters are the same for a pattern with the flag `i`. -/
def sameLetter (a b : Char) : Bool := u.foldCase a == u.foldCase b

/-- What follows a text at the start of another one, for a pattern with the flag `i`. -/
def afterPrefix : List Char → List Char → Option (List Char)
  | [], text => some text
  | _ :: _, [] => none
  | a :: needle, b :: text => if sameLetter u a b then afterPrefix needle text else none

def mentionedFrom (needle : List Char) : Bool → List Char → Bool
  | _, [] => false
  | apart, c :: text =>
    (apart && match afterPrefix u needle (c :: text) with
      | none => false
      | some [] => true
      | some (next :: _) => !u.isWordChar next) ||
    mentionedFrom needle (!u.isWordChar c) text

def mentions (text name : String) : Bool :=
  let needle := (trim name).toList
  2 ≤ unitLength needle && mentionedFrom u needle true text.toList

/-- A word character of a pattern with the flags `iu`. -/
def isPlainWordChar (c : Char) : Bool :=
  c.isAlphanum || c == '_' || c == '\u017f' || c == '\u212a'

def afterOneOf (words : List String) (text : List Char) : List (List Char) :=
  words.filterMap fun word => (afterPrefix u word.toList text).bind fun rest =>
    if (rest.head?.map isTrimmed).getD false then some (rest.dropWhile isTrimmed) else none

/-- The alternatives of `SINGLE_ROLE_PHRASE`, part by part. -/
def singleRoleWords : List (List String) :=
  [["in", "at", "during", "within", "throughout"],
    ["my", "the", "his", "her", "their"],
    ["current", "present", "last", "previous", "latest", "recent", "first", "former", "prior",
      "most recent"]]

def singleRoleNouns : List String :=
  ["role", "job", "position", "company", "employer", "team", "engagement", "project"]

def startsSingleRolePhrase (text : List Char) : Bool :=
  let rests := singleRoleWords.foldl (fun rests words => rests.flatMap (afterOneOf u words)) [text]
  rests.any fun rest => singleRoleNouns.any fun noun =>
    match afterPrefix u noun.toList rest with
    | none => false
    | some [] => true
    | some (next :: _) => !isPlainWordChar next

def singleRolePhraseFrom : Bool → List Char → Bool
  | _, [] => false
  | apart, c :: text =>
    (apart && startsSingleRolePhrase u (c :: text)) || singleRolePhraseFrom (!isPlainWordChar c) text

/-! ## The scope of a wording -/

def ClaimField.text : ClaimField → String
  | .summary => "summary"
  | .skill => "skill"
  | .experienceBullet => "experience_bullet"
  | .projectDescription => "project_description"

def experienceOf : List CvSourceExperienceEntry → String → Option CvSourceExperienceEntry :=
  lastOf CvSourceExperienceEntry.id

def projectOf : List CvSourceProjectEntry → String → Option CvSourceProjectEntry :=
  lastOf CvSourceProjectEntry.id

/-- The part of `describeVariantScopeProblem` for a wording that stands under a role or a project, with
the client of that. -/
def describeParentProblem (variant : CvApprovedWording) (cited : List CvEvidenceFact)
    (label other : String) (factKind : ParentType) (reviewedClient : Option String) : Option String :=
  match reviewedClient.filter fun _ => variant.parentId ≠ "" with
  | none =>
    some ("an approved \"" ++ variant.targetField.text ++ "\" wording is not scoped to a " ++ label ++
      " in your reviewed source")
  | some reviewedClient =>
    if cited.any fun fact => fact.parentId ≠ variant.parentId || fact.parentType ≠ factKind then
      some ("an approved " ++ label ++ " wording cites a fact confirmed for a different " ++ other ++
        ", so it cannot appear under this " ++ label)
    else
      (cited.find? fun fact =>
        trim fact.client ≠ "" && matchKey u fact.client ≠ matchKey u reviewedClient).map fun fact =>
          "an approved " ++ label ++ " wording cites a client (\"" ++ fact.client ++ "\") that your " ++
            "reviewed source does not list for it: a client named as a comparison is not an engagement"

def parentNames (source : CvSourceDocument) (parentId : String) : List String :=
  match experienceOf source.experience parentId with
  | some experience => [experience.company, experience.client]
  | none => [((projectOf source.projects parentId).map CvSourceProjectEntry.name).getD ""]

def describeVariantScopeProblem (source : CvSourceDocument) (skills : List String)
    (variant : CvApprovedWording) (cited : List CvEvidenceFact) : Option String :=
  match variant.targetField with
  | .experienceBullet =>
    describeParentProblem u variant cited "role" "role or project" .experience
      ((experienceOf source.experience variant.parentId).map CvSourceExperienceEntry.client)
  | .projectDescription =>
    describeParentProblem u variant cited "project" "project or role" .project
      ((projectOf source.projects variant.parentId).map CvSourceProjectEntry.organization)
  | _ =>
    let parentIds := (cited.map CvEvidenceFact.parentId).eraseDups
    let named := parentIds.filter fun parentId =>
      (parentNames source parentId).any fun name => trim name ≠ "" && mentions u variant.text name
    if 1 < parentIds.length ∧
        (named.length = 1 ∨ singleRolePhraseFrom u true variant.text.toList) then
      some ("an approved \"" ++ variant.targetField.text ++ "\" wording draws on facts from several " ++
        "roles but words them as one role's: name each role or drop the role reference")
    else if variant.targetField = .skill ∧ matchKey u variant.text ∉ skills.map (matchKey u) ∧
        (cited.flatMap fun fact => [fact.activity, fact.mechanism, fact.result]).all
          (fun entry => !mentions u entry variant.text) then
      some ("the new skill \"" ++ variant.text ++ "\" is not named in any approved fact it cites, " ++
        "so it cannot be added")
    else none

/-! ## The composition -/

structure ComposedTailoredResume where
  resume : TailoredResume
  blockers : List String

def flag (blockers : List String) (reason : String) : List String :=
  if reason ∈ blockers then blockers else blockers ++ [reason]

def citedFacts (facts : List CvEvidenceFact) (variant : CvApprovedWording) :
    Option (List CvEvidenceFact) :=
  let conflicted := conflictedFactIdSet u facts
  (variant.factIds.mapM fun factId =>
    (factOf facts factId).filter fun fact => isCvFactUsable fact conflicted).filter (· ≠ [])

def variantProblem (source : CvSourceDocument) (facts : List CvEvidenceFact)
    (currentSourceCvContentHash : String) (skills : List String) (variant : CvApprovedWording) :
    Bool × Option String :=
  if variant.status ≠ .candidateApproved then (false, none)
  else
    match citedFacts u facts variant with
    | none => (false, none)
    | some cited =>
      if variant.sourceRevision ≠ currentSourceCvContentHash then
        (false, some ("an approved \"" ++ variant.targetField.text ++ "\" variant was approved " ++
          "against a source CV revision that no longer matches"))
      else if variant.parentId ≠ "" ∧ experienceOf source.experience variant.parentId = none ∧
          projectOf source.projects variant.parentId = none then
        (false, some ("an approved \"" ++ variant.targetField.text ++ "\" variant refers to a role " ++
          "or project that no longer exists in your reviewed source"))
      else
        match describeVariantScopeProblem u source skills variant cited with
        | some problem => (false, some problem)
        | none => (true, none)

def selectionProblem (source : CvSourceDocument) (selection : Option CvProjectSelection) :
    Option String :=
  let selected := selectSourceProjects source
  if selected = [] then none
  else
    match selection with
    | none => some "the projects for this CV have not been approved yet"
    | some selection =>
      if "\n".intercalate selection.projectIds ≠
          "\n".intercalate (selected.map CvSourceProjectEntry.id) then
        some ("the projects selected for this CV changed after you approved the selection: approve " ++
          "the selection again")
      else none

def setLast {α β : Type} (id : α → String) (key : String) (f : β → β) : List α → List β → List β
  | record :: records, entry :: entries =>
    if id record = key ∧ records.all fun other => id other ≠ key then f entry :: entries
    else entry :: setLast id key f records entries
  | _, entries => entries

def placeVariant (source : CvSourceDocument) (resume : TailoredResume) (variant : CvApprovedWording) :
    TailoredResume :=
  match variant.targetField with
  | .summary => { resume with summary := variant.text }
  | .skill =>
    if resume.skills.any fun skill => matchKey u skill = matchKey u variant.text then resume
    else { resume with skills := resume.skills ++ [variant.text] }
  | .experienceBullet =>
    { resume with
      experience := setLast CvSourceExperienceEntry.id variant.parentId
        (fun entry =>
          if variant.text ∈ entry.bullets then entry
          else { entry with bullets := entry.bullets ++ [variant.text] })
        source.experience resume.experience }
  | .projectDescription =>
    { resume with
      projects := setLast CvSourceProjectEntry.id variant.parentId
        (fun entry => { entry with description := variant.text })
        (selectSourceProjects source) resume.projects }

def composeFrom (blockers : List String) (source : CvSourceDocument) (facts : List CvEvidenceFact)
    (wordingVariants : List CvApprovedWording) (currentSourceCvContentHash : String)
    (skills : List String) (selection : Option CvProjectSelection) : ComposedTailoredResume :=
  let ids := source.experience.map fun entry => trim entry.id
  let shared := if "" ∈ ids ∨ ¬ ids.Nodup then
    some ("two roles in your reviewed source share one id or have none, so wording cannot be " ++
      "placed on the right role") else none
  let problems := wordingVariants.map (variantProblem u source facts currentSourceCvContentHash skills)
  let usable := ((wordingVariants.zip problems).filter fun pair => pair.2.1).map Prod.fst
  { resume := usable.foldl (placeVariant u source) (tailoredResumeFromSource source skills)
    blockers := (shared.toList ++ problems.filterMap Prod.snd ++
      (selectionProblem source selection).toList).foldl flag blockers }

/-- `composeApprovedTailoredResume`, with the selection of the case. -/
def composeApprovedTailoredResume (source : CvSourceDocument) (overlay : CvEvidenceOverlay)
    (currentSourceCvContentHash : String) (skills : List String)
    (projectSelection : Option CvProjectSelection) : ComposedTailoredResume :=
  composeFrom u (describeCvEvidenceOverlayGaps u overlay currentSourceCvContentHash) source
    overlay.facts overlay.wordingVariants currentSourceCvContentHash skills projectSelection

end VacancyRadar.Cv
