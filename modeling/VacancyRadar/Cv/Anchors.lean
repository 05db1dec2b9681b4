import VacancyRadar.Cv.EvidenceRuns
import VacancyRadar.Cv.Rebase
import VacancyRadar.Data.Cuts

/-!
# When an anchor goes stale

A fact about a role is anchored to the bullets of the role, which are kept as one text.  `describeStaleFactAnchor`
cuts the text at its line breaks and compares the lines with the bullets that the role has now.  As long as no
bullet has a line break in it, the lines are the bullets.
-/

namespace VacancyRadar.Cv

open Data

variable (u : Unicode) (digest : String → String)

/-! ## The law -/

def anchoredRole (source : Option CvSourceDocument) (parentId : String) : Option CvSourceExperienceEntry :=
  (source.filter fun _ => parentId ≠ "").bind fun source =>
    source.experience.find? fun entry => entry.id = parentId

def anchoredProject (source : Option CvSourceDocument) (parentId : String) : Option CvSourceProjectEntry :=
  (source.filter fun _ => parentId ≠ "").bind fun source =>
    source.projects.find? fun entry => entry.id = parentId

def BulletGone (before now : List String) : Prop := ∃ bullet ∈ before, bullet ≠ "" ∧ bullet ∉ now

def SkillGone (fact : CvEvidenceFact) (skills : List String) : Prop :=
  ∃ anchor, fact.anchor = some anchor ∧
    ∃ entry ∈ anchor.profileSkills, ∀ skill ∈ skills, skillKey u skill ≠ skillKey u entry.skill

def StaleExactly (role : CvSourceExperienceEntry) (fact : CvEvidenceFact) (current : CvCurrentInputs) : Prop :=
  (describeStaleFactAnchor u digest fact current).isSome ↔
    ∃ now, anchoredRole current.source fact.parentId = some now ∧
      (BulletGone role.bullets now.bullets ∨ SkillGone u fact current.skills)

/-! ## The condition -/

def LinesKept (bullet : String) (now : List String) : Prop :=
  ∀ line ∈ bullet.toList.splitOn '\n', line ≠ [] → String.ofList line ∈ now

structure LinesTell (before now : List String) : Prop where
  gone : BulletGone before now →
    "\n".intercalate now ≠ "\n".intercalate before ∧ ∃ bullet ∈ before, ¬ LinesKept bullet now
  kept : ¬ BulletGone before now →
    "\n".intercalate now = "\n".intercalate before ∨ ∀ bullet ∈ before, '\n' ∈ bullet.toList → LinesKept bullet now

def Tells (role : CvSourceExperienceEntry) (fact : CvEvidenceFact) (current : CvCurrentInputs) : Prop :=
  match anchoredRole current.source fact.parentId with
  | some now => SkillGone u fact current.skills ∨ LinesTell role.bullets now.bullets
  | none => anchoredProject current.source fact.parentId = none

/-! ## What is read -/

variable {u digest} {source : Option CvSourceDocument} {parentId : String} {role : CvSourceExperienceEntry}
  {before now : List String}

lemma readCvAnchorField_of_role (h : anchoredRole source parentId = some role) :
    readCvAnchorField source parentId =
      some ⟨.experienceBullets, "\n".intercalate role.bullets, role.bullets⟩ := by
  obtain ⟨document, hdocument, hrole⟩ := Option.bind_eq_some_iff.mp h
  rw [readCvAnchorField, hdocument, Option.bind_some, hrole]

lemma readCvAnchorField_of_no_role (h : anchoredRole source parentId = none) :
    readCvAnchorField source parentId = (anchoredProject source parentId).map fun project =>
      ⟨.projectDescription, project.description, [project.description]⟩ := by
  unfold anchoredRole at h
  unfold readCvAnchorField anchoredProject
  cases hdocument : source.filter fun _ => decide (parentId ≠ "") with
  | none => rfl
  | some document =>
    rw [hdocument, Option.bind_some] at h
    rw [Option.bind_some, Option.bind_some, h]

lemma digest_of_mem_anchoredSkills {inProfile seen skills : List String} {entry : CvFactSkillAnchor}
    (h : entry ∈ anchoredSkills u digest inProfile seen skills) :
    entry.digest = digest (skillKey u entry.skill) := by
  induction skills generalizing seen with
  | nil => simp [anchoredSkills] at h
  | cons skill rest ih =>
    simp only [anchoredSkills] at h
    split at h
    · exact ih h
    · rcases List.mem_cons.mp h with rfl | h
      · rfl
      · exact ih h

/-! ## Lines and bullets -/

lemma toList_intercalate_bullets (bullets : List String) :
    ("\n".intercalate bullets).toList = ['\n'].intercalate (bullets.map String.toList) := by
  rw [String.toList_intercalate]
  rfl

lemma any_lines_iff :
    (("\n".intercalate before).toList.splitOn '\n').any
        (fun bullet => bullet ≠ [] && bullet ∉ now.map String.toList) ↔
      ∃ bullet ∈ before, ¬ LinesKept bullet now := by
  rw [toList_intercalate_bullets, List.any_eq_true]
  by_cases hbefore : before = []
  · subst hbefore
    simp
  have hmap : before.map String.toList ≠ [] := by simpa using hbefore
  have hmem : ∀ line : List Char, line ∈ now.map String.toList ↔ String.ofList line ∈ now := by
    intro line
    constructor
    · intro h
      obtain ⟨bullet, hbullet, rfl⟩ := List.mem_map.mp h
      rwa [String.ofList_toList]
    · exact fun h => List.mem_map.mpr ⟨_, h, String.toList_ofList⟩
  rw [splitOn_intercalate_eq_cuts hmap]
  constructor
  · rintro ⟨line, hline, hgone⟩
    obtain ⟨piece, hpiece, hcut⟩ := mem_cuts.mp hline
    obtain ⟨bullet, hbullet, rfl⟩ := List.mem_map.mp hpiece
    have hgone : line ≠ [] ∧ line ∉ now.map String.toList := by simpa using hgone
    exact ⟨bullet, hbullet, fun hkept => hgone.2 ((hmem line).mpr (hkept line hcut hgone.1))⟩
  · rintro ⟨bullet, hbullet, hgone⟩
    obtain ⟨line, hcut, hne, hnot⟩ : ∃ line, line ∈ bullet.toList.splitOn '\n' ∧ line ≠ [] ∧
        String.ofList line ∉ now := by
      simpa [LinesKept] using hgone
    refine ⟨line, mem_cuts.mpr ⟨_, List.mem_map_of_mem hbullet, hcut⟩, ?_⟩
    have hnot' := mt (hmem line).mp hnot
    simp [hne, hnot']

lemma linesKept_iff {bullet : String} (h : '\n' ∉ bullet.toList) :
    LinesKept bullet now ↔ (bullet ≠ "" → bullet ∈ now) := by
  have hempty : bullet.toList = [] ↔ bullet = "" := String.toList_eq_nil_iff
  simp [LinesKept, List.splitOn_eq_singleton h, hempty]

/-- What the lines tell, as `describeStaleFactAnchor` compares them. -/
lemma linesTell_iff :
    LinesTell before now ↔
      (BulletGone before now ↔
        "\n".intercalate now ≠ "\n".intercalate before ∧ ∃ bullet ∈ before, ¬ LinesKept bullet now) := by
  have hplain : ¬ BulletGone before now → ∀ bullet ∈ before, '\n' ∉ bullet.toList → LinesKept bullet now := by
    intro hkept bullet hbullet hbreak
    rw [linesKept_iff hbreak]
    intro hne
    by_contra hnot
    exact hkept ⟨bullet, hbullet, hne, hnot⟩
  constructor
  · rintro ⟨hgone, hkept⟩
    refine ⟨hgone, ?_⟩
    rintro ⟨htext, bullet, hbullet, hline⟩
    by_contra hnone
    rcases hkept hnone with hsame | hlines
    · exact htext hsame
    · by_cases hbreak : '\n' ∈ bullet.toList
      · exact hline (hlines bullet hbullet hbreak)
      · exact hline (hplain hnone bullet hbullet hbreak)
  · intro hiff
    refine ⟨hiff.mp, fun hnone => ?_⟩
    by_contra hnot
    push Not at hnot
    obtain ⟨htext, bullet, hbullet, -, hline⟩ := hnot
    exact hnone (hiff.mpr ⟨htext, bullet, hbullet, hline⟩)

/-! ## The report -/

section

variable {fact : CvEvidenceFact} {document : CvDocumentRecord} {current : CvCurrentInputs} {backed skills : List String}

lemma isSome_missing_iff (hdigest : Function.Injective digest)
    (hanchor : fact.anchor = buildCvFactAnchor u digest source fact.parentId backed skills) {anchor : CvFactAnchor}
    (hfact : fact.anchor = some anchor) (inProfile : List String) :
    (anchor.profileSkills.find? fun entry =>
        entry.digest ∉ inProfile.map fun skill => digest (skillKey u skill)).isSome ↔
      SkillGone u fact inProfile := by
  have hentry : ∀ entry ∈ anchor.profileSkills, entry.digest = digest (skillKey u entry.skill) := by
    rw [hanchor, buildCvFactAnchor, Option.map_eq_some_iff] at hfact
    obtain ⟨read, -, rfl⟩ := hfact
    exact fun entry hmem => digest_of_mem_anchoredSkills hmem
  rw [List.find?_isSome]
  constructor
  · rintro ⟨entry, hmem, hmissing⟩
    refine ⟨anchor, hfact, entry, hmem, fun skill hskill heq => ?_⟩
    have hnot : entry.digest ∉ inProfile.map fun skill => digest (skillKey u skill) := of_decide_eq_true hmissing
    rw [hentry entry hmem, ← heq] at hnot
    exact hnot (List.mem_map.mpr ⟨skill, hskill, rfl⟩)
  · rintro ⟨anchor', hfact', entry, hmem, hgone⟩
    obtain rfl : anchor = anchor' := Option.some.inj (hfact.symm.trans hfact')
    refine ⟨entry, hmem, decide_eq_true fun hin => ?_⟩
    obtain ⟨skill, hskill, heq⟩ := List.mem_map.mp hin
    rw [hentry entry hmem] at heq
    exact hgone skill hskill (hdigest heq)

lemma buildCvFactAnchor_of_role (hrole : anchoredRole source fact.parentId = some role) :
    buildCvFactAnchor u digest source fact.parentId backed skills = some
      { parentId := fact.parentId
        field := .experienceBullets
        text := "\n".intercalate role.bullets
        digest := anchorFieldDigest digest .experienceBullets ("\n".intercalate role.bullets)
        profileSkills := anchoredSkills u digest (skills.map (skillKey u)) [] backed } := by
  rw [buildCvFactAnchor, readCvAnchorField_of_role hrole]
  rfl

lemma isSome_describeStaleFactAnchor (hdigest : Function.Injective digest)
    (hrole : anchoredRole source fact.parentId = some role)
    (hanchor : fact.anchor = buildCvFactAnchor u digest source fact.parentId backed skills)
    {now : CvSourceExperienceEntry} (hnow : anchoredRole current.source fact.parentId = some now) :
    (describeStaleFactAnchor u digest fact current).isSome ↔
      ("\n".intercalate now.bullets ≠ "\n".intercalate role.bullets ∧
          ∃ bullet ∈ role.bullets, ¬ LinesKept bullet now.bullets) ∨
        SkillGone u fact current.skills := by
  have hfact := hanchor.trans (buildCvFactAnchor_of_role hrole)
  have hchanged : anchorFieldDigest digest .experienceBullets ("\n".intercalate now.bullets) =
      anchorFieldDigest digest .experienceBullets ("\n".intercalate role.bullets) ↔
        "\n".intercalate now.bullets = "\n".intercalate role.bullets := by
    refine ⟨fun h => ?_, fun h => by rw [h]⟩
    have happend := hdigest h
    simpa [String.toList_append] using happend
  have hmissing := isSome_missing_iff hdigest hanchor hfact current.skills
  simp only [describeStaleFactAnchor, hfact, Option.bind_some, readCvAnchorField_of_role hnow, not_true_eq_false,
    if_false, reduceCtorEq, and_false, ne_eq, hchanged] at hmissing ⊢
  split
  · next hlines =>
    have hgone : ∃ bullet ∈ role.bullets, ¬ LinesKept bullet now.bullets :=
      any_lines_iff.mp (by convert hlines.2)
    simp only [Option.isSome_some, true_iff]
    exact .inl ⟨hlines.1, hgone⟩
  · next hlines =>
    have hnone : ¬ (¬ "\n".intercalate now.bullets = "\n".intercalate role.bullets ∧
        ∃ bullet ∈ role.bullets, ¬ LinesKept bullet now.bullets) := fun h =>
      hlines ⟨h.1, by convert any_lines_iff.mpr h.2⟩
    rw [Option.isSome_map, hmissing]
    simp only [hnone, false_or]

end

/-- **Anchors of roles go stale when their bullets do, if the lines tell.**  A fact anchored to a
role is reported exactly if the role is still there and a bullet or a skill is gone, if and only if
no project has taken the role's id over, and the lines tell what the bullets tell (or a skill is
gone anyway). -/
theorem staleExactly_iff (u : Unicode) (digest : String → String) (hdigest : Function.Injective digest)
    (before : CvSourceDocument) (role : CvSourceExperienceEntry) (backed skills : List String)
    (fact : CvEvidenceFact) (current : CvCurrentInputs)
    (hrole : anchoredRole (some before) fact.parentId = some role)
    (hanchor : fact.anchor = buildCvFactAnchor u digest (some before) fact.parentId backed skills) :
    StaleExactly u digest role fact current ↔ Tells u role fact current := by
  unfold StaleExactly Tells
  cases hnow : anchoredRole current.source fact.parentId with
  | some now =>
    rw [isSome_describeStaleFactAnchor hdigest hrole hanchor hnow]
    simp only [Option.some.injEq, exists_eq_left', linesTell_iff]
    by_cases hskill : SkillGone u fact current.skills
    · simp only [hskill, or_true, true_or]
    · simp only [hskill, or_false, false_or]
      exact ⟨Iff.symm, Iff.symm⟩
  | none =>
    have hfact := hanchor.trans (buildCvFactAnchor_of_role hrole)
    cases hproject : anchoredProject current.source fact.parentId with
    | none => simp [describeStaleFactAnchor, hfact, readCvAnchorField_of_no_role hnow, hproject]
    | some project => simp [describeStaleFactAnchor, hfact, readCvAnchorField_of_no_role hnow, hproject]

/-! ## A bullet of two lines -/

def engineer (bullets : List String) : CvSourceExperienceEntry where
  id := "experience-1"
  company := "Acme"
  title := "Engineer"
  bullets := bullets

def oneRole (bullets : List String) : CvSourceDocument where
  experience := [engineer bullets]
  reviewedAt := "2026-05-01T09:00:00.000Z"

def twoLineFact : CvEvidenceFact where
  factId := "fact-1"
  parentId := "experience-1"
  parentType := .experience
  anchor := buildCvFactAnchor ascii id (some (oneRole ["Led a team\nShipped it"])) "experience-1" [] []

def oneMore : CvCurrentInputs where
  source := some (oneRole ["Led a team\nShipped it", "Cut costs"])
  skills := []
  profileSummary := ""
  textDigest := ""

/-- The role is as it was: the law holds. -/
theorem staleExactly_same :
    StaleExactly ascii id (engineer ["Led a team\nShipped it"]) twoLineFact
      { oneMore with source := some (oneRole ["Led a team\nShipped it"]) } := by
  refine (staleExactly_iff ascii id Function.injective_id (oneRole ["Led a team\nShipped it"]) _ [] [] twoLineFact
    _ rfl rfl).mpr (.inr ?_)
  exact ⟨fun hgone => absurd hgone (by simp [BulletGone, engineer]), fun _ => .inl rfl⟩

/-- The role has another bullet, and no bullet is gone, but the fact is reported. -/
theorem not_staleExactly_oneMore :
    ¬ ∀ (u : Unicode) (digest : String → String), Function.Injective digest →
      ∀ (before : CvSourceDocument) (role : CvSourceExperienceEntry) (backed skills : List String)
        (fact : CvEvidenceFact) (current : CvCurrentInputs), anchoredRole (some before) fact.parentId = some role →
          fact.anchor = buildCvFactAnchor u digest (some before) fact.parentId backed skills →
            StaleExactly u digest role fact current := by
  intro hall
  have hstale := hall ascii id Function.injective_id (oneRole ["Led a team\nShipped it"]) _ [] [] twoLineFact
    oneMore rfl rfl
  have hreported : (describeStaleFactAnchor ascii id twoLineFact oneMore).isSome := by decide
  obtain ⟨now, hnow, hgone | ⟨anchor, hanchor, entry, hentry, -⟩⟩ := hstale.mp hreported
  · obtain rfl := Option.some.inj hnow
    obtain ⟨bullet, hbullet, -, hnot⟩ := hgone
    obtain rfl := List.mem_singleton.mp hbullet
    exact hnot List.mem_cons_self
  · obtain rfl := Option.some.inj hanchor
    exact absurd hentry List.not_mem_nil

end VacancyRadar.Cv
