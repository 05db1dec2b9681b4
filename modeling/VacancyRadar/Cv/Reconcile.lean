import VacancyRadar.Cv.Compose
import VacancyRadar.Cv.EvidenceRuns

/-!
# A draft that is forced back onto the source

`reconcileTailoredResumeWithSource`: what a model made of a CV is matched with the reviewed source by names, and
everything but the bullets comes from the source.  A name that the source has once is matched as it should be.  A
name that it has twice is matched with the record that comes last.
-/

namespace VacancyRadar.Cv

open Data List

variable (u : Unicode)

/-! ## The code -/

def orInstead (text instead : String) : String := if text = "" then instead else text

def roleKey (company title : String) : String := matchKey u company ++ "|" ++ matchKey u title

def sourceRoleKey (role : CvSourceExperienceEntry) : String := roleKey u role.company role.title

def entryKey (entry : ResumeExperienceEntry) : String := roleKey u entry.company entry.title

def projectKey (project : CvSourceProjectEntry) : String := matchKey u project.name

def educationKey (entry : CvSourceEducationEntry) : String :=
  matchKey u entry.institution ++ "|" ++ matchKey u entry.credential

def bulletsPerEntry : ℕ := 30

def returnedAs (role : CvSourceExperienceEntry) (entry : ResumeExperienceEntry) : ResumeExperienceEntry :=
  { sourceExperienceToResumeEntry role with
    bullets := if entry.bullets = [] then role.bullets else entry.bullets.take bulletsPerEntry }

def reconcileExperience (source : List CvSourceExperienceEntry) :
    (seen : List String) → List ResumeExperienceEntry → List ResumeExperienceEntry × List String
  | _, [] => ([], [])
  | seen, entry :: rest =>
    match lastOf (sourceRoleKey u) source (entryKey u entry) with
    | none =>
      let after := reconcileExperience source seen rest
      (after.1, ("experience \"" ++ orInstead entry.title "(untitled)" ++ " at " ++
        orInstead entry.company "(no employer)" ++ "\" is not in your CV") :: after.2)
    | some role =>
      if entryKey u entry ∈ seen then reconcileExperience source seen rest
      else
        let after := reconcileExperience source (entryKey u entry :: seen) rest
        (returnedAs role entry :: after.1, after.2)

def pushKey (ordered : List String) (key : String) : List String :=
  if key ∈ ordered then ordered else ordered ++ [key]

def reconcileProjects (source : CvSourceDocument) :
    (ordered : List String) → List ResumeProjectEntry → List String × List String
  | ordered, [] => (ordered, [])
  | ordered, project :: rest =>
    let key := matchKey u project.name
    if lastOf (projectKey u) (selectSourceProjects source) key = none then
      let after := reconcileProjects source ordered rest
      (after.1,
        (if source.projects.any fun candidate => matchKey u candidate.name = key then
          "project \"" ++ project.name ++ "\" is outside the " ++ toString source.maxProjects ++
            " you chose to include"
        else "project \"" ++ orInstead project.name "(unnamed)" ++ "\" is not in your CV") :: after.2)
    else reconcileProjects source (pushKey ordered key) rest

def orderedKeys (source : CvSourceDocument) (projects : List ResumeProjectEntry) : List String :=
  (((selectSourceProjects source).filter CvSourceProjectEntry.pinned).map (projectKey u)).foldl pushKey
    (reconcileProjects u source [] projects).1

def reconcileEducation (source education : List CvSourceEducationEntry) : List CvSourceEducationEntry :=
  education.filterMap fun entry => lastOf (educationKey u) source (educationKey u entry)

def droppedEducation (source education : List CvSourceEducationEntry) : List String :=
  (education.filter fun entry => lastOf (educationKey u) source (educationKey u entry) = none).map fun entry =>
    "qualification \"" ++ orInstead entry.credential "(unnamed)" ++ "\" is not in your CV"

structure ReconciledTailoredResume where
  resume : TailoredResume
  dropped : List String

def reconcileTailoredResumeWithSource (tailored : TailoredResume) (source : CvSourceDocument) :
    ReconciledTailoredResume where
  resume :=
    { contact := source.contact
      summary := tailored.summary
      experience := (reconcileExperience u source.experience [] tailored.experience).1
      projects := ((orderedKeys u source tailored.projects).filterMap
        (lastOf (projectKey u) (selectSourceProjects source))).map sourceProjectToResumeEntry
      skills := tailored.skills
      education := reconcileEducation u source.education tailored.education }
  dropped :=
    (reconcileExperience u source.experience [] tailored.experience).2 ++
      (reconcileProjects u source [] tailored.projects).2 ++
        droppedEducation u source.education tailored.education

/-! ## The law -/

def ResumeExperienceEntry.identity (entry : ResumeExperienceEntry) : ResumeExperienceEntry :=
  { entry with bullets := [] }

def nameOf (entry : ResumeExperienceEntry) : String × String :=
  (matchKey u entry.company, matchKey u entry.title)

/-- The employer, the title and all else of a role but its bullets. -/
def stintOf (entry : ResumeExperienceEntry) : (String × String) × String × Engagement × String :=
  (nameOf u entry, entry.dates, entry.engagement, entry.client)

section

variable {α : Type} [DecidableEq α]

def rolesKnown (known : ResumeExperienceEntry → α) (source : List CvSourceExperienceEntry) (as : α) :
    List CvSourceExperienceEntry :=
  source.filter fun role => known (sourceExperienceToResumeEntry role) = as

def entriesKnown (known : ResumeExperienceEntry → α) (draft : List ResumeExperienceEntry) (as : α) :
    List ResumeExperienceEntry :=
  draft.filter fun entry => known entry = as

def Listed (known : ResumeExperienceEntry → α) (draft : List ResumeExperienceEntry)
    (source : List CvSourceExperienceEntry) (returned : List ResumeExperienceEntry) : Prop :=
  ∀ as, (rolesKnown known source as).length = (entriesKnown known draft as).length →
    ∃ entries, entries ~ entriesKnown known draft as ∧
      (rolesKnown known source as).zipWith returnedAs entries <+~ returned

def RolesApart (known : ResumeExperienceEntry → α) (draft : List ResumeExperienceEntry)
    (source : List CvSourceExperienceEntry) : Prop :=
  ∀ as, (rolesKnown known source as).length = (entriesKnown known draft as).length →
    (rolesKnown known source as).length ≤ 1 ∧
      ∀ role ∈ rolesKnown known source as, ∀ entry ∈ entriesKnown known draft as, ∃ last first,
        lastOf (sourceRoleKey u) source (sourceRoleKey u role) = some last ∧
          (draft.find? fun other => entryKey u other = entryKey u entry) = some first ∧
            returnedAs last first = returnedAs role entry

end

def pinnedProjects (source : CvSourceDocument) : List CvSourceProjectEntry :=
  source.projects.filter CvSourceProjectEntry.pinned

/-- A resume is forced back onto the source: each of its entries is a record of the source, and no record is there
twice; the roles that the draft lists are there, each with what is its own, however they are known; what is pinned
is there; and there are not too many projects. -/
structure ForcedBack (draft : TailoredResume) (source : CvSourceDocument) (resume : TailoredResume) : Prop where
  roles : resume.experience.map ResumeExperienceEntry.identity <+~
    source.experience.map fun role => (sourceExperienceToResumeEntry role).identity
  projects : resume.projects <+~ source.projects.map sourceProjectToResumeEntry
  education : resume.education <+~ source.education
  named : Listed (nameOf u) draft.experience source.experience resume.experience
  stints : Listed (stintOf u) draft.experience source.experience resume.experience
  pinned : (pinnedProjects source).map sourceProjectToResumeEntry <+~ resume.projects
  capped : source.maxProjects ≠ 0 →
    resume.projects.length ≤ max source.maxProjects (pinnedProjects source).length

structure NamesTell (draft : TailoredResume) (source : CvSourceDocument) : Prop where
  /-- No qualification that a key stands for is listed more often than the source has it. -/
  education : ∀ record ∈ source.education,
    lastOf (educationKey u) source.education (educationKey u record) = some record →
      draft.education.countP (fun entry => educationKey u entry = educationKey u record) ≤
        source.education.count record
  named : RolesApart u (nameOf u) draft.experience source.experience
  stints : RolesApart u (stintOf u) draft.experience source.experience
  /-- No two projects that are pinned have the same name, and none that comes after them has it. -/
  pinned : ((pinnedProjects source).map (projectKey u)).Nodup ∧
    ∀ project ∈ pinnedProjects source, ∃ last,
      lastOf (projectKey u) (selectSourceProjects source) (projectKey u project) = some last ∧
        sourceProjectToResumeEntry last = sourceProjectToResumeEntry project

/-! ## Lists -/

section

variable {α β : Type} {l m : List α} {f : α → β}

lemma map_subperm (f : α → β) (h : l <+~ m) : l.map f <+~ m.map f :=
  let ⟨between, hperm, hsub⟩ := h
  ⟨between.map f, hperm.map f, hsub.map f⟩

lemma nodup_of_subperm (h : l <+~ m) (hnodup : m.Nodup) : l.Nodup :=
  let ⟨_, hperm, hsub⟩ := h
  hperm.nodup_iff.mp (hnodup.sublist hsub)

lemma length_le_one_of_nodup_map (hnodup : (l.map f).Nodup) (h : ∀ a ∈ l, ∀ b ∈ l, f a = f b) :
    l.length ≤ 1 := by
  match l with
  | [] => simp
  | [_] => simp
  | a :: b :: rest =>
    have hab : f a = f b := h a (by simp) b (by simp)
    simp [hab] at hnodup

end

/-! ## Roles -/

variable {u} {draft : List ResumeExperienceEntry} {source : List CvSourceExperienceEntry} {seen : List String}
  {role last : CvSourceExperienceEntry} {entry first returned : ResumeExperienceEntry} {key : String}

@[simp]
lemma entryKey_returnedAs : entryKey u (returnedAs role entry) = sourceRoleKey u role := rfl

lemma map_entryKey_zipWith {roles : List CvSourceExperienceEntry} {entries : List ResumeExperienceEntry}
    (h : roles.length = entries.length) :
    (roles.zipWith returnedAs entries).map (entryKey u) = roles.map (sourceRoleKey u) := by
  induction roles generalizing entries with
  | nil => simp
  | cons role roles ih =>
    cases entries with
    | nil => simp at h
    | cons entry entries =>
      rw [List.zipWith_cons_cons, List.map_cons, List.map_cons, entryKey_returnedAs, ih (by simpa using h)]

lemma mem_reconcileExperience_iff :
    returned ∈ (reconcileExperience u source seen draft).1 ↔
      ∃ key, key ∉ seen ∧ ∃ last first, lastOf (sourceRoleKey u) source key = some last ∧
        (draft.find? fun entry => entryKey u entry = key) = some first ∧ returned = returnedAs last first := by
  induction draft generalizing seen with
  | nil => simp [reconcileExperience]
  | cons entry rest ih =>
    have hskip : ∀ key, key ≠ entryKey u entry →
        ((entry :: rest).find? fun other => entryKey u other = key) =
          rest.find? fun other => entryKey u other = key := by
      intro key hkey
      exact List.find?_cons_of_neg (by simpa using fun h => hkey h.symm)
    have hhead : ((entry :: rest).find? fun other => entryKey u other = entryKey u entry) = some entry :=
      List.find?_cons_of_pos (by simp)
    cases hlast : lastOf (sourceRoleKey u) source (entryKey u entry) with
    | none =>
      simp only [reconcileExperience, hlast, ih]
      constructor
      · rintro ⟨key, hseen, last, first, hsource, hdraft, rfl⟩
        have hkey : key ≠ entryKey u entry := by
          rintro rfl
          simp [hlast] at hsource
        exact ⟨key, hseen, last, first, hsource, by rw [hskip key hkey, hdraft], rfl⟩
      · rintro ⟨key, hseen, last, first, hsource, hdraft, rfl⟩
        have hkey : key ≠ entryKey u entry := by
          rintro rfl
          simp [hlast] at hsource
        exact ⟨key, hseen, last, first, hsource, by rw [← hskip key hkey, hdraft], rfl⟩
    | some role =>
      simp only [reconcileExperience, hlast]
      split
      · next hin =>
        rw [ih]
        constructor
        · rintro ⟨key, hseen, last, first, hsource, hdraft, rfl⟩
          have hkey : key ≠ entryKey u entry := fun h => hseen (h ▸ hin)
          exact ⟨key, hseen, last, first, hsource, by rw [hskip key hkey, hdraft], rfl⟩
        · rintro ⟨key, hseen, last, first, hsource, hdraft, rfl⟩
          have hkey : key ≠ entryKey u entry := fun h => hseen (h ▸ hin)
          exact ⟨key, hseen, last, first, hsource, by rw [← hskip key hkey, hdraft], rfl⟩
      · next hin =>
        rw [List.mem_cons, ih]
        constructor
        · rintro (rfl | ⟨key, hseen, last, first, hsource, hdraft, rfl⟩)
          · exact ⟨_, hin, role, entry, hlast, hhead, rfl⟩
          · rw [List.mem_cons, not_or] at hseen
            exact ⟨key, hseen.2, last, first, hsource, by rw [hskip key hseen.1, hdraft], rfl⟩
        · rintro ⟨key, hseen, last, first, hsource, hdraft, rfl⟩
          by_cases hkey : key = entryKey u entry
          · subst hkey
            obtain rfl := Option.some.inj (hlast.symm.trans hsource)
            obtain rfl := Option.some.inj (hhead.symm.trans hdraft)
            exact .inl rfl
          · exact .inr ⟨key, by simp [hkey, hseen], last, first, hsource, by rw [← hskip key hkey, hdraft], rfl⟩

lemma not_mem_seen_of_returned (h : returned ∈ (reconcileExperience u source seen draft).1) :
    entryKey u returned ∉ seen := by
  obtain ⟨key, hseen, last, first, hsource, -, rfl⟩ := mem_reconcileExperience_iff.mp h
  rwa [entryKey_returnedAs, (mem_of_lastOf hsource).2]

lemma nodup_keys_reconcileExperience :
    ((reconcileExperience u source seen draft).1.map (entryKey u)).Nodup := by
  induction draft generalizing seen with
  | nil => simp [reconcileExperience]
  | cons entry rest ih =>
    cases hlast : lastOf (sourceRoleKey u) source (entryKey u entry) with
    | none => simpa only [reconcileExperience, hlast] using ih
    | some role =>
      simp only [reconcileExperience, hlast]
      split
      · exact ih
      · rw [List.map_cons, List.nodup_cons, entryKey_returnedAs, (mem_of_lastOf hlast).2]
        refine ⟨fun hmem => ?_, ih⟩
        obtain ⟨other, hother, hkey⟩ := List.mem_map.mp hmem
        exact not_mem_seen_of_returned hother (hkey ▸ List.mem_cons_self)

lemma identities_subperm :
    (reconcileExperience u source seen draft).1.map ResumeExperienceEntry.identity <+~
      source.map fun role => (sourceExperienceToResumeEntry role).identity := by
  refine List.subperm_of_subset ?_ ?_
  · refine List.Nodup.of_map (entryKey u) ?_
    rw [List.map_map]
    exact nodup_keys_reconcileExperience
  · intro identity hmem
    obtain ⟨returned, hreturned, rfl⟩ := List.mem_map.mp hmem
    obtain ⟨key, -, last, first, hsource, -, rfl⟩ := mem_reconcileExperience_iff.mp hreturned
    exact List.mem_map.mpr ⟨last, (mem_of_lastOf hsource).1, rfl⟩

section

variable {α : Type} [DecidableEq α] {known : ResumeExperienceEntry → α}

lemma listed_iff (hknown : ∀ a b, known a = known b → entryKey u a = entryKey u b) :
    Listed known draft source (reconcileExperience u source [] draft).1 ↔ RolesApart u known draft source := by
  refine forall_congr' fun as => imp_congr_right fun hlength => ?_
  have hrole : ∀ role ∈ rolesKnown known source as, known (sourceExperienceToResumeEntry role) = as :=
    fun role hmem => by simpa using (List.mem_filter.mp hmem).2
  have hentry : ∀ entry ∈ entriesKnown known draft as, known entry = as :=
    fun entry hmem => by simpa using (List.mem_filter.mp hmem).2
  constructor
  · rintro ⟨entries, hperm, hsub⟩
    have hone : (rolesKnown known source as).length ≤ 1 := by
      -- of one key, one entry is returned
      have hkeys : ((rolesKnown known source as).map (sourceRoleKey u)).Nodup := by
        rw [← map_entryKey_zipWith (hlength.trans hperm.length_eq.symm)]
        exact nodup_of_subperm (map_subperm (entryKey u) hsub) nodup_keys_reconcileExperience
      refine length_le_one_of_nodup_map hkeys fun a ha b hb => ?_
      exact hknown (sourceExperienceToResumeEntry a) (sourceExperienceToResumeEntry b)
        ((hrole a ha).trans (hrole b hb).symm)
    refine ⟨hone, fun role hmem entry hin => ?_⟩
    obtain ⟨role', hroles⟩ : ∃ a, rolesKnown known source as = [a] :=
      List.length_eq_one_iff.mp (le_antisymm hone (List.length_pos_of_mem hmem))
    obtain ⟨entry', hentries⟩ : ∃ a, entriesKnown known draft as = [a] :=
      List.length_eq_one_iff.mp (by rw [← hlength, hroles]; rfl)
    obtain rfl : role = role' := by simpa [hroles] using hmem
    obtain rfl : entry = entry' := by simpa [hentries] using hin
    rw [hentries, List.perm_singleton] at hperm
    rw [hroles, hperm] at hsub
    obtain ⟨key, -, last, first, hsource, hdraft, heq⟩ :=
      mem_reconcileExperience_iff.mp (List.singleton_subperm_iff.mp hsub)
    have hkey : key = sourceRoleKey u role := by
      have hreturned : entryKey u (returnedAs last first) = key := (mem_of_lastOf hsource).2
      rw [← hreturned, ← heq, entryKey_returnedAs]
    have hsame : sourceRoleKey u role = entryKey u entry := hknown (sourceExperienceToResumeEntry role) entry
      ((hrole role hmem).trans (hentry entry hin).symm)
    exact ⟨last, first, hkey ▸ hsource, by rw [← hsame, ← hkey, hdraft], heq.symm⟩
  · rintro ⟨hone, hkeys⟩
    refine ⟨_, Perm.refl _, ?_⟩
    match hroles : rolesKnown known source as, hentries : entriesKnown known draft as with
    | [], _ => exact List.nil_subperm
    | _ :: _ :: _, _ => simp [hroles] at hone
    | [_], [] => simp [hroles, hentries] at hlength
    | [_], _ :: _ :: _ => simp [hroles, hentries] at hlength
    | [role], [entry] =>
      have hmem : role ∈ rolesKnown known source as := by simp [hroles]
      have hin : entry ∈ entriesKnown known draft as := by simp [hentries]
      obtain ⟨last, first, hsource, hdraft, heq⟩ := hkeys role hmem entry hin
      have hsame : sourceRoleKey u role = entryKey u entry := hknown (sourceExperienceToResumeEntry role) entry
        ((hrole role hmem).trans (hentry entry hin).symm)
      exact List.singleton_subperm_iff.mpr (mem_reconcileExperience_iff.mpr
        ⟨_, List.not_mem_nil, last, first, hsource, by rw [hsame, hdraft], heq.symm⟩)

end

lemma entryKey_eq_of_nameOf_eq {a b : ResumeExperienceEntry} (h : nameOf u a = nameOf u b) :
    entryKey u a = entryKey u b := by
  obtain ⟨hcompany, htitle⟩ := Prod.mk.inj h
  simp [entryKey, roleKey, hcompany, htitle]

lemma entryKey_eq_of_stintOf_eq {a b : ResumeExperienceEntry} (h : stintOf u a = stintOf u b) :
    entryKey u a = entryKey u b :=
  entryKey_eq_of_nameOf_eq (Prod.mk.inj h).1

/-! ## Qualifications -/

section

variable {reviewed education : List CvSourceEducationEntry}

lemma count_reconcileEducation (record : CvSourceEducationEntry) :
    (reconcileEducation u reviewed education).count record =
      if lastOf (educationKey u) reviewed (educationKey u record) = some record then
        education.countP fun entry => educationKey u entry = educationKey u record
      else 0 := by
  rw [reconcileEducation, List.count_filterMap]
  split
  · next hlast =>
    refine List.countP_congr fun entry _ => ?_
    constructor
    · intro h
      have hentry := mem_of_lastOf (beq_iff_eq.mp h)
      simpa using hentry.2.symm
    · intro h
      rw [of_decide_eq_true h, hlast]
      exact beq_self_eq_true _
  · next hlast =>
    refine List.countP_eq_zero.mpr fun entry _ h => hlast ?_
    have hentry := beq_iff_eq.mp h
    rwa [(mem_of_lastOf hentry).2]

lemma education_subperm_iff :
    reconcileEducation u reviewed education <+~ reviewed ↔
      ∀ record ∈ reviewed, lastOf (educationKey u) reviewed (educationKey u record) = some record →
        education.countP (fun entry => educationKey u entry = educationKey u record) ≤ reviewed.count record := by
  constructor
  · intro h record _ hlast
    have hcount := h.count_le record
    rwa [count_reconcileEducation, if_pos hlast] at hcount
  · intro h
    refine List.subperm_ext_iff.mpr fun record hmem => ?_
    obtain ⟨entry, -, hentry⟩ := List.mem_filterMap.mp hmem
    obtain ⟨hrecord, hkey⟩ := mem_of_lastOf hentry
    have hlast : lastOf (educationKey u) reviewed (educationKey u record) = some record := by rwa [hkey]
    rw [count_reconcileEducation, if_pos hlast]
    exact h record hrecord hlast

end

/-! ## Projects -/

section

variable {document : CvSourceDocument} {projects : List ResumeProjectEntry} {ordered keys : List String}

lemma nodup_pushKey (h : ordered.Nodup) : (pushKey ordered key).Nodup := by
  unfold pushKey
  split
  · exact h
  · next hkey => exact List.nodup_append.mpr ⟨h, by simp, by rintro a ha b hb rfl; simp_all⟩

lemma mem_foldl_pushKey : key ∈ keys.foldl pushKey ordered ↔ key ∈ ordered ∨ key ∈ keys := by
  induction keys generalizing ordered with
  | nil => simp
  | cons first rest ih =>
    have hpush : key ∈ pushKey ordered first ↔ key ∈ ordered ∨ key = first := by
      unfold pushKey
      split
      · next hfirst => exact ⟨.inl, fun h => h.elim id fun heq => heq ▸ hfirst⟩
      · simp
    rw [List.foldl_cons, ih, hpush, List.mem_cons, or_assoc]

lemma nodup_foldl_pushKey (h : ordered.Nodup) : (keys.foldl pushKey ordered).Nodup := by
  induction keys generalizing ordered with
  | nil => exact h
  | cons first rest ih => exact ih (nodup_pushKey h)

lemma nodup_reconcileProjects (h : ordered.Nodup) : (reconcileProjects u document ordered projects).1.Nodup := by
  induction projects generalizing ordered with
  | nil => exact h
  | cons project rest ih =>
    simp only [reconcileProjects]
    split
    · exact ih h
    · exact ih (nodup_pushKey h)

lemma nodup_orderedKeys : (orderedKeys u document projects).Nodup :=
  nodup_foldl_pushKey (nodup_reconcileProjects List.nodup_nil)

lemma filter_pinned_selectSourceProjects :
    (selectSourceProjects document).filter CvSourceProjectEntry.pinned = pinnedProjects document := by
  have hpinned : (pinnedProjects document).filter CvSourceProjectEntry.pinned = pinnedProjects document := by
    simp [pinnedProjects, List.filter_filter]
  have hrest : ∀ rest, rest <+ document.projects.filter (fun project => !project.pinned) →
      rest.filter CvSourceProjectEntry.pinned = [] := by
    intro rest hsub
    refine List.filter_eq_nil_iff.mpr fun project hproject => ?_
    simpa using (List.mem_filter.mp (hsub.subset hproject)).2
  unfold selectSourceProjects
  split
  · rw [List.filter_append, hrest _ (List.Sublist.refl _), List.append_nil]
    exact hpinned
  · rw [List.filter_append, hrest _ (List.take_sublist _ _), List.append_nil]
    exact hpinned

lemma selectSourceProjects_subperm : selectSourceProjects document <+~ document.projects := by
  have hperm := List.filter_append_perm CvSourceProjectEntry.pinned document.projects
  unfold selectSourceProjects
  split
  · exact hperm.subperm
  · exact ((List.take_sublist _ _).append_left _).subperm.trans hperm.subperm

lemma length_selectSourceProjects_le (h : document.maxProjects ≠ 0) :
    (selectSourceProjects document).length ≤ max document.maxProjects (pinnedProjects document).length := by
  have hpinned : pinnedProjects document = document.projects.filter fun project => project.pinned := rfl
  rw [selectSourceProjects, if_neg h, List.length_append, List.length_take, hpinned]
  omega

def returnedProjects (u : Unicode) (document : CvSourceDocument) (projects : List ResumeProjectEntry) :
    List CvSourceProjectEntry :=
  (orderedKeys u document projects).filterMap (lastOf (projectKey u) (selectSourceProjects document))

lemma map_filterMap_lastOf_sublist {α : Type} (id : α → String) (entries : List α) (keys : List String) :
    (keys.filterMap (lastOf id entries)).map id <+ keys := by
  induction keys with
  | nil => simp
  | cons key rest ih =>
    cases hlast : lastOf id entries key with
    | none =>
      rw [List.filterMap_cons_none hlast]
      exact ih.cons key
    | some entry =>
      rw [List.filterMap_cons_some hlast, List.map_cons, (mem_of_lastOf hlast).2]
      exact ih.cons_cons key

lemma nodup_keys_returnedProjects : ((returnedProjects u document projects).map (projectKey u)).Nodup :=
  nodup_orderedKeys.sublist (map_filterMap_lastOf_sublist _ _ _)

lemma returnedProjects_subperm : returnedProjects u document projects <+~ selectSourceProjects document := by
  refine List.subperm_of_subset nodup_keys_returnedProjects.of_map fun project hproject => ?_
  obtain ⟨key, -, hlast⟩ := List.mem_filterMap.mp hproject
  exact (mem_of_lastOf hlast).1

lemma pinned_subperm_iff :
    (pinnedProjects document).map sourceProjectToResumeEntry <+~
        (returnedProjects u document projects).map sourceProjectToResumeEntry ↔
      ((pinnedProjects document).map (projectKey u)).Nodup ∧
        ∀ project ∈ pinnedProjects document, ∃ last,
          lastOf (projectKey u) (selectSourceProjects document) (projectKey u project) = some last ∧
            sourceProjectToResumeEntry last = sourceProjectToResumeEntry project := by
  have hkey : ∀ projects : List CvSourceProjectEntry,
      (projects.map sourceProjectToResumeEntry).map (fun entry => matchKey u entry.name) =
        projects.map (projectKey u) := fun projects => List.map_map
  constructor
  · intro h
    constructor
    · have hkeys := map_subperm (fun entry => matchKey u entry.name) h
      rw [hkey, hkey] at hkeys
      exact nodup_of_subperm hkeys nodup_keys_returnedProjects
    · intro project hproject
      obtain ⟨last, hreturned, heq⟩ := List.mem_map.mp (h.subset (List.mem_map_of_mem hproject))
      obtain ⟨key, -, hlast⟩ := List.mem_filterMap.mp hreturned
      have hname : projectKey u project = projectKey u last := congrArg (matchKey u)
        (congrArg ResumeProjectEntry.name heq.symm)
      exact ⟨last, by rw [hname, (mem_of_lastOf hlast).2, hlast], heq⟩
  · rintro ⟨hnodup, hlast⟩
    refine List.subperm_of_subset (List.Nodup.of_map (fun entry => matchKey u entry.name) ?_) ?_
    · rwa [hkey]
    · intro entry hentry
      obtain ⟨project, hproject, rfl⟩ := List.mem_map.mp hentry
      obtain ⟨last, hsome, heq⟩ := hlast project hproject
      refine List.mem_map.mpr ⟨last, List.mem_filterMap.mpr ⟨projectKey u project, ?_, hsome⟩, heq⟩
      rw [orderedKeys, mem_foldl_pushKey, filter_pinned_selectSourceProjects]
      exact .inr (List.mem_map_of_mem hproject)

end

/-- **A draft is forced back onto the source if and only if no name that counts is there twice**: no
key stands for two listed roles, or for another role or entry than the listed one, no qualification
is listed more often than the source has it, and no two pinned projects have one name. -/
theorem forcedBack_iff (u : Unicode) (draft : TailoredResume) (source : CvSourceDocument) :
    ForcedBack u draft source (reconcileTailoredResumeWithSource u draft source).resume ↔
      NamesTell u draft source := by
  constructor
  · intro h
    exact
      { education := education_subperm_iff.mp h.education
        named := (listed_iff fun _ _ => entryKey_eq_of_nameOf_eq).mp h.named
        stints := (listed_iff fun _ _ => entryKey_eq_of_stintOf_eq).mp h.stints
        pinned := pinned_subperm_iff.mp h.pinned }
  · intro h
    exact
      { roles := identities_subperm
        projects := map_subperm _ (returnedProjects_subperm.trans selectSourceProjects_subperm)
        education := education_subperm_iff.mpr h.education
        named := (listed_iff fun _ _ => entryKey_eq_of_nameOf_eq).mpr h.named
        stints := (listed_iff fun _ _ => entryKey_eq_of_stintOf_eq).mpr h.stints
        pinned := pinned_subperm_iff.mpr h.pinned
        capped := by
          intro hmax
          have hreturned : (returnedProjects u source draft.projects).length ≤
              (selectSourceProjects source).length := returnedProjects_subperm.length_le
          calc ((returnedProjects u source draft.projects).map sourceProjectToResumeEntry).length
              = (returnedProjects u source draft.projects).length := List.length_map _
            _ ≤ (selectSourceProjects source).length := hreturned
            _ ≤ max source.maxProjects (pinnedProjects source).length := length_selectSourceProjects_le hmax }

/-! ## Two stints -/

def stint (id dates bullet : String) : CvSourceExperienceEntry where
  id := id
  company := "Acme"
  title := "Engineer"
  dates := dates
  bullets := [bullet]

def twoStints : CvSourceDocument where
  experience := [stint "experience-1" "2022-2024" "Ran the billing rewrite",
    stint "experience-2" "2015-2017" "Fixed printers"]
  reviewedAt := "2026-05-01T09:00:00.000Z"

def bothStints : TailoredResume where
  contact := {}
  summary := ""
  experience := twoStints.experience.map sourceExperienceToResumeEntry
  projects := []
  skills := []
  education := []

/-- The draft has both roles as the source has them, but one is returned, with the bullets of the other. -/
theorem not_forcedBack_bothStints :
    ¬ ∀ (u : Unicode) (draft : TailoredResume) (source : CvSourceDocument),
      ForcedBack u draft source (reconcileTailoredResumeWithSource u draft source).resume := by
  intro hall
  obtain ⟨entries, hperm, hsub⟩ := (hall ascii bothStints twoStints).named ("acme", "engineer") (by decide +kernel)
  have hroles : (rolesKnown (nameOf ascii) twoStints.experience ("acme", "engineer")).length = 2 := by
    decide +kernel
  have hentries : entries.length = 2 := hperm.length_eq.trans (by decide +kernel)
  have hreturned : (reconcileTailoredResumeWithSource ascii bothStints twoStints).resume.experience.length = 1 := by
    decide +kernel
  have hlength := hsub.length_le
  rw [List.length_zipWith, hroles, hentries, hreturned] at hlength
  omega

end VacancyRadar.Cv
