import VacancyRadar.Cv.Overlay
import VacancyRadar.Data.Placement

/-!
# The claims of a resume

`resume-claims.ts`: what a resume says, in the order of its template, and the search for it in the text
of a document.  A heading is searched for from the line on which the claim before it was found, so a
line can be counted twice.
-/

namespace VacancyRadar.Cv

open Data Data.Placement

/-! ## Claims -/

inductive ResumeClaimKind where
  | heading
  | content
deriving DecidableEq

structure ResumeClaim where
  kind : ResumeClaimKind
  label : String
  text : String

/-- `add`, which leaves out what says nothing. -/
def contentClaim (label text : String) : List ResumeClaim :=
  if trim text = "" then [] else [⟨.content, label, trim text⟩]

def headingClaim (text : String) : ResumeClaim := ⟨.heading, "section heading", text⟩

def sectionClaims {α : Type} (heading : String) (entries : List α) (claims : α → List ResumeClaim) :
    List ResumeClaim :=
  if entries = [] then [] else headingClaim heading :: entries.flatMap claims

def resumeClaims (resume : TailoredResume) : List ResumeClaim :=
  contentClaim "name" resume.contact.name ++ contentClaim "title" resume.contact.title ++
    contentClaim "location" resume.contact.location ++ contentClaim "email" resume.contact.email ++
    contentClaim "phone" resume.contact.phone ++ resume.contact.links.flatMap (contentClaim "link") ++
    contentClaim "summary" resume.summary ++
    sectionClaims "Experience" resume.experience (fun entry =>
      contentClaim "role" entry.title ++ contentClaim "employer" entry.company ++
        contentClaim "dates" entry.dates ++
        (if entry.engagement = .clientEngagement then contentClaim "client" entry.client else []) ++
        entry.bullets.flatMap (contentClaim "bullet")) ++
    sectionClaims "Projects" resume.projects (fun project =>
      contentClaim "project" project.name ++ contentClaim "dates" project.dates ++
        contentClaim "project role" project.role ++
        contentClaim "project organization" project.organization ++
        contentClaim "project description" project.description ++
        project.technologies.flatMap (contentClaim "technology") ++
        project.links.flatMap (contentClaim "project link")) ++
    sectionClaims "Skills" resume.skills (contentClaim "skill") ++
    sectionClaims "Education" resume.education (fun entry =>
      contentClaim "credential" entry.credential ++ contentClaim "institution" entry.institution ++
        contentClaim "dates" entry.dates)

/-! ## The search -/

def normalizeResumeWhitespace (text : String) : String :=
  trim (String.ofList (collapse false text.toList))

def dropReturn (line : List Char) : List Char :=
  if line.getLast? = some '\r' then line.dropLast else line

/-- `split(/\r?\n/)`. -/
def splitLines (text : List Char) : List (List Char) :=
  (text.splitOn '\n').dropLast.map dropReturn ++ (text.splitOn '\n').getLast?.toList

def documentLines (text : String) : List (List Char) :=
  ((splitLines text.toList).map fun line =>
    (normalizeResumeWhitespace (String.ofList line)).toList).filter fun line => line ≠ []

def ResumeClaim.item (claim : ResumeClaim) : Item Char where
  whole := decide (claim.kind = .heading)
  text := (normalizeResumeWhitespace claim.text).toList

lemma ResumeClaim.item_text (claim : ResumeClaim) :
    claim.item.text = (normalizeResumeWhitespace claim.text).toList := by
  rw [ResumeClaim.item]

def problem (lines : List (List Char)) (claim : ResumeClaim) : String :=
  let elsewhere :=
    if claim.kind = .heading then decide (claim.item.text ∈ lines)
    else lines.any fun line => decide (claim.item.text <:+: line)
  if elsewhere then s!"the {claim.label} \"{claim.text}\" appears out of order"
  else s!"the {claim.label} \"{claim.text}\" is missing"

def findProblems (lines : List (List Char)) : Cursor → List ResumeClaim → List String
  | _, [] => []
  | c, claim :: claims =>
    match seekFrom lines c claim.item with
    | some c => findProblems lines c claims
    | none => problem lines claim :: findProblems lines c claims

def findResumeClaimProblems (text : String) (claims : List ResumeClaim) : List String :=
  findProblems (documentLines text) ⟨0, 0⟩ claims

variable {lines : List (List Char)} {text : List Char} {c : Char}

lemma findProblems_eq_nil_iff {c : Cursor} {claims : List ResumeClaim} :
    findProblems lines c claims = [] ↔ findsAll lines c (claims.map ResumeClaim.item) = true := by
  induction claims generalizing c with
  | nil => exact iff_of_true rfl rfl
  | cons claim claims ih =>
    rw [findProblems, List.map_cons, findsAll]
    cases seekFrom lines c claim.item with
    | some d => exact ih
    | none => exact iff_of_false (List.cons_ne_nil _ _) Bool.false_ne_true

/-! ## Whitespace -/

structure Squeezed (text : List Char) : Prop where
  spaces : ∀ c ∈ text, isTrimmed c = true → c = ' '
  single : text.IsChain fun c d => ¬(isTrimmed c = true ∧ isTrimmed d = true)

lemma Squeezed.part {part : List Char} (h : Squeezed text) (hpart : part <:+: text) :
    Squeezed part :=
  ⟨fun c hc => h.spaces c (hpart.subset hc), h.single.infix hpart⟩

lemma collapse_true_eq (text : List Char) : collapse true text = collapse false (text.dropWhile isTrimmed) := by
  induction text with
  | nil => rfl
  | cons c rest ih =>
    cases hc : isTrimmed c with
    | true => rw [collapse, if_pos hc, ih, List.dropWhile_cons_of_pos hc]
    | false =>
      rw [List.dropWhile_cons_of_neg (by simp [hc]), collapse, if_neg (by simp [hc]), collapse,
        if_neg (by simp [hc])]

lemma squeezed_collapse (b : Bool) (text : List Char) : Squeezed (collapse b text) ∧
    (b = true → ∀ c ∈ (collapse b text).head?, isTrimmed c = false) := by
  induction text generalizing b with
  | nil =>
    cases b <;> exact ⟨⟨fun _ h => (List.not_mem_nil h).elim, .nil⟩, fun _ _ h => by cases h⟩
  | cons c rest ih =>
    have hkeep (hc : isTrimmed c = false) : Squeezed (c :: collapse false rest) := by
      refine ⟨fun d hd htrim => ?_, List.isChain_cons.mpr ⟨fun d _ hboth => ?_, (ih false).1.single⟩⟩
      · rcases List.mem_cons.mp hd with rfl | hd
        · exact absurd (hc.symm.trans htrim) (by decide)
        · exact (ih false).1.spaces d hd htrim
      · exact absurd (hc.symm.trans hboth.1) (by decide)
    cases b with
    | true =>
      rw [collapse]
      split
      · exact ih true
      · next hc =>
        have hc := Bool.eq_false_iff.mpr hc
        refine ⟨hkeep hc, fun _ d hd => ?_⟩
        cases hd
        exact hc
    | false =>
      rw [collapse]
      split
      · refine ⟨⟨fun d hd htrim => ?_, List.isChain_cons.mpr ⟨fun d hd hboth => ?_, (ih true).1.single⟩⟩,
          fun h => Bool.noConfusion h⟩
        · rcases List.mem_cons.mp hd with rfl | hd
          · rfl
          · exact (ih true).1.spaces d hd htrim
        · exact absurd (((ih true).2 rfl d hd).symm.trans hboth.2) (by decide)
      · next hc => exact ⟨hkeep (Bool.eq_false_iff.mpr hc), fun h => Bool.noConfusion h⟩

lemma collapse_eq_self (h : Squeezed text) : collapse false text = text := by
  induction text with
  | nil => rfl
  | cons c rest ih =>
    obtain ⟨hnext, hchain⟩ := List.isChain_cons.mp h.single
    have hrest := ih ⟨fun d hd => h.spaces d (List.mem_cons_of_mem _ hd), hchain⟩
    rw [collapse]
    split
    · next hc =>
      have hdrop : rest.dropWhile isTrimmed = rest := by
        cases rest with
        | nil => rfl
        | cons d rest => exact List.dropWhile_cons_of_neg fun hd => hnext d rfl ⟨hc, hd⟩
      rw [collapse_true_eq, hdrop, hrest, h.spaces c List.mem_cons_self hc]
    · rw [hrest]

lemma squeezed_normalize (text : String) : Squeezed (normalizeResumeWhitespace text).toList := by
  rw [normalizeResumeWhitespace, toList_trim, String.toList_ofList]
  refine (squeezed_collapse false text.toList).1.part ?_
  exact (List.rdropWhile_prefix _ _).isInfix.trans (List.dropWhile_suffix _).isInfix

lemma normalize_normalize (text : String) :
    normalizeResumeWhitespace (normalizeResumeWhitespace text) = normalizeResumeWhitespace text := by
  rw [normalizeResumeWhitespace, collapse_eq_self (squeezed_normalize text), String.ofList_toList,
    normalizeResumeWhitespace, trim_trim]

lemma notMem_normalize (text : String) (hc : isTrimmed c = true) (hne : c ≠ ' ') :
    c ∉ (normalizeResumeWhitespace text).toList :=
  fun hmem => hne ((squeezed_normalize text).spaces c hmem hc)

lemma exists_documentLines
    (h : ∀ line ∈ lines, line ≠ [] ∧ ∃ text, line = (normalizeResumeWhitespace text).toList) :
    ∃ text, documentLines text = lines := by
  rcases List.eq_nil_or_concat' lines with rfl | ⟨front, last, rfl⟩
  · exact ⟨"", by decide⟩
  have hchar : ∀ line ∈ front ++ [last], '\n' ∉ line ∧ '\r' ∉ line := by
    intro line hline
    obtain ⟨hne, text, heq⟩ := h line hline
    rw [heq]
    exact ⟨notMem_normalize text (by decide) (by decide), notMem_normalize text (by decide) (by decide)⟩
  have hsplit : List.splitOn '\n' (['\n'].intercalate (front ++ [last])) = front ++ [last] :=
    List.splitOn_intercalate '\n' (fun line hline => (hchar line hline).1) (by simp)
  have hreturn : ∀ line ∈ front, dropReturn line = line := by
    intro line hline
    refine if_neg fun hlast => ?_
    exact (hchar line (List.mem_append_left _ hline)).2 (List.mem_of_getLast? hlast)
  have hsame : ∀ line ∈ front ++ [last], (normalizeResumeWhitespace (String.ofList line)).toList = line := by
    intro line hline
    obtain ⟨hne, text, heq⟩ := h line hline
    rw [heq, String.ofList_toList, normalize_normalize]
  refine ⟨String.ofList (['\n'].intercalate (front ++ [last])), ?_⟩
  rw [documentLines, String.toList_ofList, splitLines, hsplit, List.dropLast_concat, List.getLast?_concat,
    List.map_congr_left hreturn, List.map_id', Option.toList_some, List.map_congr_left hsame, List.map_id']
  exact List.filter_eq_self.mpr fun line hline => decide_eq_true (h line hline).1

/-! ## Headings -/

/-- No heading comes right after a claim whose text is a part of the heading. -/
def HeadingsApart (claims : List ResumeClaim) : Prop :=
  (claims.map ResumeClaim.item).IsChain Apart

lemma mem_collapse (hc : isTrimmed c = false) {b : Bool} (h : c ∈ text) : c ∈ collapse b text := by
  induction text generalizing b with
  | nil => cases h
  | cons d rest ih =>
    have hcase : c = d ∨ c ∈ rest := List.mem_cons.mp h
    cases b with
    | true =>
      rw [collapse]
      split
      · next hd => exact ih (hcase.resolve_left fun heq => by rw [← heq, hc] at hd; cases hd)
      · exact hcase.elim (fun heq => heq ▸ List.mem_cons_self) fun hin => List.mem_cons_of_mem _ (ih hin)
    | false =>
      rw [collapse]
      split
      · next hd =>
        refine List.mem_cons_of_mem _ (ih (hcase.resolve_left fun heq => ?_))
        rw [← heq, hc] at hd
        cases hd
      · exact hcase.elim (fun heq => heq ▸ List.mem_cons_self) fun hin => List.mem_cons_of_mem _ (ih hin)

lemma normalize_ne_empty {text : String} (h : trim text ≠ "") : normalizeResumeWhitespace text ≠ "" := by
  obtain ⟨c, hc, htrim⟩ : ∃ c ∈ (trim text).toList, isTrimmed c = false := by
    by_contra hall
    push Not at hall
    have hnil : (trim text).toList.dropWhile isTrimmed = [] :=
      List.dropWhile_eq_nil_iff.mpr fun c hc => by simpa using hall c hc
    rw [dropWhile_toList_trim] at hnil
    exact h (String.toList_eq_nil_iff.mp hnil)
  rw [toList_trim] at hc
  have hin : c ∈ text.toList :=
    (List.dropWhile_suffix _).subset ((List.rdropWhile_prefix _ _).subset hc)
  refine trim_ne_empty (c := c) ?_ htrim
  rw [String.toList_ofList]
  exact mem_collapse htrim hin

def ResumeClaim.Says (claim : ResumeClaim) : Prop := claim.item.text ≠ []

lemma says_of_trim {claim : ResumeClaim} (h : trim claim.text ≠ "") : claim.Says := by
  rw [ResumeClaim.Says, ResumeClaim.item_text]
  exact fun hnil => normalize_ne_empty h (String.toList_eq_nil_iff.mp hnil)

lemma says_contentClaim (label text : String) : ∀ claim ∈ contentClaim label text, claim.Says := by
  intro claim hclaim
  unfold contentClaim at hclaim
  split at hclaim
  · cases hclaim
  · next hne =>
    rw [List.mem_singleton] at hclaim
    subst hclaim
    exact says_of_trim (by rwa [trim_trim])

lemma says_flatMap {α : Type} {entries : List α} {claims : α → List ResumeClaim}
    (h : ∀ entry, ∀ claim ∈ claims entry, claim.Says) : ∀ claim ∈ entries.flatMap claims, claim.Says := by
  intro claim hclaim
  obtain ⟨entry, -, hin⟩ := List.mem_flatMap.mp hclaim
  exact h entry claim hin

lemma says_sectionClaims {α : Type} {heading : String} {entries : List α} {claims : α → List ResumeClaim}
    (hheading : trim heading ≠ "") (h : ∀ entry, ∀ claim ∈ claims entry, claim.Says) :
    ∀ claim ∈ sectionClaims heading entries claims, claim.Says := by
  intro claim hclaim
  unfold sectionClaims at hclaim
  split at hclaim
  · cases hclaim
  · rcases List.mem_cons.mp hclaim with rfl | hin
    · exact says_of_trim hheading
    · exact says_flatMap h claim hin

lemma says_append {l r : List ResumeClaim} (hl : ∀ claim ∈ l, claim.Says) (hr : ∀ claim ∈ r, claim.Says) :
    ∀ claim ∈ l ++ r, claim.Says := List.forall_mem_append.mpr ⟨hl, hr⟩

lemma says_resumeClaims (resume : TailoredResume) : ∀ claim ∈ resumeClaims resume, claim.Says := by
  have hone (label text : String) := says_contentClaim label text
  have hmany (label : String) (texts : List String) :
      ∀ claim ∈ texts.flatMap (contentClaim label), claim.Says := says_flatMap (hone label)
  have hcontact : ∀ claim ∈ contentClaim "name" resume.contact.name ++
      contentClaim "title" resume.contact.title ++ contentClaim "location" resume.contact.location ++
      contentClaim "email" resume.contact.email ++ contentClaim "phone" resume.contact.phone ++
      resume.contact.links.flatMap (contentClaim "link") ++
      contentClaim "summary" resume.summary, claim.Says :=
    says_append (says_append (says_append (says_append (says_append (says_append
      (hone _ _) (hone _ _)) (hone _ _)) (hone _ _)) (hone _ _)) (hmany _ _)) (hone _ _)
  refine says_append (says_append (says_append (says_append hcontact ?_) ?_) ?_) ?_
  · refine says_sectionClaims (by decide) fun entry => ?_
    refine says_append (says_append (says_append (says_append (hone _ _) (hone _ _)) (hone _ _)) ?_)
      (hmany _ _)
    split
    · exact hone _ _
    · exact fun _ h => (List.not_mem_nil h).elim
  · refine says_sectionClaims (by decide) fun project => ?_
    exact says_append (says_append (says_append (says_append (says_append (says_append
      (hone _ _) (hone _ _)) (hone _ _)) (hone _ _)) (hone _ _)) (hmany _ _)) (hmany _ _)
  · exact says_sectionClaims (by decide) (hone _)
  · refine says_sectionClaims (by decide) fun entry => ?_
    exact says_append (says_append (hone _ _) (hone _ _)) (hone _ _)

/-- What the search is to find: no problem exactly if there are disjoint places for all claims in
order, and a line of its own for each heading. -/
def FindsExactly (claims : List ResumeClaim) : Prop :=
  ∀ text, findResumeClaimProblems text claims = [] ↔
    Placeable (documentLines text) (claims.map ResumeClaim.item)

/-- **Ordered content.**  The search finds what it is to find in all documents exactly if no heading
comes right after a claim whose text is a part of the heading. -/
theorem findsExactly_resumeClaims_iff (resume : TailoredResume) :
    FindsExactly (resumeClaims resume) ↔ HeadingsApart (resumeClaims resume) := by
  constructor
  · intro h
    by_contra hapart
    have hne : ∀ item ∈ (resumeClaims resume).map ResumeClaim.item, item.text ≠ [] := by
      intro item hitem
      obtain ⟨claim, hclaim, rfl⟩ := List.mem_map.mp hitem
      exact says_resumeClaims resume claim hclaim
    obtain ⟨lines, hlines, hfinds, hnot⟩ := exists_not_placeable hne hapart
    obtain ⟨text, htext⟩ : ∃ text, documentLines text = lines := by
      refine exists_documentLines fun line hline => ?_
      obtain ⟨item, hitem, rfl⟩ := List.mem_map.mp (hlines line hline)
      obtain ⟨claim, -, rfl⟩ := List.mem_map.mp hitem
      exact ⟨hne _ hitem, claim.text, claim.item_text⟩
    subst htext
    exact hnot ((h text).mp (findProblems_eq_nil_iff.mpr hfinds))
  · intro hapart text
    rw [findResumeClaimProblems, findProblems_eq_nil_iff, findsAll_iff]
    constructor
    · rintro ⟨spots, hspots⟩
      exact hspots.placeable hapart
    · exact Placeable.exists_laid

def teacherResume : TailoredResume where
  contact := { name := "Ada Byron" }
  summary := ""
  experience := []
  projects := []
  skills := ["Tutoring", "Education"]
  education := [⟨"Trinity College", "BA", "2010"⟩]

def teacherDocument : String := "Ada Byron\nSkills\nTutoring\nEducation\nBA\nTrinity College\n2010\n"

lemma findResumeClaimProblems_teacherDocument :
    findResumeClaimProblems teacherDocument (resumeClaims teacherResume) = [] := by decide +kernel

lemma sum_teacherDocument : ((documentLines teacherDocument).map List.length).sum <
    (((resumeClaims teacherResume).map ResumeClaim.item).map fun item => item.text.length).sum := by
  decide +kernel

theorem not_findsExactly_teacherResume : ¬FindsExactly (resumeClaims teacherResume) := by
  intro h
  have hplace := (h teacherDocument).mp findResumeClaimProblems_teacherDocument
  exact Nat.not_le_of_lt sum_teacherDocument hplace.sum_le

end VacancyRadar.Cv
