import VacancyRadar.Cv.Overlay

/-!
# Quotes of a job description

Each requirement of a case quotes the job description, and requirements that quote the same words quote them
at different places if there are enough.  `verifyCvRequirementQuotes` walks the list and remembers which places
are taken; a requirement that has not changed keeps the place that it has.
-/

namespace VacancyRadar.Cv

open Data

/-! ## Places -/

def sliceFromTo (text : String) (start stop : ℤ) : List ℕ :=
  let units := codeUnits text
  let index : ℤ → ℕ := fun i =>
    if i < 0 then (units.length + i).toNat else min i.toNat units.length
  (units.drop (index start)).take (index stop - index start)

def places (text words : String) : List ℕ :=
  if words.toList = [] then [] else occurrences words.toList 0 text.toList

lemma length_codeUnits_ofList (text : List Char) :
    (codeUnits (String.ofList text)).length = unitLength text := by
  induction text with
  | nil => rfl
  | cons c rest ih =>
    have hrest : (codeUnits (String.ofList rest)).length = unitLength rest := ih
    simp only [codeUnits, String.toList_ofList, List.flatMap_cons, List.length_append, unitLength,
      List.map_cons, List.sum_cons] at hrest ⊢
    rw [hrest]
    split <;> simp

lemma unitLength_append (l r : List Char) : unitLength (l ++ r) = unitLength l + unitLength r := by
  simp [unitLength]

lemma exists_of_mem_occurrences {needle text : List Char} {offset start : ℕ}
    (h : start ∈ occurrences needle offset text) :
    ∃ before after, text = before ++ (needle ++ after) ∧ start = offset + unitLength before := by
  induction text generalizing offset with
  | nil => simp [occurrences] at h
  | cons c rest ih =>
    rw [occurrences, List.mem_append] at h
    rcases h with h | h
    · split at h
      · next hstart =>
        obtain ⟨after, hafter⟩ := List.isPrefixOf_iff_prefix.mp hstart
        refine ⟨[], after, hafter.symm, ?_⟩
        simpa [unitLength] using h
      · simp at h
    · obtain ⟨before, after, rfl, hstart⟩ := ih h
      refine ⟨c :: before, after, rfl, ?_⟩
      have hcons : unitLength (c :: before) = unitLength [c] + unitLength before :=
        unitLength_append [c] before
      omega

lemma sliceFromTo_of_mem_places {text words : String} {start : ℕ} (h : start ∈ places text words) :
    sliceFromTo text start (start + unitLength words.toList : ℕ) = codeUnits words := by
  unfold places at h
  split at h
  · simp at h
  · obtain ⟨before, after, htext, hstart⟩ := exists_of_mem_occurrences h
    have hunits : codeUnits text = codeUnits (String.ofList before) ++
        (codeUnits words ++ codeUnits (String.ofList after)) := by
      simp [codeUnits, htext]
    have hbefore := length_codeUnits_ofList before
    have hwords : (codeUnits words).length = unitLength words.toList := by
      rw [← length_codeUnits_ofList, String.ofList_toList]
    rw [Nat.zero_add] at hstart
    have hlength : (codeUnits text).length = unitLength before + (unitLength words.toList +
        (codeUnits (String.ofList after)).length) := by
      rw [hunits, List.length_append, List.length_append, hbefore, hwords]
    have hlow : ¬ (start : ℤ) < 0 := by omega
    have hhigh : ¬ ((start + unitLength words.toList : ℕ) : ℤ) < 0 := by omega
    have hmin : min start (codeUnits text).length = start := by omega
    have hmin' : min (start + unitLength words.toList) (codeUnits text).length =
        start + unitLength words.toList := by omega
    simp only [sliceFromTo, if_neg hlow, if_neg hhigh, Int.toNat_natCast, hmin, hmin', Nat.add_sub_cancel_left]
    rw [hunits, hstart, ← hbefore, List.drop_left, ← hwords, List.take_left]

lemma locateJdQuote_eq (text quote : String) (taken : List ℕ) :
    locateJdQuote text quote taken =
      (((places text (trim quote)).find? fun start => start ∉ taken).or (places text (trim quote)).head?).map
        fun start => ⟨start, start + unitLength (trim quote).toList⟩ := by
  unfold locateJdQuote places
  dsimp only
  split
  · rfl
  · rfl

lemma of_locateJdQuote {text quote : String} {taken : List ℕ} {span : QuoteSpan}
    (h : locateJdQuote text quote taken = some span) :
    span.start ∈ places text (trim quote) ∧ span.stop = span.start + unitLength (trim quote).toList ∧
      (span.start ∉ taken ∨ (∀ place ∈ places text (trim quote), place ∈ taken) ∧
        (places text (trim quote)).head? = some span.start) := by
  rw [locateJdQuote_eq, Option.map_eq_some_iff] at h
  obtain ⟨start, hstart, rfl⟩ := h
  rcases Option.or_eq_some_iff.mp hstart with hfree | ⟨hfull, hfirst⟩
  · have hnot : start ∉ taken := by simpa using List.find?_some hfree
    exact ⟨List.mem_of_find?_eq_some hfree, rfl, .inl hnot⟩
  · have hall : ∀ place ∈ places text (trim quote), place ∈ taken := by
      simpa using List.find?_eq_none.mp hfull
    exact ⟨List.mem_of_mem_head? hfirst, rfl, .inr ⟨hall, hfirst⟩⟩

/-! ## The law -/

def Quotes (currentRevisionId : String) (requirement : CvRequirementMapping) : Prop :=
  requirement.excluded = false ∧ requirement.jdRevisionId = currentRevisionId

instance {currentRevisionId : String} : DecidablePred (Quotes currentRevisionId) :=
  fun _ => inferInstanceAs (Decidable (_ ∧ _))

def InPlace (jdText : String) (requirement : CvRequirementMapping) : Prop :=
  sliceFromTo jdText requirement.quoteStart requirement.quoteEnd = codeUnits (trim requirement.jdAnchor)

instance {jdText : String} : DecidablePred (InPlace jdText) := fun _ => inferInstanceAs (Decidable (_ = _))

def quoting (currentRevisionId words : String) (requirements : List CvRequirementMapping) : ℕ :=
  requirements.countP fun requirement =>
    Quotes currentRevisionId requirement ∧ trim requirement.jdAnchor = words

def Rivals (currentRevisionId : String) (enough : String → Prop) (a b : CvRequirementMapping) : Prop :=
  Quotes currentRevisionId a ∧ Quotes currentRevisionId b ∧ trim a.jdAnchor = trim b.jdAnchor ∧
    enough (trim b.jdAnchor)

def Enough (jdText currentRevisionId : String) (requirements : List CvRequirementMapping) (words : String) :
    Prop :=
  quoting currentRevisionId words requirements ≤ (places jdText words).length

structure Lawful (jdText currentRevisionId : String) (requirements : List CvRequirementMapping) : Prop where
  real : ∀ requirement ∈ requirements, Quotes currentRevisionId requirement → InPlace jdText requirement
  distinct : requirements.Pairwise fun a b =>
    Rivals currentRevisionId (Enough jdText currentRevisionId requirements) a b → a.quoteStart ≠ b.quoteStart

/-! ## The walk -/

section

variable (previous : List CvRequirementMapping) (jdText currentRevisionId : String)

def keptFrom (requirement : CvRequirementMapping) : Option CvRequirementMapping :=
  (requirementOf previous requirement.requirementId).filter fun before =>
    before.jdAnchor = requirement.jdAnchor ∧
      (requirement.reviewed = true → before.reviewed = true ∧ before.jdRevisionId = currentRevisionId)

def walkQuotes : List ℕ → List CvRequirementMapping → Except String (List CvRequirementMapping × List ℕ)
  | taken, [] => .ok ([], taken)
  | taken, requirement :: rest => do
    let (verified, taken) ← verifyQuote (requirementOf previous requirement.requirementId) jdText
      currentRevisionId taken requirement
    let (others, taken) ← walkQuotes taken rest
    return (verified :: others, taken)

end

variable {previous rows done : List CvRequirementMapping} {jdText currentRevisionId : String}
  {taken taken' : List ℕ} {requirement row : CvRequirementMapping} {enough : String → Prop}

lemma verifyQuotes_eq_walkQuotes (next : List CvRequirementMapping) :
    verifyQuotes previous jdText currentRevisionId taken next =
      (walkQuotes previous jdText currentRevisionId taken next).map Prod.fst := by
  induction next generalizing taken with
  | nil => rfl
  | cons requirement rest ih =>
    rw [verifyQuotes, walkQuotes]
    cases hrow : verifyQuote (requirementOf previous requirement.requirementId) jdText currentRevisionId
        taken requirement with
    | error message => rfl
    | ok verified =>
      obtain ⟨row, taken'⟩ := verified
      have hrest : verifyQuotes previous jdText currentRevisionId taken' rest = _ := ih
      cases hothers : walkQuotes previous jdText currentRevisionId taken' rest with
      | error message =>
        simp [bind, Except.bind, hrest, hothers, Except.map]
      | ok others =>
        simp [bind, Except.bind, hrest, hothers, Except.map, pure, Except.pure]

variable {earlier next : List CvRequirementMapping}

lemma of_walkQuotes_concat
    (h : walkQuotes previous jdText currentRevisionId taken (earlier ++ [requirement]) = .ok (rows, taken')) :
    ∃ done between row, walkQuotes previous jdText currentRevisionId taken earlier = .ok (done, between) ∧
      verifyQuote (requirementOf previous requirement.requirementId) jdText currentRevisionId between
        requirement = .ok (row, taken') ∧ rows = done ++ [row] := by
  induction earlier generalizing taken rows with
  | nil =>
    rw [List.nil_append, walkQuotes] at h
    cases hrow : verifyQuote (requirementOf previous requirement.requirementId) jdText currentRevisionId
        taken requirement with
    | error message =>
      rw [hrow] at h
      simp [bind, Except.bind] at h
    | ok verified =>
      rw [hrow] at h
      obtain ⟨rfl, rfl⟩ : [verified.1] = rows ∧ verified.2 = taken' := by
        simpa [walkQuotes, bind, Except.bind, pure, Except.pure] using h
      exact ⟨[], taken, verified.1, rfl, hrow, rfl⟩
  | cons first rest ih =>
    rw [List.cons_append, walkQuotes] at h
    cases hrow : verifyQuote (requirementOf previous first.requirementId) jdText currentRevisionId taken
        first with
    | error message =>
      rw [hrow] at h
      simp [bind, Except.bind] at h
    | ok verified =>
      rw [hrow] at h
      obtain ⟨first', between'⟩ := verified
      cases hothers : walkQuotes previous jdText currentRevisionId between' (rest ++ [requirement]) with
      | error message => simp [bind, Except.bind, hothers] at h
      | ok others =>
        obtain ⟨others, last⟩ := others
        obtain ⟨rfl, rfl⟩ : first' :: others = rows ∧ last = taken' := by
          simpa [bind, Except.bind, hothers, pure, Except.pure] using h
        obtain ⟨done, between, row, hdone, hlast, rfl⟩ := ih hothers
        refine ⟨first' :: done, between, row, ?_, hlast, rfl⟩
        simp [walkQuotes, hrow, hdone, bind, Except.bind, pure, Except.pure]

lemma verifyQuote_cases
    (h : verifyQuote (requirementOf previous requirement.requirementId) jdText currentRevisionId taken
      requirement = .ok (row, taken')) :
    (∃ before, keptFrom previous currentRevisionId requirement = some before ∧
      row = { requirement with
        quoteStart := before.quoteStart
        quoteEnd := before.quoteEnd
        jdRevisionId := before.jdRevisionId } ∧
      taken' = if 0 ≤ before.quoteStart then before.quoteStart.toNat :: taken else taken) ∨
    (keptFrom previous currentRevisionId requirement = none ∧
      ∃ span, locateJdQuote jdText requirement.jdAnchor taken = some span ∧
        row = { requirement with
          jdAnchor := trim requirement.jdAnchor
          quoteStart := span.start
          quoteEnd := span.stop
          jdRevisionId := currentRevisionId } ∧
        taken' = span.start :: taken) ∨
    (row.excluded = true ∧ requirement.excluded = true ∧ taken' = taken) := by
  have hkept : keptFrom previous currentRevisionId requirement =
      (requirementOf previous requirement.requirementId).filter fun _ =>
        ¬ (requirementOf previous requirement.requirementId).map CvRequirementMapping.jdAnchor ≠
          some requirement.jdAnchor ∧
        ¬ (requirement.reviewed ∧ (requirementOf previous requirement.requirementId).all fun before =>
          !before.reviewed || before.jdRevisionId ≠ currentRevisionId) := by
    unfold keptFrom
    cases requirementOf previous requirement.requirementId with
    | none => rfl
    | some before =>
      by_cases hanchor : before.jdAnchor = requirement.jdAnchor <;>
        cases requirement.reviewed <;> cases hbefore : before.reviewed <;>
        simp [Option.filter, hanchor, hbefore]
  unfold verifyQuote at h
  dsimp only at h
  rw [← hkept] at h
  split at h
  · next before hbefore =>
    obtain ⟨rfl, rfl⟩ := Prod.mk.inj (Except.ok.inj h)
    exact .inl ⟨before, hbefore, rfl, rfl⟩
  · next hnone =>
    split at h
    · next span hspan =>
      obtain ⟨rfl, rfl⟩ := Prod.mk.inj (Except.ok.inj h)
      exact .inr (.inl ⟨hnone, span, hspan, rfl, rfl⟩)
    · split at h
      · next hexcluded =>
        obtain ⟨rfl, rfl⟩ := Prod.mk.inj (Except.ok.inj h)
        exact .inr (.inr ⟨hexcluded, hexcluded, rfl⟩)
      · split at h <;> simp at h

/-! ## One step -/

section

variable (previous : List CvRequirementMapping) (jdText currentRevisionId : String)

def Counts (requirement : CvRequirementMapping) : Prop :=
  requirement.excluded = false ∧ (keptFrom previous currentRevisionId requirement).all fun before =>
    before.jdRevisionId = currentRevisionId

instance : DecidablePred (Counts previous currentRevisionId) := fun _ => inferInstanceAs (Decidable (_ ∧ _))

def EnoughFor (next : List CvRequirementMapping) (words : String) : Prop :=
  (next.countP fun requirement =>
    Counts previous currentRevisionId requirement ∧ trim requirement.jdAnchor = words) ≤
      (places jdText words).length

def Untold (done : List CvRequirementMapping) (words : String) (start : ℤ) : Prop :=
  ∀ row ∈ done, Quotes currentRevisionId row → trim row.jdAnchor = words → row.quoteStart ≠ start

structure StepFine (enough : String → Prop) (done : List CvRequirementMapping) (taken : List ℕ)
    (requirement : CvRequirementMapping) : Prop where
  restored : ∀ before, keptFrom previous currentRevisionId requirement = some before →
    before.excluded = true → InPlace jdText before
  kept : ∀ before, keptFrom previous currentRevisionId requirement = some before →
    enough (trim requirement.jdAnchor) →
      Untold currentRevisionId done (trim requirement.jdAnchor) before.quoteStart
  located : keptFrom previous currentRevisionId requirement = none → enough (trim requirement.jdAnchor) →
    (∀ place ∈ places jdText (trim requirement.jdAnchor), place ∈ taken) →
      ∀ first, (places jdText (trim requirement.jdAnchor)).head? = some first →
        Untold currentRevisionId done (trim requirement.jdAnchor) first

def LawfulFor (enough : String → Prop) (rows : List CvRequirementMapping) : Prop :=
  (∀ row ∈ rows, Quotes currentRevisionId row → InPlace jdText row) ∧
    rows.Pairwise fun a b => Rivals currentRevisionId enough a b → a.quoteStart ≠ b.quoteStart

end

lemma of_keptFrom {before : CvRequirementMapping}
    (h : keptFrom previous currentRevisionId requirement = some before) :
    before ∈ previous ∧ before.jdAnchor = requirement.jdAnchor := by
  rw [keptFrom, Option.filter_eq_some_iff] at h
  obtain ⟨hfound, hsame⟩ := h
  have hmem : before ∈ previous.reverse := List.mem_of_find?_eq_some hfound
  have hanchor : before.jdAnchor = requirement.jdAnchor ∧ _ := of_decide_eq_true hsame
  exact ⟨List.mem_reverse.mp hmem, hanchor.1⟩

lemma quotes_row_iff
    (h : verifyQuote (requirementOf previous requirement.requirementId) jdText currentRevisionId taken
      requirement = .ok (row, taken')) :
    (Quotes currentRevisionId row ↔ Counts previous currentRevisionId requirement) ∧
      (Quotes currentRevisionId row → trim row.jdAnchor = trim requirement.jdAnchor) := by
  rcases verifyQuote_cases h with ⟨before, hkept, rfl, -⟩ | ⟨hnone, span, -, rfl, -⟩ | ⟨hrow, hexcluded, -⟩
  · have hiff : Counts previous currentRevisionId requirement ↔
        requirement.excluded = false ∧ before.jdRevisionId = currentRevisionId := by
      simp [Counts, hkept]
    exact ⟨hiff.symm, fun _ => rfl⟩
  · simp [Quotes, Counts, hnone]
  · simp [Quotes, Counts, hrow, hexcluded]

/-- `Untold` is what a new row owes to the rows that are done. -/
lemma untold_iff (hsame : Quotes currentRevisionId row → trim row.jdAnchor = trim requirement.jdAnchor)
    (hquotes : Quotes currentRevisionId row) :
    (∀ a ∈ done, Rivals currentRevisionId enough a row → a.quoteStart ≠ row.quoteStart) ↔
      (enough (trim requirement.jdAnchor) →
        Untold currentRevisionId done (trim requirement.jdAnchor) row.quoteStart) := by
  rw [← hsame hquotes]
  constructor
  · intro h henough a ha hquotesA hwords
    exact h a ha ⟨hquotesA, hquotes, hwords, henough⟩
  · intro h a ha hrivals
    exact h hrivals.2.2.2 a ha hrivals.1 hrivals.2.2.1

def Recorded (currentRevisionId : String) (done : List CvRequirementMapping) (taken : List ℕ) : Prop :=
  ∀ row ∈ done, Quotes currentRevisionId row → 0 ≤ row.quoteStart → row.quoteStart.toNat ∈ taken

lemma stepFine_iff (hprevious : ∀ before ∈ previous, Quotes currentRevisionId before → InPlace jdText before)
    (hrecorded : Recorded currentRevisionId done taken)
    (h : verifyQuote (requirementOf previous requirement.requirementId) jdText currentRevisionId taken
      requirement = .ok (row, taken')) :
    ((Quotes currentRevisionId row → InPlace jdText row) ∧
        ∀ a ∈ done, Rivals currentRevisionId enough a row → a.quoteStart ≠ row.quoteStart) ↔
      (Counts previous currentRevisionId requirement →
        StepFine previous jdText currentRevisionId enough done taken requirement) := by
  obtain ⟨hcounts, hsame⟩ := quotes_row_iff h
  by_cases hquotes : Quotes currentRevisionId row
  swap
  · have hnot : ¬ Counts previous currentRevisionId requirement := fun hc => hquotes (hcounts.mpr hc)
    simp [hquotes, hnot, Rivals]
  rw [untold_iff hsame hquotes]
  have hc : Counts previous currentRevisionId requirement := hcounts.mp hquotes
  simp only [hquotes, hc, forall_const]
  rcases verifyQuote_cases h with ⟨before, hkept, rfl, -⟩ | ⟨hnone, span, hspan, rfl, -⟩ | ⟨hrow, -, -⟩
  · -- the place that is kept is that of the requirement before
    obtain ⟨hmem, hanchor⟩ := of_keptFrom hkept
    have hplace : InPlace jdText { requirement with
        quoteStart := before.quoteStart
        quoteEnd := before.quoteEnd
        jdRevisionId := before.jdRevisionId } ↔ InPlace jdText before := by
      simp [InPlace, hanchor]
    rw [hplace]
    constructor
    · rintro ⟨hreal, huntold⟩
      refine ⟨?_, ?_, ?_⟩
      · simp [hkept, hreal]
      · simpa [hkept] using huntold
      · simp [hkept]
    · intro hfine
      refine ⟨?_, hfine.kept before hkept⟩
      cases hexcluded : before.excluded with
      | true => exact hfine.restored before hkept hexcluded
      | false => exact hprevious before hmem ⟨hexcluded, hquotes.2⟩
  · -- the place that is located is not taken, or is the first one
    obtain ⟨hmem, hstop, hplace⟩ := of_locateJdQuote hspan
    have hreal : InPlace jdText { requirement with
        jdAnchor := trim requirement.jdAnchor
        quoteStart := span.start
        quoteEnd := span.stop
        jdRevisionId := currentRevisionId } := by
      simp only [InPlace, hstop, trim_trim]
      exact sliceFromTo_of_mem_places hmem
    constructor
    · rintro ⟨-, huntold⟩
      refine ⟨?_, ?_, ?_⟩
      · simp [hnone]
      · simp [hnone]
      · intro _ henough hfull first hfirst
        have hstart : first = span.start := by
          rcases hplace with hfree | ⟨-, hhead⟩
          · exact absurd (hfull _ hmem) hfree
          · exact Option.some.inj (hfirst.symm.trans hhead)
        rw [hstart]
        exact huntold henough
    · intro hfine
      refine ⟨hreal, fun henough => ?_⟩
      rcases hplace with hfree | ⟨hfull, hhead⟩
      · intro a ha hquotesA _ heq
        have hstart : a.quoteStart = (span.start : ℤ) := heq
        have htaken := hrecorded a ha hquotesA (by omega)
        have hat : a.quoteStart.toNat = span.start := by omega
        exact hfree (hat ▸ htaken)
      · exact hfine.located hnone henough hfull span.start hhead
  · exact absurd hquotes.1 (by simp [hrow])

lemma recorded_concat (hrecorded : Recorded currentRevisionId done taken)
    (h : verifyQuote (requirementOf previous requirement.requirementId) jdText currentRevisionId taken
      requirement = .ok (row, taken')) :
    Recorded currentRevisionId (done ++ [row]) taken' := by
  have hkeep : ∀ place ∈ taken, place ∈ taken' := by
    intro place hplace
    rcases verifyQuote_cases h with ⟨before, -, -, rfl⟩ | ⟨-, span, -, -, rfl⟩ | ⟨-, -, rfl⟩
    · split <;> simp [hplace]
    · simp [hplace]
    · exact hplace
  intro a ha hquotes hstart
  rcases List.mem_append.mp ha with ha | ha
  · exact hkeep _ (hrecorded a ha hquotes hstart)
  · obtain rfl := List.mem_singleton.mp ha
    rcases verifyQuote_cases h with ⟨before, -, rfl, rfl⟩ | ⟨-, span, -, rfl, rfl⟩ | ⟨hrow, -, -⟩
    · have hpos : 0 ≤ before.quoteStart := hstart
      simp [hpos]
    · simp
    · exact absurd hquotes.1 (by simp [hrow])

lemma lawfulFor_concat :
    LawfulFor jdText currentRevisionId enough (done ++ [row]) ↔
      LawfulFor jdText currentRevisionId enough done ∧
        (Quotes currentRevisionId row → InPlace jdText row) ∧
          ∀ a ∈ done, Rivals currentRevisionId enough a row → a.quoteStart ≠ row.quoteStart := by
  simp only [LawfulFor, List.forall_mem_append, List.pairwise_append, List.pairwise_singleton,
    List.mem_singleton, forall_eq, true_and]
  tauto

/-! ## The whole list -/

def StepsFine (previous : List CvRequirementMapping) (jdText currentRevisionId : String)
    (enough : String → Prop) (next : List CvRequirementMapping) : Prop :=
  ∀ earlier requirement, earlier ++ [requirement] <+: next → ∀ done taken,
    walkQuotes previous jdText currentRevisionId [] earlier = .ok (done, taken) →
      Counts previous currentRevisionId requirement →
        StepFine previous jdText currentRevisionId enough done taken requirement

lemma stepsFine_concat
    (h : walkQuotes previous jdText currentRevisionId [] earlier = .ok (done, taken)) :
    StepsFine previous jdText currentRevisionId enough (earlier ++ [requirement]) ↔
      StepsFine previous jdText currentRevisionId enough earlier ∧
        (Counts previous currentRevisionId requirement →
          StepFine previous jdText currentRevisionId enough done taken requirement) := by
  constructor
  · intro hfine
    refine ⟨fun first last hstart => hfine first last (hstart.trans (List.prefix_append _ _)), ?_⟩
    exact hfine earlier requirement (List.prefix_refl _) done taken h
  · rintro ⟨hfine, hlast⟩ first last hstart done' taken' hwalk
    rcases List.prefix_concat_iff.mp hstart with heq | hstart
    · obtain ⟨rfl, hsingle⟩ := List.append_inj' heq rfl
      obtain rfl : last = requirement := by simpa using hsingle
      rw [h] at hwalk
      obtain ⟨rfl, rfl⟩ := Prod.mk.inj (Except.ok.inj hwalk)
      exact hlast
    · exact hfine first last hstart done' taken' hwalk

lemma lawfulFor_iff_stepsFine
    (hprevious : ∀ before ∈ previous, Quotes currentRevisionId before → InPlace jdText before)
    (h : walkQuotes previous jdText currentRevisionId [] next = .ok (rows, taken)) :
    Recorded currentRevisionId rows taken ∧
      (LawfulFor jdText currentRevisionId enough rows ↔
        StepsFine previous jdText currentRevisionId enough next) := by
  induction next using List.reverseRecOn generalizing rows taken with
  | nil =>
    obtain ⟨rfl, rfl⟩ := Prod.mk.inj (Except.ok.inj h)
    refine ⟨by simp [Recorded], ?_⟩
    simp [LawfulFor, StepsFine]
  | append_singleton earlier requirement ih =>
    obtain ⟨done, between, row, hdone, hrow, rfl⟩ := of_walkQuotes_concat h
    obtain ⟨hrecorded, hiff⟩ := ih hdone
    refine ⟨recorded_concat hrecorded hrow, ?_⟩
    rw [lawfulFor_concat, stepsFine_concat hdone, hiff, stepFine_iff hprevious hrecorded hrow]

lemma quoting_rows (words : String)
    (h : walkQuotes previous jdText currentRevisionId taken next = .ok (rows, taken')) :
    quoting currentRevisionId words rows = next.countP fun requirement =>
      Counts previous currentRevisionId requirement ∧ trim requirement.jdAnchor = words := by
  induction next using List.reverseRecOn generalizing rows taken' with
  | nil =>
    obtain ⟨rfl, rfl⟩ := Prod.mk.inj (Except.ok.inj h)
    rfl
  | append_singleton earlier requirement ih =>
    obtain ⟨done, between, row, hdone, hrow, rfl⟩ := of_walkQuotes_concat h
    obtain ⟨hcounts, hsame⟩ := quotes_row_iff hrow
    have hone : (Quotes currentRevisionId row ∧ trim row.jdAnchor = words) ↔
        (Counts previous currentRevisionId requirement ∧ trim requirement.jdAnchor = words) := by
      constructor
      · rintro ⟨hquotes, rfl⟩
        exact ⟨hcounts.mp hquotes, (hsame hquotes).symm⟩
      · rintro ⟨hc, rfl⟩
        exact ⟨hcounts.mpr hc, hsame (hcounts.mpr hc)⟩
    have hdone' := ih hdone
    simp only [quoting] at hdone' ⊢
    simp only [List.countP_append, hdone', List.countP_singleton, hone]

def aRequirement (requirementId : String) (quoteStart quoteEnd : ℤ) : CvRequirementMapping where
  requirementId := requirementId
  text := requirementId
  jdAnchor := "Go"
  classification := .required
  evidenceClass := .needsVerification
  quoteStart := quoteStart
  quoteEnd := quoteEnd
  jdRevisionId := "jd-1"

def bothFirst : List CvRequirementMapping := [aRequirement "r2" 0 2, aRequirement "r1" 0 2]

lemma lawful_singleton : Lawful "Go, and Go" "jd-1" [aRequirement "r1" 0 2] where
  real requirement hmem _ := by
    obtain rfl := List.mem_singleton.mp hmem
    decide
  distinct := List.pairwise_singleton _ _

lemma verifyCvRequirementQuotes_bothFirst :
    verifyCvRequirementQuotes [aRequirement "r2" (-1) (-1), aRequirement "r1" 0 2] [aRequirement "r1" 0 2]
      "Go, and Go" "jd-1" = .ok bothFirst := by
  decide

lemma not_lawful_rows : ¬ Lawful "Go, and Go" "jd-1" bothFirst := by
  intro hlawful
  have hrivals : Rivals "jd-1" (Enough "Go, and Go" "jd-1" bothFirst) (aRequirement "r2" 0 2)
      (aRequirement "r1" 0 2) := by
    refine ⟨by decide, by decide, rfl, ?_⟩
    unfold Enough
    decide
  have hdistinct := List.rel_of_pairwise_cons hlawful.distinct (List.mem_singleton_self _)
  exact hdistinct hrivals rfl

end VacancyRadar.Cv
