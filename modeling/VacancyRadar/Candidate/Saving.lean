import VacancyRadar.Candidate.SearchPlan
import VacancyRadar.Data.Cuts

/-!
# Saving a search plan

When a draft or a batch of suggestions is stored without an error of the schema, when saving a draft again changes
nothing, and what holds of the plans that are reached from the empty one.
-/

namespace VacancyRadar.Candidate

open Data.CodePoints

variable {ρ : Type} {locale : Locale} {text : Text} {titled : Titled ρ} {content : Content} {plan current : Plan}
  {draft : Draft} {now : String}

/-! ## Trimming -/

@[simp] lemma trimmed_trimmed (text : Text) : trimmed (trimmed text) = trimmed text := by
  have hfront : (trimmed text).dropWhile isSpace = trimmed text := Data.dropWhile_rdropWhile isSpace text
  rw [trimmed, hfront, trimmed, List.rdropWhile_idempotent]

lemma trimmed_cons_ne_nil {c : ℕ} (h : isSpace c = false) (rest : Text) : trimmed (c :: rest) ≠ [] := by
  intro hempty
  rw [trimmed, List.dropWhile_cons_of_neg (by simp [h]), List.rdropWhile_eq_nil_iff] at hempty
  have hc := hempty c List.mem_cons_self
  rw [h] at hc
  exact absurd hc (by decide)

@[simp] lemma squash_trimmed (text : Text) : squash (trimmed text) = squash text := by
  rw [squash, trimmed_trimmed, squash]

lemma trimmed_boundedText_ne_nil {max : ℕ} (h : boundedText text max ≠ []) : trimmed (boundedText text max) ≠ [] := by
  have hfront : (trimmed text).dropWhile isSpace = trimmed text := Data.dropWhile_rdropWhile isSpace text
  revert h
  rw [boundedText, squash]
  cases htext : trimmed text with
  | nil => exact fun h => absurd (List.take_nil (i := max)) h
  | cons c rest =>
    have hc : isSpace c = false := by
      by_contra hspace
      rw [htext, List.dropWhile_cons_of_pos (by simpa using hspace)] at hfront
      have hlength := congrArg List.length hfront
      have hle := (List.dropWhile_sublist isSpace (l := rest)).length_le
      rw [List.length_cons] at hlength
      omega
    rw [squeezed, if_neg (by simp [hc])]
    cases max with
    | zero => exact fun h => absurd rfl h
    | succ max => exact fun _ => trimmed_cons_ne_nil hc _

@[simp] lemma Titled.trim_trim (titled : Titled ρ) : titled.trim.trim = titled.trim := by simp [trim]

@[simp] lemma normalised_trim (titled : Titled ρ) :
    normalised locale titled.trim.entry = normalised locale titled.entry := by
  simp [normalised, Titled.trim, Titled.entry]

@[simp] lemma searchPlanVariantKey_trim (titled : Titled ρ) :
    searchPlanVariantKey locale titled.trim.entry = searchPlanVariantKey locale titled.entry := by
  rw [searchPlanVariantKey, normalised_trim, searchPlanVariantKey]

lemma Titled.Fits.trim (h : titled.Fits) : titled.trim.Fits := by
  obtain ⟨hid, htitle, hfits⟩ := h
  refine ⟨hid, ?_, ?_⟩
  · simpa [Titled.trim] using htitle
  · simpa [EntryFits, Titled.trim, entry] using hfits

@[simp] lemma Content.trim_trim (content : Content) : content.trim.trim = content.trim := by simp [trim]

lemma Content.Fits.trim (h : content.Fits) : content.trim.Fits where
  function_le := by simpa [Content.trim] using h.function_le
  variants_le := by simpa [Content.trim] using h.variants_le
  variants := by
    intro variant hvariant
    obtain ⟨source, hsource, rfl⟩ := List.mem_map.mp hvariant
    exact (h.variants source hsource).trim
  markets_le := by simpa [Content.trim] using h.markets_le
  markets := by
    intro market hmarket
    obtain ⟨source, hsource, rfl⟩ := List.mem_map.mp hmarket
    rw [trimmed_trimmed]
    exact h.markets source hsource

/-! ## The schema -/

@[simp] lemma Plan.trim_trim (plan : Plan) : plan.trim.trim = plan.trim := by simp [trim]

lemma Plan.Fits.trim (h : plan.Fits) : plan.trim.Fits where
  content := h.content.trim
  revision_le := h.revision_le
  suggestions_le := by simpa [Plan.trim] using h.suggestions_le
  suggestions := by
    intro suggestion hsuggestion
    obtain ⟨source, hsource, rfl⟩ := List.mem_map.mp hsuggestion
    exact (h.suggestions source hsource).trim

/-- The schema takes the plan as it is. -/
def Plan.Valid (plan : Plan) : Prop := searchPlanSchema plan = .ok plan

variable {saved : Plan} {raws : List DraftVariant} {entry : Text × Text}

lemma searchPlanSchema_eq_ok :
    searchPlanSchema plan = .ok saved ↔ plan.Fits ∧ plan.trim = saved := by
  rw [searchPlanSchema]
  split
  · next h => exact ⟨fun heq => ⟨h, Except.ok.inj heq⟩, fun heq => congrArg Except.ok heq.2⟩
  · next h => exact ⟨(fun heq => by cases heq), fun heq => absurd heq.1 h⟩

lemma valid_iff : plan.Valid ↔ plan.Fits ∧ plan.trim = plan := searchPlanSchema_eq_ok

lemma valid_of_schema (h : searchPlanSchema plan = .ok saved) : saved.Valid := by
  obtain ⟨hfits, rfl⟩ := searchPlanSchema_eq_ok.mp h
  exact valid_iff.mpr ⟨hfits.trim, plan.trim_trim⟩

/-- The plan satisfies the schema, or the error is one for the person. -/
def Orderly : Except Failure Plan → Prop
  | .ok plan => plan.Valid
  | .error (.validation _) => True
  | .error .schema => False

lemma orderly_schema_iff : Orderly (searchPlanSchema plan) ↔ plan.Fits := by
  by_cases h : plan.Fits
  · have hsaved : searchPlanSchema plan = .ok plan.trim := if_pos h
    rw [hsaved]
    exact iff_of_true (valid_of_schema hsaved) h
  · rw [searchPlanSchema, if_neg h]
    exact iff_of_false id h

/-! ## What a draft holds -/

lemma map_toNat_injective : Function.Injective fun digits : List Char => digits.map Char.toNat :=
  List.map_injective_iff.mpr fun _ _ => Char.toNat_inj.mp

lemma withOrdinal_injective (base : Text) : Function.Injective (withOrdinal base) := by
  intro a b h
  have hdigits := map_toNat_injective (List.cons.inj (List.append_cancel_left h)).2
  have hvalue := congrArg (fun digits => Nat.ofDigitChars 10 digits 0) hdigits
  simp only [Nat.ofDigitChars_ten_toDigits] at hvalue
  omega

lemma freshId_notMem (ids : List Text) (base : Text) : freshId ids base ∉ ids := by
  rw [freshId]
  split
  · assumption
  · cases hfind : ((List.range (ids.length + 1)).map (withOrdinal base)).find? fun id => id ∉ ids with
    | some id =>
      have hfree := List.find?_some hfind
      exact of_decide_eq_true hfree
    | none =>
      -- more ids than are taken cannot all be taken
      have htaken : (List.range (ids.length + 1)).map (withOrdinal base) ⊆ ids := by
        intro id hid
        simpa using List.find?_eq_none.mp hfind id hid
      have hnodup : ((List.range (ids.length + 1)).map (withOrdinal base)).Nodup :=
        List.nodup_range.map (withOrdinal_injective base)
      have hle := (List.subperm_of_subset hnodup htaken).length_le
      rw [List.length_map, List.length_range] at hle
      omega

lemma freshId_ne_nil (ids : List Text) (entry : Text × Text) :
    freshId ids (searchPlanVariantId locale entry) ≠ [] := by
  have hbase : searchPlanVariantId locale entry ≠ [] := List.append_ne_nil_of_right_ne_nil _ (List.cons_ne_nil _ _)
  rw [freshId]
  split
  · exact hbase
  · cases hfind : ((List.range (ids.length + 1)).map (withOrdinal (searchPlanVariantId locale entry))).find?
        fun id => id ∉ ids with
    | none => exact hbase
    | some id =>
      obtain ⟨count, -, rfl⟩ := List.mem_map.mp (List.mem_of_find?_eq_some hfind)
      exact List.append_ne_nil_of_right_ne_nil _ (List.cons_ne_nil _ _)

def entriesOf (raws : List DraftVariant) : List (Text × Text) :=
  (raws.map fun raw => boundedEntry (raw.title, raw.language)).filter fun entry => entry.1 ≠ []

def Draft.kept (locale : Locale) (draft : Draft) : List (Text × Text) :=
  Data.firsts (searchPlanVariantKey locale) (entriesOf draft.variants)

lemma normalizeVariants_spec {index : ℕ} {seen ids : List Text} {variants : List Variant}
    (h : normalizeVariants locale index seen ids raws = .ok variants) :
    variants.map Titled.entry = Data.firstsFrom (searchPlanVariantKey locale) seen (entriesOf raws) ∧
      (variants.map Titled.id).Nodup ∧ ∀ variant ∈ variants, variant.id ≠ [] ∧ variant.id ∉ ids := by
  induction raws generalizing index seen ids variants with
  | nil =>
    cases h
    exact ⟨rfl, List.nodup_nil, fun _ hmem => absurd hmem List.not_mem_nil⟩
  | cons raw rest ih =>
    rw [normalizeVariants] at h
    have hentries : entriesOf (raw :: rest) = if (boundedEntry (raw.title, raw.language)).1 ≠ [] then
        boundedEntry (raw.title, raw.language) :: entriesOf rest else entriesOf rest := by
      rw [entriesOf, List.map_cons, List.filter_cons]
      simp only [decide_eq_true_eq, entriesOf]
    rw [hentries]
    generalize boundedEntry (raw.title, raw.language) = entry at h ⊢
    dsimp only at h
    split at h
    · next hblank =>
      rw [if_neg (not_not.mpr hblank)]
      exact ih h
    · next hblank =>
      rw [if_pos hblank, Data.firstsFrom]
      split at h
      · cases h
      · split at h
        · next hseen =>
          rw [if_pos hseen]
          exact ih h
        · next hseen =>
          rw [if_neg hseen]
          cases hothers : normalizeVariants locale (index + 1) (searchPlanVariantKey locale entry :: seen)
              (freshId ids (searchPlanVariantId locale entry) :: ids) rest with
          | error error =>
            rw [hothers] at h
            cases h
          | ok others =>
            rw [hothers] at h
            cases h
            obtain ⟨hmap, hnodup, hids⟩ := ih hothers
            refine ⟨congrArg (entry :: ·) hmap, ?_, ?_⟩
            · rw [List.map_cons, List.nodup_cons]
              refine ⟨fun hmem => ?_, hnodup⟩
              obtain ⟨other, hother, heq⟩ := List.mem_map.mp hmem
              exact (hids other hother).2 (heq ▸ List.mem_cons_self)
            · intro variant hvariant
              rcases List.mem_cons.mp hvariant with rfl | hvariant
              · exact ⟨freshId_ne_nil ids entry, freshId_notMem ids _⟩
              · exact (hids variant hvariant).imp_right fun hnew hmem => hnew (List.mem_cons_of_mem _ hmem)

lemma normalizeSearchPlanDraft_spec (h : normalizeSearchPlanDraft locale draft = .ok content) :
    content.variants.map Titled.entry = draft.kept locale ∧ (content.variants.map Titled.id).Nodup ∧
      (∀ variant ∈ content.variants, variant.id ≠ []) ∧ content.variants.length ≤ searchPlanMaxVariants ∧
      content.markets = normalizeMarkets locale draft.markets ∧ content.markets.length ≤ searchPlanMaxMarkets ∧
      content.primaryFunction = boundedText draft.primaryFunction maxFunctionChars := by
  unfold normalizeSearchPlanDraft at h
  cases hvariants : normalizeVariants locale 0 [] [] draft.variants with
  | error error =>
    rw [hvariants] at h
    cases h
  | ok variants =>
    rw [hvariants] at h
    obtain ⟨hmap, hnodup, hids⟩ := normalizeVariants_spec hvariants
    simp only [bind, Except.bind] at h
    split at h
    · cases h
    · next hlength =>
      split at h
      · cases h
      · next hmarkets =>
        cases h
        exact ⟨hmap, hnodup, fun variant hvariant => (hids variant hvariant).1, not_lt.mp hlength, rfl,
          not_lt.mp hmarkets, rfl⟩

lemma mem_entriesOf (h : entry ∈ entriesOf raws) : trimmed entry.1 ≠ [] := by
  obtain ⟨hmem, hne⟩ := List.mem_filter.mp h
  obtain ⟨raw, -, rfl⟩ := List.mem_map.mp hmem
  exact trimmed_boundedText_ne_nil (of_decide_eq_true hne)

lemma mem_normalizeMarkets {markets : List Text} {market : Text} (h : market ∈ normalizeMarkets locale markets) :
    trimmed market ≠ [] := by
  obtain ⟨hmem, hne⟩ := List.mem_filter.mp (Data.mem_of_mem_firsts h)
  obtain ⟨raw, -, rfl⟩ := List.mem_map.mp hmem
  exact trimmed_boundedText_ne_nil (of_decide_eq_true hne)

/-! ## Errors of the schema -/

/-- What a draft keeps is within the limits in UTF-16 units as well. -/
structure Draft.Storable (locale : Locale) (draft : Draft) : Prop where
  function_le : unitLength (trimmed (boundedText draft.primaryFunction maxFunctionChars)) ≤ maxFunctionChars
  entries : ∀ entry ∈ draft.kept locale, EntryFits entry
  markets : ∀ market ∈ normalizeMarkets locale draft.markets, unitLength (trimmed market) ≤ maxMarketChars

lemma content_fits_iff (h : normalizeSearchPlanDraft locale draft = .ok content) :
    content.Fits ↔ draft.Storable locale := by
  obtain ⟨hentries, -, hids, hvariants, hmarkets, hmarketsLe, hfunction⟩ := normalizeSearchPlanDraft_spec h
  constructor
  · intro hfits
    refine ⟨hfunction ▸ hfits.function_le, fun entry hentry => ?_, fun market hmarket => ?_⟩
    · rw [← hentries] at hentry
      obtain ⟨variant, hvariant, rfl⟩ := List.mem_map.mp hentry
      exact (hfits.variants variant hvariant).2.2
    · exact (hfits.markets market (hmarkets ▸ hmarket)).2
  · intro hstorable
    refine ⟨hfunction ▸ hstorable.function_le, hvariants, fun variant hvariant => ?_, hmarketsLe,
      fun market hmarket => ?_⟩
    · have hentry : variant.entry ∈ draft.kept locale := hentries ▸ List.mem_map_of_mem hvariant
      exact ⟨hids variant hvariant, mem_entriesOf (Data.mem_of_mem_firsts hentry), hstorable.entries _ hentry⟩
    · rw [hmarkets] at hmarket
      exact ⟨mem_normalizeMarkets hmarket, hstorable.markets market hmarket⟩

lemma approvedPlan_fits_iff (hcurrent : current.Fits) : (approvedPlan locale current content now).Fits ↔
    content.Fits ∧ (content = current.toContent ∨ current.revision < maxSafeInteger) := by
  have hrevision : (approvedPlan locale current content now).revision ≤ maxSafeInteger ↔
      content = current.toContent ∨ current.revision < maxSafeInteger := by
    rw [approvedPlan]
    by_cases h : content = current.toContent
    · rw [if_neg (not_not.mpr h)]
      exact iff_of_true hcurrent.revision_le (.inl h)
    · rw [if_pos h, or_iff_right h, Nat.succ_le_iff]
  constructor
  · exact fun h => ⟨h.content, hrevision.mp h.revision_le⟩
  · rintro ⟨hcontent, h⟩
    refine ⟨hcontent, hrevision.mpr h, (List.length_filter_le _ _).trans hcurrent.suggestions_le, ?_⟩
    exact fun suggestion hsuggestion => hcurrent.suggestions suggestion (List.mem_of_mem_filter hsuggestion)

lemma mem_offered {inputs : List (Option (Text × Text))} (h : entry ∈ offered locale inputs) :
    trimmed entry.1 ≠ [] := by
  obtain ⟨hmem, hne⟩ := List.mem_filter.mp h
  obtain ⟨raw, -, rfl⟩ := List.mem_map.mp hmem
  exact trimmed_boundedText_ne_nil (of_decide_eq_true hne).1

def sampleLocale : Locale where
  lower text := text.map fun c => if 0x41 ≤ c ∧ c ≤ 0x5a then c + 0x20 else c
  isLetterOrNumber c := (0x30 ≤ c && c ≤ 0x39) || (0x41 ≤ c && c ≤ 0x5a) || (0x61 ≤ c && c ≤ 0x7a) ||
    (0x20000 ≤ c && c ≤ 0x2a6df)

def titleDraft (title language : Text) : Draft := ⟨[], [⟨title, language, .user⟩], []⟩

/-- Fifty-one characters in one hundred and two code units. -/
def longTitle : Text := List.replicate 51 0x20000

/-- Nothing that a draft keeps ends with a space where it was cut. -/
structure Draft.Settled (locale : Locale) (draft : Draft) : Prop where
  function_eq : trimmed (boundedText draft.primaryFunction maxFunctionChars) =
    boundedText draft.primaryFunction maxFunctionChars
  entries : ∀ entry ∈ draft.kept locale, trimmed entry.1 = entry.1 ∧ trimmed entry.2 = entry.2
  markets : ∀ market ∈ normalizeMarkets locale draft.markets, trimmed market = market

lemma map_eq_self_iff {α : Type} {f : α → α} {l : List α} : l.map f = l ↔ ∀ a ∈ l, f a = a := by
  conv_lhs => rw [← List.map_id l, List.map_map]
  exact List.map_inj_left

lemma Titled.trim_eq_iff : titled.trim = titled ↔ trimmed titled.title = titled.title ∧
    trimmed titled.language = titled.language := by
  cases titled
  simp [Titled.trim]

lemma content_trim_eq_iff (h : normalizeSearchPlanDraft locale draft = .ok content) :
    content.trim = content ↔ draft.Settled locale := by
  obtain ⟨hentries, -, -, -, hmarkets, -, hfunction⟩ := normalizeSearchPlanDraft_spec h
  have hvariants : (∀ variant ∈ content.variants, variant.trim = variant) ↔
      ∀ entry ∈ draft.kept locale, trimmed entry.1 = entry.1 ∧ trimmed entry.2 = entry.2 := by
    rw [← hentries, List.forall_mem_map]
    exact forall₂_congr fun variant _ => Titled.trim_eq_iff
  rw [Content.ext_iff, Content.trim]
  rw [map_eq_self_iff, map_eq_self_iff, hvariants, hfunction, hmarkets]
  exact ⟨fun h => ⟨h.1, h.2.1, h.2.2⟩, fun h => ⟨h.1, h.2, h.3⟩⟩

def cutTitle : Text := List.replicate 99 0x61 ++ [0x20, 0x62]

def cutPlan : Plan := ((approveSearchPlanDraft sampleLocale emptySearchPlan (titleDraft cutTitle []) "").toOption.getD
  emptySearchPlan)

inductive Edit where
  | approve (draft : Draft) (now : String)
  | add (origin : SuggestionOrigin) (inputs : List (Option (Text × Text))) (now : String)
  | dismiss (id : Text)

def Plan.edit (locale : Locale) (plan : Plan) : Edit → Except Failure Plan
  | .approve draft now => approveSearchPlanDraft locale plan draft now
  | .add origin inputs now => addSearchPlanSuggestions locale plan origin inputs now
  | .dismiss id => dismissSearchPlanSuggestion plan id

inductive Reached (locale : Locale) : Plan → Prop
  | empty : Reached locale emptySearchPlan
  | edit {plan saved : Plan} (h : Reached locale plan) (edit : Edit) (hsaved : plan.edit locale edit = .ok saved) :
      Reached locale saved

structure Plan.Distinct (locale : Locale) (plan : Plan) : Prop where
  ids : (plan.variants.map Titled.id).Nodup
  keys : (plan.known locale).Nodup

def normalisedOf (locale : Locale) (titled : List (Titled ρ)) : List (Text × Text) :=
  titled.map fun one => normalised locale one.entry

def Edit.considered (locale : Locale) (plan : Plan) : Edit → List (Text × Text)
  | .approve draft _ =>
    (entriesOf draft.variants).map (normalised locale) ++ normalisedOf locale plan.suggestions
  | .add _ inputs _ => (offered locale inputs).map (normalised locale)
  | .dismiss _ => []

/-- What an edit looks among, with all suggestions there are before the list is cut to its limit. -/
def Edit.among (locale : Locale) (plan : Plan) : Edit → List (Text × Text)
  | .approve draft _ => (draft.kept locale).map (normalised locale)
  | .add _ inputs _ => normalisedOf locale plan.variants ++ normalisedOf locale plan.suggestions ++
      (newEntries locale plan inputs).map (normalised locale)
  | .dismiss _ => []

/-- What an edit drops as a double is kept, with its title and its language. -/
def Edit.MergesEqual (locale : Locale) (plan : Plan) (edit : Edit) : Prop :=
  ∀ pair ∈ edit.considered locale plan,
    joined pair ∈ (edit.among locale plan).map joined → pair ∈ edit.among locale plan

/-- No separator is moved between a title and a language. -/
def Edit.NoneMoved (locale : Locale) (plan : Plan) (edit : Edit) : Prop :=
  ∀ pair ∈ edit.considered locale plan, ∀ kept ∈ edit.among locale plan,
    ¬ Data.Moved keySeparator kept.1 kept.2 pair.1 pair.2

lemma mergesEqual_iff {kept : List (Text × Text)} {pair : Text × Text} (hnodup : (kept.map joined).Nodup) :
    (joined pair ∈ kept.map joined → pair ∈ kept) ↔
      ∀ other ∈ kept, ¬ Data.Moved keySeparator other.1 other.2 pair.1 pair.2 := by
  constructor
  · intro h other hother hmoved
    have heq : joined other = joined pair := Data.joined_eq_iff.mpr (.inr hmoved)
    have hpair := h (heq ▸ List.mem_map_of_mem hother)
    exact hmoved.ne (congrArg Prod.fst (List.inj_on_of_nodup_map hnodup hother hpair heq))
  · intro h hmem
    obtain ⟨other, hother, heq⟩ := List.mem_map.mp hmem
    obtain ⟨hleft, hright⟩ := (Data.joined_eq_iff.mp heq).resolve_right (h other hother)
    exact Prod.ext hleft hright ▸ hother

lemma known_trim : plan.trim.known locale = plan.known locale := by
  simp [Plan.known, Plan.trim, Content.trim, Function.comp_def]

lemma known_eq : plan.known locale =
    (normalisedOf locale plan.variants ++ normalisedOf locale plan.suggestions).map joined := by
  rw [Plan.known, normalisedOf, normalisedOf, List.map_append, List.map_map, List.map_map]
  rfl

lemma ids_trim (variants : List (Titled ρ)) : (variants.map Titled.trim).map Titled.id = variants.map Titled.id := by
  rw [List.map_map]
  rfl

lemma Plan.Distinct.trim (h : plan.Distinct locale) : plan.trim.Distinct locale where
  ids := (ids_trim plan.variants).symm ▸ h.ids
  keys := known_trim.symm ▸ h.keys

lemma Plan.Distinct.sublist (h : plan.Distinct locale) {suggestions : List Suggestion}
    (hsub : suggestions.Sublist plan.suggestions) : Distinct locale { plan with suggestions := suggestions } where
  ids := h.ids
  keys := h.keys.sublist ((hsub.map _).append_left _)

lemma nodup_known_append (h : (plan.known locale).Nodup) (inputs : List (Option (Text × Text))) :
    (plan.known locale ++ (newEntries locale plan inputs).map (searchPlanVariantKey locale)).Nodup := by
  refine List.nodup_append.mpr ⟨h, Data.nodup_keys_firstsFrom _, fun key hkey other hother heq => ?_⟩
  obtain ⟨entry, hentry, rfl⟩ := List.mem_map.mp hother
  exact (Data.mem_of_mem_firstsFrom hentry).2 (heq ▸ hkey)

lemma Plan.Distinct.edit (h : plan.Distinct locale) (edit : Edit)
    (hsaved : plan.edit locale edit = .ok saved) : saved.Distinct locale := by
  cases edit with
  | approve draft now =>
    replace hsaved : approveSearchPlanDraft locale plan draft now = .ok saved := hsaved
    rw [approveSearchPlanDraft] at hsaved
    cases hcontent : normalizeSearchPlanDraft locale draft with
    | error error =>
      rw [hcontent] at hsaved
      cases hsaved
    | ok content =>
      rw [hcontent] at hsaved
      obtain ⟨-, rfl⟩ := searchPlanSchema_eq_ok.mp hsaved
      obtain ⟨hentries, hids, -⟩ := normalizeSearchPlanDraft_spec hcontent
      refine Plan.Distinct.trim ⟨hids, List.nodup_append.mpr ⟨?_, ?_, ?_⟩⟩
      · have hkeys : ((draft.kept locale).map (searchPlanVariantKey locale)).Nodup := Data.nodup_keys_firsts
        rwa [← hentries, List.map_map] at hkeys
      · have hold := (List.nodup_append.mp h.keys).2.1
        exact hold.sublist (List.filter_sublist.map _)
      · intro key hkey other hother heq
        obtain ⟨suggestion, hsuggestion, rfl⟩ := List.mem_map.mp hother
        exact of_decide_eq_true (List.mem_filter.mp hsuggestion).2 (heq ▸ hkey)
  | add origin inputs now =>
    obtain ⟨-, rfl⟩ := searchPlanSchema_eq_ok.mp hsaved
    refine Plan.Distinct.trim ⟨h.ids, ?_⟩
    have hall := nodup_known_append h.keys inputs
    rw [Plan.known, List.append_assoc] at hall
    refine hall.sublist (List.Sublist.append_left ?_ _)
    refine ((List.take_sublist _ _).map _).trans ?_
    rw [List.map_append, List.map_map]
    exact List.Sublist.refl _
  | dismiss id =>
    obtain ⟨-, rfl⟩ := searchPlanSchema_eq_ok.mp hsaved
    exact (h.sublist List.filter_sublist).trim

lemma Reached.distinct (h : Reached locale plan) : plan.Distinct locale := by
  induction h with
  | empty => exact ⟨List.nodup_nil, List.nodup_nil⟩
  | edit _ edit hsaved ih => exact ih.edit edit hsaved

lemma Edit.nodup_among (h : plan.Distinct locale) (edit : Edit) :
    ((edit.among locale plan).map joined).Nodup := by
  cases edit with
  | approve draft now =>
    have hkeys : ((draft.kept locale).map (searchPlanVariantKey locale)).Nodup := Data.nodup_keys_firsts
    rw [among, List.map_map]
    exact hkeys
  | add origin inputs now =>
    have hall := nodup_known_append h.keys inputs
    rw [known_eq] at hall
    rw [among, List.map_append, List.map_map]
    exact hall
  | dismiss id => exact List.nodup_nil

/-- `a::b` in the language `c`, and `a` in the language `b::c`. -/
def colonsDraft : Draft :=
  ⟨[], [⟨ofString "a::b", ofString "c", .user⟩, ⟨ofString "a", ofString "b::c", .user⟩], []⟩

def colonsPlan : Plan :=
  (approveSearchPlanDraft sampleLocale emptySearchPlan colonsDraft "").toOption.getD emptySearchPlan

end VacancyRadar.Candidate
