import Mathlib.Data.List.Perm.Subperm
import VacancyRadar.Data.CodePoints
import VacancyRadar.Data.Grouping
import VacancyRadar.Data.Text

/-!
# The search plan

`candidate/search-plan.ts`: the titles a person wants to be searched for, which a draft replaces as a whole, and
the suggestions beside them.  A draft is bounded in code points, and the schema of a plan bounds in UTF-16 units
and trims.  The lower case of the locale and the letters and numbers of Unicode are parameters.
-/

namespace VacancyRadar.Candidate

open Data.CodePoints

/-- Code points; half of a surrogate pair may stand alone. -/
abbrev Text := List ℕ

structure Locale where
  /-- `toLocaleLowerCase`. -/
  lower : Text → Text
  /-- `/^[\p{L}\p{N}]$/u`. -/
  isLetterOrNumber : ℕ → Bool

/-! ## Texts -/

/-- `\s`, and what `trim` removes. -/
def isSpace (c : ℕ) : Bool :=
  (9 ≤ c && c ≤ 13) || (0x2000 ≤ c && c ≤ 0x200a) ||
    [0x20, 0xa0, 0x1680, 0x2028, 0x2029, 0x202f, 0x205f, 0x3000, 0xfeff].contains c

def trimmed (text : Text) : Text := (text.dropWhile isSpace).rdropWhile isSpace

/-- `replace(/\s+/gu, ' ')`.  The flag says that a space was just written for the spaces before. -/
def squeezed : Bool → Text → Text
  | _, [] => []
  | written, c :: rest =>
    if isSpace c then (if written then squeezed true rest else 0x20 :: squeezed true rest)
    else c :: squeezed false rest

def squash (value : Text) : Text := squeezed false (trimmed value)

def boundedText (value : Text) (max : ℕ) : Text := (squash value).take max

def ofString (text : String) : Text := text.toList.map Char.toNat

def searchPlanMaxVariants : ℕ := 12

def searchPlanMaxMarkets : ℕ := 10

def searchPlanMaxSuggestions : ℕ := 20

def maxTitleChars : ℕ := 100

def maxLanguageChars : ℕ := 40

def maxFunctionChars : ℕ := 100

def maxMarketChars : ℕ := 100

def maxSafeInteger : ℕ := 2 ^ 53 - 1

section

variable (locale : Locale)

/-! ## Keys and ids -/

/-- A title and a language, in small letters and with single spaces. -/
def normalised (entry : Text × Text) : Text × Text :=
  (locale.lower (squash entry.1), locale.lower (squash entry.2))

def keySeparator : Text := [0x3a, 0x3a]

def joined (pair : Text × Text) : Text := pair.1 ++ (keySeparator ++ pair.2)

/-- `searchPlanVariantKey`, of a title and a language. -/
def searchPlanVariantKey (entry : Text × Text) : Text := joined (normalised locale entry)

def codeUnitsOf (c : ℕ) : List ℕ := if units c = 1 then [c] else [highHalf c, lowHalf c]

def contentHash (value : Text) : Text :=
  let hash := (value.flatMap codeUnitsOf).foldl (fun (hash : UInt32) unit =>
    (hash ^^^ UInt32.ofNat unit) * 0x01000193) 0x811c9dc5
  ofString (Data.hex 8 hash.toNat)

def slugMaxUnits : ℕ := 60

def dash : ℕ := 0x2d

/-- The loop of `readableSlug`. -/
def slugFrom (slug : Text) (pendingDash : Bool) : Text → Text
  | [] => slug
  | character :: rest =>
    if !locale.isLetterOrNumber character then slugFrom slug (slug ≠ []) rest
    else
      let grown := slug ++ (if pendingDash then [dash] else []) ++ [character]
      if slugMaxUnits ≤ unitLength grown then grown else slugFrom grown false rest

def readableSlug (key : Text) : Text :=
  let slug := takeUnits slugMaxUnits (slugFrom locale [] false key)
  if slug.getLast? = some dash then slug.dropLast else slug

def searchPlanVariantId (entry : Text × Text) : Text :=
  let key := searchPlanVariantKey locale entry
  let slug := readableSlug locale key
  (if slug = [] then ofString "title" else slug) ++ dash :: contentHash key

def withOrdinal (base : Text) (count : ℕ) : Text := base ++ dash :: (Nat.toDigits 10 (count + 2)).map Char.toNat

def freshId (ids : List Text) (base : Text) : Text :=
  if base ∉ ids then base
  else (((List.range (ids.length + 1)).map (withOrdinal base)).find? fun id => id ∉ ids).getD base

def isSearchableTitle (title : Text) : Bool := title.any locale.isLetterOrNumber

end

/-! ## Plans -/

inductive Origin where
  | user
  | toolkit
  | ai
deriving DecidableEq

inductive SuggestionOrigin where
  | toolkit
  | ai
deriving DecidableEq

/-- What a variant and a suggestion have in common. -/
structure Titled (ρ : Type) where
  id : Text
  title : Text
  language : Text
  rest : ρ
deriving DecidableEq

abbrev Variant := Titled Origin

/-- With its origin and `suggestedAt`. -/
abbrev Suggestion := Titled (SuggestionOrigin × String)

variable {ρ : Type}

def Titled.entry (titled : Titled ρ) : Text × Text := (titled.title, titled.language)

def Titled.trim (titled : Titled ρ) : Titled ρ :=
  { titled with title := trimmed titled.title, language := trimmed titled.language }

/-- The limits of the schema for a title and its language. -/
def EntryFits (entry : Text × Text) : Prop :=
  unitLength (trimmed entry.1) ≤ maxTitleChars ∧ unitLength (trimmed entry.2) ≤ maxLanguageChars

instance : DecidablePred EntryFits := fun _ => inferInstanceAs (Decidable (_ ∧ _))

def Titled.Fits (titled : Titled ρ) : Prop := titled.id ≠ [] ∧ trimmed titled.title ≠ [] ∧ EntryFits titled.entry

instance : DecidablePred (Titled.Fits (ρ := ρ)) := fun _ => inferInstanceAs (Decidable (_ ∧ _ ∧ _))

@[ext] structure Content where
  primaryFunction : Text
  variants : List Variant
  markets : List Text
deriving DecidableEq

def Content.trim (content : Content) : Content :=
  ⟨trimmed content.primaryFunction, content.variants.map Titled.trim, content.markets.map trimmed⟩

@[mk_iff]
structure Content.Fits (content : Content) : Prop where
  function_le : unitLength (trimmed content.primaryFunction) ≤ maxFunctionChars
  variants_le : content.variants.length ≤ searchPlanMaxVariants
  variants : ∀ variant ∈ content.variants, variant.Fits
  markets_le : content.markets.length ≤ searchPlanMaxMarkets
  markets : ∀ market ∈ content.markets, trimmed market ≠ [] ∧ unitLength (trimmed market) ≤ maxMarketChars

instance (content : Content) : Decidable content.Fits := decidable_of_iff' _ (Content.fits_iff content)

structure Plan extends Content where
  revision : ℕ
  updatedAt : String
  suggestions : List Suggestion
deriving DecidableEq

def emptySearchPlan : Plan := ⟨⟨[], [], []⟩, 0, "", []⟩

@[mk_iff]
structure Plan.Fits (plan : Plan) : Prop where
  content : plan.toContent.Fits
  revision_le : plan.revision ≤ maxSafeInteger
  suggestions_le : plan.suggestions.length ≤ searchPlanMaxSuggestions
  suggestions : ∀ suggestion ∈ plan.suggestions, suggestion.Fits

instance (plan : Plan) : Decidable plan.Fits := decidable_of_iff' _ (Plan.fits_iff plan)

def Plan.trim (plan : Plan) : Plan :=
  { plan with toContent := plan.toContent.trim, suggestions := plan.suggestions.map Titled.trim }

inductive ValidationError where
  | unsearchable (position : ℕ) (title : Text)
  | tooManyTitles (count : ℕ)
  | tooManyMarkets (count : ℕ)
deriving DecidableEq

def ValidationError.message : ValidationError → Text
  | .unsearchable position title =>
    ofString ("Title " ++ toString position ++ " (\"") ++ title ++ ofString ("\") has no letters or numbers, so no " ++
      "source can search for it. Change it or remove it.")
  | .tooManyTitles count =>
    ofString ("A search plan holds at most " ++ toString searchPlanMaxVariants ++ " titles; this one has " ++
      toString count ++ ". Remove " ++ toString (count - searchPlanMaxVariants) ++ ".")
  | .tooManyMarkets count =>
    ofString ("A search plan holds at most " ++ toString searchPlanMaxMarkets ++ " markets; this one has " ++
      toString count ++ ".")

/-- How a call fails: with a `SearchPlanValidationError`, or with the error of the schema. -/
inductive Failure where
  | validation (error : ValidationError)
  | schema
deriving DecidableEq

/-- `searchPlanSchema.parse`. -/
def searchPlanSchema (plan : Plan) : Except Failure Plan := if plan.Fits then .ok plan.trim else .error .schema

/-! ## Drafts -/

structure DraftVariant where
  title : Text
  language : Text
  origin : Origin

structure Draft where
  primaryFunction : Text
  variants : List DraftVariant
  markets : List Text

/-- The limits of `searchPlanDraftSchema`. -/
def Draft.Accepted (draft : Draft) : Prop :=
  unitLength draft.primaryFunction ≤ maxFunctionChars * 3 ∧ draft.variants.length ≤ searchPlanMaxVariants * 3 ∧
    draft.markets.length ≤ searchPlanMaxMarkets * 3

def boundedEntry (entry : Text × Text) : Text × Text :=
  (boundedText entry.1 maxTitleChars, boundedText entry.2 maxLanguageChars)

section

variable (locale : Locale)

/-- The loop of `normalizeSearchPlanDraft` over the titles. -/
def normalizeVariants (index : ℕ) (seen ids : List Text) :
    List DraftVariant → Except ValidationError (List Variant)
  | [] => .ok []
  | raw :: rest =>
    let entry := boundedEntry (raw.title, raw.language)
    if entry.1 = [] then normalizeVariants (index + 1) seen ids rest
    else if !isSearchableTitle locale entry.1 then .error (.unsearchable (index + 1) entry.1)
    else if searchPlanVariantKey locale entry ∈ seen then normalizeVariants (index + 1) seen ids rest
    else
      let id := freshId ids (searchPlanVariantId locale entry)
      (normalizeVariants (index + 1) (searchPlanVariantKey locale entry :: seen) (id :: ids) rest).map fun variants =>
        ⟨id, entry.1, entry.2, raw.origin⟩ :: variants

def normalizeMarkets (markets : List Text) : List Text :=
  Data.firsts locale.lower ((markets.map fun market => boundedText market maxMarketChars).filter (· ≠ []))

def normalizeSearchPlanDraft (draft : Draft) : Except ValidationError Content := do
  let variants ← normalizeVariants locale 0 [] [] draft.variants
  if searchPlanMaxVariants < variants.length then throw (.tooManyTitles variants.length)
  let markets := normalizeMarkets locale draft.markets
  if searchPlanMaxMarkets < markets.length then throw (.tooManyMarkets markets.length)
  return ⟨boundedText draft.primaryFunction maxFunctionChars, variants, markets⟩

/-- What is parsed for a draft with this content.  `approvedContentKey` tells contents apart. -/
def approvedPlan (current : Plan) (content : Content) (now : String) : Plan :=
  let approved := content.variants.map fun variant => searchPlanVariantKey locale variant.entry
  { toContent := content
    revision := if content ≠ current.toContent then current.revision + 1 else current.revision
    updatedAt := if content ≠ current.toContent then now else current.updatedAt
    suggestions := current.suggestions.filter fun suggestion =>
      searchPlanVariantKey locale suggestion.entry ∉ approved }

/-- `approveSearchPlanDraft`, with `now.toISOString()`. -/
def approveSearchPlanDraft (current : Plan) (draft : Draft) (now : String) : Except Failure Plan :=
  match normalizeSearchPlanDraft locale draft with
  | .error error => .error (.validation error)
  | .ok content => searchPlanSchema (approvedPlan locale current content now)

/-! ## Suggestions -/

def offered (inputs : List (Option (Text × Text))) : List (Text × Text) :=
  (inputs.filterMap id).map boundedEntry |>.filter fun entry => entry.1 ≠ [] ∧ isSearchableTitle locale entry.1

/-- The keys of a plan. -/
def Plan.known (plan : Plan) : List Text :=
  plan.variants.map (fun variant => searchPlanVariantKey locale variant.entry) ++
    plan.suggestions.map fun suggestion => searchPlanVariantKey locale suggestion.entry

/-- The titles of a batch that are neither in the plan nor offered before. -/
def newEntries (current : Plan) (inputs : List (Option (Text × Text))) : List (Text × Text) :=
  Data.firstsFrom (searchPlanVariantKey locale) (current.known locale) (offered locale inputs)

def addSearchPlanSuggestions (current : Plan) (origin : SuggestionOrigin) (inputs : List (Option (Text × Text)))
    (now : String) : Except Failure Plan :=
  let added := (newEntries locale current inputs).map fun entry =>
    (⟨searchPlanVariantId locale entry, entry.1, entry.2, (origin, now)⟩ : Suggestion)
  searchPlanSchema { current with suggestions := (current.suggestions ++ added).take searchPlanMaxSuggestions }

def dismissSearchPlanSuggestion (current : Plan) (id : Text) : Except Failure Plan :=
  searchPlanSchema { current with suggestions := current.suggestions.filter fun suggestion => suggestion.id ≠ id }

end

end VacancyRadar.Candidate
