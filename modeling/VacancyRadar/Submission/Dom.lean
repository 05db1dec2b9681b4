import Mathlib.Algebra.GroupWithZero.Nat
import VacancyRadar.Form.Labels

/-!
# What is read of a page

`extractSubmissionSignals` walks a document for three things: what it says, whether a submit control is
still on it, and whether it flags an error.
-/

namespace VacancyRadar.Submission

open Data Form

inductive CdpDomNode where
  | node (nodeName : String) (nodeType : ℕ) (attributes : List String) (children : List CdpDomNode)
    (nodeValue : String) (contentDocument : Option CdpDomNode)

namespace CdpDomNode

def nodeName : CdpDomNode → String
  | node nodeName .. => nodeName

def attributes : CdpDomNode → List String
  | node _ _ attributes .. => attributes

def attrIn (name : String) : List String → Option String
  | key :: value :: rest => if key.toLower = name.toLower then some value else attrIn name rest
  | _ => none

def attr (n : CdpDomNode) (name : String) : Option String := attrIn name n.attributes

def hasAttr (n : CdpDomNode) (name : String) : Bool := (n.attr name).isSome

def resolveLabel (n : CdpDomNode) : String :=
  ((n.attr "aria-label").or ((n.attr "placeholder").or ((n.attr "name").or (n.attr "id")))).getD ""

mutual

def textContent : CdpDomNode → String
  | node _ nodeType _ children nodeValue _ =>
    if nodeType = 3 then nodeValue else trim (String.join (textContents children))

def textContents : List CdpDomNode → List String
  | [] => []
  | n :: rest => textContent n :: textContents rest

end

def isSubmitControl (n : CdpDomNode) : Bool :=
  if n.nodeName = "BUTTON" then ((n.attr "type").getD "submit").toLower = "submit"
  else if n.nodeName = "INPUT" then ((n.attr "type").getD "").toLower = "submit"
  else false

end CdpDomNode

/-! ## The walk -/

def nonVisibleTags : List String := ["SCRIPT", "STYLE", "NOSCRIPT", "TEMPLATE", "HEAD"]

def maxObservedPageTextLength : ℕ := 20000

def maxErrorMarkers : ℕ := 10

def errorClassPattern : Regex :=
  Regex.token isSpace (.seq (.opt (.litI "field-")) (.wordsI
    ["error", "errors", "invalid", "has-error", "is-invalid", "error-message", "validation-error"]))

/-- `replace(/\s+/g, ' ').trim()`. -/
def collapsed (text : String) : String := trim (String.ofList (runsToSpace isSpace text.toList))

/-- What the walk comes upon. -/
inductive Mark where
  | text (value : String)
  | submitControl
  | errorMarker (text : String)
deriving DecidableEq

def errorMarkerOf (n : CdpDomNode) : List Mark :=
  let ariaInvalid := ((n.attr "aria-invalid").getD "").toLower = "true"
  if (ariaInvalid || errorClassPattern.occurs ((n.attr "class").getD "")) && !n.hasAttr "hidden" then
    let markerText := collapsed n.textContent
    if markerText ≠ "" then [.errorMarker (sliceUnits markerText 200)]
    else if ariaInvalid then
      let label := if n.resolveLabel ≠ "" then n.resolveLabel else n.nodeName.toLower
      [.errorMarker ("field \"" ++ label ++ "\" was flagged invalid")]
    else []
  else []

/-- What the walk comes upon at an element itself. -/
def marksAt (n : CdpDomNode) : List Mark :=
  (if n.isSubmitControl && !n.hasAttr "hidden" then [.submitControl] else []) ++ errorMarkerOf n

mutual

def walk : CdpDomNode → List Mark
  | .node nodeName nodeType attributes children nodeValue contentDocument =>
    if nodeName ∈ nonVisibleTags then []
    else if nodeType = 3 then
      let value := collapsed nodeValue
      if value ≠ "" then [.text value] else []
    else
      marksAt (.node nodeName nodeType attributes children nodeValue contentDocument) ++
        match contentDocument with
        | some document => if nodeName = "IFRAME" then walk document else walkAll children
        | none => walkAll children

def walkAll : List CdpDomNode → List Mark
  | [] => []
  | n :: rest => walk n ++ walkAll rest

end

structure SubmissionSignals where
  text : String
  formStillPresent : Bool
  errorMarkers : List String
deriving DecidableEq

structure Collected where
  chunks : List String
  length : ℕ
  formStillPresent : Bool
  errorMarkers : List String

def Collected.collect (so : Collected) : Mark → Collected
  | .text value =>
    if so.length < maxObservedPageTextLength then
      { so with chunks := so.chunks ++ [value], length := so.length + (codeUnits value).length + 1 }
    else so
  | .submitControl => { so with formStillPresent := true }
  | .errorMarker text =>
    if so.errorMarkers.length < maxErrorMarkers then
      { so with errorMarkers := so.errorMarkers ++ [text] }
    else so

def collected (marks : List Mark) : Collected := marks.foldl Collected.collect ⟨[], 0, false, []⟩

def extractSubmissionSignals (root : CdpDomNode) : SubmissionSignals :=
  let found := collected (walk root)
  { text := sliceUnits (String.intercalate " " found.chunks) maxObservedPageTextLength
    formStillPresent := found.formStillPresent
    errorMarkers := found.errorMarkers }

def Mark.value? : Mark → Option String
  | .text value => some value
  | _ => none

def pageText (root : CdpDomNode) : String :=
  String.intercalate " " ((walk root).filterMap Mark.value?)

/-! ## What is collected -/

variable {marks : List Mark} {root : CdpDomNode} {text : String}

@[simp] lemma collect_formStillPresent (so : Collected) (mark : Mark) :
    (so.collect mark).formStillPresent = (so.formStillPresent || decide (mark = .submitControl)) := by
  cases mark with
  | text value =>
    show (if so.length < maxObservedPageTextLength then _ else so : Collected).formStillPresent = _
    split <;> simp
  | submitControl => simp [Collected.collect]
  | errorMarker text =>
    show (if so.errorMarkers.length < maxErrorMarkers then _ else so : Collected).formStillPresent = _
    split <;> simp

lemma collect_errorMarkers (so : Collected) (mark : Mark) :
    (so.collect mark).errorMarkers = so.errorMarkers ∧
        (∀ text, mark = .errorMarker text → so.errorMarkers ≠ []) ∨
      ∃ text, mark = .errorMarker text ∧ (so.collect mark).errorMarkers = so.errorMarkers ++ [text] := by
  cases mark with
  | text value =>
    refine .inl ⟨?_, nofun⟩
    show (if so.length < maxObservedPageTextLength then _ else so : Collected).errorMarkers = _
    split <;> rfl
  | submitControl => exact .inl ⟨rfl, nofun⟩
  | errorMarker text =>
    by_cases hroom : so.errorMarkers.length < maxErrorMarkers
    · exact .inr ⟨text, rfl, by simp [Collected.collect, hroom]⟩
    · refine .inl ⟨by simp [Collected.collect, hroom], fun _ _ hnil => ?_⟩
      -- where there is no room for one more, there are some
      rw [hnil] at hroom
      exact hroom (by decide)

lemma foldl_formStillPresent (so : Collected) :
    (marks.foldl Collected.collect so).formStillPresent =
      (so.formStillPresent || decide (Mark.submitControl ∈ marks)) := by
  induction marks generalizing so with
  | nil => simp
  | cons mark rest ih =>
    rw [List.foldl_cons, ih, collect_formStillPresent]
    simp [eq_comm, Bool.or_assoc]

lemma formStillPresent_eq_false :
    (extractSubmissionSignals root).formStillPresent = false ↔ Mark.submitControl ∉ walk root := by
  show (collected (walk root)).formStillPresent = false ↔ _
  rw [collected, foldl_formStillPresent]
  simp

lemma foldl_errorMarkers (so : Collected) :
    (marks.foldl Collected.collect so).errorMarkers = [] ↔
      so.errorMarkers = [] ∧ ∀ text, Mark.errorMarker text ∉ marks := by
  induction marks generalizing so with
  | nil => simp
  | cons mark rest ih =>
    rw [List.foldl_cons, ih]
    rcases collect_errorMarkers so mark with ⟨hsame, hfull⟩ | ⟨text, rfl, hmore⟩
    · rw [hsame]
      constructor
      · rintro ⟨hnil, hrest⟩
        refine ⟨hnil, fun text hmem => ?_⟩
        rcases List.mem_cons.mp hmem with rfl | hmem
        · exact hfull text rfl hnil
        · exact hrest text hmem
      · rintro ⟨hnil, hnone⟩
        exact ⟨hnil, fun text hmem => hnone text (List.mem_cons_of_mem mark hmem)⟩
    · rw [hmore]
      constructor
      · rintro ⟨hnil, -⟩
        exact absurd hnil (List.append_ne_nil_of_right_ne_nil _ (List.cons_ne_nil _ _))
      · rintro ⟨-, hnone⟩
        exact absurd List.mem_cons_self (hnone text)

lemma errorMarkers_eq_nil :
    (extractSubmissionSignals root).errorMarkers = [] ↔ ∀ text, Mark.errorMarker text ∉ walk root := by
  show (collected (walk root)).errorMarkers = [] ↔ _
  rw [collected, foldl_errorMarkers]
  simp

lemma mem_of_mem_foldl_errorMarkers (so : Collected)
    (h : text ∈ (marks.foldl Collected.collect so).errorMarkers) :
    text ∈ so.errorMarkers ∨ Mark.errorMarker text ∈ marks := by
  induction marks generalizing so with
  | nil => exact .inl h
  | cons mark rest ih =>
    rcases ih _ h with h | h
    · rcases collect_errorMarkers so mark with ⟨hsame, -⟩ | ⟨other, rfl, hmore⟩
      · exact .inl (hsame ▸ h)
      · rw [hmore] at h
        rcases List.mem_append.mp h with h | h
        · exact .inl h
        · exact .inr (List.mem_singleton.mp h ▸ List.mem_cons_self)
    · exact .inr (List.mem_cons_of_mem mark h)

lemma mem_walk_of_mem_errorMarkers (h : text ∈ (extractSubmissionSignals root).errorMarkers) :
    Mark.errorMarker text ∈ walk root :=
  (mem_of_mem_foldl_errorMarkers ⟨[], 0, false, []⟩ h).resolve_left (List.not_mem_nil)

/-! ## Error markers -/

lemma trim_ne_empty_of_mem_errorMarkerOf {n : CdpDomNode} (h : Mark.errorMarker text ∈ errorMarkerOf n) :
    trim text ≠ "" := by
  unfold errorMarkerOf at h
  dsimp only at h
  split at h
  · split at h
    · next hsays =>
      obtain rfl := Mark.errorMarker.inj (List.mem_singleton.mp h)
      rw [collapsed] at hsays ⊢
      exact trim_sliceUnits_trim_ne_empty hsays
    · split at h
      · obtain rfl := Mark.errorMarker.inj (List.mem_singleton.mp h)
        refine trim_ne_empty (c := 'f') ?_ (by decide)
        simp
      · exact absurd h List.not_mem_nil
  · exact absurd h List.not_mem_nil

lemma mem_errorMarkerOf_of_mem_marksAt {n : CdpDomNode} (h : Mark.errorMarker text ∈ marksAt n) :
    Mark.errorMarker text ∈ errorMarkerOf n := by
  refine (List.mem_append.mp h).resolve_left fun h => ?_
  split at h
  · exact absurd (List.mem_singleton.mp h) nofun
  · exact absurd h List.not_mem_nil

mutual

/-- An error marker of a page is at a node. -/
theorem exists_errorMarkerOf_of_mem_walk : (n : CdpDomNode) → Mark.errorMarker text ∈ walk n →
    ∃ n, Mark.errorMarker text ∈ errorMarkerOf n
  | .node nodeName nodeType attributes children nodeValue contentDocument, h => by
    unfold walk at h
    split at h
    · exact absurd h List.not_mem_nil
    · split at h
      · dsimp only at h
        split at h
        · exact absurd (List.mem_singleton.mp h) nofun
        · exact absurd h List.not_mem_nil
      · rcases List.mem_append.mp h with h | h
        · exact ⟨_, mem_errorMarkerOf_of_mem_marksAt h⟩
        · cases contentDocument with
          | none => exact exists_errorMarkerOf_of_mem_walkAll children h
          | some document =>
            dsimp only at h
            split at h
            · exact exists_errorMarkerOf_of_mem_walk document h
            · exact exists_errorMarkerOf_of_mem_walkAll children h

/-- An error marker of several nodes is at a node. -/
theorem exists_errorMarkerOf_of_mem_walkAll : (nodes : List CdpDomNode) →
    Mark.errorMarker text ∈ walkAll nodes → ∃ n, Mark.errorMarker text ∈ errorMarkerOf n
  | [], h => absurd h List.not_mem_nil
  | n :: rest, h => by
    rw [walkAll] at h
    rcases List.mem_append.mp h with h | h
    · exact exists_errorMarkerOf_of_mem_walk n h
    · exact exists_errorMarkerOf_of_mem_walkAll rest h

end

lemma trim_ne_empty_of_mem_errorMarkers (h : text ∈ (extractSubmissionSignals root).errorMarkers) :
    trim text ≠ "" := by
  obtain ⟨n, hn⟩ := exists_errorMarkerOf_of_mem_walk root (mem_walk_of_mem_errorMarkers h)
  exact trim_ne_empty_of_mem_errorMarkerOf hn

/-! ## Texts -/

def spaced (texts : List String) : ℕ := (texts.map fun text => (codeUnits text).length + 1).sum

end VacancyRadar.Submission
