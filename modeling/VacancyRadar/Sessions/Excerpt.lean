import VacancyRadar.Data.CodePoints

/-!
# Excerpts of what a search has found

A hit of `searchEvents` shows a part of the field around the query.  The place of the query is found
in the lower case of the field, the part is cut from the field itself at offsets in UTF-16 code units,
and what comes out is cut again to a number of bytes.
-/

namespace VacancyRadar.Sessions

open Data Data.CodePoints

def maxSearchExcerptBytes : ℕ := 200

def excerptContextChars : ℕ := 60

/-- The mark that stands where something was left out. -/
def ellipsis : ℕ := 0x2026

/-- The part of a field around a place of a text with so many code units. -/
structure ExcerptWindow where
  start : ℕ
  stop : ℕ

def excerptWindow (text needle : List ℕ) (matchIndex : ℕ) : ExcerptWindow where
  start := matchIndex - excerptContextChars
  stop := min (unitLength text) (matchIndex + unitLength needle + excerptContextChars)

namespace ExcerptWindow

variable (w : ExcerptWindow) (text : List ℕ)

def lead : List ℕ := if 0 < w.start then [ellipsis] else []

def trail : List ℕ := if w.stop < unitLength text then [ellipsis] else []

def context : List ℕ := slice text w.start w.stop

end ExcerptWindow

def buildExcerpt (casing : Casing) (text caseInsensitiveNeedle : List ℕ) : List ℕ :=
  match indexOf caseInsensitiveNeedle (casing.lower text) with
  | none => truncateToBytes text maxSearchExcerptBytes
  | some matchIndex =>
    let window := excerptWindow text caseInsensitiveNeedle matchIndex
    truncateToBytes (window.lead ++ window.context text ++ window.trail text) maxSearchExcerptBytes

/-! ## What an excerpt shows -/

def ShowsMatch (casing : Casing) (text query : List ℕ) : Prop :=
  casing.lower query <:+: casing.lower (buildExcerpt casing text (casing.lower query))

def Reads (casing : Casing) (needle v : List ℕ) : Prop :=
  (∀ c ∈ v, ¬IsSurrogate c) ∧ ∀ before after, needle <:+: casing.lowerIn before v after

inductive ExcerptWindow.Fits (casing : Casing) (text needle : List ℕ) (w : ExcerptWindow) : Prop
  | whole : w.start = 0 → w.stop = unitLength text → byteLength text ≤ maxSearchExcerptBytes →
      w.Fits casing text needle
  | stretch (x v : List ℕ) : x ++ v <+: w.context text → Reads casing needle v →
      byteLength (w.lead ++ x ++ v) ≤ maxSearchExcerptBytes → w.Fits casing text needle

def MatchFits (casing : Casing) (text query : List ℕ) : Prop :=
  ∀ matchIndex, indexOf (casing.lower query) (casing.lower text) = some matchIndex →
    (excerptWindow text (casing.lower query) matchIndex).Fits casing text (casing.lower query)

section

variable {casing : Casing} {text query needle : List ℕ} {w : ExcerptWindow}

lemma ExcerptWindow.lead_cases (w : ExcerptWindow) : w.lead = [] ∨ w.lead = [ellipsis] := by
  unfold ExcerptWindow.lead
  split
  · exact .inr rfl
  · exact .inl rfl

lemma ExcerptWindow.trail_cases (w : ExcerptWindow) (text : List ℕ) :
    w.trail text = [] ∨ w.trail text = [ellipsis] := by
  unfold ExcerptWindow.trail
  split
  · exact .inr rfl
  · exact .inl rfl

lemma Reads.infix_lower {v : List ℕ} (h : Reads casing needle v) (x y : List ℕ) :
    needle <:+: casing.lower (x ++ v ++ y) := (h.2 _ _).trans (Casing.lowerIn_infix_lower x v y)

def ExcerptWindow.marked (w : ExcerptWindow) (text : List ℕ) : List ℕ :=
  w.lead ++ w.context text ++ w.trail text

lemma buildExcerpt_eq {matchIndex : ℕ} (h : indexOf needle (casing.lower text) = some matchIndex) :
    buildExcerpt casing text needle =
      truncateToBytes ((excerptWindow text needle matchIndex).marked text) maxSearchExcerptBytes := by
  rw [buildExcerpt, h]
  rfl

lemma ExcerptWindow.Fits.infix_lower (h : w.Fits casing text needle)
    (hcontained : needle <:+: casing.lower text) :
    needle <:+: casing.lower (truncateToBytes (w.marked text) maxSearchExcerptBytes) := by
  cases h with
  | whole hstart hstop hbytes =>
    have hmarked : w.marked text = text := by
      rw [marked, lead, trail, context, hstart, hstop, slice_zero, if_neg (Nat.lt_irrefl _),
        if_neg (Nat.lt_irrefl _), List.nil_append, List.append_nil]
    rw [hmarked, CodePoints.truncateToBytes, if_pos hbytes]
    exact hcontained
  | stretch x v hpart hreads hbytes =>
    obtain ⟨y, hcontext⟩ := hpart
    have hmarked : w.marked text = (w.lead ++ x) ++ v ++ (y ++ w.trail text) := by
      rw [marked, ← hcontext]
      simp only [List.append_assoc]
    rcases truncateToBytes_cases (w.marked text) maxSearchExcerptBytes with ⟨-, heq⟩ | ⟨tail, -, heq⟩
    · rw [heq, hmarked]
      exact hreads.infix_lower _ _
    · have hbegin : w.lead ++ x ++ v <+: w.marked text := hmarked ▸ List.prefix_append ..
      obtain ⟨rest, hrest⟩ := isPrefix_fitting hbegin hbytes
      have hv : v.map scrub = v := by
        have hid := List.map_congr_left fun c hc => scrub_of_not_isSurrogate (hreads.1 c hc)
        rwa [List.map_id'] at hid
      rw [heq, ← hrest, List.map_append, List.map_append, hv, List.append_assoc]
      exact hreads.infix_lower _ _

lemma ExcerptWindow.exists_of_isPrefix_marked {x v : List ℕ} (hv : ∀ c ∈ v, ¬IsSeparator c)
    (hne : v ≠ []) (h : x ++ v <+: w.marked text) :
    ∃ x', x = w.lead ++ x' ∧ x' ++ v <+: w.context text := by
  have hmark : ellipsis ∉ v := fun hmem => hv _ hmem (.inl (.inl rfl))
  obtain ⟨x', rfl⟩ : ∃ x', x = w.lead ++ x' := by
    rcases w.lead_cases with hlead | hlead
    · exact ⟨x, by rw [hlead, List.nil_append]⟩
    · rw [marked, hlead, List.append_assoc, List.singleton_append] at h
      cases x with
      | nil =>
        obtain ⟨c, v, rfl⟩ := List.exists_cons_of_ne_nil hne
        obtain ⟨rfl, -⟩ := List.cons_prefix_cons.mp h
        exact absurd List.mem_cons_self hmark
      | cons c x =>
        obtain ⟨rfl, -⟩ := List.cons_prefix_cons.mp h
        exact ⟨x, by rw [hlead, List.singleton_append]⟩
  refine ⟨x', rfl, ?_⟩
  rw [marked, List.append_assoc, List.append_assoc, List.prefix_append_right_inj] at h
  rcases w.trail_cases text with htrail | htrail
  · rwa [htrail, List.append_nil] at h
  · rw [htrail] at h
    refine (List.prefix_concat_iff.mp h).resolve_left fun heq => ?_
    obtain ⟨v, c, rfl⟩ := List.eq_nil_or_concat' v |>.resolve_left hne
    rw [← List.append_assoc] at heq
    obtain ⟨-, hc⟩ := List.append_inj' heq rfl
    rw [hc] at hmark
    exact hmark (List.mem_append_right _ List.mem_cons_self)

lemma ExcerptWindow.fits_of_infix_lower (hplain : Plain needle)
    (h : needle <:+: casing.lower (truncateToBytes (w.marked text) maxSearchExcerptBytes)) :
    w.Fits casing text needle := by
  obtain ⟨p, g, hbegin, hbytes, hg, hself, before, after, hfound⟩ :
      ∃ p g, p <+: w.marked text ∧ byteLength p ≤ maxSearchExcerptBytes ∧
        (∀ c, IsSeparator c → IsSeparator (g c)) ∧ (∀ c, ¬IsSeparator c → g c = c) ∧
        ∃ before after, needle <:+: casing.lowerIn before (p.map g) after := by
    rcases truncateToBytes_cases (w.marked text) maxSearchExcerptBytes with
      ⟨hshort, heq⟩ | ⟨tail, htail, heq⟩
    · refine ⟨w.marked text, id, List.prefix_refl _, hshort, fun _ h => h, fun _ _ => rfl, [], [], ?_⟩
      rw [List.map_id]
      exact heq ▸ h
    · refine ⟨_, scrub, fitting_isPrefix _ _, byteLength_fitting_le _ _, fun _ => isSeparator_scrub,
        fun _ => scrub_of_not_isSeparator, ?_⟩
      rw [heq] at h
      rcases htail with rfl | rfl
      · rw [List.append_nil] at h
        exact ⟨[], [], h⟩
      · exact hplain.infix_of_concat (.inl (.inr (.inl rfl))) h
  obtain ⟨x, v, y, rfl, hv, hin⟩ := hplain.exists_stretch hg hself p hfound
  have hreads : Reads casing needle v :=
    ⟨fun c hc hsurrogate => hv c hc (.inl (.inr (.inr hsurrogate))), fun before after => by
      rw [Casing.lowerIn_eq_flatMap fun c hc hsigma => hv c hc (.inr hsigma)]
      exact hin⟩
  by_cases hne : v = []
  · subst hne
    refine .stretch [] [] List.nil_prefix hreads ?_
    rcases w.lead_cases with hlead | hlead
    · rw [hlead]
      decide
    · rw [hlead]
      decide
  · have hpart : x ++ v <+: x ++ v ++ y := List.prefix_append ..
    obtain ⟨x', rfl, hcontext⟩ := exists_of_isPrefix_marked hv hne (hpart.trans hbegin)
    exact .stretch x' v hcontext hreads ((byteLength_le_of_isPrefix hpart).trans hbytes)

/-- **An excerpt shows the query** if the window fits; and if no character of the query can come from
a mark or depends on what stands around it, only then. -/
theorem showsMatch_iff (hcontained : casing.lower query <:+: casing.lower text) :
    (MatchFits casing text query → ShowsMatch casing text query) ∧
      (Plain (casing.lower query) → ShowsMatch casing text query → MatchFits casing text query) := by
  obtain ⟨matchIndex, hindex⟩ := exists_indexOf hcontained
  unfold ShowsMatch MatchFits
  rw [buildExcerpt_eq hindex]
  constructor
  · intro hfits
    exact (hfits matchIndex hindex).infix_lower hcontained
  · intro hplain hshows matchIndex' hindex'
    obtain rfl := Option.some.inj (hindex.symm.trans hindex')
    exact ExcerptWindow.fits_of_infix_lower hplain hshows

end

/-! ## What is cut off -/

lemma not_capital_of_isMark {c : ℕ} (h : IsMark c) : ¬(65 ≤ c ∧ c ≤ 90) := by
  unfold IsMark IsSurrogate replacement at h
  omega

def asciiCasing : Casing where
  point c := if 65 ≤ c ∧ c ≤ 90 then [c + 32] else [c]
  finalSigma _ _ := false
  point_of_isMark _ h := if_neg (not_capital_of_isMark h)

def codePoints (text : String) : List ℕ := text.toList.map Char.toNat

theorem showsMatch_iff_bash :
    (MatchFits asciiCasing (codePoints "Bash") (codePoints "BA") →
      ShowsMatch asciiCasing (codePoints "Bash") (codePoints "BA")) ∧
      (Plain (asciiCasing.lower (codePoints "BA")) →
        ShowsMatch asciiCasing (codePoints "Bash") (codePoints "BA") →
        MatchFits asciiCasing (codePoints "Bash") (codePoints "BA")) :=
  showsMatch_iff (by decide)

/-- Characters of three bytes that stand before the query. -/
def wideField : List ℕ := List.replicate 61 0x4e00 ++ codePoints "software engineers"

set_option maxRecDepth 8000 in
/-- The context before a query takes so many bytes that the end of the query is cut off. -/
theorem not_showsMatch_wideField : ¬∀ (casing : Casing) (text query : List ℕ),
    unitLength query ≤ 200 → casing.lower query <:+: casing.lower text →
    ShowsMatch casing text query := by
  intro hall
  have hshows := hall asciiCasing wideField (codePoints "software engineers") (by decide) (by decide)
  revert hshows
  unfold ShowsMatch
  decide

end VacancyRadar.Sessions
