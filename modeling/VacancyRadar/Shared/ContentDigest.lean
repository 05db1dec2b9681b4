import VacancyRadar.Data.Text
import VacancyRadar.Data.TextDecoder
import VacancyRadar.Sse.Writer

/-!
# Truncation to a number of bytes

`truncateToBytes` cuts the bytes of a text and decodes what is left.  A character that is cut is read as
a replacement character, which takes three bytes, and is dropped if it is too long.
-/

namespace VacancyRadar.Shared

open Data
open Sse (utf8 utf8ByteLength)

/-- `slice(0, -1)`. -/
def dropLastUnit (text : List Char) : List Char :=
  takeUnits text ((codeUnits (String.ofList text)).length - 1)

def truncateToBytes (text : List Char) (maxBytes : ℕ) : List Char :=
  if utf8ByteLength text ≤ maxBytes then text
  else
    let cut := bufferToString ((utf8 text).take maxBytes)
    if utf8ByteLength cut ≤ maxBytes then cut else dropLastUnit cut

structure IsLongestFitting (text : List Char) (maxBytes : ℕ) (result : List Char) : Prop where
  isPrefix : result <+: text
  fits : utf8ByteLength result ≤ maxBytes
  longest : ∀ other, other <+: text → utf8ByteLength other ≤ maxBytes → other <+: result

def CutsAfterThird (text : List Char) (maxBytes : ℕ) : Prop :=
  ∃ before c after, text = before ++ c :: after ∧ c.utf8Size = 4 ∧ utf8ByteLength before + 3 = maxBytes

variable {text before after result : List Char} {c : Char} {maxBytes k : ℕ}

/-! ## The cut -/

lemma utf8ByteLength_cons : utf8ByteLength (c :: text) = c.utf8Size + utf8ByteLength text := by
  rw [utf8ByteLength, utf8, List.flatMap_cons, List.length_append, String.length_utf8EncodeChar]
  rfl

lemma utf8ByteLength_replacement : utf8ByteLength ['\uFFFD'] = 3 := by decide

lemma exists_cut (h : maxBytes < utf8ByteLength text) :
    ∃ before c after k, text = before ++ c :: after ∧ k < c.utf8Size ∧
      maxBytes = utf8ByteLength before + k := by
  induction text generalizing maxBytes with
  | nil => exact absurd h (Nat.not_lt_zero _)
  | cons c rest ih =>
    rw [utf8ByteLength_cons] at h
    by_cases hc : maxBytes < c.utf8Size
    · exact ⟨[], c, rest, maxBytes, rfl, hc, (Nat.zero_add _).symm⟩
    · obtain ⟨before, d, after, k, rfl, hk, hmax⟩ :=
        ih (show maxBytes - c.utf8Size < utf8ByteLength rest by omega)
      refine ⟨c :: before, d, after, k, rfl, hk, ?_⟩
      rw [utf8ByteLength_cons]
      omega

lemma take_utf8 (hk : k < c.utf8Size) :
    (utf8 (before ++ c :: after)).take (utf8ByteLength before + k) =
      utf8 before ++ (String.utf8EncodeChar c).take k := by
  have hcons : utf8 (c :: after) = String.utf8EncodeChar c ++ utf8 after := List.flatMap_cons
  rw [Sse.utf8_append, utf8ByteLength, List.take_length_add_append, hcons, List.take_append_of_le_length]
  rw [String.length_utf8EncodeChar]
  exact hk.le

lemma dropLastUnit_append : dropLastUnit (text ++ ['\uFFFD']) = text := by
  have hlast : (codeUnits (String.ofList ['\uFFFD'])).length = 1 := by decide
  rw [dropLastUnit, String.ofList_append, length_codeUnits_append, hlast, Nat.add_sub_cancel]
  induction text with
  | nil => rfl
  | cons c rest ih =>
    rw [length_codeUnits_cons, List.cons_append]
    split
    · next hsmall =>
      rw [Nat.add_comm, takeUnits, if_pos hsmall, ih]
    · next hlarge =>
      rw [Nat.add_comm, takeUnits, if_neg hlarge, if_neg (Nat.succ_ne_zero _), Nat.add_sub_cancel, ih]

/-! ## What is left -/

lemma truncateToBytes_cut (hk : k < c.utf8Size) :
    truncateToBytes (before ++ c :: after) (utf8ByteLength before + k) =
      if k = 3 then before ++ ['\uFFFD'] else before := by
  have hsize : c.utf8Size ≤ 4 := c.utf8Size_le_four
  have hlong : ¬utf8ByteLength (before ++ c :: after) ≤ utf8ByteLength before + k := by
    rw [Sse.utf8ByteLength_append, utf8ByteLength_cons]
    omega
  rw [truncateToBytes, if_neg hlong, take_utf8 hk, utf8, bufferToString_append_take before c hk]
  dsimp only
  rcases Nat.eq_zero_or_pos k with rfl | hpos
  · have hthree : ¬(0 = 3) := by decide
    rw [if_pos rfl, List.append_nil, Nat.add_zero, if_pos (Nat.le_refl _), if_neg hthree]
  · rw [if_neg (Nat.pos_iff_ne_zero.mp hpos), Sse.utf8ByteLength_append, utf8ByteLength_replacement,
      dropLastUnit_append]
    by_cases hthree : k = 3
    · rw [if_pos (by omega), if_pos hthree]
    · rw [if_neg (by omega), if_neg hthree]

lemma isLongestFitting_cut (hk : k < c.utf8Size) :
    IsLongestFitting (before ++ c :: after) (utf8ByteLength before + k) before := by
  refine ⟨List.prefix_append .., Nat.le_add_right .., fun other hother hfits => ?_⟩
  rcases List.prefix_or_prefix_of_prefix hother (List.prefix_append before (c :: after)) with h | h
  · exact h
  · obtain ⟨rest, rfl⟩ := h
    rw [List.prefix_append_right_inj] at hother
    cases rest with
    | nil => rw [List.append_nil]
    | cons d rest =>
      obtain ⟨rfl, -⟩ := List.cons_prefix_cons.mp hother
      rw [Sse.utf8ByteLength_append, utf8ByteLength_cons] at hfits
      omega

/-- **Truncation.**  `truncateToBytes` gives the longest beginning that fits, except if the limit lies
after the third of the four bytes of a character. -/
theorem isLongestFitting_truncateToBytes_iff (text : List Char) (maxBytes : ℕ) :
    IsLongestFitting text maxBytes (truncateToBytes text maxBytes) ↔ ¬CutsAfterThird text maxBytes := by
  by_cases hshort : utf8ByteLength text ≤ maxBytes
  · rw [truncateToBytes, if_pos hshort]
    refine iff_of_true ⟨List.prefix_refl _, hshort, fun other hother _ => hother⟩ ?_
    rintro ⟨before, c, after, rfl, hc, rfl⟩
    rw [Sse.utf8ByteLength_append, utf8ByteLength_cons] at hshort
    omega
  · obtain ⟨before, c, after, k, rfl, hk, rfl⟩ := exists_cut (Nat.lt_of_not_le hshort)
    rw [truncateToBytes_cut hk]
    by_cases hthree : k = 3
    · subst hthree
      have hfour : c.utf8Size = 4 := le_antisymm c.utf8Size_le_four hk
      refine iff_of_false (fun h => ?_) (not_not_intro ⟨before, c, after, rfl, hfour, rfl⟩)
      -- The replacement character is not the one that was cut.
      have hprefix := h.isPrefix
      rw [if_pos rfl, List.prefix_append_right_inj] at hprefix
      obtain ⟨rfl, -⟩ := List.cons_prefix_cons.mp hprefix
      exact absurd hfour (by decide)
    · rw [if_neg hthree]
      refine iff_of_true (isLongestFitting_cut hk) ?_
      rintro ⟨before', d, after', heq, hd, hlength⟩
      have hbefore : before = before' := by
        have h' : IsLongestFitting (before ++ c :: after) (utf8ByteLength before + k) before' := by
          rw [heq, ← hlength]
          exact isLongestFitting_cut (by omega)
        have h : IsLongestFitting (before ++ c :: after) (utf8ByteLength before + k) before :=
          isLongestFitting_cut hk
        exact (h'.longest before h.isPrefix h.fits).eq_of_length_le
          (h.longest before' h'.isPrefix h'.fits).length_le
      subst hbefore
      omega

theorem not_isLongestFitting_truncateToBytes :
    ¬IsLongestFitting ['a', '😀'] 4 (truncateToBytes ['a', '😀'] 4) := by
  intro h
  have hcut : truncateToBytes ['a', '😀'] 4 = ['a', '\uFFFD'] := by decide
  have hprefix := h.isPrefix
  rw [hcut] at hprefix
  exact absurd hprefix (by decide)

end VacancyRadar.Shared
