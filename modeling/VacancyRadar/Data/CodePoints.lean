import Mathlib.Algebra.BigOperators.Group.List.Basic
import Mathlib.Algebra.GroupWithZero.Nat
import Mathlib.Data.List.Infix

/-!
# Texts as code points

A string is a sequence of UTF-16 code units, and offsets into it count these.  Here a text is the list
of its code points, and half of a surrogate pair that stands alone is a code point of its own.  A text
has a length in code units and another one in bytes of UTF-8, and lower case may change both.
-/

namespace Data.CodePoints

variable {c : ℕ} {s t : List ℕ}

/-! ## Code units -/

def IsSurrogate (c : ℕ) : Prop := 0xd800 ≤ c ∧ c < 0xe000

instance decidableIsSurrogate (c : ℕ) : Decidable (IsSurrogate c) :=
  inferInstanceAs (Decidable (_ ∧ _))

def units (c : ℕ) : ℕ := if c < 0x10000 then 1 else 2

def unitLength (text : List ℕ) : ℕ := (text.map units).sum

def highHalf (c : ℕ) : ℕ := 0xd800 + (c - 0x10000) / 0x400

def lowHalf (c : ℕ) : ℕ := 0xdc00 + (c - 0x10000) % 0x400

def dropUnits : ℕ → List ℕ → List ℕ
  | 0, text => text
  | _ + 1, [] => []
  | n + 1, c :: rest =>
    if units c = 1 then dropUnits n rest
    else if n = 0 then lowHalf c :: rest
    else dropUnits (n - 1) rest

def takeUnits : ℕ → List ℕ → List ℕ
  | 0, _ => []
  | _ + 1, [] => []
  | n + 1, c :: rest =>
    if units c = 1 then c :: takeUnits n rest
    else if n = 0 then [highHalf c]
    else c :: takeUnits (n - 1) rest

def slice (text : List ℕ) (start stop : ℕ) : List ℕ := takeUnits (stop - start) (dropUnits start text)

/-- `indexOf`: the offset of the first place of a text made of whole characters. -/
def indexOf (needle : List ℕ) : List ℕ → Option ℕ
  | [] => if needle = [] then some 0 else none
  | c :: rest =>
    if needle <+: c :: rest then some 0 else (indexOf needle rest).map fun i => i + units c

/-! ## Bytes -/

/-- The number of bytes of a code point in UTF-8.  Half of a pair is written as a replacement
character. -/
def bytes (c : ℕ) : ℕ :=
  if c < 0x80 then 1 else if c < 0x800 then 2 else if c < 0x10000 then 3 else 4

def byteLength (text : List ℕ) : ℕ := (text.map bytes).sum

def replacement : ℕ := 0xfffd

/-- What a code point is after it was written as UTF-8 and read again. -/
def scrub (c : ℕ) : ℕ := if IsSurrogate c then replacement else c

def fitting : List ℕ → ℕ → List ℕ × ℕ
  | [], room => ([], room)
  | c :: rest, room =>
    if bytes c ≤ room then (c :: (fitting rest (room - bytes c)).1, (fitting rest (room - bytes c)).2)
    else ([], room)

/-- `truncateToBytes`.  A character of which three bytes fit is cut, and is read as a replacement
character, which takes three bytes as well. -/
def truncateToBytes (text : List ℕ) (maxBytes : ℕ) : List ℕ :=
  if byteLength text ≤ maxBytes then text
  else
    (fitting text maxBytes).1.map scrub ++ if (fitting text maxBytes).2 = 3 then [replacement] else []

/-! ## Lower case -/

def capitalSigma : ℕ := 0x3a3

def IsMark (c : ℕ) : Prop := c = 0x2026 ∨ c = replacement ∨ IsSurrogate c

instance decidableIsMark (c : ℕ) : Decidable (IsMark c) :=
  inferInstanceAs (Decidable (_ ∨ _ ∨ _))

structure Casing where
  point : ℕ → List ℕ
  finalSigma : List ℕ → List ℕ → Bool
  /-- Marks have no lower case. -/
  point_of_isMark : ∀ c, IsMark c → point c = [c]

namespace Casing

variable (casing : Casing)

def lowerAt (before : List ℕ) (c : ℕ) (after : List ℕ) : List ℕ :=
  if c = capitalSigma then [if casing.finalSigma before after then 0x3c2 else 0x3c3]
  else casing.point c

def lowerIn (before : List ℕ) : List ℕ → List ℕ → List ℕ
  | [], _ => []
  | c :: rest, after =>
    casing.lowerAt before c (rest ++ after) ++ lowerIn (c :: before) rest after

/-- `toLowerCase`. -/
def lower (text : List ℕ) : List ℕ := casing.lowerIn [] text []

end Casing

/-! ## Lengths -/

@[simp] lemma unitLength_nil : unitLength [] = 0 := rfl

variable {needle text : List ℕ}

@[simp] lemma unitLength_cons : unitLength (c :: text) = units c + unitLength text := rfl

@[simp] lemma byteLength_nil : byteLength [] = 0 := rfl

@[simp] lemma byteLength_cons : byteLength (c :: text) = bytes c + byteLength text := rfl

lemma byteLength_append (s t : List ℕ) : byteLength (s ++ t) = byteLength s + byteLength t := by
  rw [byteLength, List.map_append, List.sum_append]
  rfl

lemma byteLength_le_of_isPrefix (h : s <+: t) : byteLength s ≤ byteLength t:= by
  obtain ⟨r, rfl⟩ := h
  rw [byteLength_append]
  exact Nat.le_add_right ..

lemma units_eq_one_or_two (c : ℕ) : units c = 1 ∨ units c = 2 := by
  unfold units
  split
  · exact .inl rfl
  · exact .inr rfl

lemma takeUnits_of_le {n : ℕ} (h : unitLength text ≤ n) : takeUnits n text = text := by
  induction text generalizing n with
  | nil => cases n <;> rfl
  | cons c rest ih =>
    rw [unitLength_cons] at h
    cases n with
    | zero =>
      have := units_eq_one_or_two c
      omega
    | succ n =>
      rw [takeUnits]
      rcases units_eq_one_or_two c with hone | htwo
      · rw [if_pos hone, ih (by omega)]
      · rw [if_neg (by omega), if_neg (by omega), ih (by omega)]

@[simp] lemma slice_zero (text : List ℕ) : slice text 0 (unitLength text) = text := by
  rw [slice, dropUnits]
  exact takeUnits_of_le (Nat.le_refl _)

lemma exists_indexOf (h : needle <:+: text) : ∃ i, indexOf needle text = some i := by
  induction text with
  | nil => exact ⟨0, if_pos (List.infix_nil.mp h)⟩
  | cons c rest ih =>
    rw [indexOf]
    split
    · exact ⟨0, rfl⟩
    · rename_i hnot
      obtain ⟨i, hi⟩ := ih ((List.infix_cons_iff.mp h).resolve_left hnot)
      exact ⟨i + units c, by rw [hi]; rfl⟩

/-! ## What fits -/

lemma fitting_isPrefix (text : List ℕ) (room : ℕ) : (fitting text room).1 <+: text := by
  induction text generalizing room with
  | nil => exact List.prefix_refl _
  | cons c rest ih =>
    rw [fitting]
    split
    · exact List.cons_prefix_cons.mpr ⟨rfl, ih _⟩
    · exact List.nil_prefix

lemma byteLength_fitting_le (text : List ℕ) (room : ℕ) : byteLength (fitting text room).1 ≤ room := by
  induction text generalizing room with
  | nil => exact Nat.zero_le _
  | cons c rest ih =>
    rw [fitting]
    split
    · have := ih (room - bytes c)
      rw [byteLength_cons]
      omega
    · exact Nat.zero_le _

lemma isPrefix_fitting {room : ℕ} (h : s <+: text) (hroom : byteLength s ≤ room) :
    s <+: (fitting text room).1 := by
  induction text generalizing s room with
  | nil => exact h
  | cons c rest ih =>
    cases s with
    | nil => exact List.nil_prefix
    | cons d s =>
      obtain ⟨rfl, hrest⟩ := List.cons_prefix_cons.mp h
      rw [byteLength_cons] at hroom
      rw [fitting, if_pos (by omega)]
      exact List.cons_prefix_cons.mpr ⟨rfl, ih hrest (by omega)⟩

lemma truncateToBytes_cases (text : List ℕ) (maxBytes : ℕ) :
    (byteLength text ≤ maxBytes ∧ truncateToBytes text maxBytes = text) ∨
      ∃ tail, (tail = [] ∨ tail = [replacement]) ∧
        truncateToBytes text maxBytes = (fitting text maxBytes).1.map scrub ++ tail := by
  unfold truncateToBytes
  by_cases hshort : byteLength text ≤ maxBytes
  · exact .inl ⟨hshort, if_pos hshort⟩
  · rw [if_neg hshort]
    refine .inr ⟨_, ?_, rfl⟩
    split
    · exact .inr rfl
    · exact .inl rfl

/-! ## The lower case of parts -/

lemma scrub_of_not_isSurrogate (h : ¬IsSurrogate c) : scrub c = c:= if_neg h

lemma isMark_scrub (h : IsMark c) : IsMark (scrub c):= by
  unfold scrub
  split
  · exact .inr (.inl rfl)
  · exact h

namespace Casing

variable {casing : Casing} {before after : List ℕ}

lemma lowerIn_append (s t : List ℕ) :
    casing.lowerIn before (s ++ t) after =
      casing.lowerIn before s (t ++ after) ++ casing.lowerIn (s.reverse ++ before) t after := by
  induction s generalizing before with
  | nil => rfl
  | cons c s ih =>
    rw [List.cons_append, lowerIn, lowerIn, ih, List.append_assoc, List.append_assoc,
      List.reverse_cons, List.append_assoc]
    rfl

lemma lowerIn_infix_lower (x v y : List ℕ) :
    casing.lowerIn x.reverse v y <:+: casing.lower (x ++ v ++ y) := by
  rw [lower, lowerIn_append, lowerIn_append, List.append_nil, List.append_nil]
  exact ⟨_, _, rfl⟩

lemma lowerIn_eq_flatMap {v : List ℕ} (h : ∀ c ∈ v, c ≠ capitalSigma) :
    casing.lowerIn before v after = v.flatMap casing.point := by
  induction v generalizing before with
  | nil => rfl
  | cons c v ih =>
    rw [lowerIn, lowerAt, if_neg (h c List.mem_cons_self),
      ih fun d hd => h d (List.mem_cons_of_mem _ hd), List.flatMap_cons]

end Casing

/-! ## Where a text is found -/

/-- A text that has no marks, and no small sigma. -/
def Plain (needle : List ℕ) : Prop := ∀ c ∈ needle, ¬IsMark c ∧ c ≠ 0x3c2 ∧ c ≠ 0x3c3

/-- The characters that do not become part of a plain text. -/
def IsSeparator (c : ℕ) : Prop := IsMark c ∨ c = capitalSigma

lemma isSeparator_scrub (h : IsSeparator c) : IsSeparator (scrub c):= by
  rcases h with hmark | rfl
  · exact .inl (isMark_scrub hmark)
  · exact .inr (by decide)

lemma scrub_of_not_isSeparator (h : ¬IsSeparator c) : scrub c = c:=
  scrub_of_not_isSurrogate fun hsurrogate => h (.inl (.inr (.inr hsurrogate)))

lemma infix_or_infix {d : ℕ} (hd : d ∉ needle) (h : needle <:+: s ++ d :: t) :
    needle <:+: s ∨ needle <:+: t := by
  obtain ⟨a, b, heq⟩ := h
  rcases List.append_eq_append_iff.mp heq with ⟨r, rfl, -⟩ | ⟨r, hleft, hright⟩
  · exact .inl ⟨a, r, rfl⟩
  cases r with
  | nil =>
    rw [List.append_nil] at hleft
    exact .inl ⟨a, [], by rw [List.append_nil, hleft]⟩
  | cons e r =>
    obtain ⟨rfl, rfl⟩ := List.cons.inj hright
    rcases List.append_eq_append_iff.mp hleft with ⟨q, -, hneedle⟩ | ⟨q, rfl, hrest⟩
    · exact absurd (hneedle ▸ List.mem_append_right q List.mem_cons_self) hd
    · cases q with
      | nil =>
        rw [List.nil_append] at hrest
        exact absurd (hrest ▸ List.mem_cons_self) hd
      | cons e q =>
        obtain ⟨-, rfl⟩ := List.cons.inj hrest
        exact .inr ⟨q, b, rfl⟩

section

variable {casing : Casing} {needle before after : List ℕ}

lemma Plain.lowerAt_separator (hplain : Plain needle) (hc : IsSeparator c) :
    ∃ d, casing.lowerAt before c after = [d] ∧ d ∉ needle := by
  unfold Casing.lowerAt
  by_cases hsigma : c = capitalSigma
  · rw [if_pos hsigma]
    refine ⟨_, rfl, fun hmem => ?_⟩
    obtain ⟨-, hfinal, hsmall⟩ := hplain _ hmem
    split at hfinal
    · exact hfinal rfl
    · rename_i hcase
      rw [if_neg hcase] at hsmall
      exact hsmall rfl
  · have hmark : IsMark c := hc.resolve_right hsigma
    rw [if_neg hsigma, casing.point_of_isMark c hmark]
    exact ⟨c, rfl, fun hmem => (hplain c hmem).1 hmark⟩

lemma Plain.infix_lowerIn (hplain : Plain needle) (hc : IsSeparator c)
    (h : needle <:+: casing.lowerIn before (s ++ c :: t) after) :
    needle <:+: casing.lowerIn before s (c :: t ++ after) ∨
      needle <:+: casing.lowerIn (c :: (s.reverse ++ before)) t after := by
  rw [Casing.lowerIn_append, Casing.lowerIn] at h
  obtain ⟨d, hd, hnot⟩ : ∃ d, casing.lowerAt (s.reverse ++ before) c (t ++ after) = [d] ∧
      d ∉ needle := hplain.lowerAt_separator hc
  rw [hd] at h
  exact infix_or_infix hnot h

lemma Plain.infix_of_concat (hplain : Plain needle) (hc : IsSeparator c)
    (h : needle <:+: casing.lower (s ++ [c])) :
    ∃ before' after', needle <:+: casing.lowerIn before' s after' := by
  rcases hplain.infix_lowerIn hc h with hleft | hright
  · exact ⟨_, _, hleft⟩
  · obtain rfl := List.infix_nil.mp hright
    exact ⟨[], [], List.nil_infix⟩

lemma Plain.exists_stretch (hplain : Plain needle) {g : ℕ → ℕ}
    (hseparator : ∀ c, IsSeparator c → IsSeparator (g c)) (hself : ∀ c, ¬IsSeparator c → g c = c)
    (text : List ℕ) (h : needle <:+: casing.lowerIn before (text.map g) after) :
    ∃ x v y, text = x ++ v ++ y ∧ (∀ c ∈ v, ¬IsSeparator c) ∧ needle <:+: v.flatMap casing.point := by
  induction hlength : text.length using Nat.strong_induction_on generalizing text before after with
  | _ n ih =>
    subst hlength
    by_cases hall : ∀ c ∈ text, ¬IsSeparator c
    · have hmap : text.map g = text := by
        have hid := List.map_congr_left fun c hc => hself c (hall c hc)
        rwa [List.map_id'] at hid
      rw [hmap, Casing.lowerIn_eq_flatMap fun c hc hsigma => hall c hc (.inr hsigma)] at h
      exact ⟨[], text, [], by simp, hall, h⟩
    · push Not at hall
      obtain ⟨c, hmem, hc⟩ := hall
      obtain ⟨s, t, rfl⟩ := List.append_of_mem hmem
      rw [List.map_append, List.map_cons] at h
      rcases hplain.infix_lowerIn (hseparator c hc) h with hleft | hright
      · obtain ⟨x, v, y, rfl, hv, hfound⟩ := ih s.length (by simp) s hleft rfl
        exact ⟨x, v, y ++ c :: t, by simp, hv, hfound⟩
      · obtain ⟨x, v, y, rfl, hv, hfound⟩ := ih t.length (by simp; omega) t hright rfl
        exact ⟨s ++ c :: x, v, y, by simp, hv, hfound⟩

end

/-! ## JSON strings -/

def points (text : String) : List ℕ := text.toList.map Char.toNat

def hexDigit (n : ℕ) : ℕ := if n < 10 then 0x30 + n else 0x57 + n

/-- `\uXXXX`. -/
def unicodeEscape (c : ℕ) : List ℕ :=
  [0x5c, 0x75, hexDigit (c / 0x1000 % 16), hexDigit (c / 0x100 % 16), hexDigit (c / 0x10 % 16),
    hexDigit (c % 16)]

/-- How a code point is written inside of a string. -/
def escape (c : ℕ) : List ℕ :=
  if c = 0x22 ∨ c = 0x5c then [0x5c, c]
  else if c = 0x08 then [0x5c, 0x62]
  else if c = 0x0c then [0x5c, 0x66]
  else if c = 0x0a then [0x5c, 0x6e]
  else if c = 0x0d then [0x5c, 0x72]
  else if c = 0x09 then [0x5c, 0x74]
  else if c < 0x20 ∨ IsSurrogate c then unicodeEscape c
  else [c]

def quote (text : List ℕ) : List ℕ := 0x22 :: (text.flatMap escape ++ [0x22])

example : quote (points "a\"\n\x01é") = points "\"a\\\"\\n\\u0001é\"" := by decide

lemma byteLength_replicate (n c : ℕ) : byteLength (List.replicate n c) = n * bytes c := by
  induction n with
  | zero => rw [Nat.zero_mul]; rfl
  | succ n ih =>
    have hcons : byteLength (c :: List.replicate n c) = bytes c + byteLength (List.replicate n c) :=
      List.sum_cons
    rw [List.replicate_succ, hcons, ih, Nat.succ_mul, Nat.add_comm]

lemma byteLength_flatMap_replicate (f : ℕ → List ℕ) (n c : ℕ) :
    byteLength ((List.replicate n c).flatMap f) = n * byteLength (f c) := by
  induction n with
  | zero => rw [Nat.zero_mul]; rfl
  | succ n ih =>
    rw [List.replicate_succ, List.flatMap_cons, byteLength_append, ih, Nat.succ_mul, Nat.add_comm]

lemma byteLength_quote_replicate (n c : ℕ) :
    byteLength (quote (List.replicate n c)) = n * byteLength (escape c) + 2 := by
  have hquote : byteLength (quote (List.replicate n c)) =
      byteLength [0x22] + byteLength ((List.replicate n c).flatMap escape ++ [0x22]) :=
    byteLength_append [0x22] _
  have hmark : byteLength [0x22] = 1 := by decide
  rw [hquote, byteLength_append, byteLength_flatMap_replicate, hmark]
  omega

end Data.CodePoints
