import Mathlib.Data.List.Basic

/-!
# Decoding UTF-8 as a stream

The decoder gets one byte after the other and gives out a character when the last byte of it has
arrived, so it does not matter how the bytes are cut into chunks.  Bytes that are not part of a
character give the replacement character.
-/

namespace Data

/-- The decoder within a character: the bits it has got, the number of bytes that are missing, and the
bounds of the next byte. -/
structure Utf8Decoder where
  codePoint : ℕ := 0
  needed : ℕ := 0
  lower : ℕ := 0x80
  upper : ℕ := 0xBF

namespace Utf8Decoder

def firstByte (byte : ℕ) : List Char × Utf8Decoder :=
  if byte ≤ 0x7F then ([Char.ofNat byte], {})
  else if 0xC2 ≤ byte ∧ byte ≤ 0xDF then ([], { codePoint := byte - 0xC0, needed := 1 })
  else if 0xE0 ≤ byte ∧ byte ≤ 0xEF then
    ([], { codePoint := byte - 0xE0
           needed := 2
           lower := if byte = 0xE0 then 0xA0 else 0x80
           upper := if byte = 0xED then 0x9F else 0xBF })
  else if 0xF0 ≤ byte ∧ byte ≤ 0xF4 then
    ([], { codePoint := byte - 0xF0
           needed := 3
           lower := if byte = 0xF0 then 0x90 else 0x80
           upper := if byte = 0xF4 then 0x8F else 0xBF })
  else (['\uFFFD'], {})

def next (d : Utf8Decoder) (byte : ℕ) : List Char × Utf8Decoder :=
  if d.needed = 0 then firstByte byte
  else if d.lower ≤ byte ∧ byte ≤ d.upper then
    let codePoint := d.codePoint * 64 + (byte - 0x80)
    if d.needed = 1 then ([Char.ofNat codePoint], {})
    else ([], { codePoint, needed := d.needed - 1 })
  else
    -- The byte may be the first one of another character.
    let (text, d) := firstByte byte
    ('\uFFFD' :: text, d)

def decode (d : Utf8Decoder) : List UInt8 → List Char × Utf8Decoder
  | [] => ([], d)
  | byte :: bytes =>
    let (text, d) := d.next byte.toNat
    let (text', d) := d.decode bytes
    (text ++ text', d)

variable {d : Utf8Decoder}

lemma decode_append (bytes bytes' : List UInt8) :
    d.decode (bytes ++ bytes') =
      ((d.decode bytes).1 ++ ((d.decode bytes).2.decode bytes').1,
        ((d.decode bytes).2.decode bytes').2) := by
  induction bytes generalizing d with
  | nil => rfl
  | cons byte bytes ih =>
    rw [List.cons_append, decode, decode]
    dsimp only
    rw [ih, List.append_assoc]

lemma toNat_ofNat {n : ℕ} (h : n < 256) : (UInt8.ofNat n).toNat = n := UInt8.toNat_ofNat_of_lt' h

lemma decode_one {b : ℕ} (h : b ≤ 0x7F) :
    ({} : Utf8Decoder).decode [UInt8.ofNat b] = ([Char.ofNat b], {}) := by
  simp [decode, next, firstByte, toNat_ofNat (show b < 256 by omega), h]

lemma decode_two {b₁ b₂ : ℕ} (h₁ : 0xC2 ≤ b₁ ∧ b₁ ≤ 0xDF) (h₂ : 0x80 ≤ b₂ ∧ b₂ ≤ 0xBF) :
    ({} : Utf8Decoder).decode [UInt8.ofNat b₁, UInt8.ofNat b₂] =
      ([Char.ofNat ((b₁ - 0xC0) * 64 + (b₂ - 0x80))], {}) := by
  have hfirst : firstByte b₁ = ([], { codePoint := b₁ - 0xC0, needed := 1 }) := by
    rw [firstByte, if_neg (by omega), if_pos h₁]
  simp [decode, next, toNat_ofNat (show b₁ < 256 by omega), toNat_ofNat (show b₂ < 256 by omega),
    hfirst, h₂]

lemma next_middle {codePoint needed lower upper b : ℕ} (h : lower ≤ b ∧ b ≤ upper) :
    next { codePoint, needed := needed + 2, lower, upper } b =
      ([], { codePoint := codePoint * 64 + (b - 0x80), needed := needed + 1 }) := by
  rw [next, if_neg (by simp), if_pos h]
  rfl

lemma decode_three {b₁ b₂ b₃ : ℕ} (h₁ : 0xE0 ≤ b₁ ∧ b₁ ≤ 0xEF)
    (h₂ : (if b₁ = 0xE0 then 0xA0 else 0x80) ≤ b₂ ∧ b₂ ≤ if b₁ = 0xED then 0x9F else 0xBF)
    (h₃ : 0x80 ≤ b₃ ∧ b₃ ≤ 0xBF) :
    ({} : Utf8Decoder).decode [UInt8.ofNat b₁, UInt8.ofNat b₂, UInt8.ofNat b₃] =
      ([Char.ofNat (((b₁ - 0xE0) * 64 + (b₂ - 0x80)) * 64 + (b₃ - 0x80))], {}) := by
  have hlt : b₂ < 256 := by split at h₂ <;> split at h₂ <;> omega
  have hstart : next {} b₁ = firstByte b₁ := rfl
  rw [firstByte, if_neg (by omega), if_neg (by omega), if_pos h₁] at hstart
  simp only [decode, toNat_ofNat (show b₁ < 256 by omega), toNat_ofNat hlt,
    toNat_ofNat (show b₃ < 256 by omega), hstart, @next_middle _ 0 _ _ _ h₂]
  simp [next, h₃]

lemma decode_four {b₁ b₂ b₃ b₄ : ℕ} (h₁ : 0xF0 ≤ b₁ ∧ b₁ ≤ 0xF4)
    (h₂ : (if b₁ = 0xF0 then 0x90 else 0x80) ≤ b₂ ∧ b₂ ≤ if b₁ = 0xF4 then 0x8F else 0xBF)
    (h₃ : 0x80 ≤ b₃ ∧ b₃ ≤ 0xBF) (h₄ : 0x80 ≤ b₄ ∧ b₄ ≤ 0xBF) :
    ({} : Utf8Decoder).decode [UInt8.ofNat b₁, UInt8.ofNat b₂, UInt8.ofNat b₃, UInt8.ofNat b₄] =
      ([Char.ofNat ((((b₁ - 0xF0) * 64 + (b₂ - 0x80)) * 64 + (b₃ - 0x80)) * 64 + (b₄ - 0x80))],
        {}) := by
  have hlt : b₂ < 256 := by split at h₂ <;> split at h₂ <;> omega
  have hstart : next {} b₁ = firstByte b₁ := rfl
  rw [firstByte, if_neg (by omega), if_neg (by omega), if_neg (by omega), if_pos h₁] at hstart
  simp only [decode, toNat_ofNat (show b₁ < 256 by omega), toNat_ofNat hlt,
    toNat_ofNat (show b₃ < 256 by omega), toNat_ofNat (show b₄ < 256 by omega), hstart, @next_middle _ 1 _ _ _ h₂]
  simp [next, h₃, h₄]

lemma decode_utf8EncodeChar (c : Char) :
    ({} : Utf8Decoder).decode (String.utf8EncodeChar c) = ([c], {}) := by
  have hvalid : c.toNat < 0xD800 ∨ 0xDFFF < c.toNat ∧ c.toNat < 0x110000 := c.valid
  have hchar : Char.ofNat c.toNat = c := Char.ofNat_toNat c
  have hval : c.val.toNat = c.toNat := rfl
  unfold String.utf8EncodeChar
  simp only [hval]
  generalize c.toNat = v at *
  subst hchar
  by_cases h₁ : v ≤ 0x7f
  · rw [if_pos h₁]
    exact decode_one h₁
  · rw [if_neg h₁]
    by_cases h₂ : v ≤ 0x7ff
    · have hv : (v / 64 % 0x20 + 0xc0 - 0xC0) * 64 + (v % 0x40 + 0x80 - 0x80) = v := by omega
      rw [if_pos h₂, decode_two (by omega) (by omega), hv]
    · rw [if_neg h₂]
      by_cases h₃ : v ≤ 0xffff
      · have hv : ((v / 4096 % 0x10 + 0xe0 - 0xE0) * 64 + (v / 64 % 0x40 + 0x80 - 0x80)) * 64 +
            (v % 0x40 + 0x80 - 0x80) = v := by omega
        rw [if_pos h₃, decode_three (by omega) (by constructor <;> split <;> omega) (by omega), hv]
      · have hv : (((v / 262144 % 0x08 + 0xf0 - 0xF0) * 64 + (v / 4096 % 0x40 + 0x80 - 0x80)) * 64 +
            (v / 64 % 0x40 + 0x80 - 0x80)) * 64 + (v % 0x40 + 0x80 - 0x80) = v := by omega
        rw [if_neg h₃, decode_four (by omega) (by constructor <;> split <;> omega) (by omega)
          (by omega), hv]

/-- The bytes of a text. -/
theorem decode_flatMap_utf8EncodeChar (text : List Char) :
    ({} : Utf8Decoder).decode (text.flatMap String.utf8EncodeChar) = (text, {}) := by
  induction text with
  | nil => rfl
  | cons c text ih => rw [List.flatMap_cons, decode_append, decode_utf8EncodeChar, ih]; rfl

end Utf8Decoder

end Data
