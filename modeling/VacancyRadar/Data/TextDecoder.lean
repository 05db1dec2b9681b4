import VacancyRadar.Data.Utf8

/-!
# Decoding bytes to texts

At the end of the bytes, the part of a character that is still there gives a replacement character.  A
`TextDecoder` also drops a byte order mark at the start of its stream.
-/

namespace Data

namespace Utf8Decoder

/-- What is left at the end of the bytes. -/
def flush (d : Utf8Decoder) : List Char := if d.needed = 0 then [] else ['\uFFFD']

variable {d : Utf8Decoder}

lemma next_of_one_lt {byte : ℕ} (hneeded : 1 < d.needed) (hbyte : d.lower ≤ byte ∧ byte ≤ d.upper) :
    d.next byte = ([], { codePoint := d.codePoint * 64 + (byte - 0x80), needed := d.needed - 1 }) := by
  rw [next, if_neg (by omega), if_pos hbyte]
  exact if_neg (by omega)

lemma decode_cons_ofNat {b : ℕ} (hb : b < 256) {e : Utf8Decoder} (h : d.next b = ([], e))
    (bytes : List UInt8) : d.decode (UInt8.ofNat b :: bytes) = e.decode bytes := by
  rw [decode, toNat_ofNat hb, h]
  rfl

def Waits (d : Utf8Decoder) (bytes : List UInt8) : Prop :=
  (d.decode bytes).1 = [] ∧ (d.decode bytes).2.needed ≠ 0

lemma waits_nil (h : d.needed ≠ 0) : d.Waits [] := ⟨rfl, h⟩

lemma Waits.cons {b : ℕ} {bytes : List UInt8} {e : Utf8Decoder} (h : e.Waits bytes) (hb : b < 256)
    (hnext : d.next b = ([], e)) : d.Waits (UInt8.ofNat b :: bytes) := by
  unfold Waits
  rw [decode_cons_ofNat hb hnext]
  exact h

lemma waits_singleton {b : ℕ} (hb : b < 256) (hneeded : 1 < d.needed)
    (hbyte : d.lower ≤ b ∧ b ≤ d.upper) : d.Waits [UInt8.ofNat b] :=
  Waits.cons (waits_nil (Nat.sub_ne_zero_of_lt hneeded)) hb (next_of_one_lt hneeded hbyte)

lemma waits_take (c : Char) {k : ℕ} (hpos : 0 < k) (hk : k < c.utf8Size) :
    ({} : Utf8Decoder).Waits ((String.utf8EncodeChar c).take k) := by
  have hvalid : c.toNat < 0xD800 ∨ 0xDFFF < c.toNat ∧ c.toNat < 0x110000 := c.valid
  have hval : c.val.toNat = c.toNat := rfl
  have hstart (b : ℕ) : ({} : Utf8Decoder).next b = firstByte b := rfl
  rw [← String.length_utf8EncodeChar] at hk
  unfold String.utf8EncodeChar at hk ⊢
  simp only [hval] at hk ⊢
  generalize c.toNat = v at *
  by_cases h₁ : v ≤ 0x7f
  · rw [if_pos h₁, List.length_singleton] at hk
    omega
  rw [if_neg h₁] at hk ⊢
  by_cases h₂ : v ≤ 0x7ff
  · rw [if_pos h₂, List.length_cons, List.length_singleton] at hk
    obtain rfl : k = 1 := by omega
    rw [if_pos h₂]
    have hfirst : ({} : Utf8Decoder).next (v / 64 % 0x20 + 0xc0) =
        ([], { codePoint := v / 64 % 0x20 + 0xc0 - 0xC0, needed := 1 }) := by
      rw [hstart, firstByte, if_neg (by omega), if_pos (by omega)]
    exact Waits.cons (waits_nil (Nat.succ_ne_zero 0)) (by omega) hfirst
  rw [if_neg h₂] at hk ⊢
  by_cases h₃ : v ≤ 0xffff
  · rw [if_pos h₃] at hk ⊢
    simp only [List.length_cons, List.length_nil] at hk
    have hfirst : ({} : Utf8Decoder).next (v / 4096 % 0x10 + 0xe0) =
        ([], { codePoint := v / 4096 % 0x10 + 0xe0 - 0xE0
               needed := 2
               lower := if v / 4096 % 0x10 + 0xe0 = 0xE0 then 0xA0 else 0x80
               upper := if v / 4096 % 0x10 + 0xe0 = 0xED then 0x9F else 0xBF }) := by
      rw [hstart, firstByte, if_neg (by omega), if_neg (by omega), if_pos (by omega)]
    obtain rfl | rfl : k = 1 ∨ k = 2 := by omega
    · exact Waits.cons (waits_nil (Nat.succ_ne_zero 1)) (by omega) hfirst
    · refine Waits.cons (waits_singleton (by omega) (Nat.lt_succ_self 1) ?_) (by omega) hfirst
      constructor <;> dsimp only <;> split <;> omega
  · rw [if_neg h₃] at hk ⊢
    simp only [List.length_cons, List.length_nil] at hk
    have hfirst : ({} : Utf8Decoder).next (v / 262144 % 0x08 + 0xf0) =
        ([], { codePoint := v / 262144 % 0x08 + 0xf0 - 0xF0
               needed := 3
               lower := if v / 262144 % 0x08 + 0xf0 = 0xF0 then 0x90 else 0x80
               upper := if v / 262144 % 0x08 + 0xf0 = 0xF4 then 0x8F else 0xBF }) := by
      rw [hstart, firstByte, if_neg (by omega), if_neg (by omega), if_neg (by omega),
        if_pos (by omega)]
    have hsecond : Utf8Decoder.next _ (v / 4096 % 0x40 + 0x80) = _ :=
      next_of_one_lt (d :=
        { codePoint := v / 262144 % 0x08 + 0xf0 - 0xF0
          needed := 3
          lower := if v / 262144 % 0x08 + 0xf0 = 0xF0 then 0x90 else 0x80
          upper := if v / 262144 % 0x08 + 0xf0 = 0xF4 then 0x8F else 0xBF })
        (Nat.lt_of_sub_eq_succ rfl) (by constructor <;> dsimp only <;> split <;> omega)
    obtain rfl | rfl | rfl : k = 1 ∨ k = 2 ∨ k = 3 := by omega
    · exact Waits.cons (waits_nil (Nat.succ_ne_zero 2)) (by omega) hfirst
    · exact Waits.cons (Waits.cons (waits_nil (Nat.succ_ne_zero 1)) (by omega) hsecond) (by omega) hfirst
    · refine Waits.cons (Waits.cons (waits_singleton (by omega) (Nat.lt_succ_self 1) ?_)
        (by omega) hsecond) (by omega) hfirst
      exact ⟨by dsimp only; omega, by dsimp only; omega⟩

end Utf8Decoder

/-- `Buffer.prototype.toString`. -/
def bufferToString (bytes : List UInt8) : List Char :=
  let (text, d) := ({} : Utf8Decoder).decode bytes
  text ++ d.flush

lemma bufferToString_append_take (text : List Char) (c : Char) {k : ℕ} (hk : k < c.utf8Size) :
    bufferToString (text.flatMap String.utf8EncodeChar ++ (String.utf8EncodeChar c).take k) =
      text ++ if k = 0 then [] else ['\uFFFD'] := by
  unfold bufferToString
  rw [Utf8Decoder.decode_append, Utf8Decoder.decode_flatMap_utf8EncodeChar]
  dsimp only
  rcases Nat.eq_zero_or_pos k with rfl | hpos
  · rw [List.take_zero, if_pos rfl, Utf8Decoder.decode, List.append_assoc]
    rfl
  · obtain ⟨hnothing, hneeded⟩ := Utf8Decoder.waits_take c hpos hk
    rw [hnothing, Utf8Decoder.flush, if_neg hneeded, if_neg (Nat.pos_iff_ne_zero.mp hpos),
      List.append_nil]

/-! ## Ends of lines -/

namespace Utf8Decoder

variable {d : Utf8Decoder}

lemma eq_nil_of_next_eq {byte : ℕ} {text rest : List Char} {e : Utf8Decoder}
    (h : d.next byte = (text ++ '\n' :: rest, e)) : rest = [] := by
  have hfirst : ∀ {text : List Char} {e : Utf8Decoder}, firstByte byte = (text ++ '\n' :: rest, e) → rest = [] := by
    intro text e h
    have hlength := congrArg (fun r => r.1.length) h
    have hone : (firstByte byte).1.length ≤ 1 := by
      rw [firstByte]
      split_ifs <;> simp
    simp only [List.length_append, List.length_cons] at hlength
    exact List.eq_nil_of_length_eq_zero (by omega)
  rw [next] at h
  split at h
  · exact hfirst h
  · split at h
    · -- the character of several bytes
      have hlength := congrArg (fun r => r.1.length) h
      split at hlength <;> simp only [List.length_append, List.length_cons, List.length_nil] at hlength
      · exact List.eq_nil_of_length_eq_zero (by omega)
      · omega
    · have htext : '\uFFFD' :: (firstByte byte).1 = text ++ '\n' :: rest := congrArg Prod.fst h
      cases text with
      | nil => exact absurd (List.cons.inj htext).1 (by decide)
      | cons c text => exact hfirst (Prod.ext (List.cons.inj htext).2 rfl)

lemma exists_decode_eq {bytes : List UInt8} {text rest : List Char} (h : (d.decode bytes).1 = text ++ '\n' :: rest) :
    ∃ before after, bytes = before ++ after ∧ (d.decode before).1 = text ++ ['\n'] := by
  induction bytes generalizing d text with
  | nil => exact absurd h.symm (List.append_ne_nil_of_right_ne_nil _ (List.cons_ne_nil _ _))
  | cons byte bytes ih =>
    have hcons : (d.decode (byte :: bytes)).1 =
        (d.next byte.toNat).1 ++ ((d.next byte.toNat).2.decode bytes).1 := rfl
    rw [hcons] at h
    rcases List.append_eq_append_iff.mp h with ⟨text', rfl, hrest⟩ | ⟨left, hnext, hleft⟩
    · obtain ⟨before, after, rfl, hbefore⟩ := ih hrest
      refine ⟨byte :: before, after, rfl, ?_⟩
      show (d.next byte.toNat).1 ++ ((d.next byte.toNat).2.decode before).1 = _
      rw [hbefore, List.append_assoc]
    · cases left with
      | nil =>
        obtain ⟨before, after, rfl, hbefore⟩ := @ih (d.next byte.toNat).2 [] hleft.symm
        refine ⟨byte :: before, after, rfl, ?_⟩
        show (d.next byte.toNat).1 ++ ((d.next byte.toNat).2.decode before).1 = _
        rw [hbefore, hnext, List.append_nil, List.nil_append]
      | cons c left =>
        obtain ⟨rfl, -⟩ := List.cons.inj hleft
        obtain rfl : left = [] := eq_nil_of_next_eq (e := (d.next byte.toNat).2) (Prod.ext hnext rfl)
        refine ⟨[byte], bytes, rfl, ?_⟩
        show (d.next byte.toNat).1 ++ [] = _
        rw [hnext, List.append_nil]

end Utf8Decoder

/-! ## `TextDecoder` -/

/-- `TextDecoder`: the decoder, and whether it is past the place of a byte order mark. -/
structure TextDecoder where
  decoder : Utf8Decoder := {}
  bomSeen : Bool := false

namespace TextDecoder

def dropMark (text : List Char) : List Char := if text.head? = some '\uFEFF' then text.tail else text

def decode (d : TextDecoder) (bytes : List UInt8) : List Char × TextDecoder :=
  let (text, decoder) := d.decoder.decode bytes
  (if d.bomSeen then text else dropMark text, { decoder, bomSeen := d.bomSeen || !text.isEmpty })

variable {d : TextDecoder}

lemma dropMark_append {text : List Char} (h : text ≠ []) (more : List Char) :
    dropMark (text ++ more) = dropMark text ++ more := by
  obtain ⟨c, rest, rfl⟩ := List.exists_cons_of_ne_nil h
  rw [dropMark, dropMark, List.cons_append, List.head?_cons, List.head?_cons]
  split <;> rfl

lemma decode_append (bytes more : List UInt8) : d.decode (bytes ++ more) =
    ((d.decode bytes).1 ++ ((d.decode bytes).2.decode more).1, ((d.decode bytes).2.decode more).2) := by
  obtain ⟨decoder, seen⟩ := d
  simp only [decode, Utf8Decoder.decode_append]
  generalize ((decoder.decode bytes).2.decode more) = later
  rcases (decoder.decode bytes).1 with _ | ⟨c, rest⟩
  · cases seen <;> rfl
  · cases seen with
    | true => rfl
    | false => exact Prod.ext (dropMark_append (List.cons_ne_nil c rest) _) rfl

lemma decode_nil : d.decode [] = ([], d) := by
  have hmark : dropMark [] = [] := rfl
  rw [decode, Utf8Decoder.decode]
  dsimp only
  rw [hmark, ite_self, List.isEmpty_nil, Bool.not_true, Bool.or_false]

def texts (d : TextDecoder) : List (List UInt8) → List (List Char)
  | [] => []
  | chunk :: chunks => (d.decode chunk).1 :: (d.decode chunk).2.texts chunks

lemma flatten_texts (chunks : List (List UInt8)) : (d.texts chunks).flatten = (d.decode chunks.flatten).1 := by
  induction chunks generalizing d with
  | nil => rw [texts, List.flatten_nil, List.flatten_nil, decode_nil]
  | cons chunk chunks ih => rw [texts, List.flatten_cons, List.flatten_cons, decode_append, ih]

lemma exists_decode_eq {bytes : List UInt8} {text rest : List Char}
    (h : (({} : TextDecoder).decode bytes).1 = text ++ '\n' :: rest) :
    ∃ before after, bytes = before ++ after ∧ (({} : TextDecoder).decode before).1 = text ++ ['\n'] := by
  have hdecode : ∀ bytes, (({} : TextDecoder).decode bytes).1 = dropMark (({} : Utf8Decoder).decode bytes).1 :=
    fun _ => rfl
  rw [hdecode, dropMark] at h
  split at h
  · next hmark =>
    -- the mark comes before the text
    have htext : (({} : Utf8Decoder).decode bytes).1 = ('\uFEFF' :: text) ++ '\n' :: rest := by
      rw [List.cons_append, ← h]
      exact (List.cons_head?_tail hmark).symm
    obtain ⟨before, after, hbytes, hbefore⟩ := Utf8Decoder.exists_decode_eq htext
    refine ⟨before, after, hbytes, ?_⟩
    rw [hdecode, hbefore, List.cons_append]
    rfl
  · next hmark =>
    obtain ⟨before, after, hbytes, hbefore⟩ := Utf8Decoder.exists_decode_eq h
    refine ⟨before, after, hbytes, ?_⟩
    rw [hdecode, hbefore, dropMark, if_neg]
    rw [h] at hmark
    cases text with
    | nil => exact hmark
    | cons c text => exact hmark

end TextDecoder

end Data
