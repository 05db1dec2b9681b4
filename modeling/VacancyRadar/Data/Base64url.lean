import VacancyRadar.Data.Utf8

/-!
# Texts in base64url

`Buffer.from(value, 'utf8').toString('base64url')`, and back.  Three bytes become four characters, and
nothing is added to the end.
-/

namespace Data.Base64url

def alphabet : List Char :=
  "ABCDEFGHIJKLMNOPQRSTUVWXYZabcdefghijklmnopqrstuvwxyz0123456789-_".toList

def digit (n : ℕ) : Char := alphabet.getD n 'A'

/-- The six bits that a character stands for.  The characters of base64 are read as well. -/
def value (c : Char) : Option ℕ :=
  if c = '+' then some 62 else if c = '/' then some 63 else alphabet.idxOf? c

/-- The six bits of every character that is written for some bytes. -/
def split : List UInt8 → List ℕ
  | a :: b :: c :: rest =>
    a.toNat / 4 :: (a.toNat % 4 * 16 + b.toNat / 16) :: (b.toNat % 16 * 4 + c.toNat / 64) ::
      c.toNat % 64 :: split rest
  | [a, b] => [a.toNat / 4, a.toNat % 4 * 16 + b.toNat / 16, b.toNat % 16 * 4]
  | [a] => [a.toNat / 4, a.toNat % 4 * 16]
  | [] => []

/-- The bytes that are put together from six bits each. -/
def join : List ℕ → List UInt8
  | w :: x :: y :: z :: rest =>
    .ofNat (w * 4 + x / 16) :: .ofNat (x % 16 * 16 + y / 4) :: .ofNat (y % 4 * 64 + z) :: join rest
  | [w, x, y] => [.ofNat (w * 4 + x / 16), .ofNat (x % 16 * 16 + y / 4)]
  | [w, x] => [.ofNat (w * 4 + x / 16)]
  | _ => []

def encode (bytes : List UInt8) : List Char := (split bytes).map digit

/-- The bytes of a text.  Characters that stand for nothing are passed over. -/
def decode (text : List Char) : List UInt8 := join (text.filterMap value)

/-! ## Cursors -/

def encodeCursor (value : String) : String :=
  .ofList (encode (value.toList.flatMap String.utf8EncodeChar))

/-- `decodeCursor`.  A character that is not complete is a replacement character. -/
def decodeCursor (cursor : String) : String :=
  let decoded := ({} : Utf8Decoder).decode (decode cursor.toList)
  .ofList (decoded.1 ++ if decoded.2.needed = 0 then [] else ['\uFFFD'])

/-! ## The way back -/

set_option maxRecDepth 4000 in
lemma value_digit {n : ℕ} (h : n < 64) : value (digit n) = some n := by
  revert n
  decide

lemma split_lt (bytes : List UInt8) : ∀ n ∈ split bytes, n < 64 := by
  intro n hn
  fun_induction split bytes with
  | case1 a b c rest ih =>
    have ha := a.toNat_lt
    have hb := b.toNat_lt
    have hc := c.toNat_lt
    simp only [List.mem_cons] at hn
    rcases hn with rfl | rfl | rfl | rfl | hrest
    · omega
    · omega
    · omega
    · omega
    · exact ih hrest
  | case2 a b =>
    have ha := a.toNat_lt
    have hb := b.toNat_lt
    simp only [List.mem_cons, List.not_mem_nil, or_false] at hn
    omega
  | case3 a =>
    have ha := a.toNat_lt
    simp only [List.mem_cons, List.not_mem_nil, or_false] at hn
    omega
  | case4 => cases hn

lemma filterMap_value {l : List ℕ} (h : ∀ n ∈ l, n < 64) : (l.map digit).filterMap value = l := by
  induction l with
  | nil => rfl
  | cons n l ih =>
    rw [List.map_cons, List.filterMap_cons, value_digit (h n List.mem_cons_self),
      ih fun m hm => h m (List.mem_cons_of_mem _ hm)]

lemma ofNat_eq {a : UInt8} {n : ℕ} (h : n = a.toNat) : UInt8.ofNat n = a := by
  rw [h, UInt8.ofNat_toNat]

lemma join_split (bytes : List UInt8) : join (split bytes) = bytes := by
  fun_induction split bytes with
  | case1 a b c rest ih =>
    have hb := b.toNat_lt
    have hc := c.toNat_lt
    rw [join, ih, ofNat_eq (a := a) (by omega), ofNat_eq (a := b) (by omega),
      ofNat_eq (a := c) (by omega)]
  | case2 a b =>
    have hb := b.toNat_lt
    rw [join, ofNat_eq (a := a) (by omega), ofNat_eq (a := b) (by omega)]
  | case3 a => rw [join, ofNat_eq (a := a) (by omega)]
  | case4 => rfl

lemma decode_encode (bytes : List UInt8) : decode (encode bytes) = bytes := by
  rw [decode, encode, filterMap_value (split_lt bytes), join_split]

/-- A cursor is read as what was written. -/
@[simp] theorem decodeCursor_encodeCursor (value : String) :
    decodeCursor (encodeCursor value) = value := by
  rw [decodeCursor, encodeCursor, String.toList_ofList, decode_encode,
    Utf8Decoder.decode_flatMap_utf8EncodeChar]
  simp

end Data.Base64url
