import Mathlib.Data.List.DropRight
import Mathlib.Data.List.Lex
import Mathlib.Data.List.Sort

/-!
# Texts

`String.prototype.trim`, which decides in several places whether a text says anything, and the
truncation of a text to a number of bytes or of UTF-16 code units.
-/

namespace Data

/-- The white space that `trim` removes. -/
def isTrimmed (c : Char) : Bool :=
  c == ' ' || c == '\t' || c == '\n' || c == '\r' || c == '\x0b' || c == '\x0c' || c == '\u00a0' ||
    c == '\ufeff' || c == '\u1680' || ('\u2000' ≤ c && c ≤ '\u200a') || c == '\u2028' ||
    c == '\u2029' || c == '\u202f' || c == '\u205f' || c == '\u3000'

def trim (s : String) : String :=
  String.ofList ((s.toList.dropWhile isTrimmed).reverse.dropWhile isTrimmed).reverse

lemma toList_trim (s : String) :
    (trim s).toList = (s.toList.dropWhile isTrimmed).rdropWhile isTrimmed := String.toList_ofList

lemma dropWhile_rdropWhile {α : Type*} (p : α → Bool) (l : List α) :
    ((l.dropWhile p).rdropWhile p).dropWhile p = (l.dropWhile p).rdropWhile p := by
  refine List.dropWhile_eq_self_iff.mpr fun hlength => ?_
  have hfirst := List.rdropWhile_prefix p (l := l.dropWhile p)
  -- what is left starts as the list did
  rw [hfirst.getElem hlength]
  have hlong : 0 < (l.dropWhile p).length := Nat.lt_of_lt_of_le hlength hfirst.length_le
  exact List.dropWhile_get_zero_not p l hlong

lemma dropWhile_toList_trim (s : String) : (trim s).toList.dropWhile isTrimmed = (trim s).toList := by
  rw [toList_trim, dropWhile_rdropWhile]

/-- A text that is trimmed already. -/
@[simp] lemma trim_trim (s : String) : trim (trim s) = trim s := by
  rw [← String.toList_inj, toList_trim, dropWhile_toList_trim, toList_trim, List.rdropWhile_idempotent]

variable {s : String} {c : Char} {l : List Char}

lemma trim_ne_empty (h : c ∈ s.toList) (hc : isTrimmed c = false) : trim s ≠ "":= by
  intro hempty
  rw [← String.toList_inj, toList_trim, String.toList_empty, List.rdropWhile_eq_nil_iff] at hempty
  rcases hdrop : s.toList.dropWhile isTrimmed with _ | ⟨d, rest⟩
  · have hall := List.dropWhile_eq_nil_iff.mp hdrop c h
    rw [hc] at hall
    exact absurd hall (by decide)
  · have hd := hempty d (hdrop ▸ List.mem_cons_self)
    have hfirst := List.head?_dropWhile_not isTrimmed s.toList
    rw [hdrop] at hfirst
    exact absurd hd (by simpa using hfirst)

def fitting : List Char → ℕ → List Char × ℕ
  | [], room => ([], room)
  | c :: rest, room =>
    if c.utf8Size ≤ room then
      let (taken, left) := fitting rest (room - c.utf8Size)
      (c :: taken, left)
    else ([], room)

/-- `truncateToBytes`.  A character of which three bytes fit is cut, and is read as a replacement
character, which takes three bytes as well. -/
def truncateToBytes (text : String) (maxBytes : ℕ) : String :=
  if text.utf8ByteSize ≤ maxBytes then text
  else
    let (taken, left) := fitting text.toList maxBytes
    String.ofList (if left = 3 then taken ++ ['\ufffd'] else taken)

/-- The characters of a text that fit into a number of UTF-16 code units.  Half of a surrogate pair
is read as a replacement character. -/
def takeUnits : List Char → ℕ → List Char
  | [], _ => []
  | _, 0 => []
  | c :: rest, room + 1 =>
    if c.toNat ≤ 0xffff then c :: takeUnits rest room
    else if room = 0 then ['\ufffd']
    else c :: takeUnits rest (room - 1)

def sliceUnits (text : String) (units : ℕ) : String := String.ofList (takeUnits text.toList units)

lemma trim_sliceUnits_trim_ne_empty {units : ℕ} (h : trim s ≠ "") :
    trim (sliceUnits (trim s) (units + 2)) ≠ "" := by
  have hfront := dropWhile_toList_trim s
  rcases hlist : (trim s).toList with _ | ⟨c, rest⟩
  · exact absurd (String.toList_inj.mp (hlist.trans String.toList_empty.symm)) h
  · have hc : isTrimmed c = false := by
      rw [hlist] at hfront
      have hself := List.dropWhile_eq_self_iff.mp hfront (Nat.succ_pos _)
      simpa using hself
    refine trim_ne_empty (c := c) ?_ hc
    rw [sliceUnits, String.toList_ofList, hlist]
    show c ∈ (if c.toNat ≤ 0xffff then c :: takeUnits rest (units + 1)
      else if units + 1 = 0 then ['\ufffd'] else c :: takeUnits rest (units + 1 - 1))
    split
    · exact List.mem_cons_self
    · exact List.mem_cons_self

def codeUnits (text : String) : List ℕ :=
  text.toList.flatMap fun c =>
    if c.toNat ≤ 0xffff then [c.toNat]
    else [0xd800 + (c.toNat - 0x10000) / 0x400, 0xdc00 + (c.toNat - 0x10000) % 0x400]

lemma length_codeUnits_append (s t : String) :
    (codeUnits (s ++ t)).length = (codeUnits s).length + (codeUnits t).length := by
  simp [codeUnits, String.toList_append]

lemma length_codeUnits_cons (c : Char) (rest : List Char) : (codeUnits (String.ofList (c :: rest))).length =
    (if c.toNat ≤ 0xffff then 1 else 2) + (codeUnits (String.ofList rest)).length := by
  simp only [codeUnits, String.toList_ofList, List.flatMap_cons, List.length_append]
  split <;> rfl

lemma takeUnits_of_le {room : ℕ} (h : (codeUnits (String.ofList l)).length ≤ room) :
    takeUnits l room = l := by
  induction l generalizing room with
  | nil => rfl
  | cons c rest ih =>
    rw [length_codeUnits_cons] at h
    cases room with
    | zero => split at h <;> omega
    | succ room =>
      show (if c.toNat ≤ 0xffff then c :: takeUnits rest room
        else if room = 0 then ['\ufffd'] else c :: takeUnits rest (room - 1)) = c :: rest
      split
      · next hsmall =>
        rw [if_pos hsmall] at h
        rw [ih (by omega)]
      · next hlarge =>
        rw [if_neg hlarge] at h
        rw [if_neg (by omega), ih (by omega)]

lemma sliceUnits_of_le {text : String} {units : ℕ} (h : (codeUnits text).length ≤ units) :
    sliceUnits text units = text := by
  rw [sliceUnits, takeUnits_of_le (by rwa [String.ofList_toList]), String.ofList_toList]

section

variable {text : String} {units : ℕ}

lemma takeUnits_ne (h : units < (codeUnits (String.ofList l)).length) : takeUnits l units ≠ l:= by
  induction l generalizing units with
  | nil => simp [codeUnits] at h
  | cons c rest ih =>
    rw [length_codeUnits_cons] at h
    cases units with
    | zero => simp [takeUnits]
    | succ units =>
      show (if c.toNat ≤ 0xffff then c :: takeUnits rest units
        else if units = 0 then ['\ufffd'] else c :: takeUnits rest (units - 1)) ≠ c :: rest
      split
      · next hsmall =>
        rw [if_pos hsmall] at h
        exact fun heq => ih (by omega) (List.cons.inj heq).2
      · next hlarge =>
        rw [if_neg hlarge] at h
        split
        · -- half of the pair is left, which is another character
          rintro heq
          have hfirst : '\ufffd' = c := (List.cons.inj heq).1
          exact hlarge (hfirst ▸ by decide)
        · exact fun heq => ih (by omega) (List.cons.inj heq).2

lemma sliceUnits_eq_self_iff : sliceUnits text units = text ↔ (codeUnits text).length ≤ units := by
  constructor
  · intro h
    by_contra hlong
    have hcut : takeUnits text.toList units ≠ text.toList := takeUnits_ne (by rw [String.ofList_toList]; omega)
    refine hcut ?_
    rw [← String.toList_ofList (l := takeUnits text.toList units)]
    exact congrArg String.toList h
  · exact sliceUnits_of_le

lemma mem_takeUnits (h : c ∈ takeUnits l units) : c ∈ l ∨ ∃ d ∈ l, 0xffff < d.toNat:= by
  induction l generalizing units with
  | nil => simp [takeUnits] at h
  | cons d rest ih =>
    cases units with
    | zero => simp [takeUnits] at h
    | succ units =>
      have hrest : ∀ room, c ∈ takeUnits rest room → c ∈ d :: rest ∨ ∃ e ∈ d :: rest, 0xffff < e.toNat := by
        intro room hmem
        rcases ih hmem with hmem | ⟨e, he, hlarge⟩
        · exact .inl (List.mem_cons_of_mem _ hmem)
        · exact .inr ⟨e, List.mem_cons_of_mem _ he, hlarge⟩
      have hstep : c ∈ if d.toNat ≤ 0xffff then d :: takeUnits rest units
        else if units = 0 then ['\ufffd'] else d :: takeUnits rest (units - 1) := h
      split at hstep
      · rcases List.mem_cons.mp hstep with rfl | hmem
        · exact .inl List.mem_cons_self
        · exact hrest _ hmem
      · next hlarge =>
        split at hstep
        · exact .inr ⟨d, List.mem_cons_self, not_le.mp hlarge⟩
        · rcases List.mem_cons.mp hstep with rfl | hmem
          · exact .inl List.mem_cons_self
          · exact hrest _ hmem

lemma not_isTrimmed_of_lt (h : 0xffff < c.toNat) : isTrimmed c = false:= by
  have hne : ∀ d : Char, d.toNat ≤ 0xffff → (c == d) = false := by
    rintro d hd
    refine beq_eq_false_iff_ne.mpr ?_
    rintro rfl
    omega
  have hrange : (('\u2000' ≤ c && c ≤ '\u200a') : Bool) = false := by
    have hle : ¬ c ≤ '\u200a' := by
      intro hle
      have hnat : c.toNat ≤ 0x200a := UInt32.le_iff_toNat_le.mp (Char.le_def.mp hle)
      omega
    simp [hle]
  simp [isTrimmed, hne, hrange]

lemma trim_ne_empty_of_sliceUnits (h : trim (sliceUnits text units) ≠ "") : trim text ≠ "" := by
  obtain ⟨c, hmem, hc⟩ : ∃ c ∈ (sliceUnits text units).toList, isTrimmed c = false := by
    by_contra hnone
    push Not at hnone
    refine h ?_
    have hdrop : (sliceUnits text units).toList.dropWhile isTrimmed = [] :=
      List.dropWhile_eq_nil_iff.mpr fun c hc => by simpa using hnone c hc
    rw [← String.toList_inj, toList_trim, hdrop]
    rfl
  rw [sliceUnits, String.toList_ofList] at hmem
  rcases mem_takeUnits hmem with hmem | ⟨d, hmem, hlarge⟩
  · exact trim_ne_empty hmem hc
  · exact trim_ne_empty hmem (not_isTrimmed_of_lt hlarge)

end

def sortTexts (texts : List String) : List String :=
  texts.insertionSort fun a b => codeUnits a ≤ codeUnits b

def hex (width n : ℕ) : String :=
  let digits := Nat.toDigits 16 n
  String.ofList (List.replicate (width - digits.length) '0' ++ digits)

lemma mem_toDigits {b n : ℕ} (hb : 1 < b) (h : c ∈ Nat.toDigits b n) : ∃ d < b, c = Nat.digitChar d:= by
  induction n using Nat.strong_induction_on with
  | h n ih =>
    rcases Nat.lt_or_ge n b with hlt | hge
    · rw [Nat.toDigits_of_lt_base hlt, List.mem_singleton] at h
      exact ⟨n, hlt, h⟩
    · rw [Nat.toDigits_of_base_le hb hge] at h
      rcases List.mem_append.mp h with h | h
      · exact ih (n / b) (Nat.div_lt_self (by omega) hb) h
      · exact ⟨n % b, Nat.mod_lt _ (by omega), List.mem_singleton.mp h⟩

lemma colon_not_mem_hex (width n : ℕ) : ':' ∉ (hex width n).toList := by
  have hdigit : ∀ d < 16, ':' ≠ Nat.digitChar d := by decide
  intro h
  rw [hex, String.toList_ofList] at h
  rcases List.mem_append.mp h with h | h
  · exact absurd (List.eq_of_mem_replicate h) (by decide)
  · obtain ⟨d, hd, hc⟩ := mem_toDigits (by decide) h
    exact hdigit d hd hc

end Data
