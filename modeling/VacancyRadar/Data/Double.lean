import VacancyRadar.Data.Text
import Mathlib.Algebra.Order.Field.Power
import Mathlib.Data.Int.Log
import Mathlib.Data.Rat.Floor
import Mathlib.Tactic.Positivity

/-!
# Numbers

The numbers of the language, `Number(text)`, and the sum of a number and one.  A finite number is a
rational number that was rounded to a multiple of a power of two, ties to the even multiple.
-/

namespace Data

/-! ## Rounding -/

def roundHalfEven (x : ℚ) : ℤ :=
  if x - ⌊x⌋ < 1 / 2 then ⌊x⌋
  else if 1 / 2 < x - ⌊x⌋ then ⌊x⌋ + 1
  else if ⌊x⌋ % 2 = 0 then ⌊x⌋ else ⌊x⌋ + 1

variable {x : ℚ} {m : ℤ}

lemma le_roundHalfEven (h : m ≤ x) : m ≤ roundHalfEven x:= by
  have hfloor := Int.le_floor.mpr h
  unfold roundHalfEven
  split_ifs <;> omega

lemma roundHalfEven_le (h : x ≤ m) : roundHalfEven x ≤ m:= by
  have hfloor : ⌊x⌋ ≤ m := Int.cast_le.mp ((Int.floor_le x).trans h)
  unfold roundHalfEven
  split_ifs with hlow
  · exact hfloor
  all_goals
    have hlt : (⌊x⌋ : ℚ) < m := by linarith
    have hlt' : ⌊x⌋ < m := Int.cast_lt.mp hlt
    omega

def lastBit (x : ℚ) : ℤ := max (Int.log 2 |x| - 52) (-1074)

def roundDouble (x : ℚ) : ℚ := roundHalfEven (x / 2 ^ lastBit x) * 2 ^ lastBit x

lemma scale_eq {e k : ℤ} (h : e ≤ k) (m : ℤ) :
    (m : ℚ) * 2 ^ k = ((m * 2 ^ (k - e).toNat : ℤ) : ℚ) * 2 ^ e := by
  have hsplit : (2 : ℚ) ^ k = 2 ^ (k - e).toNat * 2 ^ e := by
    rw [← zpow_natCast, ← zpow_add₀ two_ne_zero, Int.toNat_of_nonneg (by omega), sub_add_cancel]
  rw [hsplit]
  push_cast
  ring

lemma le_roundDouble {k : ℤ} (hk : lastBit x ≤ k) (h : m * 2 ^ k ≤ x) :
    m * 2 ^ k ≤ roundDouble x := by
  have hpos : (0 : ℚ) < 2 ^ lastBit x := by positivity
  rw [scale_eq hk] at h ⊢
  exact mul_le_mul_of_nonneg_right (Int.cast_le.mpr (le_roundHalfEven ((le_div_iff₀ hpos).mpr h))) hpos.le

lemma roundDouble_le {k : ℤ} (hk : lastBit x ≤ k) (h : x ≤ m * 2 ^ k) :
    roundDouble x ≤ m * 2 ^ k := by
  have hpos : (0 : ℚ) < 2 ^ lastBit x := by positivity
  rw [scale_eq hk] at h ⊢
  exact mul_le_mul_of_nonneg_right (Int.cast_le.mpr (roundHalfEven_le ((div_le_iff₀ hpos).mpr h))) hpos.le

lemma roundDouble_intCast (h : |m| < 2 ^ 53) : roundDouble m = m:= by
  have hbit : lastBit m ≤ 0 := by
    refine max_le ?_ (by omega)
    rcases eq_or_ne m 0 with rfl | hm
    · simp
    · have hlt : (|m| : ℚ) < ((2 : ℕ) : ℚ) ^ (53 : ℤ) := by exact_mod_cast h
      have hlog := (Int.lt_zpow_iff_log_lt one_lt_two (abs_pos.mpr (Int.cast_ne_zero.mpr hm))).mp hlt
      omega
  have hle := le_roundDouble (m := m) (k := 0) hbit (by simp)
  have hge := roundDouble_le (m := m) (k := 0) hbit (by simp)
  simp only [zpow_zero, mul_one] at hle hge
  exact le_antisymm hge hle

lemma lastBit_le_log (h : 2 ^ (-1074 : ℤ) ≤ |x|) : lastBit x ≤ Int.log 2 |x|:= by
  have hpos : (0 : ℚ) < |x| := lt_of_lt_of_le (by positivity) h
  have hlog : -1074 ≤ Int.log 2 |x| := (Int.zpow_le_iff_le_log one_lt_two hpos).mp (by exact_mod_cast h)
  unfold lastBit
  omega

lemma zpow_log_le_roundDouble (h : 2 ^ (-1074 : ℤ) ≤ x) : 2 ^ Int.log 2 x ≤ roundDouble x:= by
  have hpos : 0 < x := lt_of_lt_of_le (by positivity) h
  have hbit := lastBit_le_log (x := x) (by rwa [abs_of_pos hpos])
  rw [abs_of_pos hpos] at hbit
  have hle := le_roundDouble (m := 1) hbit (by
    rw [Int.cast_one, one_mul]
    exact_mod_cast Int.zpow_log_le_self one_lt_two hpos)
  rwa [Int.cast_one, one_mul] at hle

lemma roundDouble_neg (h : x ≤ -2 ^ (-1074 : ℤ)) : roundDouble x < 0:= by
  have hsmall : (0 : ℚ) < 2 ^ (-1074 : ℤ) := by positivity
  have hneg : x < 0 := by linarith
  have habs : |x| = -x := abs_of_neg hneg
  have hself : (2 : ℚ) ^ Int.log 2 |x| ≤ |x| := by
    exact_mod_cast Int.zpow_log_le_self one_lt_two (abs_pos.mpr hneg.ne)
  have hle := roundDouble_le (m := -1) (lastBit_le_log (x := x) (by rw [habs]; linarith)) (by
    rw [Int.cast_neg, Int.cast_one, neg_one_mul]
    linarith)
  have hpos : (0 : ℚ) < 2 ^ Int.log 2 |x| := by positivity
  rw [Int.cast_neg, Int.cast_one, neg_one_mul] at hle
  linarith

lemma exists_roundDouble_eq (x : ℚ) : ∃ m : ℤ, roundDouble x = m * 2 ^ (-1074 : ℤ) :=
  ⟨_, scale_eq (le_max_right ..) _⟩

/-! ## Numbers of the language -/

inductive JsNumber where
  | nan
  | infinite
  | finite (value : ℚ)
deriving DecidableEq

def JsNumber.rounded : JsNumber → JsNumber
  | .finite value => if 2 ^ 1024 ≤ |roundDouble value| then .infinite else .finite (roundDouble value)
  | number => number

/-- `number + 1`.  A finite number is at most `2 ^ 1024 - 2 ^ 971`, and one more does not overflow. -/
def JsNumber.plusOne : JsNumber → JsNumber
  | .finite value => .finite (roundDouble (value + 1))
  | number => number

def natOf (value : ℚ) : Option ℕ := if value.den = 1 ∧ 0 ≤ value.num then some value.num.toNat else none

@[simp] lemma natOf_natCast (n : ℕ) : natOf n = some n := by simp [natOf]

variable {value : ℚ} {text : String}

lemma natOf_eq_some {n : ℕ} (h : natOf value = some n) : value = n := by
  unfold natOf at h
  split_ifs at h with hnat
  rw [← Option.some.inj h, ← Int.cast_natCast, Int.toNat_of_nonneg hnat.2, Rat.coe_int_num_of_den_eq_one hnat.1]

lemma natOf_of_neg (h : value < 0) : natOf value = none :=
  if_neg fun hnat => absurd (Rat.num_nonneg.mp hnat.2) (not_le.mpr h)

def JsNumber.natural : JsNumber → Option ℕ
  | .finite value => natOf value
  | _ => none

/-! ## Texts of numbers -/

def digitOf (c : Char) : Option ℕ :=
  if '0' ≤ c ∧ c ≤ '9' then some (c.toNat - 48)
  else if 'a' ≤ c ∧ c ≤ 'f' then some (c.toNat - 87)
  else if 'A' ≤ c ∧ c ≤ 'F' then some (c.toNat - 55)
  else none

def digitsValue (radix : ℕ) (text : List Char) : Option ℕ :=
  if text = [] then none
  else
    text.foldlM
      (fun n c => (digitOf c).bind fun d => if d < radix then some (n * radix + d) else none) 0

def exponent : List Char → Option ℤ
  | [] => some 0
  | _ :: '+' :: text => (digitsValue 10 text).map fun n => (n : ℤ)
  | _ :: '-' :: text => (digitsValue 10 text).map fun n => -(n : ℤ)
  | _ :: text => (digitsValue 10 text).map fun n => (n : ℤ)

def decimal (text : List Char) : JsNumber :=
  if text = "Infinity".toList then .infinite
  else
    let (mantissa, tail) := text.span fun c => c != 'e' && c != 'E'
    let (whole, rest) := mantissa.span fun c => c != '.'
    match digitsValue 10 (whole ++ rest.drop 1), exponent tail with
    | some m, some e => .finite (m * 10 ^ (e - (rest.drop 1).length))
    | _, _ => .nan

def JsNumber.negated : JsNumber → JsNumber
  | .finite value => .finite (-value)
  | number => number

def inRadix (radix : ℕ) (text : List Char) : JsNumber :=
  ((digitsValue radix text).map fun n => JsNumber.finite n).getD .nan

def exactNumber : List Char → JsNumber
  | [] => .finite 0
  | '0' :: 'x' :: text | '0' :: 'X' :: text => inRadix 16 text
  | '0' :: 'o' :: text | '0' :: 'O' :: text => inRadix 8 text
  | '0' :: 'b' :: text | '0' :: 'B' :: text => inRadix 2 text
  | '+' :: text => decimal text
  | '-' :: text => (decimal text).negated
  | text => decimal text

def numberOf (text : String) : JsNumber := (exactNumber (trim text).toList).rounded

lemma numberOf_finite (h : numberOf text = .finite value) : ∃ exact, value = roundDouble exact := by
  unfold numberOf JsNumber.rounded at h
  split at h
  · next exact _ =>
    split_ifs at h
    exact ⟨exact, (JsNumber.finite.inj h).symm⟩
  · next hother => exact absurd h (hother value)

lemma exists_add_one_eq (h : numberOf text = .finite value) :
    ∃ m : ℤ, value + 1 = m * 2 ^ (-1074 : ℤ) := by
  obtain ⟨exact, rfl⟩ := numberOf_finite h
  obtain ⟨m, hm⟩ := exists_roundDouble_eq exact
  have hone : (2 : ℚ) ^ 1074 * 2 ^ (-1074 : ℤ) = 1 := by
    rw [← zpow_natCast, ← zpow_add₀ two_ne_zero]
    norm_num
  refine ⟨m + 2 ^ 1074, ?_⟩
  rw [hm, Int.cast_add, add_mul, Int.cast_pow, Int.cast_ofNat, hone]

lemma le_add_one (h : numberOf text = .finite value) (hpos : 0 < value + 1) :
    2 ^ (-1074 : ℤ) ≤ value + 1 := by
  obtain ⟨m, hm⟩ := exists_add_one_eq h
  have hsmall : (0 : ℚ) < 2 ^ (-1074 : ℤ) := by positivity
  rw [hm] at hpos ⊢
  have hm' : (1 : ℚ) ≤ m := by exact_mod_cast pos_of_mul_pos_left hpos hsmall.le
  exact le_mul_of_one_le_left hsmall.le hm'

lemma add_one_le (h : numberOf text = .finite value) (hneg : value + 1 < 0) :
    value + 1 ≤ -2 ^ (-1074 : ℤ) := by
  obtain ⟨m, hm⟩ := exists_add_one_eq h
  have hsmall : (0 : ℚ) < 2 ^ (-1074 : ℤ) := by positivity
  rw [hm] at hneg ⊢
  have hm' : (m : ℚ) ≤ -1 := by
    have hlt : (m : ℚ) < 0 := neg_of_mul_neg_left hneg hsmall.le
    have hlt' : m < 0 := by exact_mod_cast hlt
    exact_mod_cast (by omega : m ≤ -1)
  have hmul := mul_le_mul_of_nonneg_right hm' hsmall.le
  rwa [neg_one_mul] at hmul

end Data
