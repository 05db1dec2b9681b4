import VacancyRadar.Data.Double

/-!
# The salary field

`parseMinimumAnnualSalary`: one field for an amount, with commas and dots in either of their roles.
-/

namespace VacancyRadar.GlobalRemote

open Data

/-! ## The parser -/

inductive SalaryError where
  | convention
  | grouping
  | ambiguous
  | digits
  | amount
deriving DecidableEq

def SalaryError.message : SalaryError → String
  | .convention => "Minimum annual salary must contain digits with one consistent grouping convention."
  | .grouping => "Minimum annual salary has malformed grouping."
  | .ambiguous => "Minimum annual salary is ambiguous. Use plain digits or an explicit decimal."
  | .digits => "Minimum annual salary has malformed digits."
  | .amount => "Minimum annual salary must be a finite, non-negative amount."

def isPoint (c : Char) : Bool := c == ',' || c == '.'

def isAmountChar (c : Char) : Bool := c.isDigit || isPoint c || c == ' '

/-- `\d+`. -/
def Digits (text : List Char) : Prop := text ≠ [] ∧ ∀ c ∈ text, c.isDigit = true

instance : DecidablePred Digits := fun text =>
  have : Decidable (∀ c ∈ text, c.isDigit = true) := List.decidableBAll _ text
  inferInstanceAs (Decidable (_ ∧ _))

/-- `\d{1,2}`. -/
def Fraction (text : List Char) : Prop := Digits text ∧ text.length ≤ 2

instance : DecidablePred Fraction := fun _ => inferInstanceAs (Decidable (_ ∧ _))

def Groups : List (List Char) → Prop
  | [] => False
  | first :: rest => rest ≠ [] ∧ (Digits first ∧ first.length ≤ 3) ∧ ∀ group ∈ rest, Digits group ∧ group.length = 3

instance : DecidablePred Groups
  | [] => inferInstanceAs (Decidable False)
  | _ :: _ => inferInstanceAs (Decidable (_ ∧ _ ∧ _))

/-- `\d{1,3}(?:c\d{3})+`. -/
def IsGrouped (c : Char) (text : List Char) : Prop := Groups (text.splitOn c)

instance (c : Char) : DecidablePred (IsGrouped c) := fun text => inferInstanceAs (Decidable (Groups (text.splitOn c)))

/-- The text that `Number` is given. -/
def numericText (input : List Char) : Except SalaryError (List Char) :=
  let commaCount := input.count ','
  let dotCount := input.count '.'
  if ' ' ∈ input then
    let whole := input.takeWhile fun c => !isPoint c
    let tail := input.dropWhile fun c => !isPoint c
    if IsGrouped ' ' whole ∧ (tail = [] ∨ Fraction tail.tail) then
      .ok (whole.filter (· ≠ ' ') ++ if tail = [] then [] else '.' :: tail.tail)
    else .error .grouping
  else if 0 < commaCount ∧ 0 < dotCount then
    -- the separator that is last
    let decimal := if input.reverse.idxOf ',' < input.reverse.idxOf '.' then ',' else '.'
    let grouping := if decimal = ',' then '.' else ','
    if IsGrouped grouping (input.takeWhile (· ≠ decimal)) ∧ Fraction (input.dropWhile (· ≠ decimal)).tail then
      .ok ((input.filter (· ≠ grouping)).replace decimal '.')
    else .error .grouping
  else if 1 < commaCount ∨ 1 < dotCount then
    let separator := if 1 < commaCount then ',' else '.'
    if IsGrouped separator input then .ok (input.filter (· ≠ separator)) else .error .grouping
  else if commaCount = 1 ∨ dotCount = 1 then
    let separator := if commaCount = 1 then ',' else '.'
    let whole := input.takeWhile (· ≠ separator)
    let fraction := (input.dropWhile (· ≠ separator)).tail
    if whole = [] ∨ ¬ Fraction fraction then .error .ambiguous else .ok (whole ++ '.' :: fraction)
  else if Digits input then .ok input else .error .digits

def cleaned (value : String) : List Char := (trim value).toList.map fun c => if c = '\u00a0' then ' ' else c

def maxSafeInteger : ℚ := 2 ^ 53 - 1

/-- Half up. -/
def mathRound (value : ℚ) : ℤ := ⌊value + 1 / 2⌋

/-- What is left to do with the text for `Number`. -/
def checkedAmount (text : List Char) : Except SalaryError (Option ℤ) :=
  match numberOf (String.ofList text) with
  | .finite numeric =>
    if numeric < 0 ∨ maxSafeInteger < numeric then .error .amount else .ok (some (mathRound numeric))
  | _ => .error .amount

def parseMinimumAnnualSalary (value : String) : Except SalaryError (Option ℤ) :=
  let input := cleaned value
  if input = [] then .ok none
  else if !input.all isAmountChar || input.head? = some ' ' || input.getLast? = some ' ' then .error .convention
  else (numericText input).bind checkedAmount

/-! ## The grammar -/

/-- An amount, its whole digits and its decimal digits. -/
inductive Amount : List Char → List Char → List Char → Prop
  | plain {whole : List Char} (h : Digits whole) : Amount whole whole []
  | point {whole fraction : List Char} {d : Char} (h : Digits whole) (hd : isPoint d = true)
      (hfraction : Fraction fraction) : Amount (whole ++ d :: fraction) whole fraction
  | spaces {groups : List (List Char)} (h : Groups groups) : Amount ([' '].intercalate groups) groups.flatten []
  | spacesPoint {groups : List (List Char)} {fraction : List Char} {d : Char} (h : Groups groups)
      (hd : isPoint d = true) (hfraction : Fraction fraction) :
      Amount ([' '].intercalate groups ++ d :: fraction) groups.flatten fraction
  /-- Two separators at least.  One comma or dot before three digits is ambiguous. -/
  | groups {groups : List (List Char)} {c : Char} (h : Groups groups) (hc : isPoint c = true)
      (hmore : 2 < groups.length) : Amount ([c].intercalate groups) groups.flatten []
  | groupsPoint {groups : List (List Char)} {fraction : List Char} {c d : Char} (h : Groups groups)
      (hc : isPoint c = true) (hd : isPoint d = true) (hcd : c ≠ d) (hfraction : Fraction fraction) :
      Amount ([c].intercalate groups ++ d :: fraction) groups.flatten fraction

/-- The amount that is denoted. -/
def amountOf (whole fraction : List Char) : ℚ := Nat.ofDigitChars 10 (whole ++ fraction) 0 / 10 ^ fraction.length

def rendered (whole fraction : List Char) : List Char :=
  whole ++ if fraction = [] then [] else '.' :: fraction

variable {text whole fraction input : List Char} {groups : List (List Char)} {c d : Char}

/-! ## Digits and separators -/

lemma isPoint_iff : isPoint c = true ↔ c = ',' ∨ c = '.' := by simp [isPoint]

lemma Digits.notMem (h : Digits text) (hc : c.isDigit = false) : c ∉ text := by
  intro hmem
  rw [h.2 c hmem] at hc
  cases hc

lemma isDigit_of_isPoint (h : isPoint c = true) : c.isDigit = false := by
  rcases isPoint_iff.mp h with rfl | rfl <;> decide

lemma Groups.digits (h : Groups groups) {group : List Char} (hgroup : group ∈ groups) : Digits group := by
  cases groups with
  | nil => exact h.elim
  | cons first rest =>
    rcases List.mem_cons.mp hgroup with rfl | hgroup
    · exact h.2.1.1
    · exact (h.2.2 group hgroup).1

lemma Groups.ne_nil (h : Groups groups) : groups ≠ [] := by
  rintro rfl
  exact h

lemma Groups.two_le (h : Groups groups) : 2 ≤ groups.length := by
  cases groups with
  | nil => exact h.elim
  | cons first rest =>
    have hpos := List.length_pos_iff.mpr h.1
    rw [List.length_cons]
    omega

lemma Groups.flatten (h : Groups groups) : Digits groups.flatten := by
  refine ⟨fun hempty => ?_, fun c hc => ?_⟩
  · obtain ⟨first, rest, rfl⟩ := List.exists_cons_of_ne_nil h.ne_nil
    exact h.2.1.1.1 (List.flatten_eq_nil_iff.mp hempty first List.mem_cons_self)
  · obtain ⟨group, hgroup, hc⟩ := List.mem_flatten.mp hc
    exact (h.digits hgroup).2 c hc

lemma filter_intercalate (h : ∀ group ∈ groups, c ∉ group) :
    ([c].intercalate groups).filter (· ≠ c) = groups.flatten ∧
      ([c].intercalate groups).count c = groups.length - 1 := by
  induction groups with
  | nil => exact ⟨rfl, rfl⟩
  | cons first rest ih =>
    have hfirst : c ∉ first := h first List.mem_cons_self
    obtain ⟨hfilter, hcount⟩ := ih fun group hgroup => h group (List.mem_cons_of_mem _ hgroup)
    have hkeep : first.filter (· ≠ c) = first :=
      List.filter_eq_self.mpr fun d hd => decide_eq_true fun heq : d = c => hfirst (heq ▸ hd)
    cases rest with
    | nil =>
      rw [List.intercalate_singleton]
      exact ⟨by rw [hkeep, List.flatten_singleton], List.count_eq_zero.mpr hfirst⟩
    | cons second rest =>
      rw [List.intercalate_cons_cons, List.filter_append, List.filter_append, hfilter, hkeep, List.flatten_cons,
        List.count_append, List.count_append, hcount, List.count_eq_zero.mpr hfirst]
      refine ⟨by simp, ?_⟩
      simp only [List.count_singleton_self, List.length_cons]
      omega

lemma Groups.mem_intercalate (h : Groups groups) (hc : c.isDigit = false) (hd : d ∈ [c].intercalate groups) :
    d = c ∨ d.isDigit = true := by
  refine or_iff_not_imp_left.mpr fun hne => h.flatten.2 d ?_
  rw [← (filter_intercalate fun group hgroup => (h.digits hgroup).notMem hc).1]
  exact List.mem_filter.mpr ⟨hd, decide_eq_true hne⟩

lemma isGrouped_iff (hc : c.isDigit = false) :
    IsGrouped c text ↔ ∃ groups, Groups groups ∧ text = [c].intercalate groups := by
  constructor
  · exact fun h => ⟨_, h, (List.intercalate_splitOn c).symm⟩
  · rintro ⟨groups, h, rfl⟩
    rwa [IsGrouped, List.splitOn_intercalate c (fun group hgroup => (h.digits hgroup).notMem hc) h.ne_nil]

/-! ## What is read -/

variable {body : List Char} {p : Char → Bool}

lemma takeWhile_point (tail : List Char) (hbody : ∀ c ∈ body, p c = true) (hd : p d = false) :
    (body ++ d :: tail).takeWhile p = body ∧ (body ++ d :: tail).dropWhile p = d :: tail := by
  rw [List.takeWhile_append_of_pos hbody, List.dropWhile_append_of_pos hbody,
    List.takeWhile_cons_of_neg (by simp [hd]), List.dropWhile_cons_of_neg (by simp [hd]), List.append_nil]
  exact ⟨rfl, rfl⟩

lemma exists_eq_append (h : input.dropWhile p ≠ []) :
    ∃ d rest, input = input.takeWhile p ++ d :: rest ∧ input.dropWhile p = d :: rest ∧ p d = false ∧ d ∈ input := by
  obtain ⟨d, rest, hdrop⟩ := List.exists_cons_of_ne_nil h
  have hsplit : input = input.takeWhile p ++ d :: rest := by
    rw [← hdrop, List.takeWhile_append_dropWhile]
  have hfirst := List.head?_dropWhile_not p input
  rw [hdrop] at hfirst
  exact ⟨d, rest, hsplit, hdrop, by simpa using hfirst, hsplit ▸ List.mem_append_right _ List.mem_cons_self⟩

lemma dropWhile_ne_nil (h : d ∈ input) : input.dropWhile (· ≠ d) ≠ [] := by
  intro hempty
  exact absurd (List.dropWhile_eq_nil_iff.mp hempty d h) (by simp)

lemma Groups.count_intercalate (h : Groups groups) (hc : c.isDigit = false) (hd : d.isDigit = false) :
    ([c].intercalate groups).count d = if d = c then groups.length - 1 else 0 := by
  split
  · next heq => exact heq ▸ (filter_intercalate fun group hgroup => (h.digits hgroup).notMem hc).2
  · next hne =>
    refine List.count_eq_zero.mpr fun hmem => ?_
    rcases h.mem_intercalate hc hmem with heq | hdigit
    · exact hne heq
    · rw [hd] at hdigit
      cases hdigit

lemma count_point (h : Digits fraction) (hc : c.isDigit = false) :
    (body ++ d :: fraction).count c = body.count c + if d = c then 1 else 0 := by
  rw [List.count_append, List.count_cons, List.count_eq_zero.mpr (h.notMem hc)]
  simp

lemma space_notMem_point (hbody : ' ' ∉ body) (hd : isPoint d = true) (h : Digits fraction) :
    ' ' ∉ body ++ d :: fraction := by
  intro hmem
  rcases List.mem_append.mp hmem with hmem | hmem
  · exact hbody hmem
  · rcases List.mem_cons.mp hmem with rfl | hmem
    · exact absurd hd (by decide)
    · exact h.notMem (by decide) hmem

lemma idxOf_reverse (body : List Char) (hcd : c ≠ d) (h : c ∉ fraction) :
    (body ++ d :: fraction).reverse.idxOf d ≤ fraction.length ∧
      fraction.length < (body ++ d :: fraction).reverse.idxOf c := by
  have hreverse : (body ++ d :: fraction).reverse = fraction.reverse ++ d :: body.reverse := by simp
  rw [hreverse]
  constructor
  · by_cases hmem : d ∈ fraction.reverse
    · rw [List.idxOf_append_of_mem hmem, ← List.length_reverse]
      exact List.idxOf_le_length
    · rw [List.idxOf_append_of_notMem hmem, List.idxOf_cons_self]
      simp
  · rw [List.idxOf_append_of_notMem (by simpa using h), List.idxOf_cons_ne _ hcd.symm, List.length_reverse]
    omega

lemma separators_cases (input : List Char) :
    (∀ c, isPoint c = true → input.count c = 0) ∨
    (∃ d, isPoint d = true ∧ 0 < input.count d ∧ ∀ c, isPoint c = true → c ≠ d → input.count c = 0) ∨
    ∃ c d, isPoint c = true ∧ isPoint d = true ∧ c ≠ d ∧ (∀ e, isPoint e = true → 0 < input.count e) ∧
      input.reverse.idxOf d < input.reverse.idxOf c := by
  simp only [isPoint_iff, forall_eq_or_imp, forall_eq]
  rcases Nat.eq_zero_or_pos (input.count ',') with hcomma | hcomma <;>
    rcases Nat.eq_zero_or_pos (input.count '.') with hdot | hdot
  · exact .inl ⟨hcomma, hdot⟩
  · exact .inr (.inl ⟨'.', .inr rfl, hdot, fun _ => hcomma, fun h => absurd rfl h⟩)
  · exact .inr (.inl ⟨',', .inl rfl, hcomma, fun h => absurd rfl h, fun _ => hdot⟩)
  · have hmem : ',' ∈ input.reverse := List.mem_reverse.mpr (List.count_pos_iff.mp hcomma)
    have hne : input.reverse.idxOf ',' ≠ input.reverse.idxOf '.' := fun h =>
      absurd ((List.idxOf_inj hmem).mp h) (by decide)
    rcases lt_or_gt_of_ne hne with hlt | hlt
    · exact .inr (.inr ⟨'.', ',', .inr rfl, .inl rfl, by decide, ⟨hcomma, hdot⟩, hlt⟩)
    · exact .inr (.inr ⟨',', '.', .inl rfl, .inr rfl, by decide, ⟨hcomma, hdot⟩, hlt⟩)

lemma numericText_plain (hspace : ' ' ∉ input) (hnone : ∀ c, isPoint c = true → input.count c = 0) :
    numericText input = if Digits input then .ok input else .error .digits := by
  rw [numericText]
  rw [if_neg hspace, hnone ',' (by decide), hnone '.' (by decide), if_neg (by decide), if_neg (by decide),
    if_neg (by decide)]

lemma numericText_onePoint (hd : isPoint d = true) (hspace : ' ' ∉ input) (hone : input.count d = 1)
    (hnone : ∀ c, isPoint c = true → c ≠ d → input.count c = 0) : numericText input =
      if input.takeWhile (· ≠ d) = [] ∨ ¬ Fraction (input.dropWhile (· ≠ d)).tail then .error .ambiguous
      else .ok (input.takeWhile (· ≠ d) ++ '.' :: (input.dropWhile (· ≠ d)).tail) := by
  rw [numericText]
  rcases isPoint_iff.mp hd with rfl | rfl
  · rw [if_neg hspace, hone, hnone '.' (by decide) (by decide)]
    rfl
  · rw [if_neg hspace, hone, hnone ',' (by decide) (by decide)]
    rfl

lemma numericText_points (hc : isPoint c = true) (hspace : ' ' ∉ input) (hmany : 1 < input.count c)
    (hnone : ∀ d, isPoint d = true → d ≠ c → input.count d = 0) : numericText input =
      if IsGrouped c input then .ok (input.filter (· ≠ c)) else .error .grouping := by
  rw [numericText]
  rcases isPoint_iff.mp hc with rfl | rfl
  · rw [if_neg hspace, hnone '.' (by decide) (by decide), if_neg (by omega), if_pos (.inl hmany), if_pos hmany]
  · rw [if_neg hspace, hnone ',' (by decide) (by decide), if_neg (by omega), if_pos (.inr hmany)]
    rfl

lemma numericText_bothPoints (hc : isPoint c = true) (hd : isPoint d = true) (hcd : c ≠ d) (hspace : ' ' ∉ input)
    (hcount : ∀ e, isPoint e = true → 0 < input.count e) (hlast : input.reverse.idxOf d < input.reverse.idxOf c) :
    numericText input =
      if IsGrouped c (input.takeWhile (· ≠ d)) ∧ Fraction (input.dropWhile (· ≠ d)).tail then
        .ok ((input.filter (· ≠ c)).replace d '.')
      else .error .grouping := by
  rw [numericText]
  rw [if_neg hspace, if_pos ⟨hcount ',' (by decide), hcount '.' (by decide)⟩]
  rcases isPoint_iff.mp hc with rfl | rfl <;> rcases isPoint_iff.mp hd with rfl | rfl
  · exact absurd rfl hcd
  · rw [if_neg hlast.le.not_gt]
    rfl
  · rw [if_pos hlast]
    rfl
  · exact absurd rfl hcd

lemma Groups.space_mem (h : Groups groups) : ' ' ∈ [' '].intercalate groups := by
  have hcount := h.count_intercalate (c := ' ') (d := ' ') (by decide) (by decide)
  have htwo := h.two_le
  rw [if_pos rfl] at hcount
  exact List.count_pos_iff.mp (by omega)

lemma Groups.not_isPoint_spaced (h : Groups groups) : ∀ c ∈ [' '].intercalate groups, (!isPoint c) = true := by
  intro c hc
  rcases h.mem_intercalate (by decide) hc with rfl | hdigit
  · decide
  · by_contra hpoint
    rw [isDigit_of_isPoint (by simpa using hpoint)] at hdigit
    cases hdigit

lemma numericText_of_amount (h : Amount input whole fraction) : numericText input = .ok (rendered whole fraction) := by
  have hspace : ' '.isDigit = false := by decide
  cases h with
  | plain h =>
    have hnone : ∀ c, isPoint c = true → whole.count c = 0 := fun c hc =>
      List.count_eq_zero.mpr (h.notMem (isDigit_of_isPoint hc))
    rw [numericText_plain (h.notMem hspace) hnone, if_pos h, rendered, if_pos rfl, List.append_nil]
  | @point _ _ d h hd hfraction =>
    have hnone : ∀ c, isPoint c = true → whole.count c = 0 := fun c hc =>
      List.count_eq_zero.mpr (h.notMem (isDigit_of_isPoint hc))
    obtain ⟨htake, hdrop⟩ := takeWhile_point (d := d) (p := (· ≠ d)) fraction
      (fun c hc => decide_eq_true fun heq => h.notMem (isDigit_of_isPoint hd) (heq ▸ hc)) (by simp)
    rw [numericText_onePoint hd (space_notMem_point (h.notMem hspace) hd hfraction.1), htake, hdrop, List.tail_cons,
      if_neg (not_or.mpr ⟨h.1, not_not.mpr hfraction⟩), rendered, if_neg hfraction.1.1]
    · rw [count_point hfraction.1 (isDigit_of_isPoint hd), hnone d hd, if_pos rfl]
    · intro c hc hne
      rw [count_point hfraction.1 (isDigit_of_isPoint hc), hnone c hc, if_neg hne.symm]
  | @spaces groups h =>
    rw [numericText]
    rw [if_pos h.space_mem, List.takeWhile_eq_self_iff.mpr h.not_isPoint_spaced,
      List.dropWhile_eq_nil_iff.mpr h.not_isPoint_spaced,
      if_pos ⟨(isGrouped_iff hspace).mpr ⟨groups, h, rfl⟩, .inl rfl⟩, if_pos rfl, rendered, if_pos rfl,
      (filter_intercalate fun group hgroup => (h.digits hgroup).notMem hspace).1]
  | @spacesPoint groups _ d h hd hfraction =>
    obtain ⟨htake, hdrop⟩ := takeWhile_point fraction h.not_isPoint_spaced (by simp [hd] : (!isPoint d) = false)
    rw [numericText]
    dsimp only
    rw [if_pos (List.mem_append_left _ h.space_mem), htake, hdrop, List.tail_cons,
      if_pos ⟨(isGrouped_iff hspace).mpr ⟨groups, h, rfl⟩, .inr hfraction⟩, if_neg (List.cons_ne_nil _ _), rendered,
      if_neg hfraction.1.1, (filter_intercalate fun group hgroup => (h.digits hgroup).notMem hspace).1]
  | @groups groups c h hc hmore =>
    have hcount := fun d hd => h.count_intercalate (d := d) (isDigit_of_isPoint hc) (isDigit_of_isPoint hd)
    rw [numericText_points hc, if_pos ((isGrouped_iff (isDigit_of_isPoint hc)).mpr ⟨groups, h, rfl⟩),
      (filter_intercalate fun group hgroup => (h.digits hgroup).notMem (isDigit_of_isPoint hc)).1, rendered,
      if_pos rfl, List.append_nil]
    · intro hmem
      rcases h.mem_intercalate (isDigit_of_isPoint hc) hmem with rfl | hdigit
      · exact absurd hc (by decide)
      · exact absurd hdigit (by decide)
    · rw [hcount c hc, if_pos rfl]
      omega
    · intro d hd hne
      rw [hcount d hd, if_neg hne]
  | @groupsPoint groups _ c d h hc hd hcd hfraction =>
    have hdigit := isDigit_of_isPoint hc
    have hnotMem : d ∉ [c].intercalate groups := by
      intro hmem
      rcases h.mem_intercalate hdigit hmem with heq | hmem
      · exact hcd heq.symm
      · rw [isDigit_of_isPoint hd] at hmem
        cases hmem
    obtain ⟨htake, hdrop⟩ := takeWhile_point (d := d) (p := (· ≠ d)) fraction
      (fun e he => decide_eq_true fun heq : e = d => hnotMem (heq ▸ he)) (by simp)
    obtain ⟨hlow, hhigh⟩ := idxOf_reverse ([c].intercalate groups) hcd (hfraction.1.notMem hdigit)
    have hrest : fraction.filter (· ≠ c) = fraction := List.filter_eq_self.mpr fun a ha =>
      decide_eq_true fun heq : a = c => hfraction.1.notMem hdigit (heq ▸ ha)
    rw [numericText_bothPoints hc hd hcd, htake, hdrop, List.tail_cons,
      if_pos ⟨(isGrouped_iff hdigit).mpr ⟨groups, h, rfl⟩, hfraction⟩, List.filter_append,
      (filter_intercalate fun group hgroup => (h.digits hgroup).notMem hdigit).1,
      List.filter_cons_of_pos (by simpa using hcd.symm), hrest, List.replace_append,
      if_neg (h.flatten.notMem (isDigit_of_isPoint hd)), List.replace_cons_self, rendered, if_neg hfraction.1.1]
    · refine space_notMem_point (fun hmem => ?_) hd hfraction.1
      rcases h.mem_intercalate hdigit hmem with rfl | hmem
      · exact absurd hc (by decide)
      · exact absurd hmem (by decide)
    · intro e he
      rw [count_point hfraction.1 (isDigit_of_isPoint he), h.count_intercalate hdigit (isDigit_of_isPoint he)]
      have htwo := h.two_le
      rcases isPoint_iff.mp hc with rfl | rfl <;> rcases isPoint_iff.mp hd with rfl | rfl <;>
        rcases isPoint_iff.mp he with rfl | rfl <;> simp_all <;> omega
    · omega

lemma exists_amount_of_spaces (hspace : ' ' ∈ input) (h : numericText input = .ok text) :
    ∃ whole fraction, Amount input whole fraction := by
  rw [numericText] at h
  dsimp only at h
  rw [if_pos hspace] at h
  split at h
  · next hcond =>
    obtain ⟨hgrouped, htail⟩ := hcond
    obtain ⟨groups, hgroups, hwhole⟩ := (isGrouped_iff (by decide)).mp hgrouped
    by_cases hnil : input.dropWhile (fun c => !isPoint c) = []
    · have hinput : input = [' '].intercalate groups := by
        rw [← hwhole, ← List.append_nil (input.takeWhile _), ← hnil, List.takeWhile_append_dropWhile]
      exact ⟨groups.flatten, [], hinput ▸ .spaces hgroups⟩
    · obtain ⟨d, rest, hsplit, hdrop, hd, -⟩ := exists_eq_append hnil
      have hfraction := htail.resolve_left hnil
      rw [hdrop, List.tail_cons] at hfraction
      rw [hwhole] at hsplit
      exact ⟨groups.flatten, rest, hsplit ▸ .spacesPoint hgroups (by simpa using hd) hfraction⟩
  · cases h

lemma exists_amount (hchars : ∀ c ∈ input, isAmountChar c = true) (h : numericText input = .ok text) :
    ∃ whole fraction, Amount input whole fraction := by
  by_cases hspace : ' ' ∈ input
  · exact exists_amount_of_spaces hspace h
  obtain hnone | ⟨d, hd, hpos, hnone⟩ | ⟨c, d, hc, hd, hcd, hcount, hlast⟩ := separators_cases input
  · rw [numericText_plain hspace hnone] at h
    split at h
    · next hdigits => exact ⟨_, _, .plain hdigits⟩
    · cases h
  · rcases (by omega : input.count d = 1 ∨ 1 < input.count d) with hone | hmany
    · rw [numericText_onePoint hd hspace hone hnone] at h
      split at h
      · cases h
      · next hcond =>
        obtain ⟨hne, hfraction⟩ := not_or.mp hcond
        obtain ⟨e, rest, hsplit, hdrop, he, -⟩ := exists_eq_append (dropWhile_ne_nil (List.count_pos_iff.mp hpos))
        obtain rfl : e = d := by simpa using he
        rw [hdrop, List.tail_cons, not_not] at hfraction
        have hwhole : Digits (input.takeWhile (· ≠ e)) := by
          refine ⟨hne, fun c hc => ?_⟩
          have hce : c ≠ e := by simpa using List.mem_takeWhile_imp hc
          have hmem := List.takeWhile_subset _ hc
          have hchar := hchars c hmem
          rw [isAmountChar, Bool.or_eq_true, Bool.or_eq_true] at hchar
          rcases hchar with (hchar | hchar) | hchar
          · exact hchar
          · exact absurd hmem (List.count_eq_zero.mp (hnone c hchar hce))
          · exact absurd (beq_iff_eq.mp hchar ▸ hmem) hspace
        have hamount := Amount.point hwhole hd hfraction
        rw [← hsplit] at hamount
        exact ⟨_, _, hamount⟩
    · rw [numericText_points hd hspace hmany hnone] at h
      split at h
      · next hgrouped =>
        obtain ⟨groups, hgroups, rfl⟩ := (isGrouped_iff (isDigit_of_isPoint hd)).mp hgrouped
        rw [hgroups.count_intercalate (isDigit_of_isPoint hd) (isDigit_of_isPoint hd), if_pos rfl] at hmany
        exact ⟨_, _, .groups hgroups hd (by omega)⟩
      · cases h
  · rw [numericText_bothPoints hc hd hcd hspace hcount hlast] at h
    split at h
    · next hcond =>
      obtain ⟨hgrouped, hfraction⟩ := hcond
      obtain ⟨groups, hgroups, hwhole⟩ := (isGrouped_iff (isDigit_of_isPoint hc)).mp hgrouped
      obtain ⟨e, rest, hsplit, hdrop, he, -⟩ :=
        exists_eq_append (dropWhile_ne_nil (List.count_pos_iff.mp (hcount d hd)))
      obtain rfl : e = d := by simpa using he
      rw [hdrop, List.tail_cons] at hfraction
      rw [hwhole] at hsplit
      exact ⟨groups.flatten, rest, hsplit ▸ .groupsPoint hgroups hc hd hcd hfraction⟩
    · cases h

lemma amount_of_numericText (hchars : ∀ c ∈ input, isAmountChar c = true) (h : numericText input = .ok text) :
    ∃ whole fraction, Amount input whole fraction ∧ text = rendered whole fraction := by
  obtain ⟨whole, fraction, hamount⟩ := exists_amount hchars h
  rw [numericText_of_amount hamount] at h
  exact ⟨whole, fraction, hamount, (Except.ok.inj h).symm⟩

/-! ## Numbers -/

lemma not_isTrimmed_of_isDigit (h : c.isDigit = true) : isTrimmed c = false := by
  have hbounds : 48 ≤ c.toNat ∧ c.toNat ≤ 57 := by
    rw [Char.isDigit, Bool.and_eq_true, decide_eq_true_eq, decide_eq_true_eq] at h
    exact h
  have hdigits : ∀ n < 58, 48 ≤ n → isTrimmed (Char.ofNat n) = false := by decide
  rw [← Char.ofNat_toNat c]
  exact hdigits c.toNat (by omega) hbounds.1

lemma trim_ofList (h : ∀ c ∈ text, isTrimmed c = false) : (trim (String.ofList text)).toList = text := by
  rw [toList_trim, String.toList_ofList]
  have hfront : text.dropWhile isTrimmed = text := List.dropWhile_eq_self_iff.mpr fun hlength => by
    simp [h _ (List.getElem_mem hlength)]
  rw [hfront, List.rdropWhile_eq_self_iff]
  exact fun hne => by simp [h _ (List.getLast_mem hne)]

lemma foldlM_digits (h : ∀ c ∈ text, c.isDigit = true) (n : ℕ) :
    text.foldlM (fun n c => (digitOf c).bind fun d => if d < 10 then some (n * 10 + d) else none) n =
      some (Nat.ofDigitChars 10 text n) := by
  induction text generalizing n with
  | nil => rfl
  | cons c rest ih =>
    have hdigit := h c List.mem_cons_self
    rw [Char.isDigit, Bool.and_eq_true, decide_eq_true_eq, decide_eq_true_eq] at hdigit
    have hhigh : c.toNat ≤ 57 := hdigit.2
    have hvalue : digitOf c = some (c.toNat - 48) := if_pos hdigit
    rw [List.foldlM_cons, hvalue, Option.bind_some, if_pos (by omega), Option.bind_eq_bind, Option.bind_some,
      ih fun d hd => h d (List.mem_cons_of_mem _ hd), Nat.ofDigitChars_cons, Nat.mul_comm n 10]
    rfl

lemma digitsValue_digits (h : Digits text) : digitsValue 10 text = some (Nat.ofDigitChars 10 text 0) := by
  rw [digitsValue, if_neg h.1, foldlM_digits h.2]

lemma exactNumber_eq_decimal (hne : text ≠ []) (h : ∀ c ∈ text, c.isDigit = true ∨ c = '.') :
    exactNumber text = decimal text := by
  have hnone : ∀ {c}, c ∈ text → c.isDigit = false → c ≠ '.' → False := fun hmem hdigit hpoint => by
    rcases h _ hmem with hd | heq
    · rw [hdigit] at hd
      cases hd
    · exact hpoint heq
  unfold exactNumber
  split
  · exact absurd rfl hne
  any_goals exact (hnone (List.mem_cons_of_mem _ List.mem_cons_self) (by decide) (by decide)).elim
  any_goals exact (hnone List.mem_cons_self (by decide) (by decide)).elim
  rfl

lemma isAmountDigit_rendered (hwhole : Digits whole) (hfraction : fraction = [] ∨ Digits fraction) :
    ∀ c ∈ rendered whole fraction, c.isDigit = true ∨ c = '.' := by
  intro c hc
  rcases List.mem_append.mp hc with hc | hc
  · exact .inl (hwhole.2 c hc)
  · split at hc
    · exact absurd hc List.not_mem_nil
    · next hne =>
      rcases List.mem_cons.mp hc with heq | hc
      · exact .inr heq
      · exact .inl ((hfraction.resolve_left hne).2 c hc)

lemma numberOf_rendered (hwhole : Digits whole) (hfraction : fraction = [] ∨ Digits fraction) :
    numberOf (String.ofList (rendered whole fraction)) = (JsNumber.finite (amountOf whole fraction)).rounded := by
  have hchars := isAmountDigit_rendered hwhole hfraction
  have htrim : ∀ c ∈ rendered whole fraction, isTrimmed c = false := by
    intro c hc
    rcases hchars c hc with hdigit | rfl
    · exact not_isTrimmed_of_isDigit hdigit
    · decide
  have hnone : ∀ {c}, c.isDigit = false → c ≠ '.' → c ∉ rendered whole fraction := fun hdigit hpoint hmem => by
    rcases hchars _ hmem with hd | heq
    · rw [hdigit] at hd
      cases hd
    · exact hpoint heq
  have hne : rendered whole fraction ≠ [] := List.append_ne_nil_of_left_ne_nil hwhole.1 _
  rw [numberOf, trim_ofList htrim, exactNumber_eq_decimal hne hchars, decimal, if_neg]
  · have hspan : ∀ c ∈ rendered whole fraction, (c != 'e' && c != 'E') = true := by
      intro c hc
      have he : c ≠ 'e' := fun heq => hnone (by decide) (by decide) (heq ▸ hc)
      have hE : c ≠ 'E' := fun heq => hnone (by decide) (by decide) (heq ▸ hc)
      simp [he, hE]
    have hall : Digits (whole ++ fraction) := by
      refine ⟨List.append_ne_nil_of_left_ne_nil hwhole.1 _, fun c hc => ?_⟩
      rcases List.mem_append.mp hc with hc | hc
      · exact hwhole.2 c hc
      · exact (hfraction.resolve_left (List.ne_nil_of_mem hc)).2 c hc
    have hpoint : ∀ c ∈ whole, (c != '.') = true := fun c hc => by
      simpa using fun heq : c = '.' => hwhole.notMem (by decide) (heq ▸ hc)
    have hparts : (rendered whole fraction).takeWhile (fun c => c != '.') = whole ∧
        ((rendered whole fraction).dropWhile fun c => c != '.').drop 1 = fraction := by
      rw [rendered]
      split
      · next heq =>
        rw [List.append_nil, List.takeWhile_eq_self_iff.mpr hpoint, List.dropWhile_eq_nil_iff.mpr hpoint, heq]
        exact ⟨rfl, rfl⟩
      · obtain ⟨htake, hdrop⟩ := takeWhile_point fraction hpoint (by decide : ('.' != '.') = false)
        rw [htake, hdrop]
        exact ⟨rfl, rfl⟩
    simp only [List.span_eq_takeWhile_dropWhile, List.takeWhile_eq_self_iff.mpr hspan,
      List.dropWhile_eq_nil_iff.mpr hspan, hparts.1, hparts.2, digitsValue_digits hall, exponent]
    rw [amountOf, zero_sub, zpow_neg, zpow_natCast, div_eq_mul_inv]
  · intro heq
    refine hnone (c := 'I') (by decide) (by decide) ?_
    rw [heq]
    decide

/-! ## The field -/

lemma Amount.digits (h : Amount text whole fraction) : Digits whole ∧ (fraction = [] ∨ Digits fraction) := by
  cases h with
  | plain h => exact ⟨h, .inl rfl⟩
  | point h _ hfraction => exact ⟨h, .inr hfraction.1⟩
  | spaces h => exact ⟨h.flatten, .inl rfl⟩
  | spacesPoint h _ hfraction => exact ⟨h.flatten, .inr hfraction.1⟩
  | groups h => exact ⟨h.flatten, .inl rfl⟩
  | groupsPoint h _ _ _ hfraction => exact ⟨h.flatten, .inr hfraction.1⟩

lemma isAmountChar_of_isDigit (h : c.isDigit = true) : isAmountChar c = true := by simp [isAmountChar, h]

lemma isAmountChar_of_isPoint (h : isPoint c = true) : isAmountChar c = true := by simp [isAmountChar, h]

lemma Groups.isAmountChar (h : Groups groups) (hc : c.isDigit = false) (hchar : isAmountChar c = true) :
    ∀ d ∈ [c].intercalate groups, isAmountChar d = true := by
  intro d hd
  rcases h.mem_intercalate hc hd with rfl | hdigit
  · exact hchar
  · exact isAmountChar_of_isDigit hdigit

lemma isAmountChar_point (hbody : ∀ c ∈ body, isAmountChar c = true) (hd : isPoint d = true)
    (h : Digits fraction) : ∀ c ∈ body ++ d :: fraction, isAmountChar c = true := by
  intro c hc
  rcases List.mem_append.mp hc with hc | hc
  · exact hbody c hc
  · rcases List.mem_cons.mp hc with rfl | hc
    · exact isAmountChar_of_isPoint hd
    · exact isAmountChar_of_isDigit (h.2 c hc)

lemma Amount.chars (h : Amount text whole fraction) : ∀ c ∈ text, isAmountChar c = true := by
  have hspace : ' '.isDigit = false := by decide
  have hchar : isAmountChar ' ' = true := by decide
  cases h with
  | plain h => exact fun c hc => isAmountChar_of_isDigit (h.2 c hc)
  | point h hd hfraction =>
    exact isAmountChar_point (fun c hc => isAmountChar_of_isDigit (h.2 c hc)) hd hfraction.1
  | spaces h => exact h.isAmountChar hspace hchar
  | spacesPoint h hd hfraction => exact isAmountChar_point (h.isAmountChar hspace hchar) hd hfraction.1
  | groups h hc => exact h.isAmountChar (isDigit_of_isPoint hc) (isAmountChar_of_isPoint hc)
  | groupsPoint h hc hd _ hfraction =>
    exact isAmountChar_point (h.isAmountChar (isDigit_of_isPoint hc) (isAmountChar_of_isPoint hc)) hd hfraction.1

lemma Amount.ne_nil (h : Amount text whole fraction) : text ≠ [] := by
  rintro rfl
  have hempty : numericText [] = .error .digits := rfl
  rw [numericText_of_amount h] at hempty
  cases hempty

lemma isTrimmed_of_cleaned (h : (if c = '\u00a0' then ' ' else c) = ' ') : isTrimmed c = true := by
  split at h
  · next heq =>
    rw [heq]
    decide
  · rw [h]
    decide

lemma head?_cleaned (value : String) : (cleaned value).head? ≠ some ' ' := by
  intro h
  rw [cleaned, List.head?_map] at h
  obtain ⟨c, hc, heq⟩ := Option.map_eq_some_iff.mp h
  have hfirst := List.head?_dropWhile_not isTrimmed (trim value).toList
  rw [dropWhile_toList_trim, hc] at hfirst
  exact absurd (isTrimmed_of_cleaned heq) (by simpa using hfirst)

lemma getLast?_cleaned (value : String) : (cleaned value).getLast? ≠ some ' ' := by
  intro h
  rw [cleaned, List.getLast?_map, toList_trim] at h
  obtain ⟨c, hc, heq⟩ := Option.map_eq_some_iff.mp h
  obtain ⟨hne, rfl⟩ := List.mem_getLast?_eq_getLast hc
  exact List.rdropWhile_last_not isTrimmed _ hne (isTrimmed_of_cleaned heq)

lemma amountOf_nonneg (whole fraction : List Char) : 0 ≤ roundDouble (amountOf whole fraction) := by
  have hle := le_roundDouble (x := amountOf whole fraction) (m := 0) le_rfl
    (by rw [Int.cast_zero, zero_mul, amountOf]; positivity)
  rwa [Int.cast_zero, zero_mul] at hle

lemma checkedAmount_rendered (hwhole : Digits whole) (hfraction : fraction = [] ∨ Digits fraction) :
    checkedAmount (rendered whole fraction) =
      if roundDouble (amountOf whole fraction) ≤ maxSafeInteger then
        .ok (some (mathRound (roundDouble (amountOf whole fraction))))
      else .error .amount := by
  have hnonneg := amountOf_nonneg whole fraction
  rw [checkedAmount, numberOf_rendered hwhole hfraction, JsNumber.rounded]
  by_cases hle : roundDouble (amountOf whole fraction) ≤ maxSafeInteger
  · have hsafe : maxSafeInteger < 2 ^ 1024 :=
      (sub_one_lt _).trans_le (pow_le_pow_right₀ one_le_two (by decide))
    rw [if_pos hle, if_neg (by rw [abs_of_nonneg hnonneg]; linarith)]
    exact if_neg (not_or.mpr ⟨not_lt.mpr hnonneg, not_lt.mpr hle⟩)
  · rw [if_neg hle]
    split_ifs
    · rfl
    · exact if_pos (.inr (not_le.mp hle))

/-- **The amounts that the field takes.**  An empty field says nothing, and any other has a value
exactly if it is an amount whose double is a safe integer at most. -/
theorem parseMinimumAnnualSalary_spec (value : String) :
    (parseMinimumAnnualSalary value = .ok none ↔ cleaned value = []) ∧
      ∀ n, parseMinimumAnnualSalary value = .ok (some n) ↔ ∃ whole fraction, Amount (cleaned value) whole fraction ∧
        roundDouble (amountOf whole fraction) ≤ maxSafeInteger ∧
        n = mathRound (roundDouble (amountOf whole fraction)) := by
  unfold parseMinimumAnnualSalary
  by_cases hempty : cleaned value = []
  · rw [if_pos hempty]
    refine ⟨iff_of_true rfl hempty, fun n => iff_of_false (by simp) ?_⟩
    rintro ⟨whole, fraction, hamount, -⟩
    exact hamount.ne_nil hempty
  · rw [if_neg hempty]
    by_cases hchars : (cleaned value).all isAmountChar = true
    · rw [if_neg (by simp [hchars, head?_cleaned, getLast?_cleaned])]
      cases hnumeric : numericText (cleaned value) with
      | error error =>
        refine ⟨iff_of_false (fun h => by cases h) hempty, fun n => iff_of_false (fun h => by cases h) ?_⟩
        rintro ⟨whole, fraction, hamount, -⟩
        rw [numericText_of_amount hamount] at hnumeric
        cases hnumeric
      | ok text =>
        obtain ⟨whole, fraction, hamount, rfl⟩ := amount_of_numericText (List.all_eq_true.mp hchars) hnumeric
        have hread := fun {whole' fraction'} (h : Amount (cleaned value) whole' fraction') =>
          checkedAmount_rendered h.digits.1 h.digits.2
        rw [Except.bind]
        constructor
        · rw [hread hamount]
          split <;> exact iff_of_false (fun h => by cases h) hempty
        · intro n
          constructor
          · intro h
            rw [hread hamount] at h
            split at h
            · next hle =>
              cases h
              exact ⟨whole, fraction, hamount, hle, rfl⟩
            · cases h
          · rintro ⟨whole', fraction', hamount', hle, rfl⟩
            rw [numericText_of_amount hamount'] at hnumeric
            rw [← Except.ok.inj hnumeric, hread hamount', if_pos hle]
    · rw [if_pos (by simp [hchars])]
      refine ⟨iff_of_false (fun h => by cases h) hempty, fun n => iff_of_false (fun h => by cases h) ?_⟩
      rintro ⟨whole, fraction, hamount, -⟩
      exact hchars (List.all_eq_true.mpr hamount.chars)

/-- One group behind a comma is refused, and so are digits beyond the safe integers.  A double may be rounded up where the
amount would not be. -/
theorem not_grouped_amounts : parseMinimumAnnualSalary "1,234" = .error .ambiguous ∧
    parseMinimumAnnualSalary "9007199254740993" = .error .amount ∧
    parseMinimumAnnualSalary "2251799813685248.49" = .ok (some 2251799813685249) := by
  decide +kernel

end VacancyRadar.GlobalRemote
