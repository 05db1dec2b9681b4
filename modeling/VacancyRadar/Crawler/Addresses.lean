import VacancyRadar.Crawler.UrlSafety
import Mathlib.Tactic.Linarith
import Mathlib.Tactic.Ring

/-!
# Spellings of an address

Sixteen bytes are written in many ways as an address.  The check reads the same bytes from all of them, and
what it says depends on the bytes only.
-/

namespace VacancyRadar.Crawler

/-! ## The texts of an address -/

structure GroupText (value : ℕ) (text : List Char) : Prop where
  length : text.length ≤ 4
  digits : ∃ zeros, text.map Char.toLower = List.replicate zeros '0' ++ Nat.toDigits 16 value

def dotted (bytes : List ℕ) : List Char := ['.'].intercalate (bytes.map (Nat.toDigits 10))

inductive SideText (isEnd : Bool) : List ℕ → List (List Char) → Prop
  | nil : SideText isEnd [] []
  | dotted {octets : List ℕ} (hend : isEnd = true) (hlength : octets.length = 4)
      (hbyte : ∀ octet ∈ octets, octet < 256) : SideText isEnd octets [dotted octets]
  | group {high low : ℕ} {text : List Char} {bytes : List ℕ} {texts : List (List Char)} (hhigh : high < 256)
      (hlow : low < 256) (htext : GroupText (256 * high + low) text) (hrest : SideText isEnd bytes texts) :
      SideText isEnd (high :: low :: bytes) (text :: texts)

/-- An address in full, or with `::` for one group of zeros or more. -/
inductive BareText : List ℕ → List Char → Prop
  | full {bytes : List ℕ} {texts : List (List Char)} (hside : SideText true bytes texts)
      (hlength : bytes.length = 16) : BareText bytes ([':'].intercalate texts)
  | compressed {head tail : List ℕ} {left right : List (List Char)} (hhead : SideText false head left)
      (htail : SideText true tail right) (hlength : head.length + tail.length ≤ 14) :
      BareText (head ++ List.replicate (16 - (head.length + tail.length)) 0 ++ tail)
        ([':'].intercalate left ++ ':' :: ':' :: [':'].intercalate right)

/-! ## Which addresses are public -/

def addressValue (bytes : List ℕ) : ℕ := bytes.foldl (fun value byte => 256 * value + byte) 0

def InCidr (address network : List ℕ) (bits : ℕ) : Prop :=
  addressValue address / 2 ^ (8 * address.length - bits) = addressValue network / 2 ^ (8 * address.length - bits)

def ipv6Network (first : List ℕ) : List ℕ := first ++ List.replicate (16 - first.length) 0

/-- The special ranges of `2000::/3`. -/
def specialIpv6Ranges : List (List ℕ × ℕ) :=
  [(ipv6Network [0x20, 0x01], 23), (ipv6Network [0x20, 0x01, 0x0d, 0xb8], 32), (ipv6Network [0x20, 0x02], 16),
    (ipv6Network [0x3f, 0xfe], 16), (ipv6Network [0x3f, 0xff], 20)]

def mapped (octets : List ℕ) : List ℕ := List.replicate 10 0 ++ [0xff, 0xff] ++ octets

/-- An address of `2000::/3` outside the special ranges, or a mapped IPv4 address outside the ranges
which are not public and no exception. -/
def PublicAddress (exceptions : List (List ℕ)) (bytes : List ℕ) : Prop :=
  (InCidr bytes (ipv6Network [0x20]) 3 ∧ ∀ range ∈ specialIpv6Ranges, ¬ InCidr bytes range.1 range.2) ∨
    ∃ octets, bytes = mapped octets ∧ (∀ range ∈ nonPublicIpv4Ranges, ¬ InCidr octets range.1 range.2) ∧
      octets ∉ exceptions

/-! ## Digits -/

variable {bytes octets : List ℕ} {text : List Char} {texts : List (List Char)} {isEnd : Bool}

lemma octet_facts : ∀ n < 256, (Nat.toDigits 10 n).length ≤ 3 ∧ decimal (Nat.toDigits 10 n) = n := by
  decide +kernel

lemma isDigit_toDigits (n : ℕ) : (Nat.toDigits 10 n).all Char.isDigit = true :=
  List.all_eq_true.mpr fun _ hc => Nat.isDigit_of_mem_toDigits (by decide) (by decide) hc

lemma splitOn_dotted (hne : octets ≠ []) : (dotted octets).splitOn '.' = octets.map (Nat.toDigits 10) := by
  refine List.splitOn_intercalate _ (fun part hpart hmem => ?_) (by simpa using hne)
  obtain ⟨n, -, rfl⟩ := List.mem_map.mp hpart
  exact absurd (List.all_eq_true.mp (isDigit_toDigits n) _ hmem) (by decide)

lemma parseIpv4_dotted (hlength : octets.length = 4) (hbyte : ∀ octet ∈ octets, octet < 256) :
    parseIpv4 (dotted octets) = some octets := by
  have hne : octets ≠ [] := List.ne_nil_of_length_eq_add_one hlength
  rw [parseIpv4, splitOn_dotted hne, if_neg (by simpa using hlength), if_pos]
  · rw [List.map_map]
    have hsame : octets.map (decimal ∘ Nat.toDigits 10) = octets.map id :=
      List.map_congr_left fun octet hoctet => (octet_facts octet (hbyte octet hoctet)).2
    rw [hsame, List.map_id]
  · rw [List.all_map, List.all_eq_true]
    intro octet hoctet
    obtain ⟨hthree, hdecimal⟩ := octet_facts octet (hbyte octet hoctet)
    have hpos := Nat.length_toDigits_pos (b := 10) (n := octet)
    have hlt := hbyte octet hoctet
    simp only [Function.comp, hdecimal, isDigit_toDigits, Bool.and_true, Bool.and_eq_true, decide_eq_true_eq]
    omega

lemma mapM_hexDigit_toDigits (n : ℕ) : ∃ digits, (Nat.toDigits 16 n).mapM hexDigit = some digits ∧
    digits.foldl (fun value digit => 16 * value + digit) 0 = n := by
  have hdigit : ∀ d < 16, hexDigit (Nat.digitChar d) = some d := by decide
  induction n using Nat.strong_induction_on with
  | h n ih =>
    rcases Nat.lt_or_ge n 16 with hlt | hge
    · refine ⟨[n], ?_, by simp⟩
      rw [Nat.toDigits_of_lt_base hlt]
      simp [hdigit n hlt]
    · obtain ⟨digits, hdigits, hvalue⟩ := ih (n / 16) (by omega)
      refine ⟨digits ++ [n % 16], ?_, ?_⟩
      · rw [Nat.toDigits_of_base_le (by decide) hge, List.mapM_append, hdigits]
        simp [hdigit _ (Nat.mod_lt n (by decide))]
      · rw [List.foldl_append, hvalue]
        simp only [List.foldl_cons, List.foldl_nil]
        omega

lemma parseGroup_zeros {zeros value : ℕ}
    (hlength : (List.replicate zeros '0' ++ Nat.toDigits 16 value).length ≤ 4) :
    parseGroup (List.replicate zeros '0' ++ Nat.toDigits 16 value) = some value := by
  have hread : ∃ digits, (List.replicate zeros '0' ++ Nat.toDigits 16 value).mapM hexDigit = some digits ∧
      digits.foldl (fun value digit => 16 * value + digit) 0 = value := by
    clear hlength
    induction zeros with
    | zero => exact mapM_hexDigit_toDigits value
    | succ zeros ih =>
      obtain ⟨digits, hmap, hvalue⟩ := ih
      refine ⟨0 :: digits, ?_, hvalue⟩
      rw [List.replicate_succ, List.cons_append, List.mapM_cons, hmap]
      rfl
  obtain ⟨digits, hmap, hvalue⟩ := hread
  have hpos : 1 ≤ (List.replicate zeros '0' ++ Nat.toDigits 16 value).length := by
    rw [List.length_append]
    exact Nat.le_add_left_of_le Nat.length_toDigits_pos
  rw [parseGroup, if_pos ⟨hpos, hlength⟩, hmap, Option.map_some, hvalue]

lemma hex_zeros (zeros value : ℕ) : List.replicate zeros '0' ++ Nat.toDigits 16 value ≠ [] ∧
    ∀ c ∈ List.replicate zeros '0' ++ Nat.toDigits 16 value, (hexDigit c).isSome := by
  have hdigit : ∀ d < 16, (hexDigit (Nat.digitChar d)).isSome := by decide
  refine ⟨fun hnil => Nat.toDigits_ne_nil (List.append_eq_nil_iff.mp hnil).2, fun c hc => ?_⟩
  rcases List.mem_append.mp hc with hc | hc
  · rw [List.eq_of_mem_replicate hc]
    rfl
  · obtain ⟨d, hd, rfl⟩ := Data.mem_toDigits (by decide) hc
    exact hdigit d hd

/-! ## Sides -/

inductive PlainSide : List ℕ → List (List Char) → Prop
  | nil : PlainSide [] []
  | group {high low : ℕ} {text : List Char} {bytes : List ℕ} {texts : List (List Char)} (hlow : low < 256)
      (hgroup : parseGroup text = some (256 * high + low)) (hhex : text ≠ [] ∧ ∀ c ∈ text, (hexDigit c).isSome)
      (hrest : PlainSide bytes texts) : PlainSide (high :: low :: bytes) (text :: texts)

lemma PlainSide.append {bytes' : List ℕ} {texts' : List (List Char)} (h : PlainSide bytes texts)
    (h' : PlainSide bytes' texts') : PlainSide (bytes ++ bytes') (texts ++ texts') := by
  induction h with
  | nil => exact h'
  | group hlow hgroup hhex _ ih => exact .group hlow hgroup hhex ih

lemma PlainSide.length (h : PlainSide bytes texts) : bytes.length = 2 * texts.length := by
  induction h with
  | nil => rfl
  | group _ _ _ _ ih =>
    simp only [List.length_cons]
    omega

lemma PlainSide.hex (h : PlainSide bytes texts) :
    ∀ text ∈ texts, text ≠ [] ∧ ∀ c ∈ text, (hexDigit c).isSome := by
  induction h with
  | nil => exact fun _ htext => absurd htext List.not_mem_nil
  | group _ _ hhex _ ih => exact List.forall_mem_cons.mpr ⟨hhex, ih⟩

lemma PlainSide.map_mapM (h : PlainSide bytes texts) :
    ((texts.mapM parseGroup).map fun groups => groups.flatMap fun value => [value / 256, value % 256]) =
      some bytes := by
  induction h with
  | nil => rfl
  | @group high low text bytes texts hlow hgroup _ _ ih =>
    obtain ⟨groups, hgroups, rfl⟩ := Option.map_eq_some_iff.mp ih
    have hdiv : (256 * high + low) / 256 = high := by omega
    have hmod : (256 * high + low) % 256 = low := by omega
    rw [List.mapM_cons, hgroup, hgroups]
    change some (List.flatMap _ ((256 * high + low) :: groups)) = _
    rw [List.flatMap_cons, hdiv, hmod]
    rfl

lemma mem_intercalate {c sep : Char} (h : c ∈ [sep].intercalate texts) : c = sep ∨ ∃ text ∈ texts, c ∈ text := by
  induction texts with
  | nil => exact absurd h List.not_mem_nil
  | cons text texts ih =>
    rcases eq_or_ne texts [] with rfl | hne
    · rw [List.intercalate_singleton] at h
      exact .inr ⟨text, List.mem_cons_self, h⟩
    · rw [List.intercalate_cons_of_ne_nil hne, List.append_assoc] at h
      rcases List.mem_append.mp h with h | h
      · exact .inr ⟨text, List.mem_cons_self, h⟩
      · rcases List.mem_cons.mp h with rfl | h
        · exact .inl rfl
        · refine (ih h).imp_right fun hmem => ?_
          obtain ⟨later, hlater, hc⟩ := hmem
          exact ⟨later, List.mem_cons_of_mem _ hlater, hc⟩

variable {c : Char} {address network : List ℕ} {bits : ℕ}

lemma mem_dotted (h : c ∈ dotted octets) : c = '.' ∨ c.isDigit = true:= by
  refine (mem_intercalate h).imp_right fun hmem => ?_
  obtain ⟨part, hpart, hc⟩ := hmem
  obtain ⟨n, -, rfl⟩ := List.mem_map.mp hpart
  exact List.all_eq_true.mp (isDigit_toDigits n) c hc

lemma map_toLower_dotted (octets : List ℕ) : (dotted octets).map Char.toLower = dotted octets := by
  rw [List.map_congr_left (g := id), List.map_id]
  intro c hc
  rcases mem_dotted hc with rfl | hdigit
  · rfl
  · unfold Char.toLower
    rw [dif_neg]
    · rfl
    · intro hupper
      have hle : c.toNat ≤ 57 := by
        simp only [Char.isDigit, Bool.and_eq_true, decide_eq_true_eq] at hdigit
        exact UInt32.le_iff_toNat_le.mp hdigit.2
      have hge : 65 ≤ c.toNat := UInt32.le_iff_toNat_le.mp hupper.1
      omega

lemma sideText_lower (h : SideText isEnd bytes texts) :
    PlainSide bytes (texts.map (List.map Char.toLower)) ∨
      isEnd = true ∧ ∃ first front octets, texts.map (List.map Char.toLower) = front ++ [dotted octets] ∧
        PlainSide first front ∧ bytes = first ++ octets ∧ octets.length = 4 ∧ ∀ octet ∈ octets, octet < 256 := by
  induction h with
  | nil => exact .inl .nil
  | @dotted octets hend hlength hbyte =>
    refine .inr ⟨hend, [], [], octets, ?_, .nil, rfl, hlength, hbyte⟩
    rw [List.map_singleton, map_toLower_dotted, List.nil_append]
  | @group high low text bytes texts hhigh hlow htext hrest ih =>
    obtain ⟨hlength, zeros, hdigits⟩ := htext
    have hgroup : PlainSide [high, low] [text.map Char.toLower] := by
      rw [hdigits]
      exact .group hlow (parseGroup_zeros (by rwa [← hdigits, List.length_map])) (hex_zeros ..) .nil
    rcases ih with hplain | ⟨hend, first, front, octets, heq, hplain, rfl, hlength, hbyte⟩
    · exact .inl (hgroup.append hplain)
    · refine .inr ⟨hend, high :: low :: first, text.map Char.toLower :: front, octets, ?_, hgroup.append hplain,
        rfl, hlength, hbyte⟩
      rw [List.map_cons, heq, List.cons_append]

/-! ## The parser -/

/-- What `undotTail` leaves of an address. -/
inductive PlainText : List ℕ → List Char → Prop
  | full {bytes : List ℕ} {texts : List (List Char)} (hside : PlainSide bytes texts)
      (hlength : bytes.length = 16) : PlainText bytes ([':'].intercalate texts)
  | compressed {head tail : List ℕ} {left right : List (List Char)} (hhead : PlainSide head left)
      (htail : PlainSide tail right) (hlength : head.length + tail.length ≤ 14) :
      PlainText (head ++ List.replicate (16 - (head.length + tail.length)) 0 ++ tail)
        ([':'].intercalate left ++ ':' :: ':' :: [':'].intercalate right)

def Apart (texts : List (List Char)) : Prop := ∀ text ∈ texts, text ≠ [] ∧ ':' ∉ text

lemma PlainSide.apart (h : PlainSide bytes texts) : Apart texts := fun text htext =>
  ⟨(h.hex text htext).1, fun hmem => absurd ((h.hex text htext).2 ':' hmem) (by decide)⟩

lemma splitDouble_ne_nil (text : List Char) : splitDouble text ≠ [] := by
  unfold splitDouble
  split
  · exact List.cons_ne_nil _ _
  · split <;> exact List.cons_ne_nil _ _
  · exact List.cons_ne_nil _ _

lemma splitDouble_cons {rest : List Char} (h : c = ':' → rest.head? ≠ some ':') :
    splitDouble (c :: rest) = (splitDouble rest).modifyHead (c :: ·) := by
  rw [splitDouble]
  · rcases hsplit : splitDouble rest with _ | ⟨part, parts⟩
    · exact absurd hsplit (splitDouble_ne_nil rest)
    · rfl
  · intro later hc hrest
    exact h hc (by rw [hrest, List.head?_cons])

lemma splitDouble_append (h : ':' ∉ text) (rest : List Char) :
    splitDouble (text ++ rest) = (splitDouble rest).modifyHead (text ++ ·) := by
  induction text with
  | nil => exact (congrFun List.modifyHead_id _).symm
  | cons c text ih =>
    rw [List.mem_cons, not_or] at h
    rw [List.cons_append, splitDouble_cons (fun hc => absurd hc.symm h.1), ih h.2, List.modifyHead_modifyHead]
    rfl

lemma splitDouble_side (h : Apart texts) (rest : List Char) :
    splitDouble ([':'].intercalate texts ++ rest) =
      (splitDouble rest).modifyHead ([':'].intercalate texts ++ ·) := by
  induction texts with
  | nil => exact (congrFun List.modifyHead_id _).symm
  | cons text texts ih =>
    have hcolon := (h text List.mem_cons_self).2
    cases texts with
    | nil => rw [List.intercalate_singleton, splitDouble_append hcolon]
    | cons next texts =>
      have hrest : Apart (next :: texts) := fun t ht => h t (List.mem_cons_of_mem _ ht)
      have hhead : ([':'].intercalate (next :: texts) ++ rest).head? ≠ some ':' := by
        obtain ⟨hne, hnext⟩ := hrest next List.mem_cons_self
        cases next with
        | nil => exact absurd rfl hne
        | cons d next =>
          cases texts with
          | nil => simpa using fun hd : d = ':' => hnext (hd ▸ List.mem_cons_self)
          | cons => simpa using fun hd : d = ':' => hnext (hd ▸ List.mem_cons_self)
      rw [List.intercalate_cons_cons, List.append_assoc, List.append_assoc, splitDouble_append hcolon,
        List.singleton_append, splitDouble_cons (fun _ => hhead), ih hrest, List.modifyHead_modifyHead,
        List.modifyHead_modifyHead]
      congr 1
      funext part
      simp

lemma groupsOf_intercalate (h : Apart texts) : groupsOf ([':'].intercalate texts) = texts := by
  rcases eq_or_ne texts [] with rfl | hne
  · rfl
  · have hsplit := List.splitOn_intercalate ':' (fun text htext => (h text htext).2) hne
    rw [groupsOf, if_neg, hsplit]
    intro hempty
    rw [hempty] at hsplit
    exact (h [] (hsplit ▸ List.mem_cons_self)).1 rfl

lemma plainSide_zeros (k : ℕ) : PlainSide (List.replicate (2 * k) 0) (List.replicate k ['0']) := by
  induction k with
  | zero => exact .nil
  | succ k ih => exact @PlainSide.group 0 0 _ _ _ (by decide) (by decide) ⟨by decide, List.forall_mem_singleton.mpr rfl⟩ ih

/-- The rest of `parseIpv6` reads the bytes. -/
lemma parseIpv6_of_plainText {address bare : List Char} (h : PlainText bytes text)
    (hbare : (if (address.map Char.toLower).head? = some '[' ∧ (address.map Char.toLower).getLast? = some ']' then
      (address.map Char.toLower).tail.dropLast else address.map Char.toLower) = bare)
    (hpercent : '%' ∉ bare) (hundot : undotTail bare = some text) : parseIpv6 address = some bytes := by
  unfold parseIpv6
  simp only [hbare, if_neg hpercent, hundot, Option.bind_some]
  cases h with
  | @full bytes texts hside hlength =>
    have hsplit := splitDouble_side hside.apart []
    rw [List.append_nil] at hsplit
    have htexts := hside.length
    have hnil : groupsOf [] = [] := rfl
    rw [hsplit]
    simp only [splitDouble, List.modifyHead_cons, List.append_nil, List.getD_cons_zero, List.getD_cons_succ,
      List.getD_nil, groupsOf_intercalate hside.apart, hnil, List.length_cons, List.length_nil]
    rw [if_neg (by decide), if_neg (by omega), show 8 - (texts.length + 0) = 0 by omega]
    simpa using hside.map_mapM
  | @compressed head tail left right hhead htail hlength =>
    have hright := splitDouble_side htail.apart []
    rw [List.append_nil] at hright
    have hl := hhead.length
    have hr := htail.length
    rw [splitDouble_side hhead.apart, splitDouble, hright]
    simp only [splitDouble, List.modifyHead_cons, List.append_nil, List.getD_cons_zero, List.getD_cons_succ,
      groupsOf_intercalate hhead.apart, groupsOf_intercalate htail.apart, List.length_cons, List.length_nil]
    rw [if_neg (by decide), if_neg (by omega),
      show 16 - (head.length + tail.length) = 2 * (8 - (left.length + right.length)) by omega]
    exact ((hhead.append (plainSide_zeros _)).append htail).map_mapM

/-! ## The dotted end -/

lemma intercalate_concat (front : List (List Char)) (text : List Char) :
    [':'].intercalate (front ++ [text]) = (front.flatMap fun t => t ++ [':']) ++ text := by
  induction front with
  | nil => exact List.intercalate_singleton
  | cons first front ih =>
    rw [List.cons_append, List.intercalate_cons_of_ne_nil (by simp), ih, List.flatMap_cons]
    simp

lemma map_intercalate (texts : List (List Char)) :
    ([':'].intercalate texts).map Char.toLower = [':'].intercalate (texts.map (List.map Char.toLower)) := by
  induction texts using List.reverseRecOn with
  | nil => rfl
  | append_singleton front text ih =>
    simp only [intercalate_concat, List.map_append, List.map_singleton, List.map_flatMap, List.flatMap_map]
    rfl

lemma undotTail_dotted {a b c d : ℕ} {front : List Char} (hbyte : ∀ octet ∈ [a, b, c, d], octet < 256) :
    undotTail (front ++ ':' :: dotted [a, b, c, d]) =
      some (front ++ ':' :: (Nat.toDigits 16 (256 * a + b) ++ ':' :: Nat.toDigits 16 (256 * c + d))) := by
  have hcolon : ∀ e ∈ (dotted [a, b, c, d]).reverse, decide (e ≠ ':') = true := by
    intro e he
    rcases mem_dotted (List.mem_reverse.mp he) with rfl | hdigit
    · rfl
    · exact decide_eq_true fun hc => absurd (hc ▸ hdigit) (by decide)
  have htail : ((front ++ ':' :: dotted [a, b, c, d]).reverse.takeWhile (· ≠ ':')).reverse =
      dotted [a, b, c, d] := by
    rw [List.reverse_append, List.reverse_cons, List.append_assoc, List.takeWhile_append_of_pos hcolon,
      List.singleton_append, List.takeWhile_cons_of_neg (by simp), List.append_nil, List.reverse_reverse]
  have hdot : '.' ∈ dotted [a, b, c, d] := by simp [dotted, List.intercalate]
  have htake : (front ++ ':' :: dotted [a, b, c, d]).take
      ((front ++ ':' :: dotted [a, b, c, d]).length - (dotted [a, b, c, d]).length) = front ++ [':'] := by
    rw [List.append_cons, List.length_append, Nat.add_sub_cancel, List.take_left]
  unfold undotTail
  simp only [htail, htake]
  rw [if_pos ⟨by simp [hdot], by simp⟩, parseIpv4_dotted rfl hbyte, Option.map_some]
  simp

lemma undotTail_side (h : SideText true bytes texts) : ∃ plain, PlainSide bytes plain ∧
    ∀ before : List Char, '.' ∉ before → before.getLast? = some ':' ∨ before = [] ∧ 4 < bytes.length →
      undotTail (before ++ [':'].intercalate (texts.map (List.map Char.toLower))) =
        some (before ++ [':'].intercalate plain) := by
  rcases sideText_lower h with hplain | ⟨-, first, front, octets, heq, hplain, rfl, hlength, hbyte⟩
  · refine ⟨_, hplain, fun before hbefore _ => if_neg fun hdot => ?_⟩
    rcases List.mem_append.mp hdot.1 with hmem | hmem
    · exact hbefore hmem
    · rcases mem_intercalate hmem with hc | ⟨text, htext, hc⟩
      · exact absurd hc (by decide)
      · exact absurd ((hplain.hex text htext).2 '.' hc) (by decide)
  · obtain ⟨a, b, c, d, rfl⟩ : ∃ a b c d, octets = [a, b, c, d] := by
      rcases octets with _ | ⟨a, _ | ⟨b, _ | ⟨c, _ | ⟨d, _ | ⟨e, rest⟩⟩⟩⟩⟩ <;> simp at hlength
      exact ⟨a, b, c, d, rfl⟩
    simp only [List.mem_cons, List.not_mem_nil, or_false, forall_eq_or_imp, forall_eq] at hbyte
    obtain ⟨ha, hb, hc, hd⟩ := hbyte
    have hshort : ∀ value < 65536, (Nat.toDigits 16 value).length ≤ 4 := fun value hvalue =>
      (Nat.length_toDigits_le_iff (by decide) (by decide)).mpr hvalue
    refine ⟨front ++ [Nat.toDigits 16 (256 * a + b), Nat.toDigits 16 (256 * c + d)], ?_, ?_⟩
    · exact hplain.append (.group hb (@parseGroup_zeros 0 _ (hshort _ (by omega))) (hex_zeros 0 _)
        (.group hd (@parseGroup_zeros 0 _ (hshort _ (by omega))) (hex_zeros 0 _) .nil))
    · intro before _ hbefore
      have hend : ∃ l, before ++ (front.flatMap fun t => t ++ [':']) = l ++ [':'] := by
        rcases List.eq_nil_or_concat' front with rfl | ⟨front, text, rfl⟩
        · rcases hbefore with hlast | ⟨-, hlong⟩
          · obtain ⟨l, rfl⟩ := List.getLast?_eq_some_iff.mp hlast
            exact ⟨l, by simp⟩
          · have hfirst := hplain.length
            simp only [List.length_append, List.length_cons, List.length_nil] at hlong hfirst
            omega
        · refine ⟨before ++ (front.flatMap fun t => t ++ [':']) ++ text, by simp⟩
      obtain ⟨l, hl⟩ := hend
      have hsplit : front ++ [Nat.toDigits 16 (256 * a + b), Nat.toDigits 16 (256 * c + d)] =
          (front ++ [Nat.toDigits 16 (256 * a + b)]) ++ [Nat.toDigits 16 (256 * c + d)] := by simp
      have hundot := @undotTail_dotted a b c d l (by simp [ha, hb, hc, hd])
      rw [heq, hsplit, intercalate_concat, intercalate_concat, ← List.append_assoc, hl, List.append_assoc,
        List.singleton_append, hundot, List.flatMap_append, ← List.append_assoc, ← List.append_assoc, hl]
      simp

lemma undotTail_bareText (h : BareText bytes text) :
    ∃ normalized, PlainText bytes normalized ∧ undotTail (text.map Char.toLower) = some normalized := by
  cases h with
  | full hside hlength =>
    obtain ⟨plain, hplain, hundot⟩ := undotTail_side hside
    refine ⟨_, .full hplain hlength, ?_⟩
    rw [map_intercalate]
    exact hundot [] List.not_mem_nil (.inr ⟨rfl, by omega⟩)
  | @compressed head tail left right hhead htail hlength =>
    obtain ⟨plain, hplain, hundot⟩ := undotTail_side htail
    have hleft := (sideText_lower hhead).resolve_right fun hend => Bool.false_ne_true hend.1
    refine ⟨_, .compressed hleft hplain hlength, ?_⟩
    have hbefore := hundot ([':'].intercalate (left.map (List.map Char.toLower)) ++ [':', ':']) (fun hmem => by
      rcases List.mem_append.mp hmem with hmem | hmem
      · rcases mem_intercalate hmem with hc | ⟨t, ht, hc⟩
        · exact absurd hc (by decide)
        · exact absurd ((hleft.hex t ht).2 '.' hc) (by decide)
      · exact absurd hmem (by decide)) (.inl (by simp))
    simpa [map_intercalate, show Char.toLower ':' = ':' from rfl] using hbefore

lemma bareText_chars (h : BareText bytes text) : ∀ c ∈ text.map Char.toLower, c ≠ '[' ∧ c ≠ '%' := by
  have hinter : ∀ {isEnd bytes texts}, SideText isEnd bytes texts →
      ∀ c ∈ [':'].intercalate (texts.map (List.map Char.toLower)), c ≠ '[' ∧ c ≠ '%' := by
    have hplain : ∀ {bytes texts}, PlainSide bytes texts → ∀ t ∈ texts, ∀ c ∈ t, c ≠ '[' ∧ c ≠ '%' := by
      intro bytes texts hside t ht c hc
      have hhex := (hside.hex t ht).2 c hc
      refine ⟨?_, ?_⟩ <;> rintro rfl <;> exact absurd hhex (by decide)
    intro isEnd bytes texts hside c hmem
    rcases mem_intercalate hmem with rfl | ⟨t, ht, hc⟩
    · decide
    · rcases sideText_lower hside with hlower | ⟨-, first, front, octets, heq, hlower, -⟩
      · exact hplain hlower t ht c hc
      · rcases List.mem_append.mp (heq ▸ ht) with ht | ht
        · exact hplain hlower t ht c hc
        · rw [List.mem_singleton.mp ht] at hc
          rcases mem_dotted hc with rfl | hdigit
          · decide
          · refine ⟨?_, ?_⟩ <;> rintro rfl <;> exact absurd hdigit (by decide)
  cases h with
  | full hside =>
    rw [map_intercalate]
    exact hinter hside
  | compressed hhead htail =>
    rw [List.map_append, List.map_cons, List.map_cons, map_intercalate, map_intercalate]
    refine List.forall_mem_append.mpr ⟨hinter hhead, ?_⟩
    exact List.forall_mem_cons.mpr ⟨by decide, List.forall_mem_cons.mpr ⟨by decide, hinter htail⟩⟩

lemma parseIpv6_bareText (h : BareText bytes text) :
    parseIpv6 text = some bytes ∧ parseIpv6 ('[' :: (text ++ [']'])) = some bytes := by
  obtain ⟨normalized, hplain, hundot⟩ := undotTail_bareText h
  have hpercent : '%' ∉ text.map Char.toLower := fun hmem => (bareText_chars h _ hmem).2 rfl
  constructor
  · refine parseIpv6_of_plainText hplain (if_neg fun hbrackets => ?_) hpercent hundot
    exact (bareText_chars h _ (List.mem_of_mem_head? hbrackets.1)).1 rfl
  · refine parseIpv6_of_plainText hplain ?_ hpercent hundot
    rw [List.map_cons, List.map_append, List.map_singleton, ← List.cons_append,
      if_pos ⟨rfl, List.getLast?_concat⟩, List.cons_append, List.tail_cons, List.dropLast_concat]

/-! ## Ranges -/

lemma addressValue_cons (byte : ℕ) (bytes : List ℕ) :
    addressValue (byte :: bytes) = byte * 2 ^ (8 * bytes.length) + addressValue bytes := by
  have hfold : ∀ (bytes : List ℕ) (n : ℕ), bytes.foldl (fun value byte => 256 * value + byte) n =
      n * 2 ^ (8 * bytes.length) + addressValue bytes := by
    intro bytes
    induction bytes with
    | nil => simp [addressValue]
    | cons byte bytes ih =>
      intro n
      rw [List.foldl_cons, ih, addressValue, addressValue, List.foldl_cons, ih (256 * 0 + byte), addressValue,
        List.length_cons, Nat.mul_add_one, pow_add]
      ring
  rw [addressValue, List.foldl_cons, hfold]
  simp

lemma addressValue_lt (h : ∀ byte ∈ bytes, byte < 256) : addressValue bytes < 2 ^ (8 * bytes.length) := by
  induction bytes with
  | nil => exact Nat.one_pos
  | cons byte bytes ih =>
    obtain ⟨hbyte, hrest⟩ := List.forall_mem_cons.mp h
    have hlt := ih hrest
    have hmul : (byte + 1) * 2 ^ (8 * bytes.length) ≤ 256 * 2 ^ (8 * bytes.length) := Nat.mul_le_mul_right _ hbyte
    rw [addressValue_cons, List.length_cons, Nat.mul_add_one, pow_add]
    linarith

lemma mul_add_div {b m v : ℕ} (h : v < m) : (b * m + v) / m = b := by
  rw [Nat.mul_comm, Nat.mul_add_div (Nat.zero_lt_of_lt h), Nat.div_eq_of_lt h, Nat.add_zero]

lemma and_mask_eq : ∀ r < 8, ∀ byte < 256, byte &&& (0xff <<< (8 - r) &&& 0xff) = byte / 2 ^ (8 - r) * 2 ^ (8 - r) := by
  decide +kernel

lemma hasIpv6Prefix_cons {a n bits : ℕ} :
    hasIpv6Prefix (a :: address) (n :: network) (bits + 8) = (a == n && hasIpv6Prefix address network bits) := by
  unfold hasIpv6Prefix
  simp only [Nat.add_div_right bits (by decide : 0 < 8), Nat.add_mod_right, List.range_succ_eq_map, List.all_cons,
    List.all_map, List.getD_cons_succ, Bool.and_assoc]
  rfl

lemma hasIpv6Prefix_iff (hlength : address.length = network.length)
    (haddress : ∀ byte ∈ address, byte < 256) (hnetwork : ∀ byte ∈ network, byte < 256)
    (hbits : bits ≤ 8 * address.length) : hasIpv6Prefix address network bits = true ↔ InCidr address network bits:= by
  induction address generalizing network bits with
  | nil =>
    obtain rfl := List.length_eq_zero_iff.mp hlength.symm
    obtain rfl : bits = 0 := by simpa using hbits
    exact iff_of_true rfl rfl
  | cons a address ih =>
    cases network with
    | nil => exact absurd hlength (by simp)
    | cons n network =>
      obtain ⟨ha, haddress⟩ := List.forall_mem_cons.mp haddress
      obtain ⟨hn, hnetwork⟩ := List.forall_mem_cons.mp hnetwork
      have hsame := Nat.succ.inj hlength
      have hlt := addressValue_lt haddress
      have hlt' := addressValue_lt hnetwork
      rw [← hsame] at hlt'
      unfold InCidr
      rw [addressValue_cons, addressValue_cons, ← hsame, List.length_cons]
      rw [List.length_cons] at hbits
      rcases Nat.lt_or_ge bits 8 with hsmall | hlarge
      · -- only the first byte is looked at
        have hsplit : 2 ^ (8 * (address.length + 1) - bits) = 2 ^ (8 * address.length) * 2 ^ (8 - bits) := by
          rw [← pow_add]
          congr 1
          omega
        rw [hsplit, ← Nat.div_div_eq_div_mul, ← Nat.div_div_eq_div_mul, mul_add_div hlt, mul_add_div hlt']
        unfold hasIpv6Prefix
        simp only [Nat.div_eq_of_lt hsmall, Nat.mod_eq_of_lt hsmall, List.range_zero, List.all_nil, Bool.true_and,
          List.getD_cons_zero, Bool.or_eq_true, beq_iff_eq, and_mask_eq bits hsmall a ha,
          and_mask_eq bits hsmall n hn]
        rw [Nat.mul_left_inj (Nat.two_pow_pos _).ne']
        refine ⟨fun h => h.elim (fun hzero => ?_) id, .inr⟩
        rw [hzero]
        exact (Nat.div_eq_of_lt ha).trans (Nat.div_eq_of_lt hn).symm
      · obtain ⟨bits, rfl⟩ := Nat.exists_eq_add_of_le' hlarge
        have hexp : 8 * (address.length + 1) - (bits + 8) = 8 * address.length - bits := by omega
        have hsplit : 2 ^ (8 * address.length) = 2 ^ bits * 2 ^ (8 * address.length - bits) := by
          rw [← pow_add]
          congr 1
          omega
        have hpos : 0 < 2 ^ (8 * address.length - bits) := Nat.two_pow_pos _
        have hquot : ∀ {b v : ℕ}, (b * 2 ^ (8 * address.length) + v) / 2 ^ (8 * address.length - bits) =
            b * 2 ^ bits + v / 2 ^ (8 * address.length - bits) := by
          intro b v
          rw [hsplit, ← Nat.mul_assoc, Nat.mul_comm (b * 2 ^ bits), Nat.mul_add_div hpos]
        have hlow := Nat.div_lt_of_lt_mul (hlt.trans_eq (hsplit.trans (Nat.mul_comm ..)))
        have hlow' := Nat.div_lt_of_lt_mul (hlt'.trans_eq (hsplit.trans (Nat.mul_comm ..)))
        rw [hexp, hquot, hquot, hasIpv6Prefix_cons, Bool.and_eq_true, beq_iff_eq,
          ih hsame haddress hnetwork (by omega), InCidr, hsame]
        rw [hsame] at hlow hlow'
        constructor
        · rintro ⟨rfl, heq⟩
          rw [heq]
        · intro heq
          have hhead := congrArg (· / 2 ^ bits) heq
          simp only [mul_add_div hlow, mul_add_div hlow'] at hhead
          subst hhead
          exact ⟨rfl, Nat.add_left_cancel heq⟩

/-- The mask of `ipv4InCidr` keeps the first bits. -/
lemma ipv4InCidr_iff (hlength : octets.length = 4) (hoctet : ∀ octet ∈ octets, octet < 256)
    (hnetwork : addressValue network < 2 ^ 32) :
    ipv4InCidr octets network bits = true ↔ InCidr octets network bits := by
  have hvalue := addressValue_lt hoctet
  rw [hlength] at hvalue
  unfold ipv4InCidr InCidr
  have hmul : ∀ {v : ℕ}, v < 2 ^ 32 → v / 2 ^ (32 - bits) * 2 ^ (32 - bits) % 2 ^ 32 =
      v / 2 ^ (32 - bits) * 2 ^ (32 - bits) := fun hv => Nat.mod_eq_of_lt ((Nat.div_mul_le_self ..).trans_lt hv)
  have hoctets : (ipv4Value octets).toNat = addressValue octets := Nat.mod_eq_of_lt hvalue
  have hranges : (ipv4Value network).toNat = addressValue network := Nat.mod_eq_of_lt hnetwork
  rw [beq_iff_eq, ← BitVec.shiftLeft_ushiftRight, ← BitVec.shiftLeft_ushiftRight, hlength, ← BitVec.toNat_inj,
    BitVec.toNat_shiftLeft, BitVec.toNat_shiftLeft, BitVec.toNat_ushiftRight, BitVec.toNat_ushiftRight, hoctets,
    hranges, Nat.shiftRight_eq_div_pow, Nat.shiftRight_eq_div_pow, Nat.shiftLeft_eq, Nat.shiftLeft_eq, hmul hvalue,
    hmul hnetwork, Nat.mul_left_inj (Nat.two_pow_pos _).ne']

/-! ## The verdict -/

lemma isPublicIpv4_dotted (hlength : octets.length = 4) (hoctet : ∀ octet ∈ octets, octet < 256) :
    isPublicIpv4 (dotted octets) = true ↔
      (∀ range ∈ nonPublicIpv4Ranges, ¬ InCidr octets range.1 range.2) ∧ octets ∉ [[168, 63, 129, 16]] := by
  have hvalues : ∀ range ∈ nonPublicIpv4Ranges, addressValue range.1 < 2 ^ 32 := by decide
  have hparse := parseIpv4_dotted hlength hoctet
  have hknown : knownMetadataIpv4.contains (String.ofList (dotted octets)) = false ↔
      octets ∉ [[168, 63, 129, 16]] := by
    rw [← Bool.not_eq_true, List.contains_iff_mem, knownMetadataIpv4, List.mem_singleton, List.mem_singleton]
    refine not_congr ⟨fun heq => ?_, fun heq => heq ▸ by decide⟩
    have htext := congrArg String.toList heq
    rw [String.toList_ofList] at htext
    rw [htext] at hparse
    exact (Option.some.inj (Eq.trans (by decide +kernel) hparse)).symm
  unfold isPublicIpv4
  rw [hparse]
  rw [Bool.and_eq_true, Bool.not_eq_true', Bool.not_eq_true', hknown, List.any_eq_false, and_comm]
  refine and_congr_left' (forall₂_congr fun range hrange => ?_)
  exact not_congr (ipv4InCidr_iff hlength hoctet (hvalues range hrange))

lemma bareText_bytes (h : BareText bytes text) : bytes.length = 16 ∧ ∀ byte ∈ bytes, byte < 256 := by
  have hside : ∀ {isEnd bytes texts}, SideText isEnd bytes texts → ∀ byte ∈ bytes, byte < 256 := by
    intro isEnd bytes texts hside
    induction hside with
    | nil => exact fun _ hbyte => absurd hbyte List.not_mem_nil
    | dotted _ _ hbyte => exact hbyte
    | group hhigh hlow _ _ ih => exact List.forall_mem_cons.mpr ⟨hhigh, List.forall_mem_cons.mpr ⟨hlow, ih⟩⟩
  cases h with
  | full h hlength => exact ⟨hlength, hside h⟩
  | compressed hhead htail hlength =>
    refine ⟨by simp; omega, fun byte hbyte => ?_⟩
    rcases List.mem_append.mp hbyte with hbyte | hbyte
    · rcases List.mem_append.mp hbyte with hbyte | hbyte
      · exact hside hhead byte hbyte
      · rw [List.eq_of_mem_replicate hbyte]
        decide
    · exact hside htail byte hbyte

lemma isPublicIpv6_iff (hparse : parseIpv6 text = some bytes) (hlength : bytes.length = 16)
    (hbyte : ∀ byte ∈ bytes, byte < 256) :
    isPublicIpv6 text = true ↔ PublicAddress [[168, 63, 129, 16]] bytes := by
  have hranges : ∀ range ∈ (ipv6Network [0x20], 3) :: specialIpv6Ranges,
      range.1.length = 16 ∧ (∀ byte ∈ range.1, byte < 256) ∧ range.2 ≤ 128 := by decide
  have hprefix : ∀ range ∈ (ipv6Network [0x20], 3) :: specialIpv6Ranges,
      (hasIpv6Prefix bytes range.1 range.2 = true ↔ InCidr bytes range.1 range.2) := by
    intro range hrange
    obtain ⟨hsixteen, hvalues, hbits⟩ := hranges range hrange
    exact hasIpv6Prefix_iff (by rw [hlength, hsixteen]) hbyte hvalues (by omega)
  obtain ⟨hglobal, hspecial⟩ := List.forall_mem_cons.mp hprefix
  unfold isPublicIpv6
  rw [hparse]
  dsimp only
  split_ifs with hmapped
  · have hbytes : bytes = mapped (bytes.drop 12) := by
      rw [mapped, ← hmapped, List.take_append_drop]
    have hdrop : ∀ {octets}, bytes = mapped octets → octets = bytes.drop 12 := fun heq => by
      rw [heq]
      rfl
    change isPublicIpv4 (dotted (bytes.drop 12)) = true ↔ _
    rw [isPublicIpv4_dotted (by rw [List.length_drop, hlength])
      fun octet hoctet => hbyte octet (List.mem_of_mem_drop hoctet)]
    constructor
    · exact fun h => .inr ⟨_, hbytes, h⟩
    · rintro (⟨hin, -⟩ | ⟨octets, heq, h⟩)
      · have hfalse : hasIpv6Prefix (mapped (bytes.drop 12)) (ipv6Network [0x20]) 3 = false := by
          simp [hasIpv6Prefix, mapped, ipv6Network]
        rw [← hglobal, hbytes, hfalse] at hin
        exact absurd hin Bool.false_ne_true
      · rwa [hdrop heq] at h
  · have hnot : ¬ ∃ octets, bytes = mapped octets ∧
        (∀ range ∈ nonPublicIpv4Ranges, ¬ InCidr octets range.1 range.2) ∧ octets ∉ [[168, 63, 129, 16]] := by
      rintro ⟨octets, rfl, -⟩
      exact hmapped rfl
    have houtside : specialIpv6Ranges.any (fun range => hasIpv6Prefix bytes range.1 range.2) = false ↔
        ∀ range ∈ specialIpv6Ranges, ¬ InCidr bytes range.1 range.2 := by
      rw [List.any_eq_false]
      exact forall₂_congr fun range hrange => not_congr (hspecial range hrange)
    rw [PublicAddress, or_iff_left hnot, ← hglobal, ← houtside, Bool.and_eq_true, Bool.not_eq_true']
    simp only [specialIpv6Ranges, List.any_cons, List.any_nil, Bool.or_false, Bool.or_assoc]
    rfl

/-- **Every spelling of an IPv6 address is read as the same bytes, and whether it is public depends
on them only**: it is in `2000::/3` outside the special ranges, or a mapped IPv4 address outside the
ranges that are not public, and not the metadata address of a cloud. -/
theorem isPublicIpAddress_spelled {bytes : List ℕ} {bare text : List Char} (hbare : BareText bytes bare)
    (haccepted : isIP bare = 6) (htext : text = bare ∨ text = '[' :: (bare ++ [']'])) :
    parseIpv6 text = some bytes ∧
      (isPublicIpAddress text = true ↔ PublicAddress [[168, 63, 129, 16]] bytes) := by
  obtain ⟨hlength, hbyte⟩ := bareText_bytes hbare
  obtain ⟨hparse, hparse'⟩ := parseIpv6_bareText hbare
  have hbracket : '[' ∉ bare := fun hmem => (bareText_chars hbare _ (List.mem_map_of_mem hmem)).1 rfl
  have hverdict : isPublicIpAddress text = isPublicIpv6 bare := by
    have hstrip : (if text.head? = some '[' ∧ text.getLast? = some ']' then text.tail.dropLast else text) = bare := by
      rcases htext with rfl | rfl
      · exact if_neg fun h => hbracket (List.mem_of_mem_head? h.1)
      · rw [← List.cons_append, if_pos ⟨rfl, List.getLast?_concat⟩, List.cons_append, List.tail_cons,
          List.dropLast_concat]
    unfold isPublicIpAddress
    dsimp only
    rw [hstrip, haccepted]
    rfl
  refine ⟨?_, ?_⟩
  · rcases htext with rfl | rfl
    exacts [hparse, hparse']
  · rw [hverdict]
    exact isPublicIpv6_iff hparse hlength hbyte

/-- `2A00:0::00ff`, in brackets. -/
theorem isPublicIpAddress_spelled_bracketed :
    isPublicIpAddress "[2A00:0::00ff]".toList = true ↔
      PublicAddress [[168, 63, 129, 16]] ([0x2a, 0] ++ List.replicate 13 0 ++ [0xff]) := by
  have hleft : SideText false [0x2a, 0, 0, 0] ["2A00".toList, "0".toList] :=
    .group (by decide) (by decide) ⟨by decide, 0, by decide⟩
      (.group (by decide) (by decide) ⟨by decide, 0, by decide⟩ .nil)
  have hright : SideText true [0, 0xff] ["00ff".toList] :=
    .group (by decide) (by decide) ⟨by decide, 2, by decide⟩ .nil
  exact (isPublicIpAddress_spelled (.compressed hleft hright (by decide)) (by decide +kernel) (.inr rfl)).2

/-- The metadata address is in no range, but it is not public when it is mapped. -/
theorem not_isPublicIpAddress_metadata : ¬ ∀ (bytes : List ℕ) (bare text : List Char), BareText bytes bare →
    isIP bare = 6 → text = bare ∨ text = '[' :: (bare ++ [']']) →
    parseIpv6 text = some bytes ∧ (isPublicIpAddress text = true ↔ PublicAddress [] bytes) := by
  intro hall
  have hright : SideText true [0xff, 0xff, 168, 63, 129, 16] ["ffff".toList, dotted [168, 63, 129, 16]] :=
    .group (by decide) (by decide) ⟨by decide, 0, by decide⟩ (.dotted rfl rfl (by decide))
  have hpublic := (hall _ "::ffff:168.63.129.16".toList _ (.compressed .nil hright (by decide)) (by decide +kernel)
    (.inl rfl)).2
  have houtside : ∀ range ∈ nonPublicIpv4Ranges, ¬ InCidr [168, 63, 129, 16] range.1 range.2 := by
    unfold InCidr
    decide
  have htrue := hpublic.mpr (.inr ⟨_, rfl, houtside, List.not_mem_nil⟩)
  exact absurd htrue (by decide +kernel)

end VacancyRadar.Crawler
