import Mathlib.Algebra.BigOperators.Group.List.Basic
import Mathlib.Algebra.GroupWithZero.Nat
import Mathlib.Data.List.Chain
import Mathlib.Data.List.Infix

/-!
# Texts in lines

Some texts are looked for in lines, one after the other, each at the first place after the one before.
A text may be a part of a line or has to be a whole line.  If there are any places in the order of the
texts, the first ones will do.
-/

namespace Data.Placement

variable {α : Type}

structure Item (α : Type) where
  whole : Bool
  text : List α

structure Spot (α : Type) where
  item : Item α
  line : ℕ
  start : ℕ

structure Cursor where
  line : ℕ
  offset : ℕ

/-- Where the text ends. -/
def Spot.stop (s : Spot α) : ℕ := s.start + s.item.text.length

def Spot.cursor (s : Spot α) : Cursor := if s.item.whole then ⟨s.line + 1, 0⟩ else ⟨s.line, s.stop⟩

def Spot.Fits (lines : List (List α)) (s : Spot α) : Prop :=
  ∃ line, lines[s.line]? = some line ∧ s.stop ≤ line.length ∧ s.item.text <+: line.drop s.start ∧
    (s.item.whole = true → s.start = 0 ∧ line = s.item.text)

def Spot.Before (s t : Spot α) : Prop :=
  s.line < t.line ∨ s.line = t.line ∧ s.item.whole = false ∧ t.item.whole = false ∧ s.stop ≤ t.start

/-- There are disjoint places for all texts in their order, and nothing else is on a line that a text has
to be the whole of. -/
def Placeable (lines : List (List α)) (items : List (Item α)) : Prop :=
  ∃ spots : List (Spot α), spots.map Spot.item = items ∧ (∀ s ∈ spots, s.Fits lines) ∧
    spots.Pairwise Spot.Before

section Search

variable [DecidableEq α]

def indexFrom (text line : List α) (offset : ℕ) : Option ℕ :=
  (List.range (line.length + 1)).find? fun i => decide (offset ≤ i) && text.isPrefixOf (line.drop i)

def seek (item : Item α) : (offset number : ℕ) → List (List α) → Option Cursor
  | _, _, [] => none
  | offset, number, line :: rest =>
    if item.whole then
      if line = item.text then some ⟨number + 1, 0⟩ else seek item 0 (number + 1) rest
    else
      match indexFrom item.text line offset with
      | some start => some ⟨number, start + item.text.length⟩
      | none => seek item 0 (number + 1) rest

def seekFrom (lines : List (List α)) (c : Cursor) (item : Item α) : Option Cursor :=
  seek item c.offset c.line (lines.drop c.line)

def findsAll (lines : List (List α)) : Cursor → List (Item α) → Bool
  | _, [] => true
  | c, item :: items =>
    match seekFrom lines c item with
    | some c => findsAll lines c items
    | none => false

end Search

/-! ## The first place -/

def Cursor.Reaches (c : Cursor) (s : Spot α) : Prop :=
  c.line < s.line ∨ c.line = s.line ∧ (s.item.whole = false → c.offset ≤ s.start)

def Cursor.Le (c d : Cursor) : Prop := c.line < d.line ∨ c.line = d.line ∧ c.offset ≤ d.offset

variable {lines : List (List α)} {item : Item α} {c d : Cursor} {s t : Spot α}

lemma Cursor.Reaches.of_le (h : d.Reaches s) (hle : c.Le d) : c.Reaches s := by
  rcases hle with hlt | ⟨hline, hoffset⟩
  · rcases h with h | h
    · exact .inl (hlt.trans h)
    · exact .inl (h.1 ▸ hlt)
  · rcases h with h | ⟨heq, h⟩
    · exact .inl (hline ▸ h)
    · exact .inr ⟨hline.trans heq, fun hpart => hoffset.trans (h hpart)⟩

section Search

variable [DecidableEq α]

lemma indexFrom_eq_some {text line : List α} {offset start : ℕ}
    (h : indexFrom text line offset = some start) :
    offset ≤ start ∧ start + text.length ≤ line.length ∧ text <+: line.drop start ∧
      ∀ i, offset ≤ i → i ≤ line.length → text <+: line.drop i → start ≤ i := by
  obtain ⟨hp, as, bs, hsplit, has⟩ := List.find?_eq_some_iff_append.mp h
  obtain ⟨hoffset, hprefix⟩ := Bool.and_eq_true_iff.mp hp
  have hprefix := List.isPrefixOf_iff_prefix.mp hprefix
  have hstart : start ∈ List.range (line.length + 1) := List.mem_of_find?_eq_some h
  have hle := List.mem_range.mp hstart
  have hlength := hprefix.length_le
  rw [List.length_drop] at hlength
  refine ⟨of_decide_eq_true hoffset, by omega, hprefix, fun i hi hlast hfits => ?_⟩
  by_contra hless
  have hin : i ∈ as ++ start :: bs := hsplit ▸ List.mem_range.mpr (Nat.lt_succ_of_le hlast)
  have hsorted : (as ++ start :: bs).Pairwise (· < ·) := hsplit ▸ List.pairwise_lt_range
  rcases List.mem_append.mp hin with hin | hin
  · have hnot := has i hin
    rw [decide_eq_true hi, List.isPrefixOf_iff_prefix.mpr hfits] at hnot
    cases hnot
  · rcases List.mem_cons.mp hin with rfl | hin
    · exact hless (Nat.le_refl _)
    · have hlt := (List.pairwise_cons.mp (List.pairwise_append.mp hsorted).2.1).1 i hin
      omega

lemma indexFrom_eq_none {text line : List α} {offset : ℕ} (h : indexFrom text line offset = none)
    {i : ℕ} (hi : offset ≤ i) (hlast : i ≤ line.length) : ¬text <+: line.drop i := by
  intro hfits
  have hnot := List.find?_eq_none.mp h i (List.mem_range.mpr (Nat.lt_succ_of_le hlast))
  rw [decide_eq_true hi, List.isPrefixOf_iff_prefix.mpr hfits] at hnot
  exact hnot rfl

def StopsAt (lines : List (List α)) (c : Cursor) (item : Item α) : Option Cursor → Prop
  | some d => ∃ s : Spot α, s.item = item ∧ s.Fits lines ∧ c.Reaches s ∧ s.cursor = d ∧
      ∀ t : Spot α, t.item = item → t.Fits lines → c.Reaches t →
        s.line < t.line ∨ s.line = t.line ∧ s.start ≤ t.start
  | none => ∀ t : Spot α, t.item = item → t.Fits lines → ¬c.Reaches t

omit [DecidableEq α] in
lemma reaches_next (h : c.Reaches t) (hline : t.line ≠ c.line) :
    (⟨c.line + 1, 0⟩ : Cursor).Reaches t := by
  rcases h with h | h
  · rcases Nat.eq_or_lt_of_le (Nat.succ_le_of_lt h) with heq | hlt
    · exact .inr ⟨heq, fun _ => Nat.zero_le _⟩
    · exact .inl hlt
  · exact absurd h.1.symm hline

omit [DecidableEq α] in
lemma StopsAt.of_next {r : Option Cursor} (h : StopsAt lines ⟨c.line + 1, 0⟩ item r)
    (hnone : ∀ t : Spot α, t.item = item → t.Fits lines → c.Reaches t → t.line ≠ c.line) :
    StopsAt lines c item r := by
  cases r with
  | none =>
    exact fun t hitem hfits hreach => h t hitem hfits (reaches_next hreach (hnone t hitem hfits hreach))
  | some d =>
    obtain ⟨s, hitem, hfits, hreach, hcursor, hfirst⟩ := h
    refine ⟨s, hitem, hfits, hreach.of_le (.inl (Nat.lt_succ_self _)), hcursor, ?_⟩
    exact fun t hitem' hfits' hreach' =>
      hfirst t hitem' hfits' (reaches_next hreach' (hnone t hitem' hfits' hreach'))

lemma stopsAt_seek (item : Item α) (offset number : ℕ) (rest : List (List α))
    (hrest : lines.drop number = rest) :
    StopsAt lines ⟨number, offset⟩ item (seek item offset number rest) := by
  induction rest generalizing offset number with
  | nil =>
    intro t _ hfits hreach
    obtain ⟨line, hline, -⟩ := hfits
    have hlt := (List.getElem?_eq_some_iff.mp hline).1
    have hlen := List.drop_eq_nil_iff.mp hrest
    rcases hreach with h | h <;> simp only at h <;> omega
  | cons line rest ih =>
    have hline : lines[number]? = some line := by
      rw [← List.head?_drop, hrest]
      rfl
    have hnext := ih 0 (number + 1) (by rw [← List.drop_drop, hrest]; rfl)
    have hat {t : Spot α} {l : List α} (hn : t.line = number) (hl : lines[t.line]? = some l) :
        l = line := by
      rw [hn, hline] at hl
      exact (Option.some.inj hl).symm
    unfold seek
    cases hwhole : item.whole with
    | true =>
      rw [if_pos rfl]
      split
      · next heq =>
        refine ⟨⟨item, number, 0⟩, rfl, ⟨line, hline, ?_, ?_, fun _ => ⟨rfl, heq⟩⟩,
          .inr ⟨rfl, fun _ => ?_⟩, ?_, fun t _ _ hreach => ?_⟩
        · exact heq ▸ (Nat.zero_add _).le
        · exact heq ▸ List.prefix_refl _
        · next hpart => exact absurd (hwhole.symm.trans hpart) (by decide)
        · exact if_pos hwhole
        · rcases hreach with h | h
          · exact .inl h
          · exact .inr ⟨h.1, Nat.zero_le _⟩
      · next hne =>
        refine StopsAt.of_next hnext fun t hitem hfits _ hn => ?_
        obtain ⟨l, hl, -, -, hall⟩ := hfits
        rw [hat hn hl, hitem] at hall
        exact hne (hall hwhole).2
    | false =>
      rw [if_neg (by decide)]
      cases hindex : indexFrom item.text line offset with
      | some start =>
        obtain ⟨hoffset, hstop, hprefix, hfirst⟩ := indexFrom_eq_some hindex
        refine ⟨⟨item, number, start⟩, rfl, ⟨line, hline, hstop, hprefix, fun h => ?_⟩,
          .inr ⟨rfl, fun _ => hoffset⟩, ?_, fun t hitem hfits hreach => ?_⟩
        · exact absurd (hwhole.symm.trans h) (by decide)
        · exact if_neg (by simp [hwhole])
        · rcases hreach with h | ⟨hn, h⟩
          · exact .inl h
          · obtain ⟨l, hl, hlast, hfits, -⟩ := hfits
            rw [hat hn.symm hl, Spot.stop] at hlast
            rw [hat hn.symm hl, hitem] at hfits
            exact .inr ⟨hn, hfirst _ (h (hitem ▸ hwhole)) (by omega) hfits⟩
      | none =>
        refine StopsAt.of_next hnext fun t hitem hfits hreach hn => ?_
        obtain ⟨l, hl, hlast, hfits, -⟩ := hfits
        rw [hat hn hl, Spot.stop] at hlast
        rw [hat hn hl, hitem] at hfits
        rcases hreach with h | ⟨-, h⟩
        · have hlt : number < t.line := h
          omega
        · exact indexFrom_eq_none hindex (h (hitem ▸ hwhole)) (by omega) hfits

end Search

/-! ## All places -/

/-- Each place is one that the search comes upon after the place before. -/
def Follows : Cursor → List (Spot α) → Prop
  | _, [] => True
  | c, s :: spots => c.Reaches s ∧ Follows s.cursor spots

structure Laid (lines : List (List α)) (c : Cursor) (items : List (Item α)) (spots : List (Spot α)) :
    Prop where
  items : spots.map Spot.item = items
  fits : ∀ s ∈ spots, s.Fits lines
  follows : Follows c spots

variable {items : List (Item α)} {spots : List (Spot α)}

lemma Follows.of_le (h : Follows d spots) (hle : c.Le d) : Follows c spots := by
  cases spots with
  | nil => trivial
  | cons s spots => exact ⟨h.1.of_le hle, h.2⟩

lemma cursor_le (hitem : s.item = t.item) (h : s.line < t.line ∨ s.line = t.line ∧ s.start ≤ t.start) :
    s.cursor.Le t.cursor := by
  unfold Spot.cursor Cursor.Le Spot.stop
  rw [hitem]
  cases t.item.whole with
  | true =>
    rcases h with h | h
    · exact .inl (Nat.succ_lt_succ h)
    · exact .inr ⟨congrArg (· + 1) h.1, Nat.le_refl _⟩
  | false =>
    rcases h with h | h
    · exact .inl h
    · exact .inr ⟨h.1, Nat.add_le_add_right h.2 _⟩

/-- **Greedy search.**  All texts are found exactly if there are any places for them one after the
other. -/
theorem findsAll_iff [DecidableEq α] :
    findsAll lines c items = true ↔ ∃ spots, Laid lines c items spots := by
  induction items generalizing c with
  | nil => exact ⟨fun _ => ⟨[], rfl, fun _ h => (List.not_mem_nil h).elim, trivial⟩, fun _ => rfl⟩
  | cons item items ih =>
    have hstops : StopsAt lines c item (seekFrom lines c item) := stopsAt_seek item c.offset c.line _ rfl
    unfold findsAll
    cases hseek : seekFrom lines c item with
    | none =>
      rw [hseek] at hstops
      refine iff_of_false Bool.false_ne_true ?_
      rintro ⟨spots, hitems, hfits, hfollows⟩
      cases spots with
      | nil => cases hitems
      | cons t spots =>
        obtain ⟨hitem, -⟩ := List.cons.inj hitems
        exact hstops t hitem (hfits t List.mem_cons_self) hfollows.1
    | some d =>
      rw [hseek] at hstops
      obtain ⟨s, hitem, hfits, hreach, rfl, hfirst⟩ := hstops
      rw [ih]
      constructor
      · rintro ⟨spots, hspots⟩
        refine ⟨s :: spots, ?_, fun t ht => ?_, hreach, hspots.follows⟩
        · rw [List.map_cons, hspots.items, hitem]
        · rcases List.mem_cons.mp ht with rfl | ht
          · exact hfits
          · exact hspots.fits t ht
      · rintro ⟨spots, hitems, hall, hfollows⟩
        cases spots with
        | nil => cases hitems
        | cons t spots =>
          obtain ⟨hitem', rfl⟩ := List.cons.inj hitems
          have hle := hfirst t hitem' (hall t List.mem_cons_self) hfollows.1
          refine ⟨spots, rfl, fun u hu => hall u (List.mem_cons_of_mem _ hu), ?_⟩
          exact hfollows.2.of_le (cursor_le (hitem.trans hitem'.symm) hle)

lemma reaches_of_before (h : s.Before t) : s.cursor.Reaches t := by
  unfold Spot.cursor
  rcases h with h | ⟨hline, hs, -, hstop⟩
  · cases s.item.whole with
    | true =>
      rcases Nat.eq_or_lt_of_le (Nat.succ_le_of_lt h) with heq | hlt
      · exact .inr ⟨heq, fun _ => Nat.zero_le _⟩
      · exact .inl hlt
    | false => exact .inl h
  · rw [hs]
    exact .inr ⟨hline, fun _ => hstop⟩

lemma follows_of_isChain (h : spots.IsChain Spot.Before) (hfirst : ∀ s ∈ spots.head?, c.Reaches s) :
    Follows c spots := by
  induction spots generalizing c with
  | nil => trivial
  | cons s spots ih =>
    refine ⟨hfirst s rfl, ih h.tail fun t ht => ?_⟩
    cases spots with
    | nil => cases ht
    | cons u spots =>
      cases ht
      exact reaches_of_before (List.isChain_cons_cons.mp h).1

lemma Placeable.exists_laid (h : Placeable lines items) : ∃ spots, Laid lines ⟨0, 0⟩ items spots := by
  obtain ⟨spots, hitems, hfits, hbefore⟩ := h
  refine ⟨spots, hitems, hfits, follows_of_isChain hbefore.isChain fun s _ => ?_⟩
  rcases Nat.eq_zero_or_pos s.line with hzero | hpos
  · exact .inr ⟨hzero.symm, fun _ => Nat.zero_le _⟩
  · exact .inl hpos

/-! ## Whole lines -/

def Apart (p q : Item α) : Prop := p.whole = false → q.whole = true → ¬p.text <:+: q.text

lemma before_of_reaches (hs : s.Fits lines) (ht : t.Fits lines) (hapart : Apart s.item t.item)
    (h : s.cursor.Reaches t) : s.Before t := by
  unfold Spot.cursor at h
  cases hwhole : s.item.whole with
  | true =>
    rw [if_pos hwhole] at h
    rcases h with h | h
    · exact .inl ((Nat.lt_succ_self _).trans h)
    · exact .inl (Nat.lt_of_succ_le h.1.le)
  | false =>
    rw [if_neg (by simp [hwhole])] at h
    rcases h with h | ⟨hline, h⟩
    · exact .inl h
    · obtain ⟨line, hl, -, hprefix, -⟩ := hs
      obtain ⟨line', hl', -, -, hall⟩ := ht
      have hpart : t.item.whole = false := by
        refine Bool.eq_false_iff.mpr fun htwhole => hapart hwhole htwhole ?_
        have hsame : line = line' :=
          Option.some.inj (hl.symm.trans ((congrArg (lines[·]?) hline).trans hl'))
        rw [← (hall htwhole).2, ← hsame]
        exact hprefix.isInfix.trans (List.drop_suffix _ _).isInfix
      exact .inr ⟨hline, hwhole, hpart, h hpart⟩

lemma Follows.isChain (h : Follows c spots) (hfits : ∀ s ∈ spots, s.Fits lines)
    (hapart : (spots.map Spot.item).IsChain Apart) : spots.IsChain Spot.Before := by
  induction spots generalizing c with
  | nil => exact .nil
  | cons s spots ih =>
    have hrest := ih h.2 (fun t ht => hfits t (List.mem_cons_of_mem _ ht)) hapart.tail
    cases spots with
    | nil => exact .singleton _
    | cons t spots =>
      refine List.isChain_cons_cons.mpr ⟨?_, hrest⟩
      exact before_of_reaches (hfits s List.mem_cons_self)
        (hfits t (List.mem_cons_of_mem _ List.mem_cons_self)) (List.isChain_cons_cons.mp hapart).1 h.2.1

lemma Spot.Before.trans {u : Spot α} (h : s.Before t) (h' : t.Before u) : s.Before u := by
  unfold Spot.Before Spot.stop at *
  rcases h with h | ⟨hline, hs, ht, hstop⟩
  · exact .inl (by omega)
  · rcases h' with h' | ⟨hline', -, hu, hstop'⟩
    · exact .inl (by omega)
    · exact .inr ⟨by omega, hs, hu, by omega⟩

instance instTransBefore : Trans (Spot.Before (α := α)) (Spot.Before (α := α)) (Spot.Before (α := α)) :=
  ⟨Spot.Before.trans⟩

lemma Laid.placeable (h : Laid lines c items spots) (hapart : items.IsChain Apart) :
    Placeable lines items := by
  refine ⟨spots, h.items, h.fits, List.isChain_iff_pairwise.mp ?_⟩
  exact h.follows.isChain h.fits (h.items ▸ hapart)

/-! ## Counting characters -/

def room (lines : List (List α)) (c : Cursor) : ℕ := ((lines.drop c.line).map List.length).sum - c.offset

lemma sum_drop {n : ℕ} {line : List α} (h : lines[n]? = some line) :
    ((lines.drop n).map List.length).sum = line.length + ((lines.drop (n + 1)).map List.length).sum := by
  obtain ⟨hlt, rfl⟩ := List.getElem?_eq_some_iff.mp h
  rw [List.drop_eq_getElem_cons hlt, List.map_cons, List.sum_cons]

lemma sum_drop_le {n m : ℕ} (h : n ≤ m) :
    ((lines.drop m).map List.length).sum ≤ ((lines.drop n).map List.length).sum := by
  obtain ⟨k, rfl⟩ := Nat.exists_eq_add_of_le h
  have hsplit := congrArg (fun l => (l.map List.length).sum) (List.take_append_drop k (lines.drop n))
  simp only [List.map_append, List.sum_append, List.drop_drop] at hsplit
  exact hsplit ▸ Nat.le_add_left _ _

lemma sum_le_room (hfits : ∀ s ∈ spots, s.Fits lines) (hchain : spots.IsChain Spot.Before)
    (hfirst : ∀ s ∈ spots.head?, c.line < s.line ∨ c.line = s.line ∧ c.offset ≤ s.start)
    (hc : ∀ line, lines[c.line]? = some line → c.offset ≤ line.length) :
    (spots.map fun s => s.item.text.length).sum ≤ room lines c := by
  induction spots generalizing c with
  | nil => exact Nat.zero_le _
  | cons s spots ih =>
    obtain ⟨line, hline, hstop, -, hall⟩ := hfits s List.mem_cons_self
    have hsum := sum_drop hline
    have hroom : s.item.text.length + room lines ⟨s.line, s.stop⟩ ≤ room lines c := by
      unfold room Spot.stop at *
      rcases hfirst s rfl with h | ⟨h, hoffset⟩
      · have hle : ((lines.drop s.line).map List.length).sum ≤
          ((lines.drop (c.line + 1)).map List.length).sum := sum_drop_le h
        have hlt : s.line < lines.length := (List.getElem?_eq_some_iff.mp hline).1
        have hget := List.getElem?_eq_getElem (h.trans hlt)
        have hsum' := sum_drop hget
        have hlong := hc _ hget
        dsimp only at *
        omega
      · dsimp only at *
        rw [h]
        omega
    have hrest := ih (c := ⟨s.line, s.stop⟩) (fun t ht => hfits t (List.mem_cons_of_mem _ ht))
      hchain.tail ?_ fun line' hline' => ?_
    · rw [List.map_cons, List.sum_cons]
      omega
    · intro t ht
      exact ((List.isChain_cons.mp hchain).1 t ht).imp_right fun h => ⟨h.1, h.2.2.2⟩
    · cases Option.some.inj (hline.symm.trans hline')
      exact hstop

lemma Placeable.sum_le (h : Placeable lines items) :
    (items.map fun item => item.text.length).sum ≤ (lines.map List.length).sum := by
  obtain ⟨spots, rfl, hfits, hbefore⟩ := h
  have hroom := sum_le_room (c := ⟨0, 0⟩) hfits hbefore.isChain (fun s _ => ?_) fun _ _ => Nat.zero_le _
  · rwa [List.map_map]
  · rcases Nat.eq_zero_or_pos s.line with hzero | hpos
    · exact .inr ⟨hzero.symm, Nat.zero_le _⟩
    · exact .inl hpos

/-! ## A line that is counted twice -/

def ownLines : ℕ → List (Item α) → List (Spot α)
  | _, [] => []
  | n, item :: items => ⟨item, n, 0⟩ :: ownLines (n + 1) items

lemma map_item_ownLines (n : ℕ) : (ownLines n items).map Spot.item = items := by
  induction items generalizing n with
  | nil => rfl
  | cons item items ih => exact congrArg (item :: ·) (ih (n + 1))

lemma fits_own {n : ℕ} (h : lines[n]? = some item.text) : Spot.Fits lines ⟨item, n, 0⟩ :=
  ⟨item.text, h, (Nat.zero_add _).le, List.prefix_refl _, fun _ => ⟨rfl, rfl⟩⟩

lemma fits_ownLines {n : ℕ} (before after : List (List α)) (hn : before.length = n) :
    ∀ s ∈ ownLines n items, s.Fits (before ++ items.map Item.text ++ after) := by
  induction items generalizing n before with
  | nil => exact fun _ h => (List.not_mem_nil h).elim
  | cons item items ih =>
    intro s hs
    rcases List.mem_cons.mp hs with rfl | hs
    · refine fits_own ?_
      rw [List.append_assoc, List.getElem?_append_right hn.le, hn, Nat.sub_self]
      rfl
    · have hlength : (before ++ [item.text]).length = n + 1 := by
        rw [List.length_append, hn]
        rfl
      have hfits := ih _ hlength s hs
      simpa using hfits

lemma follows_ownLines_append {n : ℕ} (hc : c.Le ⟨n, 0⟩)
    (h : ∀ d : Cursor, d.Le ⟨n + items.length, 0⟩ → Follows d spots) :
    Follows c (ownLines n items ++ spots) := by
  induction items generalizing c n with
  | nil => exact h c hc
  | cons item items ih =>
    refine ⟨Cursor.Reaches.of_le (.inr ⟨rfl, fun _ => Nat.le_refl _⟩) hc, ih ?_ fun d hd => h d ?_⟩
    · unfold Spot.cursor
      cases item.whole with
      | true => exact .inr ⟨rfl, Nat.le_refl _⟩
      | false => exact .inl (Nat.lt_succ_self _)
    · rwa [List.length_cons, Nat.add_comm items.length, ← Nat.add_assoc]

/-- If a text that has to be a whole line comes right after one that is a part of it, both are found on
one line. -/
theorem exists_not_placeable [DecidableEq α] (hne : ∀ item ∈ items, item.text ≠ [])
    (h : ¬items.IsChain Apart) : ∃ lines : List (List α), (∀ line ∈ lines, line ∈ items.map Item.text) ∧
      findsAll lines ⟨0, 0⟩ items = true ∧ ¬Placeable lines items := by
  rw [List.isChain_iff_forall_rel_of_append_cons_cons] at h
  push Not at h
  obtain ⟨p, q, before, after, rfl, hapart⟩ := h
  unfold Apart at hapart
  push Not at hapart
  obtain ⟨hp, hq, u, v, huv⟩ := hapart
  refine ⟨before.map Item.text ++ q.text :: after.map Item.text, fun line hline => ?_, ?_, fun hplace => ?_⟩
  · rw [List.map_append, List.map_cons, List.map_cons]
    rcases List.mem_append.mp hline with hin | hin
    · exact List.mem_append_left _ hin
    · exact List.mem_append_right _ (List.mem_cons_of_mem _ hin)
  · rw [findsAll_iff]
    have hline : (before.map Item.text ++ q.text :: after.map Item.text)[before.length]? = some q.text := by
      rw [List.getElem?_append_right (List.length_map _).le, List.length_map, Nat.sub_self]
      rfl
    refine ⟨ownLines 0 before ++ ⟨p, before.length, u.length⟩ :: ⟨q, before.length, 0⟩ ::
      ownLines (before.length + 1) after, ?_, ?_, ?_⟩
    · rw [List.map_append, List.map_cons, List.map_cons, map_item_ownLines, map_item_ownLines]
    · intro s hs
      rcases List.mem_append.mp hs with hs | hs
      · exact fits_ownLines [] _ rfl s hs
      · rcases List.mem_cons.mp hs with rfl | hs
        · refine ⟨q.text, hline, ?_, ?_, fun hwhole => absurd (hp.symm.trans hwhole) (by decide)⟩
          · rw [Spot.stop, ← huv, List.length_append, List.length_append]
            exact Nat.le_add_right _ _
          · rw [← huv, List.append_assoc, List.drop_left]
            exact List.prefix_append _ _
        · rcases List.mem_cons.mp hs with rfl | hs
          · exact fits_own hline
          · have hlength : (before.map Item.text ++ [q.text]).length = before.length + 1 := by
              rw [List.length_append, List.length_map]
              rfl
            have hfits := fits_ownLines _ [] hlength s hs
            rwa [List.append_nil, List.append_assoc, List.singleton_append] at hfits
    · refine follows_ownLines_append (.inr ⟨rfl, Nat.le_refl _⟩) fun d hd => ?_
      rw [Nat.zero_add] at hd
      refine ⟨Cursor.Reaches.of_le (.inr ⟨rfl, fun _ => Nat.zero_le _⟩) hd, ?_, ?_⟩
      · unfold Spot.cursor
        rw [hp]
        exact .inr ⟨rfl, fun hwhole => absurd (hq.symm.trans hwhole) (by decide)⟩
      · have hnext : Follows ⟨before.length + 1, 0⟩ (ownLines (before.length + 1) after ++ []) :=
          follows_ownLines_append (.inr ⟨rfl, Nat.le_refl _⟩) fun _ _ => trivial
        unfold Spot.cursor
        rwa [hq, List.append_nil] at *
  · have hsum := hplace.sum_le
    have hpos : 0 < p.text.length := List.length_pos_iff.mpr (hne p (by simp))
    simp only [List.map_append, List.map_cons, List.sum_append, List.sum_cons, List.map_map,
      Function.comp_def] at hsum
    omega

end Data.Placement
