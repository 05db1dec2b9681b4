import Mathlib.Data.List.Basic
import Mathlib.Logic.Relation

/-!
# Cuts

A list of pieces is joined with a separator, and the joined list is cut at the separator again.  What comes out is
what went in, with each piece cut at the separators inside it.

Different ways to cut the same list are connected by moves that keep what is joined.  If everything is connected to
something normal, and what is normal can be told from what is joined, then the moves are all there is.
-/

namespace Data

variable {α : Type} [DecidableEq α] {separator : α} {pieces pieces' : List (List α)}

def cuts (separator : α) (pieces : List (List α)) : List (List α) :=
  pieces.flatMap fun piece => piece.splitOn separator

lemma mem_cuts {cut : List α} :
    cut ∈ cuts separator pieces ↔ ∃ piece ∈ pieces, cut ∈ piece.splitOn separator := by
  simp [cuts]

lemma splitOn_intercalate_eq_cuts (h : pieces ≠ []) :
    ([separator].intercalate pieces).splitOn separator = cuts separator pieces := by
  induction pieces with
  | nil => exact absurd rfl h
  | cons piece rest ih =>
    cases rest with
    | nil => simp [cuts]
    | cons next rest =>
      have hrest := ih (by simp)
      rw [List.intercalate_cons_cons, List.append_assoc, List.singleton_append,
        List.splitOn_append_cons_self, hrest]
      rfl

omit [DecidableEq α] in
lemma append_cons_inj {front front' rest rest' : List α} (h : separator ∉ front) (h' : separator ∉ front')
    (heq : front ++ separator :: rest = front' ++ separator :: rest') : front = front' ∧ rest = rest' := by
  induction front generalizing front' with
  | nil =>
    cases front' with
    | nil => exact ⟨rfl, (List.cons.inj heq).2⟩
    | cons a front' => exact absurd ((List.cons.inj heq).1 ▸ List.mem_cons_self) h'
  | cons a front ih =>
    cases front' with
    | nil => exact absurd ((List.cons.inj heq).1 ▸ List.mem_cons_self) h
    | cons b front' =>
      obtain ⟨rfl, htail⟩ := List.cons.inj heq
      obtain ⟨hfront, hrest⟩ := ih (fun hmem => h (List.mem_cons_of_mem _ hmem))
        (fun hmem => h' (List.mem_cons_of_mem _ hmem)) htail
      exact ⟨congrArg _ hfront, hrest⟩

lemma eqvGen_iff_of_normal {β γ : Type} {move : β → β → Prop} {Normal : β → Prop} (value : β → γ)
    (hmove : ∀ a b, move a b → value a = value b) (hnormal : ∀ a, ∃ b, Relation.EqvGen move a b ∧ Normal b)
    (hunique : ∀ a b, Normal a → Normal b → value a = value b → a = b) (a b : β) :
    Relation.EqvGen move a b ↔ value a = value b := by
  have hsound : ∀ a b, Relation.EqvGen move a b → value a = value b := by
    intro a b h
    induction h with
    | rel a b h => exact hmove a b h
    | refl a => rfl
    | symm a b _ ih => exact ih.symm
    | trans a b c _ _ ih ih' => exact ih.trans ih'
  refine ⟨hsound a b, fun h => ?_⟩
  obtain ⟨a', ha, hnormalA⟩ := hnormal a
  obtain ⟨b', hb, hnormalB⟩ := hnormal b
  have hvalue : value a' = value b' := (hsound _ _ ha).symm.trans (h.trans (hsound _ _ hb))
  obtain rfl := hunique a' b' hnormalA hnormalB hvalue
  exact ha.trans _ _ _ (hb.symm _ _)

/-! ## Moving a separator -/

variable {α : Type*} {sep left right left' right' : List α}

def MovedBack (sep left right left' right' : List α) : Prop :=
  ∃ stretch ≠ [], left' = left ++ stretch ∧ sep ++ right = stretch ++ (sep ++ right')

def Moved (sep left right left' right' : List α) : Prop :=
  MovedBack sep left right left' right' ∨ MovedBack sep left' right' left right

lemma MovedBack.ne (h : MovedBack sep left right left' right') : left ≠ left' := by
  obtain ⟨stretch, hne, rfl, -⟩ := h
  exact fun heq => hne (List.self_eq_append_right.mp heq)

lemma Moved.ne (h : Moved sep left right left' right') : left ≠ left' :=
  h.elim MovedBack.ne fun h => h.ne.symm

lemma MovedBack.joined (h : MovedBack sep left right left' right') :
    left ++ (sep ++ right) = left' ++ (sep ++ right') := by
  obtain ⟨stretch, -, rfl, heq⟩ := h
  rw [heq, List.append_assoc]

lemma joined_eq_iff : left ++ (sep ++ right) = left' ++ (sep ++ right') ↔
    (left = left' ∧ right = right') ∨ Moved sep left right left' right' := by
  constructor
  · intro h
    rcases List.append_eq_append_iff.mp h with ⟨stretch, hleft, hright⟩ | ⟨stretch, hleft, hright⟩
    · rcases eq_or_ne stretch [] with rfl | hne
      · rw [List.append_nil] at hleft
        exact .inl ⟨hleft.symm, List.append_cancel_left hright⟩
      · exact .inr (.inl ⟨stretch, hne, hleft, hright⟩)
    · rcases eq_or_ne stretch [] with rfl | hne
      · rw [List.append_nil] at hleft
        exact .inl ⟨hleft, (List.append_cancel_left hright).symm⟩
      · exact .inr (.inr ⟨stretch, hne, hleft, hright⟩)
  · rintro (⟨rfl, rfl⟩ | hback | hback)
    · rfl
    · exact hback.joined
    · exact hback.joined.symm

end Data
