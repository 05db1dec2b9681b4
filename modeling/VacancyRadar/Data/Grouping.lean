import Mathlib.Data.List.Nodup
import VacancyRadar.Data.Assoc

/-!
# Grouping

Lists in which a key stands once: of the elements with one key the first is kept (`new Set`), or the last
in the place of the first (`new Map`), or all of them become one group.
-/

namespace Data

variable {α κ : Type} [DecidableEq κ] {key : α → κ} {l : List α} {a : α} {k : κ}

/-! ## The first of a key -/

def firstsFrom (key : α → κ) : List κ → List α → List α
  | _, [] => []
  | seen, a :: l => if key a ∈ seen then firstsFrom key seen l else a :: firstsFrom key (key a :: seen) l

def firsts (key : α → κ) (l : List α) : List α := firstsFrom key [] l

variable {seen : List κ} {ν : Type} {group : List α}

lemma mem_of_mem_firstsFrom (h : a ∈ firstsFrom key seen l) : a ∈ l ∧ key a ∉ seen:= by
  induction l generalizing seen with
  | nil => exact absurd h List.not_mem_nil
  | cons b l ih =>
    rw [firstsFrom] at h
    split at h
    · exact (ih h).imp_left (List.mem_cons_of_mem _)
    · next hb =>
      rcases List.mem_cons.mp h with rfl | h
      · exact ⟨List.mem_cons_self, hb⟩
      · exact (ih h).imp (List.mem_cons_of_mem _) fun hkey hseen => hkey (List.mem_cons_of_mem _ hseen)

lemma mem_of_mem_firsts (h : a ∈ firsts key l) : a ∈ l := (mem_of_mem_firstsFrom h).1

lemma exists_mem_firstsFrom (h : a ∈ l) (hseen : key a ∉ seen) :
    ∃ b ∈ firstsFrom key seen l, key b = key a := by
  induction l generalizing seen with
  | nil => exact absurd h List.not_mem_nil
  | cons c l ih =>
    rw [firstsFrom]
    split
    · next hc =>
      rcases List.mem_cons.mp h with rfl | h
      · exact absurd hc hseen
      · exact ih h hseen
    · by_cases hkey : key c = key a
      · exact ⟨c, List.mem_cons_self, hkey⟩
      · have hrest : a ∈ l := (List.mem_cons.mp h).resolve_left fun heq => hkey (heq ▸ rfl)
        have hnew : key a ∉ key c :: seen := by
          rw [List.mem_cons, not_or]
          exact ⟨Ne.symm hkey, hseen⟩
        obtain ⟨b, hb, heq⟩ := ih hrest hnew
        exact ⟨b, List.mem_cons_of_mem _ hb, heq⟩

lemma exists_mem_firsts (h : a ∈ l) : ∃ b ∈ firsts key l, key b = key a :=
  exists_mem_firstsFrom h List.not_mem_nil

lemma mem_firsts_id {l : List κ} : k ∈ firsts id l ↔ k ∈ l := by
  refine ⟨mem_of_mem_firsts, fun h => ?_⟩
  obtain ⟨b, hb, rfl⟩ : ∃ b ∈ firsts id l, b = k := exists_mem_firsts h
  exact hb

lemma nodup_keys_firstsFrom (seen : List κ) : ((firstsFrom key seen l).map key).Nodup := by
  induction l generalizing seen with
  | nil => exact List.nodup_nil
  | cons b l ih =>
    rw [firstsFrom]
    split
    · exact ih seen
    · rw [List.map_cons, List.nodup_cons]
      refine ⟨fun hmem => ?_, ih _⟩
      obtain ⟨c, hc, heq⟩ := List.mem_map.mp hmem
      exact (mem_of_mem_firstsFrom hc).2 (heq ▸ List.mem_cons_self)

lemma nodup_keys_firsts : ((firsts key l).map key).Nodup := nodup_keys_firstsFrom []

lemma firstsFrom_of_nodup (h : (l.map key).Nodup) (hseen : ∀ a ∈ l, key a ∉ seen) :
    firstsFrom key seen l = l := by
  induction l generalizing seen with
  | nil => rfl
  | cons b l ih =>
    rw [List.map_cons, List.nodup_cons] at h
    rw [firstsFrom, if_neg (hseen b List.mem_cons_self)]
    refine congrArg (b :: ·) (ih h.2 fun a ha hmem => ?_)
    rcases List.mem_cons.mp hmem with heq | hmem
    · exact h.1 (heq ▸ List.mem_map_of_mem ha)
    · exact hseen a (List.mem_cons_of_mem _ ha) hmem

lemma firsts_of_nodup (h : (l.map key).Nodup) : firsts key l = l :=
  firstsFrom_of_nodup h fun _ _ => List.not_mem_nil

/-! ## The last of a key -/

def lasts (key : α → κ) (l : List α) : List α :=
  (Assoc.ofEntries (l.map fun a => (key a, a))).map Prod.snd

lemma ofEntries_of_nodup {entries : List (κ × ν)} (h : (entries.map Prod.fst).Nodup) :
    Assoc.ofEntries entries = entries := by
  induction entries using List.reverseRecOn with
  | nil => rfl
  | append_singleton entries last ih =>
    rw [List.map_append, List.nodup_append] at h
    have hnone : Assoc.get? last.1 entries = none :=
      Assoc.get?_eq_none_iff.mpr fun hmem => h.2.2 _ hmem _ List.mem_cons_self rfl
    have hset : Assoc.set last.1 last.2 entries = entries ++ [last] := Assoc.set_of_get?_eq_none hnone
    rw [Assoc.ofEntries, List.foldl_append]
    show Assoc.set last.1 last.2 (Assoc.ofEntries entries) = _
    rw [ih h.1, hset]

lemma nodup_keys_ofEntries (entries : List (κ × ν)) :
    ((Assoc.ofEntries entries).map Prod.fst).Nodup := by
  induction entries using List.reverseRecOn with
  | nil => exact List.nodup_nil
  | append_singleton entries last ih =>
    rw [Assoc.ofEntries, List.foldl_append]
    exact Assoc.nodup_keys_set ih

lemma eq_key_of_mem_ofEntries {entry : κ × α} (h : entry ∈ Assoc.ofEntries (l.map fun a => (key a, a))) :
    entry.1 = key entry.2 := by
  have hget := Assoc.get?_of_mem (nodup_keys_ofEntries _) h
  obtain ⟨before, after, heq, -⟩ := Assoc.get?_ofEntries_eq_some.mp hget
  have hmem : (entry.1, entry.2) ∈ l.map fun a => (key a, a) := by
    rw [heq]
    exact List.mem_append_right _ List.mem_cons_self
  obtain ⟨a, -, ha⟩ := List.mem_map.mp hmem
  rw [← (Prod.ext_iff.mp ha).1, ← (Prod.ext_iff.mp ha).2]

lemma lasts_lasts : lasts key (lasts key l) = lasts key l := by
  have hentries : (lasts key l).map (fun a => (key a, a)) = Assoc.ofEntries (l.map fun a => (key a, a)) := by
    rw [lasts, List.map_map]
    conv_rhs => rw [← List.map_id (Assoc.ofEntries (l.map fun a => (key a, a)))]
    refine List.map_congr_left fun entry hentry => ?_
    exact Prod.ext (eq_key_of_mem_ofEntries hentry).symm rfl
  rw [lasts, hentries, ofEntries_of_nodup (nodup_keys_ofEntries _), lasts]

/-! ## Groups -/

def groupBy (key : α → κ) (l : List α) : Assoc κ (List α) :=
  l.foldl (fun groups a => Assoc.set (key a) ((Assoc.get? (key a) groups).getD [] ++ [a]) groups) []

lemma groupBy_append_singleton : groupBy key (l ++ [a]) =
    Assoc.set (key a) ((Assoc.get? (key a) (groupBy key l)).getD [] ++ [a]) (groupBy key l) := by
  rw [groupBy, List.foldl_append]
  rfl

lemma nodup_keys_groupBy : ((groupBy key l).map Prod.fst).Nodup := by
  induction l using List.reverseRecOn with
  | nil => exact List.nodup_nil
  | append_singleton l a ih =>
    rw [groupBy_append_singleton]
    exact Assoc.nodup_keys_set ih

lemma getD_get?_groupBy : (Assoc.get? k (groupBy key l)).getD [] = l.filter fun a => key a = k := by
  induction l using List.reverseRecOn with
  | nil => rfl
  | append_singleton l a ih =>
    rw [groupBy_append_singleton, List.filter_append]
    by_cases hk : key a = k
    · rw [hk, Assoc.get?_set_self, Option.getD_some, ih, List.filter_cons_of_pos (by simpa using hk),
        List.filter_nil]
    · rw [Assoc.get?_set_of_ne (Ne.symm hk), ih, List.filter_cons_of_neg (by simpa using hk), List.filter_nil,
        List.append_nil]

lemma ne_nil_of_mem_groupBy (h : (k, group) ∈ groupBy key l) : group ≠ []:= by
  induction l using List.reverseRecOn with
  | nil => exact absurd h List.not_mem_nil
  | append_singleton l a ih =>
    rw [groupBy_append_singleton] at h
    rcases Assoc.mem_set h with heq | h
    · obtain ⟨-, rfl⟩ := Prod.ext_iff.mp heq
      exact List.append_ne_nil_of_right_ne_nil _ (List.cons_ne_nil _ _)
    · exact ih h

lemma mem_groupBy : (k, group) ∈ groupBy key l ↔
    group = l.filter (fun a => key a = k) ∧ ∃ a ∈ l, key a = k := by
  constructor
  · intro h
    have hgroup : group = l.filter fun a => key a = k := by
      rw [← getD_get?_groupBy, Assoc.get?_of_mem nodup_keys_groupBy h, Option.getD_some]
    refine ⟨hgroup, ?_⟩
    obtain ⟨a, ha⟩ := List.exists_mem_of_ne_nil _ (ne_nil_of_mem_groupBy h)
    rw [hgroup, List.mem_filter] at ha
    exact ⟨a, ha.1, by simpa using ha.2⟩
  · rintro ⟨rfl, a, ha, hk⟩
    have hmem : a ∈ l.filter fun a => key a = k := List.mem_filter.mpr ⟨ha, by simpa using hk⟩
    rw [← getD_get?_groupBy] at hmem ⊢
    cases hget : Assoc.get? k (groupBy key l) with
    | none =>
      rw [hget] at hmem
      exact absurd hmem List.not_mem_nil
    | some group => exact Assoc.mem_of_get? hget

lemma groupBy_of_nodup (h : (l.map key).Nodup) : groupBy key l = l.map fun a => (key a, [a]) := by
  induction l using List.reverseRecOn with
  | nil => rfl
  | append_singleton l a ih =>
    rw [List.map_append, List.nodup_append] at h
    have hkeys : (l.map fun a => (key a, [a])).map Prod.fst = l.map key := by
      rw [List.map_map]
      rfl
    have hnone : Assoc.get? (key a) (l.map fun a => (key a, [a])) = none := by
      rw [Assoc.get?_eq_none_iff, hkeys]
      exact fun hmem => h.2.2 _ hmem _ List.mem_cons_self rfl
    rw [groupBy_append_singleton, ih h.1, hnone, Option.getD_none, List.nil_append,
      Assoc.set_of_get?_eq_none hnone, List.map_append, List.map_singleton]

end Data
