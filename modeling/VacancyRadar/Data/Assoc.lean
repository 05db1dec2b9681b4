import Mathlib.Data.List.Induction

/-!
# Maps

A map as the list of its entries in the order of insertion: a key that is set again keeps its place.
The values of a map have a total, and setting a key changes it by what the key contributes.
-/

namespace Data

/-- A map, entry by entry. -/
abbrev Assoc (κ ν : Type) : Type := List (κ × ν)

namespace Assoc

variable {κ ν : Type} [DecidableEq κ]

def get? (key : κ) : Assoc κ ν → Option ν
  | [] => none
  | (k, v) :: rest => if k = key then some v else get? key rest

def set (key : κ) (value : ν) : Assoc κ ν → Assoc κ ν
  | [] => [(key, value)]
  | (k, v) :: rest => if k = key then (k, value) :: rest else (k, v) :: set key value rest

/-- `Map.prototype.delete`. -/
def erase (key : κ) (m : Assoc κ ν) : Assoc κ ν := m.filter fun entry => entry.1 ≠ key

/-- The sum of what the values count. -/
def total (f : ν → ℕ) : Assoc κ ν → ℕ
  | [] => 0
  | (_, v) :: rest => f v + total f rest

variable {key other : κ} {value v : ν} {m : Assoc κ ν}

@[simp] lemma get?_nil : get? key ([] : Assoc κ ν) = none := rfl

@[simp] lemma get?_set_self : get? key (set key value m) = some value := by
  induction m with
  | nil => simp [set, get?]
  | cons entry rest ih =>
    obtain ⟨k, v⟩ := entry
    by_cases hk : k = key
    · simp [set, get?, hk]
    · simp [set, get?, hk, ih]

lemma get?_set_of_ne (h : other ≠ key) : get? other (set key value m) = get? other m := by
  induction m with
  | nil => simp [set, get?, h.symm]
  | cons entry rest ih =>
    obtain ⟨k, v⟩ := entry
    by_cases hk : k = key
    · subst hk
      simp [set, get?, h.symm]
    · simp only [set, if_neg hk, get?, ih]

lemma set_self (h : get? key m = some value) : set key value m = m := by
  induction m with
  | nil => cases h
  | cons entry rest ih =>
    obtain ⟨k, v⟩ := entry
    rw [get?] at h
    by_cases hk : k = key
    · rw [if_pos hk] at h
      cases h
      rw [set, if_pos hk]
    · rw [if_neg hk] at h
      rw [set, if_neg hk, ih h]

lemma mem_of_get? (h : get? key m = some value) : (key, value) ∈ m := by
  induction m with
  | nil => cases h
  | cons entry rest ih =>
    obtain ⟨k, v⟩ := entry
    rw [get?] at h
    split at h
    · next hk =>
      cases h
      rw [hk]
      exact List.mem_cons_self ..
    · exact List.mem_cons_of_mem _ (ih h)

lemma mem_set {entry : κ × ν} (h : entry ∈ set key value m) : entry = (key, value) ∨ entry ∈ m := by
  induction m with
  | nil => exact .inl (List.mem_singleton.mp h)
  | cons first rest ih =>
    rw [set] at h
    split at h
    · next hk =>
      rcases List.mem_cons.mp h with rfl | h
      · exact .inl (by rw [hk])
      · exact .inr (List.mem_cons_of_mem _ h)
    · rcases List.mem_cons.mp h with rfl | h
      · exact .inr (List.mem_cons_self ..)
      · exact (ih h).imp_right (List.mem_cons_of_mem _)

lemma nodup_keys_set (h : (m.map Prod.fst).Nodup) : ((set key value m).map Prod.fst).Nodup := by
  induction m with
  | nil => exact List.pairwise_singleton _ _
  | cons entry rest ih =>
    rw [List.map_cons, List.nodup_cons] at h
    rw [set]
    split
    · rwa [List.map_cons, List.nodup_cons]
    · next hk =>
      rw [List.map_cons, List.nodup_cons]
      refine ⟨fun hmem => ?_, ih h.2⟩
      obtain ⟨entry, hentry, heq⟩ := List.mem_map.mp hmem
      rcases mem_set hentry with rfl | hentry
      · exact hk heq.symm
      · exact h.1 (heq ▸ List.mem_map_of_mem hentry)

lemma total_set (f : ν → ℕ) :
    total f (set key value m) + ((get? key m).map f).getD 0 = total f m + f value := by
  induction m with
  | nil => simp [set, total]
  | cons entry rest ih =>
    obtain ⟨k, v⟩ := entry
    by_cases hk : k = key
    · simp only [set, if_pos hk, total, get?, Option.map_some, Option.getD_some]
      omega
    · simp only [set, if_neg hk, total, get?]
      omega

lemma total_set_of_none (f : ν → ℕ) (h : get? key m = none) :
    total f (set key value m) = total f m + f value := by
  have hset : total f (set key value m) + ((get? key m).map f).getD 0 = total f m + f value :=
    total_set f
  rwa [h] at hset

lemma total_set_of_some (f : ν → ℕ) (h : get? key m = some v) :
    total f (set key value m) + f v = total f m + f value := by
  have hset : total f (set key value m) + ((get? key m).map f).getD 0 = total f m + f value :=
    total_set f
  rwa [h] at hset

omit [DecidableEq κ] in
lemma total_le_total {f g : ν → ℕ} (h : ∀ entry ∈ m, f entry.2 ≤ g entry.2) :
    total f m ≤ total g m := by
  induction m with
  | nil => exact Nat.le_refl _
  | cons entry rest ih =>
    obtain ⟨k, v⟩ := entry
    exact Nat.add_le_add (h (k, v) (List.mem_cons_self ..))
      (ih fun e he => h e (List.mem_cons_of_mem _ he))

omit [DecidableEq κ] in
lemma le_of_total_le {f g : ν → ℕ} (h : ∀ entry ∈ m, f entry.2 ≤ g entry.2)
    (htotal : total g m ≤ total f m) : ∀ entry ∈ m, g entry.2 ≤ f entry.2 := by
  induction m with
  | nil => nofun
  | cons first rest ih =>
    obtain ⟨k, v⟩ := first
    have hfirst := h (k, v) (List.mem_cons_self ..)
    have hrest := fun e he => h e (List.mem_cons_of_mem _ he)
    have hle := total_le_total hrest
    simp only [total] at htotal hfirst
    intro entry hentry
    rcases List.mem_cons.mp hentry with rfl | hentry
    · show g v ≤ f v
      omega
    · exact ih hrest (by omega) entry hentry

/-! ## Entries that come and go -/

@[simp] lemma get?_erase_self : get? key (erase key m) = none := by
  induction m with
  | nil => rfl
  | cons entry rest ih =>
    obtain ⟨k, v⟩ := entry
    by_cases hk : k = key
    · rw [erase, List.filter_cons_of_neg (by simpa using hk)]
      exact ih
    · rw [erase, List.filter_cons_of_pos (by simpa using hk), get?, if_neg hk]
      exact ih

lemma get?_erase_of_ne (h : other ≠ key) : get? other (erase key m) = get? other m := by
  induction m with
  | nil => rfl
  | cons entry rest ih =>
    obtain ⟨k, v⟩ := entry
    by_cases hk : k = key
    · rw [erase, List.filter_cons_of_neg (by simpa using hk), get?, if_neg (hk ▸ h.symm)]
      exact ih
    · rw [erase, List.filter_cons_of_pos (by simpa using hk), get?, get?]
      split
      · rfl
      · exact ih

lemma set_of_get?_eq_none (h : get? key m = none) : set key value m = m ++ [(key, value)] := by
  induction m with
  | nil => rfl
  | cons entry rest ih =>
    rw [get?] at h
    split at h
    · cases h
    · next hk => rw [set, if_neg hk, ih h, List.cons_append]

lemma get?_of_mem (hkeys : (m.map Prod.fst).Nodup) (h : (key, value) ∈ m) :
    get? key m = some value := by
  induction m with
  | nil => cases h
  | cons entry rest ih =>
    obtain ⟨k, v⟩ := entry
    rw [List.map_cons, List.nodup_cons] at hkeys
    rcases List.mem_cons.mp h with heq | hrest
    · cases heq
      rw [get?, if_pos rfl]
    · have hk : k ≠ key := fun heq =>
        hkeys.1 (List.mem_map.mpr ⟨(key, value), hrest, heq.symm⟩)
      rw [get?, if_neg hk]
      exact ih hkeys.2 hrest

lemma get?_eq_none_iff : get? key m = none ↔ key ∉ m.map Prod.fst := by
  induction m with
  | nil => simp
  | cons entry rest ih =>
    rw [get?]
    split
    · next hk => simp [hk]
    · next hk => simp [ih, Ne.symm hk]

lemma erase_of_get?_eq_none (h : get? key m = none) : erase key m = m := by
  refine List.filter_eq_self.mpr fun entry hentry => ?_
  have hne : entry.1 ≠ key := fun heq =>
    get?_eq_none_iff.mp h (List.mem_map.mpr ⟨entry, hentry, heq⟩)
  simpa using hne

lemma erase_append_singleton (h : get? key m = none) : erase key (m ++ [(key, value)]) = m := by
  have herase : erase key (m ++ [(key, value)]) = erase key m ++ [] := by simp [erase]
  rw [herase, List.append_nil, erase_of_get?_eq_none h]

lemma erase_eq (hkeys : (m.map Prod.fst).Nodup) (h : get? key m = some value) :
    ∃ before after, m = before ++ (key, value) :: after ∧ erase key m = before ++ after := by
  induction m with
  | nil => cases h
  | cons entry rest ih =>
    obtain ⟨k, v⟩ := entry
    rw [List.map_cons, List.nodup_cons] at hkeys
    rw [get?] at h
    split at h
    · next hk =>
      cases h
      subst hk
      refine ⟨[], rest, rfl, ?_⟩
      rw [erase, List.filter_cons_of_neg (by simp)]
      refine List.filter_eq_self.mpr fun entry hmem => ?_
      have hne : entry.1 ≠ k := fun heq => hkeys.1 (List.mem_map.mpr ⟨entry, hmem, heq⟩)
      simpa using hne
    · next hk =>
      obtain ⟨before, after, rfl, herase⟩ := ih hkeys.2 h
      refine ⟨(k, v) :: before, after, rfl, ?_⟩
      rw [erase, List.filter_cons_of_pos (by simpa using hk)]
      exact congrArg ((k, v) :: ·) herase

/-! ## Maps of entries -/

/-- `new Map`: of several entries with one key the last one counts. -/
def ofEntries (entries : List (κ × ν)) : Assoc κ ν :=
  entries.foldl (fun m entry => set entry.1 entry.2 m) []

variable {entries : List (κ × ν)}

lemma get?_ofEntries_append (entry : κ × ν) : get? key (ofEntries (entries ++ [entry])) =
    if entry.1 = key then some entry.2 else get? key (ofEntries entries) := by
  rw [ofEntries, List.foldl_append]
  show get? key (set entry.1 entry.2 (ofEntries entries)) = _
  split
  · next hkey => rw [hkey, get?_set_self]
  · next hkey => exact get?_set_of_ne (Ne.symm hkey)

lemma get?_ofEntries_eq_some : get? key (ofEntries entries) = some value ↔
    ∃ l r, entries = l ++ (key, value) :: r ∧ ∀ entry ∈ r, entry.1 ≠ key := by
  induction entries using List.reverseRecOn with
  | nil => simp [ofEntries]
  | append_singleton entries last ih =>
    rw [get?_ofEntries_append]
    constructor
    · intro h
      split at h
      · next hkey =>
        cases h
        exact ⟨entries, [], by rw [← hkey], nofun⟩
      · next hkey =>
        obtain ⟨l, r, rfl, hr⟩ := ih.mp h
        refine ⟨l, r ++ [last], by rw [List.append_assoc, List.cons_append], fun entry hentry => ?_⟩
        rcases List.mem_append.mp hentry with hentry | hentry
        · exact hr entry hentry
        · rw [List.mem_singleton.mp hentry]
          exact hkey
    · rintro ⟨l, r, heq, hr⟩
      rcases List.eq_nil_or_concat r with rfl | ⟨r, entry, rfl⟩
      · obtain ⟨-, hlast⟩ := List.append_inj' heq rfl
        rw [(List.cons.inj hlast).1, if_pos rfl]
      · rw [List.concat_eq_append, ← List.cons_append, ← List.append_assoc] at heq
        obtain ⟨hentries, hlast⟩ := List.append_inj' heq rfl
        have hne := hr entry (by simp)
        rw [(List.cons.inj hlast).1, if_neg hne]
        exact ih.mpr ⟨l, r, hentries, fun e he => hr e (by simp [he])⟩

lemma get?_ofEntries_eq_none : get? key (ofEntries entries) = none ↔ ∀ entry ∈ entries, entry.1 ≠ key := by
  induction entries using List.reverseRecOn with
  | nil => simp [ofEntries]
  | append_singleton entries last ih =>
    rw [get?_ofEntries_append]
    split
    · next hkey => exact ⟨nofun, fun h => absurd hkey (h last (by simp))⟩
    · next hkey => simp [ih, hkey, or_imp, forall_and]

lemma get?_ofEntries_map {μ : Type} (f : ν → μ) (key : κ) (entries : List (κ × ν)) :
    get? key (ofEntries (entries.map fun entry => (entry.1, f entry.2))) =
      (get? key (ofEntries entries)).map f := by
  induction entries using List.reverseRecOn with
  | nil => rfl
  | append_singleton entries last ih =>
    rw [List.map_append, List.map_singleton, get?_ofEntries_append, get?_ofEntries_append, ih]
    split <;> rfl

variable {others : List (κ × ν)}

lemma get?_ofEntries_append_of_some (h : get? key (ofEntries others) = some value) :
    get? key (ofEntries (entries ++ others)) = some value := by
  obtain ⟨l, r, rfl, hr⟩ := get?_ofEntries_eq_some.mp h
  exact get?_ofEntries_eq_some.mpr ⟨entries ++ l, r, (List.append_assoc ..).symm, hr⟩

lemma get?_ofEntries_append_of_none (h : get? key (ofEntries others) = none) :
    get? key (ofEntries (entries ++ others)) = get? key (ofEntries entries) := by
  rw [get?_ofEntries_eq_none] at h
  cases hentries : get? key (ofEntries entries) with
  | none =>
    rw [get?_ofEntries_eq_none] at hentries ⊢
    intro entry hentry
    exact (List.mem_append.mp hentry).elim (hentries entry) (h entry)
  | some value =>
    obtain ⟨l, r, rfl, hr⟩ := get?_ofEntries_eq_some.mp hentries
    refine get?_ofEntries_eq_some.mpr ⟨l, r ++ others, by rw [List.append_assoc, List.cons_append],
      fun entry hentry => (List.mem_append.mp hentry).elim (hr entry) (h entry)⟩

end Assoc

end Data
