import Mathlib.Data.List.Nodup

/-!
# Tables with a primary key

A table is a list of rows in the order of their insertion.  Every row carries its key, a new row
gets a key that was never used before, and an update keeps the key of the rows it rewrites.  The
table carries the proof that keys are unique, so a lookup by key determines the row.
-/

namespace Data

class Keyed (ρ : Type) where
  /-- The primary key of a row. -/
  key : ρ → ℕ

open Keyed

structure Table (ρ : Type) [Keyed ρ] where
  /-- The rows in the order of their insertion. -/
  rows : List ρ
  /-- The key of the next row. -/
  next : ℕ
  /-- Keys are given out once. -/
  key_lt : ∀ r ∈ rows, key r < next
  /-- Keys are unique. -/
  nodup : (rows.map key).Nodup

namespace Table

variable {ρ : Type} [Keyed ρ]

def empty : Table ρ := ⟨[], 0, by simp, by simp⟩

instance : EmptyCollection (Table ρ) := ⟨empty⟩

@[simp] lemma rows_empty : (∅ : Table ρ).rows = [] := rfl

def get? (t : Table ρ) (i : ℕ) : Option ρ := t.rows.find? fun r => key r == i

def insert (t : Table ρ) (mk : ℕ → ρ) (h : ∀ i, key (mk i) = i) : Table ρ where
  rows := t.rows ++ [mk t.next]
  next := t.next + 1
  key_lt r hr := by
    rcases List.mem_append.mp hr with hr | hr
    · exact Nat.lt_succ_of_lt (t.key_lt r hr)
    · rw [List.mem_singleton.mp hr, h]
      exact Nat.lt_succ_self _
  nodup := by
    rw [List.map_append, List.nodup_append]
    refine ⟨t.nodup, by simp, ?_⟩
    rintro a ha b hb rfl
    obtain ⟨r, hr, rfl⟩ := List.mem_map.mp ha
    have hlt := t.key_lt r hr
    simp only [List.map_cons, List.map_nil, List.mem_singleton, h] at hb
    omega

def updateWhere (t : Table ρ) (p : ρ → Bool) (f : ρ → ρ) (h : ∀ r, key (f r) = key r) :
    Table ρ where
  rows := t.rows.map fun r => if p r then f r else r
  next := t.next
  key_lt r hr := by
    obtain ⟨r', hr', rfl⟩ := List.mem_map.mp hr
    by_cases hp : p r'
    · simpa [hp, h] using t.key_lt r' hr'
    · simpa [hp] using t.key_lt r' hr'
  nodup := by
    have hkey : (key ∘ fun r => if p r then f r else r) = (key : ρ → ℕ) := by
      funext r
      by_cases hp : p r <;> simp [hp, h]
    rw [List.map_map, hkey]
    exact t.nodup

def update (t : Table ρ) (i : ℕ) (f : ρ → ρ) (h : ∀ r, key (f r) = key r) : Table ρ :=
  t.updateWhere (fun r => key r == i) f h

/-- The rows that satisfy a condition; the keys of the others are not given out again. -/
def filter (t : Table ρ) (p : ρ → Bool) : Table ρ where
  rows := t.rows.filter p
  next := t.next
  key_lt r hr := t.key_lt r (List.mem_of_mem_filter hr)
  nodup := (List.filter_sublist.map key).nodup t.nodup

/-! ## Lookups -/

variable {t : Table ρ} {i j : ℕ} {r : ρ}

lemma eq_of_key_eq {r' : ρ} (hr : r ∈ t.rows) (hr' : r' ∈ t.rows) (h : key r = key r') : r = r' :=
  List.inj_on_of_nodup_map t.nodup hr hr' h

lemma get?_eq_some : t.get? i = some r ↔ r ∈ t.rows ∧ key r = i := by
  constructor
  · intro h
    exact ⟨List.mem_of_find?_eq_some h, by simpa using List.find?_some h⟩
  · rintro ⟨hr, rfl⟩
    cases hf : t.get? (key r) with
    | none =>
      have := List.find?_eq_none.mp hf r hr
      simp at this
    | some r' =>
      have hr' : r' ∈ t.rows := List.mem_of_find?_eq_some hf
      have hk : key r' = key r := by simpa using List.find?_some hf
      rw [eq_of_key_eq hr' hr hk]

lemma key_of_get? (h : t.get? i = some r) : key r = i := (get?_eq_some.mp h).2

lemma mem_of_get? (h : t.get? i = some r) : r ∈ t.rows := (get?_eq_some.mp h).1

lemma get?_key (h : r ∈ t.rows) : t.get? (key r) = some r := get?_eq_some.mpr ⟨h, rfl⟩

lemma lt_next_of_get? (h : t.get? i = some r) : i < t.next := by
  obtain ⟨hr, rfl⟩ := get?_eq_some.mp h
  exact t.key_lt r hr

@[simp] lemma get?_next : t.get? t.next = none := by
  cases h : t.get? t.next with
  | none => rfl
  | some r => exact absurd (lt_next_of_get? h) (Nat.lt_irrefl _)

@[simp] lemma get?_empty : (∅ : Table ρ).get? i = none := rfl

variable {mk : ℕ → ρ} {f : ρ → ρ} {p : ρ → Bool}

lemma get?_insert {h : ∀ i, key (mk i) = i} :
    (t.insert mk h).get? j = if j = t.next then some (mk t.next) else t.get? j := by
  split
  · rename_i hj
    rw [get?_eq_some]
    exact ⟨by simp [insert], by rw [h, hj]⟩
  · rename_i hj
    have hk : (key (mk t.next) == j) = false := by
      rw [h]
      simpa using Ne.symm hj
    simp [get?, insert, List.find?_append, hk]

@[simp] lemma next_insert {h : ∀ i, key (mk i) = i} : (t.insert mk h).next = t.next + 1 := rfl

lemma get?_insert_of_some {h : ∀ i, key (mk i) = i} (hr : t.get? j = some r) :
    (t.insert mk h).get? j = some r := by
  rw [get?_insert, if_neg (Nat.ne_of_lt (lt_next_of_get? hr)), hr]

variable {h : ∀ r, key (f r) = key r}

lemma get?_updateWhere :
    (t.updateWhere p f h).get? j = (t.get? j).map fun r => if p r then f r else r := by
  have hkey : ((fun r => key r == j) ∘ fun r => if p r then f r else r)
      = fun r : ρ => key r == j := by
    funext r
    by_cases hp : p r <;> simp [hp, h]
  simp only [get?, updateWhere, List.find?_map, hkey]

@[simp] lemma next_updateWhere : (t.updateWhere p f h).next = t.next := rfl

lemma get?_update : (t.update i f h).get? j = if i = j then (t.get? j).map f else t.get? j := by
  rw [update, get?_updateWhere]
  cases hr : t.get? j with
  | none => simp
  | some r =>
    have hk := key_of_get? hr
    by_cases hij : i = j
    · simp [hij, hk]
    · have : key r ≠ i := fun h => hij (h ▸ hk)
      simp [hij, this]

@[simp] lemma next_update : (t.update i f h).next = t.next := rfl

lemma mem_update : r ∈ (t.update i f h).rows ↔
      (∃ r', r' ∈ t.rows ∧ key r' = i ∧ r = f r') ∨ (r ∈ t.rows ∧ key r ≠ i) := by
  simp only [update, updateWhere, List.mem_map]
  constructor
  · rintro ⟨r', hr', rfl⟩
    by_cases hk : key r' = i
    · exact Or.inl ⟨r', hr', hk, by simp [hk]⟩
    · exact Or.inr ⟨by simpa [hk] using hr', by simp [hk]⟩
  · rintro (⟨r', hr', hk, rfl⟩ | ⟨hr, hk⟩)
    · exact ⟨r', hr', by simp [hk]⟩
    · exact ⟨r, hr, by simp [hk]⟩

lemma of_mem_update {r₀ : ρ} (hget : t.get? i = some r₀) (hr : r ∈ (t.update i f h).rows) :
    r = f r₀ ∨ (r ∈ t.rows ∧ key r ≠ i) := by
  rcases mem_update.mp hr with ⟨r', hr', hk, rfl⟩ | hr
  · rw [eq_of_key_eq hr' (mem_of_get? hget) (hk.trans (key_of_get? hget).symm)]
    exact Or.inl rfl
  · exact Or.inr hr

lemma mem_insert {h : ∀ i, key (mk i) = i} :
    r ∈ (t.insert mk h).rows ↔ r ∈ t.rows ∨ r = mk t.next := by
  simp [insert]

@[simp] lemma map_key_updateWhere : (t.updateWhere p f h).rows.map key = t.rows.map key := by
  rw [updateWhere, List.map_map]
  refine List.map_congr_left fun r _ => ?_
  by_cases hp : p r <;> simp [hp, h]

@[simp] lemma map_key_update : (t.update i f h).rows.map key = t.rows.map key := map_key_updateWhere

lemma eq_of_get?_eq {t' : Table ρ} (hkeys : t.rows.map key = t'.rows.map key)
    (hnext : t.next = t'.next) (hget : ∀ i, t.get? i = t'.get? i) : t = t' := by
  have hrows : t.rows = t'.rows := by
    refine List.ext_getElem? fun n => ?_
    have hkey : t.rows[n]?.map key = t'.rows[n]?.map key := by
      rw [← List.getElem?_map, ← List.getElem?_map, hkeys]
    cases hn : t.rows[n]? with
    | none =>
      rw [hn] at hkey
      exact (Option.map_eq_none_iff.mp hkey.symm).symm
    | some r =>
      rw [hn] at hkey
      obtain ⟨r', hn', heq⟩ := Option.map_eq_some_iff.mp hkey.symm
      have hhere := hget (key r)
      rw [get?_key (List.mem_of_getElem? hn), ← heq, get?_key (List.mem_of_getElem? hn')] at hhere
      rw [hn', hhere]
  cases t
  cases t'
  simp_all

end Table

end Data
