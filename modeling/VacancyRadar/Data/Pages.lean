import Mathlib.Data.List.Nodup

/-!
# Following cursors

A reader gets a page and a cursor, asks for the next page with the cursor, and stops at a page without
one.  The pages have everything once if each one goes on where the cursor was made and gets further.
-/

namespace Data

structure Page (α κ : Type) where
  items : List α
  nextCursor : Option κ

namespace Page

variable {α β κ : Type}

def follow (get : Option κ → Option (Page α κ)) : ℕ → Option κ → Option (List (List α))
  | 0, _ => none
  | fuel + 1, cursor =>
    (get cursor).bind fun page =>
      match page.nextCursor with
      | none => some [page.items]
      | some next => (follow get fuel (some next)).map (page.items :: ·)

def Complete (get : Option κ → Option (Page α κ)) (whole : List α) : Prop :=
  ∃ fuel pages, follow get fuel none = some pages ∧ pages.flatten = whole

def cursorAfter (cursorOf : β → κ) (full : List β) : ℕ → Option κ
  | 0 => none
  | n + 1 => full[n]?.map cursorOf

def between (f : β → List α) (cursorOf : β → κ) (full : List β) (start count : ℕ) : Page α κ where
  items := ((full.drop start).take count).flatMap f
  nextCursor := if start + count < full.length then cursorAfter cursorOf full (start + count) else none

def Serves (get : Option κ → Option (Page α κ)) (f : β → List α) (cursorOf : β → κ) (full : List β) :
    Prop :=
  ∀ start, start = 0 ∨ start < full.length → ∃ count,
    get (cursorAfter cursorOf full start) = some (between f cursorOf full start count) ∧
      (start + count < full.length → 0 < count)

def startAt (found : κ → β → Bool) (full : List β) : Option κ → Option ℕ
  | none => some 0
  | some cursor => (full.findIdx? (found cursor)).map (· + 1)

section

variable {get : Option κ → Option (Page α κ)} {f : β → List α} {cursorOf : β → κ} {full : List β}

lemma exists_cursorAfter {start : ℕ} (hpos : 0 < start) (hstart : start < full.length) :
    ∃ cursor, cursorAfter cursorOf full start = some cursor := by
  cases start with
  | zero => omega
  | succ n => exact ⟨_, by rw [cursorAfter, List.getElem?_eq_getElem (by omega)]; rfl⟩

lemma Serves.follow (h : Serves get f cursorOf full) {fuel start : ℕ}
    (hfuel : full.length - start < fuel) (hstart : start = 0 ∨ start < full.length) :
    ∃ pages, Page.follow get fuel (cursorAfter cursorOf full start) = some pages ∧
      pages.flatten = (full.drop start).flatMap f := by
  induction fuel generalizing start with
  | zero => omega
  | succ fuel ih =>
    obtain ⟨count, hget, hprogress⟩ := h start hstart
    rw [Page.follow, hget, Option.bind_some]
    by_cases hmore : start + count < full.length
    · have hpos := hprogress hmore
      obtain ⟨pages, hpages, hflat⟩ := ih (by omega) (.inr hmore)
      obtain ⟨cursor, hcursor⟩ : ∃ cursor, cursorAfter cursorOf full (start + count) = some cursor :=
        exists_cursorAfter (by omega) hmore
      have hnext : (between f cursorOf full start count).nextCursor = some cursor :=
        (if_pos hmore).trans hcursor
      rw [hcursor] at hpages
      rw [hnext]
      refine ⟨_, congrArg (Option.map _) hpages, ?_⟩
      rw [List.flatten_cons, hflat, between, ← List.flatMap_append, ← List.drop_drop,
        List.take_append_drop]
    · have hnext : (between f cursorOf full start count).nextCursor = none := if_neg hmore
      rw [hnext]
      refine ⟨_, rfl, ?_⟩
      have hall : (full.drop start).take count = full.drop start :=
        List.take_of_length_le (by rw [List.length_drop]; omega)
      rw [List.flatten_singleton, between, hall]

/-- **A reader gets everything, once and in order.** -/
theorem Serves.complete (h : Serves get f cursorOf full) : Complete get (full.flatMap f) := by
  obtain ⟨pages, hpages, hflat⟩ := h.follow (Nat.lt_succ_self _) (.inl rfl)
  exact ⟨_, pages, hpages, hflat⟩

end

/-! ## Lists that are cut into pages -/

section

variable {found : κ → β → Bool} {cursorOf : β → κ} {full : List β}

def Located (found : κ → β → Bool) (cursorOf : β → κ) (full : List β) : Prop :=
  ∀ j (h : j < full.length), j + 1 < full.length →
    full.findIdx? (found (cursorOf (full.get ⟨j, h⟩))) = some j

lemma Located.startAt (h : Located found cursorOf full) {start : ℕ}
    (hstart : start = 0 ∨ start < full.length) :
    Page.startAt found full (cursorAfter cursorOf full start) = some start := by
  cases start with
  | zero => rfl
  | succ n =>
    have hlt : n + 1 < full.length := by omega
    have hget : full[n]? = some (full.get ⟨n, by omega⟩) := List.getElem?_eq_getElem (by omega)
    rw [cursorAfter, hget, Option.map_some, Page.startAt, h n (by omega) hlt]
    rfl

lemma located_of_nodup {δ : Type} {key : β → δ} (hnodup : (full.dropLast.map key).Nodup)
    (hfound : ∀ a b, found (cursorOf a) b = true ↔ key b = key a) : Located found cursorOf full := by
  intro j h hlast
  refine List.findIdx?_eq_some_iff_getElem.mpr ⟨h, (hfound _ _).mpr rfl, fun i hi => ?_⟩
  intro hsame
  have hkey := (hfound _ _).mp hsame
  have hlength : full.dropLast.length = full.length - 1 := List.length_dropLast
  have hi' : i < (full.dropLast.map key).length := by rw [List.length_map]; omega
  have hj' : j < (full.dropLast.map key).length := by rw [List.length_map]; omega
  have hsame' : (full.dropLast.map key)[i] = (full.dropLast.map key)[j] := by simpa using hkey
  have heq : i = j := hnodup.getElem_inj_iff.mp hsame'
  omega

def slice (cursorOf : β → κ) (full : List β) (limit start : ℕ) : Page β κ :=
  let page := (full.drop start).take limit
  { items := page
    nextCursor := if start + limit < full.length then page.getLast?.map cursorOf else none }

lemma slice_eq_between {limit start : ℕ} (hlimit : 0 < limit) :
    slice cursorOf full limit start = between (fun b => [b]) cursorOf full start limit := by
  unfold slice between
  dsimp only
  rw [List.flatMap_singleton']
  by_cases hmore : start + limit < full.length
  · have hlength : ((full.drop start).take limit).length = limit := by
      rw [List.length_take, List.length_drop]
      omega
    have hlast : ((full.drop start).take limit).getLast? = full[start + limit - 1]? := by
      rw [List.getLast?_eq_getElem?, hlength, List.getElem?_take, if_pos (by omega), List.getElem?_drop]
      congr 1
      omega
    obtain ⟨n, hn⟩ : ∃ n, start + limit = n + 1 := ⟨start + limit - 1, by omega⟩
    rw [if_pos hmore, if_pos hmore, hlast, hn, cursorAfter, Nat.add_sub_cancel]
  · rw [if_neg hmore, if_neg hmore]

/-- A list that is cut into pages is served as a whole. -/
theorem Located.serves (h : Located found cursorOf full) {limit : ℕ} (hlimit : 0 < limit) :
    Serves (fun cursor => (Page.startAt found full cursor).map (slice cursorOf full limit))
      (fun b => [b]) cursorOf full := by
  intro start hstart
  refine ⟨limit, ?_, fun _ => hlimit⟩
  dsimp only
  rw [h.startAt hstart, Option.map_some, slice_eq_between hlimit]

end

end Page

end Data
