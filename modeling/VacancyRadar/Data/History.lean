import Mathlib.Tactic.Common

/-!
# Histories

A history is a list of revisions, the newest first, each of which holds some keys, with a status each.
If every revision gives a key only a status that may follow the one that the key was last held with,
then a status that nothing may follow is kept for good, also by a key that was left out for a while,
and from one status to another a key goes through those in between.
-/

namespace Data

variable {ρ κ σ : Type} (status : ρ → κ → Option σ)

def lastHeld (history : List ρ) (key : κ) : Option σ := history.findSome? fun revision => status revision key

def Follows (next : σ → σ → Prop) : List ρ → Prop
  | [] => True
  | revision :: history =>
    (∀ key s t, lastHeld status history key = some s → status revision key = some t → next s t) ∧
      Follows next history

variable {status} {next : σ → σ → Prop} {history : List ρ} {revision earlier later : ρ} {key : κ}
variable {s t : σ}

@[simp] lemma lastHeld_cons_of_some (h : status revision key = some s) :
    lastHeld status (revision :: history) key = some s := by
  simp [lastHeld, h]

@[simp] lemma lastHeld_cons_of_none (h : status revision key = none) :
    lastHeld status (revision :: history) key = lastHeld status history key := by
  simp [lastHeld, h]

lemma exists_lastHeld (hmem : earlier ∈ history) (hs : status earlier key = some s) :
    ∃ t, lastHeld status history key = some t := by
  refine Option.isSome_iff_exists.mp ?_
  simp only [lastHeld, List.findSome?_isSome_iff]
  exact ⟨earlier, hmem, by simp [hs]⟩

lemma Follows.lastHeld_mem {S : σ → Prop} (h : Follows status next history)
    (hclosed : ∀ s t, S s → next s t → S t) (hmem : earlier ∈ history)
    (hearlier : status earlier key = some s) (hs : S s) (ht : lastHeld status history key = some t) :
    S t := by
  induction history generalizing t with
  | nil => cases hmem
  | cons revision history ih =>
    obtain ⟨hhead, hrest⟩ := h
    rcases hrevision : status revision key with _ | s'
    · -- The key is held neither by this revision nor is this revision the earlier one.
      rw [lastHeld_cons_of_none hrevision] at ht
      rcases List.mem_cons.mp hmem with rfl | hmem
      · simp [hrevision] at hearlier
      · exact ih hrest hmem ht
    · rw [lastHeld_cons_of_some hrevision] at ht
      cases ht
      rcases List.mem_cons.mp hmem with rfl | hmem
      · cases hearlier.symm.trans hrevision
        exact hs
      · obtain ⟨last, hlast⟩ := exists_lastHeld hmem hearlier
        exact hclosed last t (ih hrest hmem hlast) (hhead key last t hlast hrevision)

lemma Follows.pairwise {S : σ → Prop} (h : Follows status next history)
    (hclosed : ∀ s t, S s → next s t → S t) :
    history.Pairwise fun later earlier => ∀ key s t,
      status earlier key = some s → S s → status later key = some t → S t := by
  induction history with
  | nil => exact .nil
  | cons revision history ih =>
    refine .cons ?_ (ih h.2)
    intro earlier hmem key s t hearlier hs ht
    obtain ⟨last, hlast⟩ := exists_lastHeld hmem hearlier
    exact hclosed last t (h.2.lastHeld_mem hclosed hmem hearlier hs hlast) (h.1 key last t hlast ht)

lemma Follows.exists_between {goal middle : σ} {between older : List ρ}
    (h : Follows status next (between ++ earlier :: older))
    (hnext : ∀ s, next s goal → s = goal ∨ s = middle) (hgoal : s ≠ goal) (hmiddle : s ≠ middle)
    (hlast : ∀ t, lastHeld status (between ++ earlier :: older) key = some t → next t goal)
    (hearlier : status earlier key = some s) :
    ∃ revision ∈ between, status revision key = some middle := by
  induction between with
  | nil =>
    rcases hnext s (hlast s (lastHeld_cons_of_some hearlier)) with heq | heq
    · exact absurd heq hgoal
    · exact absurd heq hmiddle
  | cons revision between ih =>
    rcases hrevision : status revision key with _ | s'
    · obtain ⟨found, hfound, hstatus⟩ := ih h.2 fun t ht => hlast t (by
        rw [List.cons_append, lastHeld_cons_of_none hrevision]
        exact ht)
      exact ⟨found, List.mem_cons_of_mem _ hfound, hstatus⟩
    · rcases hnext s' (hlast s' (lastHeld_cons_of_some hrevision)) with rfl | rfl
      · -- The key had the status already, so that the search goes on before this revision.
        obtain ⟨found, hfound, hstatus⟩ := ih h.2 fun t ht => h.1 key t s' ht hrevision
        exact ⟨found, List.mem_cons_of_mem _ hfound, hstatus⟩
      · exact ⟨revision, List.mem_cons_self, hrevision⟩

lemma Follows.of_append {newer : List ρ} (h : Follows status next (newer ++ history)) :
    Follows status next history := by
  induction newer with
  | nil => exact h
  | cons revision newer ih => exact ih h.2

end Data
