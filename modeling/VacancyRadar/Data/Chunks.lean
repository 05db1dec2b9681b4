import VacancyRadar.Data.Lines

/-!
# Logs in the order in which they were written

Every entry adds its line to the log, or a part of it if the write fails.  What can be read later are
some of the entries, in the order in which they were written, wherever the log was cut off.
-/

namespace Data.LineCode

variable {α ε : Type} {code : LineCode α ε} {es : List ε} {raw : List α} {e : ε}

inductive Chunks (code : LineCode α ε) : List ε → List α → Prop
  | nil : Chunks code [] []
  | add {es : List ε} {raw chunk : List α} {e : ε} : Chunks code es raw → chunk <+: code.line e →
      Chunks code (es ++ [e]) (raw ++ chunk)

lemma Chunks.append_line (h : code.Chunks es raw) (e : ε) :
    code.Chunks (es ++ [e]) (raw ++ code.line e) := h.add (List.prefix_refl _)

lemma Chunks.render (es : List ε) : code.Chunks es (code.render es) := by
  induction es using List.reverseRecOn with
  | nil => exact .nil
  | append_singleton es e ih =>
    rw [render_append]
    have hline : code.render [e] = code.line e := by rw [render_cons, render_nil, List.append_nil]
    rw [hline]
    exact ih.append_line e

lemma Chunks.take (h : code.Chunks es raw) (n : ℕ) : code.Chunks es (raw.take n) := by
  induction h generalizing n with
  | nil =>
    rw [List.take_nil]
    exact .nil
  | add h hchunk ih =>
    rw [List.take_append]
    exact (ih n).add ((List.take_prefix ..).trans hchunk)

lemma Chunks.written (h : code.Chunks es raw) : code.Written raw := by
  induction h with
  | nil => exact Written.render []
  | add h hchunk ih =>
    rw [List.prefix_iff_eq_take.mp hchunk]
    exact ih.append_take _ _

/-! ## What can be read -/

structure Group (code : LineCode α ε) where
  entries : List ε
  text : List α
  parts : code.PartsOf (· ∈ entries) text

lemma PartsOf.of_mem_append {es' : List ε} (h : code.PartsOf (· ∈ es) raw) :
    code.PartsOf (· ∈ es ++ es') raw := h.imp fun _ he => List.mem_append_left _ he

def Group.add (group : Group code) {e : ε} {p : List α} (hp : p <+: code.encode e) : Group code where
  entries := group.entries ++ [e]
  text := group.text ++ p
  parts := group.parts.of_mem_append.append (List.mem_append_right _ List.mem_cons_self) hp

lemma Chunks.exists_groups (h : code.Chunks es raw) : ∃ (lines : List (Group code)) (last : Group code),
    es = lines.flatMap Group.entries ++ last.entries ∧
      raw = code.join (lines.map Group.text) ++ last.text ∧ ∀ line ∈ lines, line.text ≠ [] := by
  induction h with
  | nil => exact ⟨[], ⟨[], [], PartsOf.nil⟩, rfl, rfl, by simp⟩
  | @add es raw chunk e h hchunk ih =>
    obtain ⟨lines, last, rfl, rfl, hne⟩ := ih
    rcases List.prefix_concat_iff.mp hchunk with rfl | hpart
    · -- The line is ended.
      refine ⟨lines ++ [last.add (List.prefix_refl (code.encode e))], ⟨[], [], PartsOf.nil⟩, ?_, ?_, ?_⟩
      · simp [Group.add]
      · simp [Group.add, join]
      · intro line hline
        rcases List.mem_append.mp hline with hold | hnew
        · exact hne line hold
        · rw [List.mem_singleton.mp hnew]
          exact List.append_ne_nil_of_right_ne_nil _ encode_ne_nil
    · exact ⟨lines, last.add hpart, by simp [Group.add], by simp [Group.add], hne⟩

lemma decodeWhile_sublist (lines : List (Group code)) :
    (code.decodeWhile (lines.map Group.text)).Sublist (lines.flatMap Group.entries) := by
  induction lines with
  | nil => exact List.Sublist.refl _
  | cons line lines ih =>
    rw [List.map_cons, decodeWhile, List.flatMap_cons]
    cases hdecode : code.decode line.text with
    | none => exact List.nil_sublist _
    | some e => exact (List.singleton_sublist.mpr (line.parts.of_decode hdecode)).append ih

/-- **What can be read** are some of the entries, in their order. -/
theorem Chunks.read_sublist [DecidableEq α] (h : code.Chunks es raw) : (code.read raw).Sublist es := by
  obtain ⟨lines, last, rfl, rfl, hne⟩ := h.exists_groups
  have hlines : ∀ text ∈ lines.map Group.text, text ≠ [] ∧ code.Torn text := by
    intro text htext
    obtain ⟨line, hline, rfl⟩ := List.mem_map.mp htext
    exact ⟨hne line hline, line.parts.torn⟩
  rw [read_join hlines last.parts.torn]
  by_cases hnil : last.text = []
  · rw [if_pos hnil, List.append_nil]
    exact (decodeWhile_sublist lines).trans (List.sublist_append_left ..)
  · have hall := decodeWhile_sublist (lines ++ [last])
    rw [List.map_append, List.flatMap_append, List.flatMap_singleton] at hall
    rwa [if_neg hnil]

end Data.LineCode
