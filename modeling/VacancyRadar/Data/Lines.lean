import Mathlib.Algebra.BigOperators.Group.List.Basic
import Mathlib.Data.List.Infix
import Mathlib.Data.List.Pairwise

/-!
# Logs of lines

A log is a text whose lines are the codes of entries.  Entries are appended one by one, and a writer
that is stopped or fails leaves a part of a line at the end.  The log can be read up to the first
line that cannot be read, and it can be repaired: everything from the first line that cannot be read,
or that is out of order, is cut off.
-/

namespace Data

structure LineCode (α ε : Type) where
  newline : α
  encode : ε → List α
  decode : List α → Option ε
  decode_encode : ∀ e, decode (encode e) = some e
  newline_notMem : ∀ e, newline ∉ encode e
  /-- No line is the beginning of another one. -/
  eq_of_isPrefix : ∀ e e', encode e <+: encode e' → e = e'
  /-- Torn lines that are put together can be read only if they are one whole line. -/
  eq_of_decode : ∀ pieces : List (List α), (∀ p ∈ pieces, p ≠ [] ∧ ∃ e, p <+: encode e) →
    ∀ e, decode pieces.flatten = some e → pieces = [encode e]

namespace LineCode

variable {α ε : Type} [DecidableEq α] (code : LineCode α ε)

def line (e : ε) : List α := code.encode e ++ [code.newline]

def render (es : List ε) : List α := es.flatMap code.line

def decodeWhile : List (List α) → List ε
  | [] => []
  | line :: rest =>
    match code.decode line with
    | some e => e :: decodeWhile rest
    | none => []

/-- Read a log.  Lines without any text are passed over. -/
def read (raw : List α) : List ε :=
  code.decodeWhile ((raw.splitOn code.newline).filter fun line => line ≠ [])

def decodeAscending (key : ε → ℕ) : ℕ → List (List α) → List ε
  | _, [] => []
  | bound, line :: rest =>
    match code.decode line with
    | some e => if key e < bound then [] else e :: decodeAscending key (key e + 1) rest
    | none => []

structure Repair (α ε : Type) where
  entries : List ε
  change : Option (List α × List α)

def Repair.log (repair : Repair α ε) (raw : List α) : List α :=
  (repair.change.map Prod.fst).getD raw

def repair (key : ε → ℕ) (raw : List α) : Repair α ε :=
  if raw = [] then ⟨[], none⟩
  else
    let pieces := raw.splitOn code.newline
    let ended := pieces.getLast? = some []
    let lines := if ended then pieces.dropLast else pieces
    let good := code.decodeAscending key 0 lines
    if good.length = lines.length ∧ ended then ⟨good, none⟩
    else
      let kept := (lines.take good.length).flatMap fun line => line ++ [code.newline]
      let cut := [code.newline].intercalate (lines.drop good.length)
      ⟨good, some (kept, if cut = [] then [] else cut ++ [code.newline])⟩

def lastLine (raw : List α) : ℕ :=
  match (raw.splitOn code.newline).reverse with
  | [] :: line :: _ => line.length + 1
  | line :: _ => line.length
  | [] => 0

def tear (n : ℕ) (raw : List α) : List α := raw.take (raw.length - min n (code.lastLine raw))

/-! ## Torn lines -/

/-- The text is put together from parts of lines. -/
def Torn (tail : List α) : Prop :=
  ∃ pieces : List (List α), (∀ p ∈ pieces, p ≠ [] ∧ ∃ e, p <+: code.encode e) ∧
    tail = pieces.flatten

variable {code} {es : List ε} {tail raw : List α} {e : ε}

omit [DecidableEq α] in
lemma Torn.nil : code.Torn [] := ⟨[], by simp, rfl⟩

omit [DecidableEq α] in
lemma Torn.newline_notMem (h : code.Torn tail) : code.newline ∉ tail := by
  obtain ⟨pieces, hpieces, rfl⟩ := h
  intro hmem
  obtain ⟨p, hp, hin⟩ := List.mem_flatten.mp hmem
  obtain ⟨-, e, hbegin⟩ := hpieces p hp
  exact code.newline_notMem e (hbegin.subset hin)

variable {p : List α} {lines : List (List α)} {bound : ℕ}

omit [DecidableEq α] in
lemma Torn.append (h : code.Torn tail) (hp : p <+: code.encode e) : code.Torn (tail ++ p) := by
  obtain ⟨pieces, hpieces, rfl⟩ := h
  by_cases hnil : p = []
  · exact ⟨pieces, hpieces, by simp [hnil]⟩
  · refine ⟨pieces ++ [p], ?_, by simp⟩
    intro q hq
    rcases List.mem_append.mp hq with hold | hnew
    · exact hpieces q hold
    · rw [List.mem_singleton.mp hnew]
      exact ⟨hnil, e, hp⟩

omit [DecidableEq α] in
lemma Torn.of_prefix_encode (h : tail <+: code.encode e) : code.Torn tail := Torn.nil.append h

omit [DecidableEq α] in
lemma Torn.of_isPrefix {tail' : List α} (h : code.Torn tail) (hbegin : tail' <+: tail) :
    code.Torn tail' := by
  obtain ⟨pieces, hpieces, rfl⟩ := h
  induction pieces generalizing tail' with
  | nil =>
    obtain rfl : tail' = [] := List.prefix_nil.mp hbegin
    exact Torn.nil
  | cons p rest ih =>
    obtain ⟨hne, e, hp⟩ := hpieces p List.mem_cons_self
    by_cases hlen : tail'.length ≤ p.length
    · have : tail' <+: p := List.prefix_of_prefix_length_le hbegin (List.prefix_append ..) hlen
      exact Torn.of_prefix_encode (this.trans hp)
    · have hback : p <+: tail' :=
        List.prefix_of_prefix_length_le (List.prefix_append ..) hbegin (by omega)
      obtain ⟨q, rfl⟩ := hback
      have hq : q <+: rest.flatten := (List.prefix_append_right_inj p).mp hbegin
      obtain ⟨pieces, hall, rfl⟩ := ih (fun p hp => hpieces p (List.mem_cons_of_mem _ hp)) hq
      refine ⟨p :: pieces, ?_, by simp⟩
      intro q' hq'
      rcases List.mem_cons.mp hq' with rfl | hrest
      · exact ⟨hne, e, hp⟩
      · exact hall q' hrest

omit [DecidableEq α] in
lemma Torn.eq_encode (h : code.Torn tail) (hdecode : code.decode tail = some e) :
    tail = code.encode e := by
  obtain ⟨pieces, hpieces, rfl⟩ := h
  rw [code.eq_of_decode pieces hpieces e hdecode]
  simp

omit [DecidableEq α] in
@[simp] lemma decode_nil : code.decode [] = none := by
  cases h : code.decode [] with
  | none => rfl
  | some e => exact absurd (code.eq_of_decode [] (by simp) e (by simpa using h)) (by simp)

omit [DecidableEq α] in
lemma encode_ne_nil : code.encode e ≠ [] := by
  intro h
  have hdecode := code.decode_encode e
  rw [h, decode_nil] at hdecode
  cases hdecode

/-! ## Reading -/

omit [DecidableEq α] in
@[simp] lemma render_nil : code.render [] = [] := rfl

omit [DecidableEq α] in
@[simp] lemma render_cons : code.render (e :: es) = code.line e ++ code.render es := rfl

omit [DecidableEq α] in
lemma render_append (es es' : List ε) : code.render (es ++ es') = code.render es ++ code.render es' :=
  List.flatMap_append

def join (code : LineCode α ε) (lines : List (List α)) : List α :=
  lines.flatMap fun line => line ++ [code.newline]

omit [DecidableEq α] in
lemma join_map_encode (es : List ε) : code.join (es.map code.encode) = code.render es := by
  rw [join, List.flatMap_map]
  rfl

lemma splitOn_join (hlines : ∀ line ∈ lines, code.newline ∉ line) (h : code.newline ∉ tail) :
    (code.join lines ++ tail).splitOn code.newline = lines ++ [tail] := by
  induction lines with
  | nil => exact List.splitOn_eq_singleton h
  | cons line rest ih =>
    have htext : code.join (line :: rest) ++ tail = line ++ code.newline :: (code.join rest ++ tail) := by
      simp [join]
    rw [htext, List.splitOn_append_cons_self_of_not_mem (hlines line List.mem_cons_self),
      ih fun line hline => hlines line (List.mem_cons_of_mem _ hline)]
    rfl

lemma splitOn_render (h : code.newline ∉ tail) :
    (code.render es ++ tail).splitOn code.newline = es.map code.encode ++ [tail] := by
  rw [← join_map_encode]
  refine splitOn_join (fun line hline => ?_) h
  obtain ⟨e, -, rfl⟩ := List.mem_map.mp hline
  exact code.newline_notMem e

omit [DecidableEq α] in
lemma decodeWhile_map (lines : List (List α)) :
    code.decodeWhile (es.map code.encode ++ lines) = es ++ code.decodeWhile lines := by
  induction es with
  | nil => rfl
  | cons e es ih => simp [decodeWhile, code.decode_encode, ih]

lemma read_render (h : code.newline ∉ tail) :
    code.read (code.render es ++ tail) = es ++ (code.decode tail).toList := by
  have hlines : (es.map code.encode).filter (fun line => line ≠ []) = es.map code.encode := by
    refine List.filter_eq_self.mpr fun line hline => ?_
    obtain ⟨e, -, rfl⟩ := List.mem_map.mp hline
    simpa using encode_ne_nil
  rw [read, splitOn_render h, List.filter_append, hlines, decodeWhile_map]
  by_cases hnil : tail = []
  · simp [hnil, decodeWhile]
  · cases hdecode : code.decode tail with
    | none => simp [hnil, decodeWhile, hdecode]
    | some e => simp [hnil, decodeWhile, hdecode]

lemma read_render_nil : code.read (code.render es) = es := by
  have h : code.read (code.render es ++ []) = es ++ (code.decode []).toList := read_render (by simp)
  simpa using h

/-! ## Ascending entries -/

variable {key : ε → ℕ}

def ascending (key : ε → ℕ) : ℕ → List ε → List ε
  | _, [] => []
  | bound, e :: es => if key e < bound then [] else e :: ascending key (key e + 1) es

def Ascending (key : ε → ℕ) (es : List ε) : Prop := es.Pairwise fun e e' => key e < key e'

lemma le_of_mem_ascending (h : e ∈ ascending key bound es) : bound ≤ key e := by
  induction es generalizing bound with
  | nil => cases h
  | cons e' es ih =>
    unfold ascending at h
    split at h
    · cases h
    · rcases List.mem_cons.mp h with rfl | hrest
      · omega
      · have := ih hrest
        omega

lemma ascending_ascending (bound : ℕ) (es : List ε) : Ascending key (ascending key bound es) := by
  induction es generalizing bound with
  | nil => exact List.Pairwise.nil
  | cons e es ih =>
    unfold ascending
    split
    · exact List.Pairwise.nil
    · refine List.pairwise_cons.mpr ⟨fun e' he' => ?_, ih _⟩
      have := le_of_mem_ascending he'
      omega

lemma ascending_eq_self (hbound : ∀ e ∈ es, bound ≤ key e) (h : Ascending key es) :
    ascending key bound es = es := by
  induction es generalizing bound with
  | nil => rfl
  | cons e es ih =>
    obtain ⟨hhead, htail⟩ := List.pairwise_cons.mp h
    have hle := hbound e List.mem_cons_self
    rw [ascending, if_neg (by omega)]
    rw [ih (fun e' he' => hhead e' he') htail]

lemma ascending_zero_eq_self (h : Ascending key es) : ascending key 0 es = es :=
  ascending_eq_self (fun _ _ => Nat.zero_le _) h

/-! ## Repairing -/

omit [DecidableEq α] in
lemma decodeAscending_eq (bound : ℕ) (lines : List (List α)) :
    code.decodeAscending key bound lines = ascending key bound (code.decodeWhile lines) := by
  induction lines generalizing bound with
  | nil => rfl
  | cons line rest ih =>
    unfold decodeAscending decodeWhile
    cases code.decode line with
    | none => rfl
    | some e =>
      dsimp only
      rw [ascending, ih]

variable (key) in
omit [DecidableEq α] in
lemma take_length_ascending (h : ∀ line ∈ lines, code.Torn line) (bound : ℕ) :
    lines.take (ascending key bound (code.decodeWhile lines)).length =
      (ascending key bound (code.decodeWhile lines)).map code.encode := by
  induction lines generalizing bound with
  | nil => rfl
  | cons line rest ih =>
    unfold decodeWhile
    cases hdecode : code.decode line with
    | none => rfl
    | some e =>
      rw [ascending]
      split
      · rfl
      · rw [List.length_cons, List.take_succ_cons, List.map_cons,
          (h line List.mem_cons_self).eq_encode hdecode,
          ih fun line hline => h line (List.mem_cons_of_mem _ hline)]

def Written (code : LineCode α ε) (raw : List α) : Prop :=
  ∃ lines tail, (∀ line ∈ lines, line ≠ [] ∧ code.Torn line) ∧ code.Torn tail ∧
    raw = code.join lines ++ tail

def Stopped (code : LineCode α ε) (raw : List α) : Prop :=
  ∃ es tail, (tail = [] ∨ ∃ e, tail <+: code.encode e) ∧ raw = code.render es ++ tail

omit [DecidableEq α] in
lemma torn_encode (e : ε) : code.Torn (code.encode e) := Torn.of_prefix_encode (List.prefix_refl _)

omit [DecidableEq α] in
lemma written_render_append (es : List ε) (h : code.Torn tail) :
    code.Written (code.render es ++ tail) := by
  refine ⟨es.map code.encode, tail, fun line hline => ?_, h, by rw [join_map_encode]⟩
  obtain ⟨e, -, rfl⟩ := List.mem_map.mp hline
  exact ⟨encode_ne_nil, torn_encode e⟩

omit [DecidableEq α] in
lemma Written.render (es : List ε) : code.Written (code.render es) := by
  have h : code.Written (code.render es ++ []) := written_render_append es Torn.nil
  rwa [List.append_nil] at h

omit [DecidableEq α] in
lemma Stopped.written (h : code.Stopped raw) : code.Written raw := by
  obtain ⟨es, tail, rfl | ⟨e, htail⟩, rfl⟩ := h
  · exact written_render_append es Torn.nil
  · exact written_render_append es (Torn.of_prefix_encode htail)

omit [DecidableEq α] in
lemma Stopped.render (es : List ε) : code.Stopped (code.render es) :=
  ⟨es, [], .inl rfl, (List.append_nil _).symm⟩

lemma read_join (hlines : ∀ line ∈ lines, line ≠ [] ∧ code.Torn line) (htail : code.Torn tail) :
    code.read (code.join lines ++ tail) =
      code.decodeWhile (lines ++ if tail = [] then [] else [tail]) := by
  rw [read, splitOn_join (fun line hline => (hlines line hline).2.newline_notMem)
    htail.newline_notMem, List.filter_append]
  have hkeep : lines.filter (fun line => line ≠ []) = lines :=
    List.filter_eq_self.mpr fun line hline => decide_eq_true (hlines line hline).1
  rw [hkeep]
  by_cases hnil : tail = []
  · simp [hnil]
  · simp [hnil]

/-- A repair keeps the entries that can be read, as long as they ascend, and nothing else. -/
theorem Written.repair (h : code.Written raw) :
    (code.repair key raw).entries = ascending key 0 (code.read raw) ∧
      (code.repair key raw).log raw = code.render (ascending key 0 (code.read raw)) := by
  obtain ⟨lines, tail, hlines, htail, rfl⟩ := h
  have htorn : ∀ line ∈ lines, code.Torn line := fun line hline => (hlines line hline).2
  have hsplit := splitOn_join (fun line hline => (htorn line hline).newline_notMem)
    htail.newline_notMem
  rw [read_join hlines htail]
  unfold LineCode.repair
  split
  · rename_i hnil
    obtain ⟨hjoin, rfl⟩ := List.append_eq_nil_iff.mp hnil
    cases lines with
    | nil => exact ⟨rfl, rfl⟩
    | cons line rest => simp [join] at hjoin
  · dsimp only
    rw [hsplit]
    by_cases hnil : tail = []
    · subst hnil
      have htake := take_length_ascending key htorn 0
      simp only [List.getLast?_append, List.getLast?_singleton, Option.some_or, ↓reduceIte,
        List.dropLast_concat, List.append_nil, and_true, decodeAscending_eq]
      split
      · rename_i hlen
        refine ⟨rfl, ?_⟩
        rw [hlen, List.take_length] at htake
        rw [← join_map_encode, ← htake]
        rfl
      · refine ⟨rfl, ?_⟩
        rw [← join_map_encode, ← htake]
        rfl
    · have htorn' : ∀ line ∈ lines ++ [tail], code.Torn line := by
        intro line hline
        rcases List.mem_append.mp hline with hold | hlast
        · exact htorn line hold
        · rw [List.mem_singleton.mp hlast]
          exact htail
      have htake := take_length_ascending key htorn' 0
      simp only [List.getLast?_append, List.getLast?_singleton, Option.some_or, Option.some.injEq,
        hnil, ↓reduceIte, and_false, decodeAscending_eq]
      refine ⟨trivial, ?_⟩
      rw [← join_map_encode, ← htake]
      rfl

lemma repair_render (h : Ascending key es) : code.repair key (code.render es) = ⟨es, none⟩ := by
  unfold LineCode.repair
  split
  · rename_i hnil
    cases es with
    | nil => rfl
    | cons e es => simp [line] at hnil
  · have hsplit : (code.render es ++ []).splitOn code.newline = es.map code.encode ++ [[]] :=
      splitOn_render (by simp)
    rw [List.append_nil] at hsplit
    have hall : code.decodeWhile (es.map code.encode) = es := by
      have hread : code.decodeWhile (es.map code.encode ++ []) = es ++ code.decodeWhile [] :=
        decodeWhile_map []
      rwa [List.append_nil, decodeWhile, List.append_nil] at hread
    rw [hsplit]
    simp [decodeAscending_eq, hall, ascending_zero_eq_self h]

/-! ## Writing -/

omit [DecidableEq α] in
lemma Written.append_prefix (h : code.Written raw) (hp : p <+: code.encode e) :
    code.Written (raw ++ p) := by
  obtain ⟨lines, tail, hlines, htail, rfl⟩ := h
  exact ⟨lines, tail ++ p, hlines, htail.append hp, by rw [List.append_assoc]⟩

omit [DecidableEq α] in
lemma Written.append_take (h : code.Written raw) (e : ε) (n : ℕ) :
    code.Written (raw ++ (code.line e).take n) := by
  by_cases hn : n ≤ (code.encode e).length
  · rw [line, List.take_append_of_le_length hn]
    exact h.append_prefix (List.take_prefix ..)
  · obtain ⟨lines, tail, hlines, htail, rfl⟩ := h
    have hwhole : (code.line e).take n = code.encode e ++ [code.newline] :=
      List.take_of_length_le (by simp [line]; omega)
    refine ⟨lines ++ [tail ++ code.encode e], [], fun line hline => ?_, Torn.nil, ?_⟩
    · rcases List.mem_append.mp hline with hold | hlast
      · exact hlines line hold
      · rw [List.mem_singleton.mp hlast]
        refine ⟨fun hnil => encode_ne_nil (List.append_eq_nil_iff.mp hnil).2, ?_⟩
        exact htail.append (List.prefix_refl (code.encode e))
    · rw [hwhole]
      simp [join]

lemma Written.tear (h : code.Written raw) (n : ℕ) : code.Written (code.tear n raw) := by
  obtain ⟨lines, tail, hlines, htail, rfl⟩ := h
  have hsplit := splitOn_join (fun line hline => (hlines line hline).2.newline_notMem)
    htail.newline_notMem
  unfold LineCode.tear lastLine
  rw [hsplit, List.reverse_append]
  by_cases hnil : tail = []
  · subst hnil
    rcases List.eq_nil_or_concat lines with rfl | ⟨lines, line, rfl⟩
    · simpa [join] using Written.render []
    · have hlast := hlines line (by simp)
      have hothers : ∀ line ∈ lines, line ≠ [] ∧ code.Torn line := fun line hline =>
        hlines line (by simp [hline])
      have htake : (code.join (lines.concat line) ++ []).take
          ((code.join (lines.concat line) ++ []).length - min n (line.length + 1)) =
          code.join lines ++ (line ++ [code.newline]).take (line.length + 1 - n) := by
        have hlen : (code.join (lines.concat line) ++ []).length - min n (line.length + 1) =
            (code.join lines).length + (line.length + 1 - n) := by
          simp [join]
          omega
        rw [hlen]
        simp [join, List.take_append]
      simp only [List.concat_eq_append, List.reverse_append, List.reverse_cons, List.reverse_nil,
        List.nil_append, List.cons_append] at htake ⊢
      rw [htake]
      by_cases hn : n = 0
      · refine ⟨lines ++ [line], [], ?_, Torn.nil, ?_⟩
        · simpa using hlines
        · simp [hn, join]
      · refine ⟨lines, line.take (line.length + 1 - n), hothers, ?_, ?_⟩
        · exact hlast.2.of_isPrefix (List.take_prefix ..)
        · rw [List.take_append_of_le_length (by omega)]
  · have htake : (code.join lines ++ tail).take
        ((code.join lines ++ tail).length - min n tail.length) =
        code.join lines ++ tail.take (tail.length - n) := by
      have hlen : (code.join lines ++ tail).length - min n tail.length =
          (code.join lines).length + (tail.length - n) := by
        rw [List.length_append]
        omega
      rw [hlen, List.take_length_add_append]
    have hlast : (match [tail].reverse ++ lines.reverse with
        | [] :: line :: _ => line.length + 1
        | line :: _ => line.length
        | [] => 0) = tail.length := by
      cases tail with
      | nil => exact absurd rfl hnil
      | cons c rest => rfl
    rw [hlast, htake]
    exact ⟨lines, _, hlines, htail.of_isPrefix (List.take_prefix ..), rfl⟩

omit [DecidableEq α] in
lemma toList_decode_of_isPrefix (h : tail <+: code.encode e) :
    (code.decode tail).toList <+: [e] := by
  cases hdecode : code.decode tail with
  | none => exact List.nil_prefix
  | some e' =>
    have heq := (Torn.of_prefix_encode h).eq_encode hdecode
    rw [code.eq_of_isPrefix e' e (heq ▸ h)]
    exact List.prefix_refl _

lemma stopped_take_line (code : LineCode α ε) (e : ε) (n : ℕ) :
    code.Stopped (code.render es ++ (code.line e).take n) ∧
      ∃ es', es' <+: [e] ∧ code.read (code.render es ++ (code.line e).take n) = es ++ es' := by
  by_cases hn : n ≤ (code.encode e).length
  · have htake : (code.line e).take n = (code.encode e).take n :=
      List.take_append_of_le_length hn
    have hbegin : (code.encode e).take n <+: code.encode e := List.take_prefix ..
    have htorn : code.Torn ((code.encode e).take n) := Torn.of_prefix_encode hbegin
    rw [htake, read_render htorn.newline_notMem]
    exact ⟨⟨es, _, .inr ⟨e, hbegin⟩, rfl⟩, _, toList_decode_of_isPrefix hbegin, rfl⟩
  · have hline : code.render es ++ (code.line e).take n = code.render (es ++ [e]) := by
      rw [List.take_of_length_le (by simp [line]; omega), render_append]
      simp
    rw [hline, read_render_nil]
    exact ⟨Stopped.render _, [e], List.prefix_refl _, rfl⟩

lemma Stopped.tear (h : code.Stopped raw) (n : ℕ) :
    code.Stopped (code.tear n raw) ∧ code.read (code.tear n raw) <+: code.read raw := by
  obtain ⟨es, tail, htail, rfl⟩ := h
  by_cases hnil : tail = []
  · subst hnil
    unfold LineCode.tear lastLine
    rw [splitOn_render (by simp), read_render (by simp)]
    rcases List.eq_nil_or_concat es with rfl | ⟨es, e, rfl⟩
    · exact ⟨by simpa using Stopped.render [], by simp [read, decodeWhile]⟩
    · have hlen : (code.render (es.concat e) ++ []).length -
          min n ((code.encode e).length + 1) =
          (code.render es).length + ((code.encode e).length + 1 - n) := by
        simp [render_append, line]
        omega
      have htake : (code.render (es.concat e) ++ []).take
          ((code.render es).length + ((code.encode e).length + 1 - n)) =
          code.render es ++ (code.line e).take ((code.encode e).length + 1 - n) := by
        simp [render_append, List.take_append]
      simp only [List.concat_eq_append, List.map_append, List.map_cons, List.map_nil,
        List.append_assoc, List.reverse_append, List.reverse_cons, List.reverse_nil, List.nil_append,
        List.cons_append] at hlen htake ⊢
      rw [hlen, htake]
      obtain ⟨hstopped, es', hes', hread⟩ :=
        stopped_take_line code e ((code.encode e).length + 1 - n)
      refine ⟨hstopped, ?_⟩
      rw [hread]
      simpa using hes'
  · obtain ⟨e, hbegin⟩ := htail.resolve_left hnil
    have hnot := (Torn.of_prefix_encode hbegin).newline_notMem
    have hlast : code.lastLine (code.render es ++ tail) = tail.length := by
      unfold lastLine
      rw [splitOn_render hnot, List.reverse_append]
      cases tail with
      | nil => exact absurd rfl hnil
      | cons c rest => rfl
    have htear : code.tear n (code.render es ++ tail) =
        code.render es ++ tail.take (tail.length - n) := by
      have hlen : (code.render es ++ tail).length - min n tail.length =
          (code.render es).length + (tail.length - n) := by
        rw [List.length_append]
        omega
      rw [LineCode.tear, hlast, hlen, List.take_length_add_append]
    have hcut : tail.take (tail.length - n) <+: code.encode e := (List.take_prefix ..).trans hbegin
    rw [htear, read_render (Torn.of_prefix_encode hcut).newline_notMem, read_render hnot]
    refine ⟨⟨es, _, .inr ⟨e, hcut⟩, rfl⟩, (List.prefix_append_right_inj es).mpr ?_⟩
    cases hdecode : code.decode (tail.take (tail.length - n)) with
    | none => exact List.nil_prefix
    | some e' =>
      -- Only a whole line can be read, and then nothing was cut off.
      have heq := (Torn.of_prefix_encode hcut).eq_encode hdecode
      obtain rfl := code.eq_of_isPrefix e' e (heq ▸ hcut)
      have hback : code.encode e' <+: tail := heq ▸ List.take_prefix ..
      rw [hbegin.eq_of_length_le hback.length_le, code.decode_encode]

/-! ## Where lines come from -/

def PartsOf (code : LineCode α ε) (P : ε → Prop) (line : List α) : Prop :=
  ∃ pieces : List (List α), (∀ p ∈ pieces, p ≠ [] ∧ ∃ e, P e ∧ p <+: code.encode e) ∧
    line = pieces.flatten

def WrittenBy (code : LineCode α ε) (P : ε → Prop) (raw : List α) : Prop :=
  ∃ lines tail, (∀ line ∈ lines, code.PartsOf P line) ∧ code.PartsOf P tail ∧
    raw = code.join lines ++ tail

variable {P P' : ε → Prop}

omit [DecidableEq α] in
lemma PartsOf.nil : code.PartsOf P [] := ⟨[], by simp, rfl⟩

omit [DecidableEq α] in
lemma PartsOf.torn {line : List α} (h : code.PartsOf P line) : code.Torn line := by
  obtain ⟨pieces, hpieces, rfl⟩ := h
  refine ⟨pieces, fun p hp => ?_, rfl⟩
  obtain ⟨hne, e, -, hbegin⟩ := hpieces p hp
  exact ⟨hne, e, hbegin⟩

omit [DecidableEq α] in
lemma PartsOf.append {line : List α} (h : code.PartsOf P line) (he : P e) (hp : p <+: code.encode e) :
    code.PartsOf P (line ++ p) := by
  obtain ⟨pieces, hpieces, rfl⟩ := h
  by_cases hnil : p = []
  · exact ⟨pieces, hpieces, by rw [hnil, List.append_nil]⟩
  · refine ⟨pieces ++ [p], fun q hq => ?_, by rw [List.flatten_append, List.flatten_singleton]⟩
    rcases List.mem_append.mp hq with hold | hnew
    · exact hpieces q hold
    · rw [List.mem_singleton.mp hnew]
      exact ⟨hnil, e, he, hp⟩

omit [DecidableEq α] in
lemma PartsOf.imp {line : List α} (h : code.PartsOf P line) (himp : ∀ e, P e → P' e) :
    code.PartsOf P' line := by
  obtain ⟨pieces, hpieces, rfl⟩ := h
  refine ⟨pieces, fun p hp => ?_, rfl⟩
  obtain ⟨hne, e, he, hbegin⟩ := hpieces p hp
  exact ⟨hne, e, himp e he, hbegin⟩

omit [DecidableEq α] in
lemma PartsOf.of_decode {line : List α} (h : code.PartsOf P line) (hdecode : code.decode line = some e) :
    P e := by
  obtain ⟨pieces, hpieces, rfl⟩ := h
  have hpiece := code.eq_of_decode pieces (fun p hp => by
    obtain ⟨hne, e', -, hbegin⟩ := hpieces p hp
    exact ⟨hne, e', hbegin⟩) e hdecode
  obtain ⟨-, e', he', hbegin⟩ := hpieces (code.encode e) (by rw [hpiece]; exact List.mem_cons_self)
  rw [code.eq_of_isPrefix e e' hbegin]
  exact he'

omit [DecidableEq α] in
lemma WrittenBy.nil : code.WrittenBy P [] := ⟨[], [], by simp, PartsOf.nil, rfl⟩

omit [DecidableEq α] in
lemma WrittenBy.imp (h : code.WrittenBy P raw) (himp : ∀ e, P e → P' e) : code.WrittenBy P' raw := by
  obtain ⟨lines, tail, hlines, htail, rfl⟩ := h
  exact ⟨lines, tail, fun line hline => (hlines line hline).imp himp, htail.imp himp, rfl⟩

omit [DecidableEq α] in
lemma WrittenBy.append_take (h : code.WrittenBy P raw) (he : P e) (n : ℕ) :
    code.WrittenBy P (raw ++ (code.line e).take n) := by
  obtain ⟨lines, tail, hlines, htail, rfl⟩ := h
  by_cases hn : n ≤ (code.encode e).length
  · refine ⟨lines, tail ++ (code.encode e).take n, hlines, htail.append he (List.take_prefix ..), ?_⟩
    rw [line, List.take_append_of_le_length hn, List.append_assoc]
  · refine ⟨lines ++ [tail ++ code.encode e], [], fun l hl => ?_, PartsOf.nil, ?_⟩
    · rcases List.mem_append.mp hl with hold | hnew
      · exact hlines l hold
      · rw [List.mem_singleton.mp hnew]
        exact htail.append he List.prefix_rfl
    · have htake : (code.line e).take n = code.line e := by
        refine List.take_of_length_le ?_
        rw [line, List.length_append, List.length_singleton]
        omega
      rw [htake, join, join, List.flatMap_append, line]
      simp

lemma WrittenBy.of_decode (h : code.WrittenBy P raw) {line : List α}
    (hline : line ∈ raw.splitOn code.newline) (hdecode : code.decode line = some e) : P e := by
  obtain ⟨lines, tail, hlines, htail, rfl⟩ := h
  rw [splitOn_join (fun l hl => (hlines l hl).torn.newline_notMem) htail.torn.newline_notMem] at hline
  rcases List.mem_append.mp hline with hin | hlast
  · exact (hlines line hin).of_decode hdecode
  · rw [List.mem_singleton.mp hlast] at hdecode
    exact htail.of_decode hdecode

/-! ## Lines in brackets -/

structure Brackets (α : Type) where
  opening : α
  closing : α
  newline : α
  opening_ne_closing : opening ≠ closing
  newline_ne_opening : newline ≠ opening
  newline_ne_closing : newline ≠ closing

namespace Brackets

variable (b : Brackets α)

/-- The text in brackets. -/
def enclose (body : List α) : List α := b.opening :: (body ++ [b.closing])

/-- A text that can stand in brackets. -/
def Inside (body : List α) : Prop := b.opening ∉ body ∧ b.closing ∉ body ∧ b.newline ∉ body

variable {b} {body body' : List α}

omit [DecidableEq α] in
lemma eq_of_enclose_prefix (h' : b.Inside body') (hbegin : b.enclose body <+: b.enclose body') :
    body = body' := by
  have htail := (List.cons_prefix_cons.mp hbegin).2
  have hlen : (body' ++ [b.closing]).length ≤ (body ++ [b.closing]).length := by
    by_contra hshort
    have hinside : body ++ [b.closing] <+: body' := by
      refine List.prefix_of_prefix_length_le htail (List.prefix_append ..) ?_
      rw [List.length_append, List.length_append, List.length_singleton] at hshort
      rw [List.length_append, List.length_singleton]
      omega
    exact h'.2.1 (hinside.subset (List.mem_append_right _ List.mem_cons_self))
  exact List.append_cancel_right (htail.eq_of_length_le hlen)

lemma count_opening_enclose (h : b.Inside body) : (b.enclose body).count b.opening = 1 := by
  rw [enclose, List.count_cons_self, List.count_append, List.count_eq_zero_of_not_mem h.1,
    List.count_eq_zero_of_not_mem]
  simpa using b.opening_ne_closing

end Brackets

def bracketed (b : Brackets α) (body : ε → List α) (parse : List α → Option ε)
    (inside : ∀ e, b.Inside (body e)) (parse_body : ∀ e, parse (body e) = some e) :
    LineCode α ε where
  newline := b.newline
  encode e := b.enclose (body e)
  decode raw := (parse raw.tail.dropLast).filter fun e => b.enclose (body e) = raw
  decode_encode e := by
    rw [Brackets.enclose, List.tail_cons, List.dropLast_concat, parse_body]
    exact Option.filter_some_pos (by simp [Brackets.enclose])
  newline_notMem e h := by
    rcases List.mem_cons.mp h with heq | hrest
    · exact b.newline_ne_opening heq
    · rcases List.mem_append.mp hrest with hin | hlast
      · exact (inside e).2.2 hin
      · exact b.newline_ne_closing (List.mem_singleton.mp hlast)
  eq_of_isPrefix e e' h := by
    have hbody := Brackets.eq_of_enclose_prefix (inside e') h
    have hparse := parse_body e
    rw [hbody, parse_body e'] at hparse
    exact (Option.some.inj hparse).symm
  eq_of_decode pieces hpieces e h := by
    obtain ⟨-, hraw⟩ := Option.filter_eq_some_iff.mp h
    have hraw : b.enclose (body e) = pieces.flatten := of_decide_eq_true hraw
    have hcount : pieces.length ≤ 1 := by
      have hall : ∀ p ∈ pieces, 1 ≤ p.count b.opening := by
        intro p hp
        obtain ⟨hne, e', hbegin⟩ := hpieces p hp
        cases p with
        | nil => exact absurd rfl hne
        | cons c rest =>
          rw [(List.cons_prefix_cons.mp hbegin).1, List.count_cons_self]
          omega
      have hsum : pieces.length ≤ pieces.flatten.count b.opening := by
        rw [List.count_flatten]
        have hle := List.length_le_sum_of_one_le (pieces.map (List.count b.opening)) (by simpa using hall)
        simpa using hle
      rw [← hraw, Brackets.count_opening_enclose (inside e)] at hsum
      exact hsum
    match pieces, hcount with
    | [], _ => simp [Brackets.enclose] at hraw
    | [p], _ =>
      rw [hraw]
      simp
    | _ :: _ :: _, hcount => simp at hcount

end LineCode

end Data
