import VacancyRadar.Data.Double
import VacancyRadar.Sse.Replay

/-!
# Resuming after an event

A subscriber names the last event it has got in `Last-Event-ID`.  The number after it is the index of
the history at which `subscribe` begins, and nothing checks that it is an index.
-/

namespace VacancyRadar.Sse

open Data

variable {Content : Type}

/-! ## The history of a session -/

structure History (Content : Type) where
  events : List (Envelope Content)
  numbered : events.map (·.sequence) = List.range events.length
  bounded : events.length ≤ maxStoredEvents

lemma length_storeAll_le (wire : Wire Content) (admitted : List (Envelope Content)) :
    (storeAll wire admitted).events.length ≤ maxStoredEvents := by
  induction admitted using List.reverseRecOn with
  | nil => exact Nat.zero_le _
  | append_singleton admitted event ih =>
    rw [storeAll, List.foldl_concat, Runtime.storeEnvelope]
    split_ifs with hroom
    · rw [List.length_append, List.length_singleton]
      exact hroom.2.1
    · exact ih

def History.stored (wire : Wire Content) (admitted : List (Envelope Content))
    (h : admitted.map (·.sequence) = List.range admitted.length) : History Content where
  events := (storeAll wire admitted).events
  numbered := by
    obtain ⟨rest, heq⟩ := (storeAll_spec wire admitted).1
    rw [← heq, List.map_append, List.length_append, List.range_add] at h
    exact (List.append_inj h (by simp)).1
  bounded := length_storeAll_le wire admitted

variable {events : List (Envelope Content)} {header : Header}

lemma filter_sequence {k : ℕ} (h : events.map (·.sequence) = List.range' k events.length) (n : ℕ) :
    events.filter (fun event => k + n ≤ event.sequence) = events.drop n := by
  induction events generalizing k n with
  | nil => simp
  | cons event events ih =>
    rw [List.map_cons, List.length_cons, List.range'_succ] at h
    obtain ⟨hfirst, hrest⟩ := List.cons.inj h
    cases n with
    | zero =>
      have hall := ih hrest 0
      rw [List.filter_cons_of_pos (by simp [hfirst]), List.drop_zero]
      rw [List.drop_zero, List.filter_eq_self] at hall
      rw [List.filter_eq_self.mpr]
      intro later hlater
      have hle := hall later hlater
      simp only [decide_eq_true_eq] at hle ⊢
      omega
    | succ n =>
      rw [List.filter_cons_of_neg (by simp [hfirst]), List.drop_succ_cons, ← ih hrest n]
      exact List.filter_congr fun later _ => by simp only [decide_eq_decide]; omega

lemma History.filter_events (history : History Content) (n : ℕ) :
    history.events.filter (fun event => n < event.sequence) = history.events.drop (n + 1) := by
  have hnumbered := history.numbered
  rw [List.range_eq_range'] at hnumbered
  rw [← filter_sequence hnumbered (n + 1)]
  exact List.filter_congr fun event _ => by simp only [decide_eq_decide]; omega

/-! ## The route -/

/-- `req.headers['last-event-id']`. -/
inductive Header where
  | missing
  | single (text : String)
  | several (texts : List String)

def Header.lastEventId : Header → Option String
  | .missing => none
  | .single text => if text = "" then none else some text
  | .several texts => texts.head?.filter fun text => text ≠ ""

def Header.number (header : Header) : Option JsNumber := header.lastEventId.map numberOf

def Header.sinceIndex (header : Header) : JsNumber :=
  (header.number.map JsNumber.plusOne).getD (.finite 0)

/-- `Number.isFinite(sinceIndex) ? sinceIndex : 0`. -/
def Header.startIndex (header : Header) : ℚ :=
  match header.sinceIndex with
  | .finite index => index
  | _ => 0

variable {index value : ℚ}

lemma ceil_sub_lt {n : ℚ} (h : index < n) : ⌈n - (index + 1)⌉₊ < ⌈n - index⌉₊ := by
  have hpos := Nat.ceil_pos.mpr (sub_pos.mpr h)
  rw [← sub_sub, Nat.ceil_sub_one]
  omega

/-- The element of an array at a number, and `none` for `undefined`. -/
def elementAt (events : List (Envelope Content)) (index : ℚ) : Option (Envelope Content) :=
  (natOf index).bind fun n => events[n]?

/-- The loop of `subscribe`: what it passes to the writer, which throws when it gets no event.  An
index that goes on is that of an event. -/
def replay (events : List (Envelope Content)) (index : ℚ) : List (Option (Envelope Content)) :=
  if index < events.length then
    match elementAt events index with
    | some event => some event :: replay events (index + 1)
    | none => [none]
  else []
termination_by ⌈events.length - index⌉₊
decreasing_by exact ceil_sub_lt ‹_›

def Header.wanted (header : Header) (events : List (Envelope Content)) : List (Envelope Content) :=
  match header.number.bind JsNumber.natural with
  | some n => events.filter fun event => n < event.sequence
  | none => events

/-- The events that a header asks for are passed to the writer, and nothing else. -/
def Header.Resumes (header : Header) (history : History Content) : Prop :=
  replay history.events header.startIndex = (header.wanted history.events).map some

def Header.Resumable (header : Header) (events : List (Envelope Content)) : Prop :=
  ∀ value, header.number = some (.finite value) → (value.den = 1 ∨ events = []) ∧ -1 ≤ value

/-! ## The loop -/

lemma replay_natCast (events : List (Envelope Content)) (n : ℕ) :
    replay events n = (events.drop n).map some := by
  induction hleft : events.length - n generalizing n with
  | zero =>
    have hlength : events.length ≤ n := by omega
    rw [replay, if_neg (not_lt.mpr (Nat.cast_le.mpr hlength)), List.drop_of_length_le hlength, List.map_nil]
  | succ left ih =>
    have hlength : n < events.length := by omega
    have hat : elementAt events n = some events[n] := by
      rw [elementAt, natOf_natCast, Option.bind_some, List.getElem?_eq_getElem hlength]
    rw [replay, if_pos (Nat.cast_lt.mpr hlength), hat, ← Nat.cast_succ]
    rw [ih (n + 1) (by omega), List.drop_eq_getElem_cons hlength, List.map_cons]

lemma replay_of_natOf_eq_none (hlt : index < events.length) (h : natOf index = none) :
    replay events index = [none]:= by
  rw [replay, if_pos hlt, elementAt, h]
  rfl

lemma replay_of_le (h : events.length ≤ index) : replay events index = []:= by
  rw [replay, if_neg (not_lt.mpr h)]

lemma replay_ne_of_pos (hne : events ≠ []) (hpos : 0 < index) :
    replay events index ≠ events.map some:= by
  intro heq
  have hlength := congrArg List.length heq
  have hevents := List.length_pos_iff.mpr hne
  rcases le_or_gt (events.length : ℚ) index with hle | hlt
  · rw [replay_of_le hle, List.length_map, List.length_nil] at hlength
    omega
  · cases hnat : natOf index with
    | none =>
      rw [replay_of_natOf_eq_none hlt hnat] at heq
      have hmem : none ∈ events.map some := heq ▸ List.mem_cons_self
      simp at hmem
    | some n =>
      have hindex := natOf_eq_some hnat
      rw [hindex] at hpos
      have hn : 0 < n := Nat.cast_pos.mp hpos
      rw [hindex, replay_natCast, List.length_map, List.length_drop, List.length_map] at hlength
      omega

/-! ## The number of the header -/

lemma startIndex_of_finite (h : header.number = some (.finite value)) :
    header.startIndex = roundDouble (value + 1) := by
  rw [Header.startIndex, Header.sinceIndex, h]
  rfl

lemma wanted_of_finite (h : header.number = some (.finite value)) (events : List (Envelope Content)) :
    header.wanted events =
      ((natOf value).map fun n => events.filter fun event => n < event.sequence).getD events := by
  rw [Header.wanted, h, Option.bind_some, JsNumber.natural]
  cases natOf value <;> rfl

lemma resumes_of_not_finite (h : ∀ value, header.number ≠ some (.finite value)) (history : History Content) :
    header.Resumes history:= by
  have hstart : header.startIndex = 0 ∧ header.wanted history.events = history.events := by
    rw [Header.startIndex, Header.sinceIndex, Header.wanted]
    rcases hnumber : header.number with _ | number
    · exact ⟨rfl, rfl⟩
    · cases number with
      | nan => exact ⟨rfl, rfl⟩
      | infinite => exact ⟨rfl, rfl⟩
      | finite value => exact absurd hnumber (h value)
  rw [Header.Resumes, hstart.1, hstart.2, ← Nat.cast_zero, replay_natCast, List.drop_zero]

lemma exists_numberOf {number : JsNumber} (h : header.number = some number) :
    ∃ text, numberOf text = number := by
  obtain ⟨text, -, htext⟩ := Option.map_eq_some_iff.mp h
  exact ⟨text, htext⟩

lemma replay_roundDouble (events : List (Envelope Content)) (hlength : events.length ≤ maxStoredEvents)
    (n : ℕ) : replay events (roundDouble n) = (events.drop n).map some := by
  rcases lt_or_ge n 8192 with hsmall | hlarge
  · have hexact := roundDouble_intCast (m := n) (by rw [Nat.abs_cast]; omega)
    rw [Int.cast_natCast] at hexact
    rw [hexact, replay_natCast]
  · have hpower : ((2 : ℕ) : ℚ) ^ (13 : ℤ) ≤ n := by
      have hcast : ((8192 : ℕ) : ℚ) ≤ n := Nat.cast_le.mpr hlarge
      norm_num at hcast ⊢
      exact hcast
    have hpos : (0 : ℚ) < n := lt_of_lt_of_le (by positivity) hpower
    have hlog := (Int.zpow_le_iff_le_log one_lt_two hpos).mp hpower
    have hone : (1 : ℚ) ≤ n := by exact_mod_cast (by omega : 1 ≤ n)
    have hround := zpow_log_le_roundDouble (x := n)
      ((zpow_le_one_of_nonpos₀ one_le_two (by omega)).trans hone)
    have hmono : (2 : ℚ) ^ (13 : ℤ) ≤ 2 ^ Int.log 2 (n : ℚ) := zpow_le_zpow_right₀ one_le_two hlog
    have hbound : (events.length : ℚ) ≤ 5000 := by exact_mod_cast hlength
    have hle : events.length ≤ roundDouble n := by linarith
    rw [replay_of_le hle, List.drop_of_length_le (by unfold maxStoredEvents at hlength; omega), List.map_nil]

/-! ## Which headers resume -/

/-- A whole number that is at least `-1` is one less than an index. -/
lemma exists_add_one_eq_natCast (hwhole : value.den = 1) (hle : -1 ≤ value) :
    ∃ n : ℕ, value + 1 = n := by
  have hvalue := Rat.coe_int_num_of_den_eq_one hwhole
  have hnum : -1 ≤ value.num := by
    rw [← hvalue] at hle
    exact_mod_cast hle
  refine ⟨(value.num + 1).toNat, ?_⟩
  rw [← Int.cast_natCast, Int.toNat_of_nonneg (by omega), Int.cast_add, Int.cast_one, hvalue]

lemma resumes_of_whole (hnumber : header.number = some (.finite value)) (hwhole : value.den = 1)
    (hle : -1 ≤ value) (history : History Content) : header.Resumes history:= by
  obtain ⟨n, hn⟩ := exists_add_one_eq_natCast hwhole hle
  rw [Header.Resumes, startIndex_of_finite hnumber, wanted_of_finite hnumber, hn,
    replay_roundDouble _ history.bounded]
  cases n with
  | zero =>
    have hneg : value < 0 := by
      rw [Nat.cast_zero] at hn
      linarith
    rw [natOf_of_neg hneg, List.drop_zero]
    rfl
  | succ n =>
    have hvalue : value = n := by
      rw [Nat.cast_succ] at hn
      linarith
    rw [hvalue, natOf_natCast, ← history.filter_events]
    rfl

/-- After a fraction above `-1` the loop does not begin at the first event. -/
lemma startIndex_pos {text : String} (htext : numberOf text = .finite value) (hle : -1 ≤ value)
    (hfraction : value.den ≠ 1) : 0 < roundDouble (value + 1) := by
  have hpos : 0 < value + 1 := by
    refine lt_of_le_of_ne (by linarith) fun hzero => hfraction ?_
    rw [eq_neg_of_add_eq_zero_left hzero.symm]
    rfl
  exact lt_of_lt_of_le (by positivity) (zpow_log_le_roundDouble (le_add_one htext hpos))

/-- **The events after the one that `Last-Event-ID` names are replayed exactly if the header gives
no finite number, or a whole one that is at least `-1`**, or a fraction with an empty history.
Everything else skips events or passes `undefined` to the writer. -/
theorem resumes_iff (header : Header) (history : History Content) :
    header.Resumes history ↔ header.Resumable history.events := by
  constructor
  · intro hresumes value hnumber
    obtain ⟨text, htext⟩ := exists_numberOf hnumber
    unfold Header.Resumes at hresumes
    rw [startIndex_of_finite hnumber, wanted_of_finite hnumber] at hresumes
    have hlow : -1 ≤ value := by
      by_contra hless
      -- the loop begins at a negative number
      have hneg := roundDouble_neg (add_one_le htext (by linarith))
      have hlt : roundDouble (value + 1) < history.events.length := hneg.trans_le (Nat.cast_nonneg _)
      rw [replay_of_natOf_eq_none hlt (natOf_of_neg hneg)] at hresumes
      have hmem := hresumes ▸ List.mem_cons_self
      simp at hmem
    refine ⟨?_, hlow⟩
    by_contra hneither
    obtain ⟨hfraction, hne⟩ := not_or.mp hneither
    have hnot : natOf value = none := if_neg fun hnat => hfraction hnat.1
    rw [hnot] at hresumes
    exact replay_ne_of_pos hne (startIndex_pos htext hlow hfraction) hresumes
  · intro hresumable
    by_cases hfinite : ∃ value, header.number = some (.finite value)
    · obtain ⟨value, hnumber⟩ := hfinite
      obtain ⟨hwhole, hle⟩ := hresumable value hnumber
      by_cases hden : value.den = 1
      · exact resumes_of_whole hnumber hden hle history
      · have hempty := hwhole.resolve_left hden
        obtain ⟨text, htext⟩ := exists_numberOf hnumber
        have hpos := startIndex_pos htext hle hden
        rw [Header.Resumes, startIndex_of_finite hnumber, wanted_of_finite hnumber, hempty,
          replay_of_le (by simpa using hpos.le)]
        cases natOf value <;> rfl
    · exact resumes_of_not_finite (fun value hvalue => hfinite ⟨value, hvalue⟩) history

def firstEvent : History ℕ :=
  .stored plainWire [{ sequence := 0, type := .status, content := 0 }] rfl

lemma numberOf_minusTwo : numberOf "-2" = .finite (-2) := by
  have hexact : exactNumber (trim "-2").toList = .finite (-2) := by decide +kernel
  have hround : roundDouble (-2) = -2 := by exact_mod_cast roundDouble_intCast (m := -2) (by decide)
  have hsmall : |(-2 : ℚ)| < 2 ^ 1024 := by
    rw [abs_neg, abs_two]
    exact lt_self_pow₀ one_lt_two (by decide)
  rw [numberOf, hexact, JsNumber.rounded, hround, if_neg (not_le.mpr hsmall)]

/-- After `-2` the writer gets `undefined`, not the history. -/
theorem not_resumes_minusTwo : ¬ (Header.single "-2").Resumes firstEvent := by
  have hnumber : (Header.single "-2").number = some (.finite (-2)) := by
    rw [Header.number, Header.lastEventId, if_neg (by decide), Option.map_some, numberOf_minusTwo]
  have hstart : (Header.single "-2").startIndex < 0 := by
    rw [startIndex_of_finite hnumber]
    exact roundDouble_neg (add_one_le numberOf_minusTwo (by norm_num))
  intro hresumes
  rw [Header.Resumes, replay_of_natOf_eq_none (hstart.trans_le (Nat.cast_nonneg _))
    (natOf_of_neg hstart)] at hresumes
  have hmem := hresumes ▸ List.mem_cons_self
  simp at hmem

end VacancyRadar.Sse
