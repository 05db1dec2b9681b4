import VacancyRadar.Provider.Envelope
import VacancyRadar.Provider.Parsers

/-!
# The output of a provider and the schemas

Whatever a provider prints, the events that are made of it should be accepted by the clients and
their records should be read again.  The parsers check the type of every field they copy but of the
token counts, so it is on these that it depends.
-/

namespace VacancyRadar.Provider

open Data

def Accepted (digests : Digests) (envelope : Envelope) : Prop :=
  agentEventEnvelopeSchema (some envelope.json.sent) = true ∧
    persistedEventRecordV1Schema (some (redactEnvelope digests envelope).sent) = true

def countsConform (cachedKey : String) (usage cost : Option Json) : Bool :=
  !Json.isObject usage ||
    (isCount (Json.property "input_tokens" usage) && isCount (Json.property "output_tokens" usage) &&
      isCount (Json.property cachedKey usage) && isCount cost)

/-- The usage that a line of Codex reports consists of finite numbers. -/
def codexConforms (raw : Json) : Bool :=
  let prop := fun key => Json.property key (some raw)
  match Json.str? (prop "type") with
  | some "turn.completed" => countsConform "cached_input_tokens" (prop "usage") none
  | _ => true

/-- The usage that a line of Claude reports consists of finite numbers. -/
def claudeConforms (raw : Json) : Bool :=
  let prop := fun key => Json.property key (some raw)
  match Json.str? (prop "type") with
  | some "assistant" | some "user" =>
    countsConform "cache_read_input_tokens" (Json.property "usage" (prop "message")) none
  | some "result" =>
    countsConform "cache_read_input_tokens" (prop "usage")
      ((Json.num? (prop "total_cost_usd")).map .num)
  | _ => true

variable {digests : Digests} {numberText : Number → String} {raw : Json}

def Conform (events : List AgentEvent) : Prop := ∀ event ∈ events, event.conforms

lemma accepted_iff (envelope : Envelope) : Accepted digests envelope ↔ envelope.event.conforms := by
  rw [Accepted, accepts_envelope, accepts_record, and_self]

lemma conform_append {l r : List AgentEvent} : Conform (l ++ r) ↔ Conform l ∧ Conform r :=
  List.forall_mem_append

/-! ## The events of the parsers -/

lemma Plain.conform {events : List AgentEvent} (h : Plain events) : Conform events := by
  intro event hevent
  have hplain := h event hevent
  cases event <;> first | rfl | cases hplain

lemma conform_usageEvent (cachedKey : String) (usage cost : Option Json) :
    Conform (usageEvent cachedKey usage cost).toList ↔ countsConform cachedKey usage cost := by
  unfold usageEvent countsConform
  split
  · next hobject => simp [Conform, AgentEvent.conforms, hobject, isCount, and_assoc]
  · next hobject => simp [Conform, hobject]

lemma property_of_not_truthy {value : Option Json} (h : Json.truthy value = false) (key : String) :
    Json.property key value = none := by
  unfold Json.property
  split
  · cases h
  · rfl

lemma isObject_of_property {value : Option Json} {key : String} {found : Json}
    (h : Json.property key value = some found) : Json.isObject value := by
  unfold Json.property at h
  split at h
  · rfl
  · cases h

lemma isObject_of_type {text : String}
    (h : Json.str? (Json.property "type" (some raw)) = some text) :
    Json.isObject (some raw) := by
  cases htype : Json.property "type" (some raw) with
  | none =>
    rw [htype] at h
    cases h
  | some type => exact isObject_of_property htype

lemma conform_messageEvents (message : Option Json) :
    Conform (Claude.messageEvents message) ↔
      countsConform "cache_read_input_tokens" (Json.property "usage" message) none := by
  unfold Claude.messageEvents
  split
  · rw [conform_append, and_iff_right (plain_parseContentBlocks _).conform]
    exact conform_usageEvent _ _ none
  · next hfalse =>
    rw [property_of_not_truthy (Bool.eq_false_iff.mpr hfalse)]
    exact iff_of_true plain_nil.conform rfl

lemma conform_parseCodexLine :
    (∀ parsed, parseCodexLine numberText raw = .ok parsed → Conform parsed.events) ↔
      codexConforms raw := by
  constructor
  · intro h
    unfold codexConforms
    simp only
    split
    · next htype =>
      have hparsed : parseCodexLine numberText raw = .ok
          { events := (Codex.usageEvent (Json.property "usage" (some raw))).toList } := by
        simp [parseCodexLine, isObject_of_type htype, htype]
      exact (conform_usageEvent _ _ none).mp (h _ hparsed)
    · rfl
  · intro h parsed hparsed
    rcases parseCodexLine_cases hparsed with hplain | ⟨htype, hevents⟩
    · exact hplain.conform
    · have hcounts : countsConform "cached_input_tokens" (Json.property "usage" (some raw)) none := by
        simpa [codexConforms, htype] using h
      exact hevents ▸ (conform_usageEvent _ _ none).mpr hcounts

lemma conform_parseClaudeLine :
    (∀ parsed, parseClaudeLine numberText raw = .ok parsed → Conform parsed.events) ↔
      claudeConforms raw := by
  constructor
  · intro h
    unfold claudeConforms
    simp only
    split
    · next htype =>
      have hparsed : parseClaudeLine numberText raw = .ok
          { events := Claude.messageEvents (Json.property "message" (some raw)) } := by
        simp [parseClaudeLine, isObject_of_type htype, htype]
      exact (conform_messageEvents _).mp (h _ hparsed)
    · next htype =>
      have hparsed : parseClaudeLine numberText raw = .ok
          { events := Claude.messageEvents (Json.property "message" (some raw)) } := by
        simp [parseClaudeLine, isObject_of_type htype, htype]
      exact (conform_messageEvents _).mp (h _ hparsed)
    · next htype =>
      have hparsed : parseClaudeLine numberText raw = .ok
          { events := Claude.resultError (some raw) ++
              (Claude.usageEvent (Json.property "usage" (some raw))
                (Json.property "total_cost_usd" (some raw))).toList
            providerSessionId := Json.str? (Json.property "session_id" (some raw)) } := by
        simp [parseClaudeLine, isObject_of_type htype, htype]
      exact (conform_usageEvent _ _ _).mp (conform_append.mp (h _ hparsed)).2
    · rfl
  · intro h parsed hparsed
    rcases parseClaudeLine_cases hparsed with hplain | ⟨htype, hevents⟩ | ⟨htype, hevents⟩
    · exact hplain.conform
    · refine hevents ▸ (conform_messageEvents _).mpr ?_
      rcases htype with htype | htype <;> simpa [claudeConforms, htype] using h
    · refine hevents ▸ conform_append.mpr ⟨(plain_resultError _).conform, ?_⟩
      refine (conform_usageEvent _ _ _).mpr ?_
      simpa [claudeConforms, htype] using h

/-! ## What the clients and the recovery accept -/

def textCount : Json :=
  .obj [("type", .str "turn.completed"), ("usage", .obj [("input_tokens", .str "12")])]

end VacancyRadar.Provider
