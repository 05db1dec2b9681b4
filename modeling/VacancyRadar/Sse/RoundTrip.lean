import VacancyRadar.Sse.Client

/-!
# From the session to the client

The session measures the JSON of an event, and the client measures the frame.
-/

namespace VacancyRadar.Sse

open Data
open Sessions (AgentEventType)

variable {Content : Type}

/-! ## The session -/

def maxEventEnvelopeBytes : ℕ := 1024 * 1024

def resultAttachmentIdReserveBytes : ℕ := 128

/-- An event of the provider: what it says, what it says with the number of an attachment if its
result can be attached, and what the failure would say that replaces it. -/
structure ProviderEvent (Content : Type) where
  type : AgentEventType
  content : Content
  attached : Option Content
  failure : Content

def envelope (wire : Wire Content) (sequence : ℕ) (event : ProviderEvent Content) :
    Envelope Content :=
  let base : Envelope Content := { sequence, type := event.type, content := event.content }
  if maxEventEnvelopeBytes - resultAttachmentIdReserveBytes < utf8ByteLength (wire.stringify base) then
    base
  else { base with content := event.attached.getD event.content }

/-- The envelope that replaces one that is too large. -/
def failure (sequence : ℕ) (event : ProviderEvent Content) : Envelope Content :=
  { sequence, type := .sessionFailed, content := event.failure }

def consume (wire : Wire Content) : ℕ → List (ProviderEvent Content) → List (Envelope Content)
  | _, [] => []
  | sequence, event :: events =>
    if maxEventEnvelopeBytes <
        utf8ByteLength (wire.stringify (envelope wire sequence event)) then
      [failure sequence event]
    else envelope wire sequence event :: consume wire (sequence + 1) events

variable {wire : Wire Content}

lemma envelope_of_attached_eq_none {sequence : ℕ} {event : ProviderEvent Content}
    (h : event.attached = none) :
    envelope wire sequence event = { sequence, type := event.type, content := event.content } := by
  unfold envelope
  dsimp only
  rw [h]
  split <;> rfl

/-! ## The size of a frame -/

/-- The bytes of a frame before the JSON. -/
def headerBytes (event : Envelope Content) : ℕ :=
  utf8ByteLength (toString event.sequence).toList + utf8ByteLength (typeName event.type).toList + 19

lemma utf8ByteLength_cons_newline (text : List Char) :
    utf8ByteLength ('\n' :: text) = utf8ByteLength text + 1 := by
  rw [← List.singleton_append, utf8ByteLength_append, utf8ByteLength_newline]
  exact Nat.add_comm ..

lemma utf8ByteLength_rawFrame (event : Envelope Content) :
    utf8ByteLength (rawFrame wire event) =
      utf8ByteLength (wire.stringify event) + headerBytes event := by
  have hid : utf8ByteLength "id: ".toList = 4 := by decide
  have hevent : utf8ByteLength "event: ".toList = 7 := by decide
  have hdata : utf8ByteLength "data: ".toList = 6 := by decide
  have hfirst : utf8ByteLength (idLine event) =
      4 + utf8ByteLength (toString event.sequence).toList :=
    (utf8ByteLength_append ..).trans (by rw [hid])
  have hsecond : utf8ByteLength (eventLine event) =
      7 + utf8ByteLength (typeName event.type).toList :=
    (utf8ByteLength_append ..).trans (by rw [hevent])
  have hthird : utf8ByteLength (dataLine wire event) =
      6 + utf8ByteLength (wire.stringify event) :=
    (utf8ByteLength_append ..).trans (by rw [hdata])
  rw [rawFrame_eq, utf8ByteLength_append, utf8ByteLength_cons_newline, utf8ByteLength_append,
    utf8ByteLength_cons_newline, hfirst, hsecond, hthird, headerBytes]
  omega

variable {event : Envelope Content} {events : List (Envelope Content)}

lemma lt_rawFrame (h : utf8ByteLength (wire.stringify event) = maxEventEnvelopeBytes) :
    maxSseFrameBytes < utf8ByteLength (rawFrame wire event) := by
  rw [utf8ByteLength_rawFrame, h]
  exact Nat.lt_add_of_pos_right (Nat.succ_pos _)

/-! ## The round trip -/

/-- Whatever the pieces are in which the frames come, the client reads the events. -/
def RoundTrip (wire : Wire Content) (events : List (Envelope Content)) : Prop :=
  ∀ chunks : List (List UInt8), chunks.flatten = utf8 (events.flatMap (eventFrame wire)) →
    parseSseStream wire {} chunks = (events, none)

lemma RoundTrip.of_lt (h : ∀ event ∈ events, utf8ByteLength (rawFrame wire event) < maxSseFrameBytes) :
    RoundTrip wire events := by
  intro chunks hchunks
  apply Reads.parseSseStream h
  constructor
  · refine ⟨_, ?_, rfl⟩
    rw [hchunks]
    exact Utf8Decoder.decode_flatMap_utf8EncodeChar _
  · rfl
  · intro _
    rfl

lemma decode_utf8 {text : List Char} (h : text.head? ≠ some '\uFEFF') :
    (({} : Client).decode (utf8 text)).buffer = text := by
  have hdecode : ({} : Utf8Decoder).decode (utf8 text) = (text, {}) :=
    Utf8Decoder.decode_flatMap_utf8EncodeChar text
  unfold Client.decode
  dsimp only
  rw [hdecode, if_neg fun hbom => h hbom.2]
  rfl

lemma not_roundTrip {pre post : List (Envelope Content)}
    (hpre : ∀ e ∈ pre, utf8ByteLength (rawFrame wire e) < maxSseFrameBytes)
    (h : maxSseFrameBytes ≤ utf8ByteLength (rawFrame wire event)) :
    ¬ RoundTrip wire (pre ++ event :: post) := by
  intro hround
  let first := pre.flatMap (eventFrame wire) ++ (rawFrame wire event ++ ['\n'])
  have hbytes : [utf8 first, utf8 ('\n' :: post.flatMap (eventFrame wire))].flatten =
      utf8 ((pre ++ event :: post).flatMap (eventFrame wire)) := by
    rw [List.flatten_cons, List.flatten_singleton, ← utf8_append]
    apply congrArg
    simp [first, eventFrame]
  have hhead : first.head? ≠ some '\uFEFF' := by
    have hframes := head?_flatMap_eventFrame wire (pre ++ [event])
    have hframe : (pre ++ [event]).flatMap (eventFrame wire) = first ++ ['\n'] := by
      simp [first, eventFrame]
    rw [hframe, List.head?_append] at hframes
    intro hbom
    rw [hbom] at hframes
    exact hframes rfl
  have hread : readFrames wire first = (pre, .error .unterminated) := by
    have hsize : maxSseFrameBytes < utf8ByteLength (rawFrame wire event ++ ['\n']) := by
      rw [utf8ByteLength_append, utf8ByteLength_newline]
      omega
    rw [readFrames_append fun e he => (hpre e he).le,
      readFrames_of_splitFrame_eq_none (splitFrame_eq_none List.prefix_rfl), if_pos hsize,
      List.append_nil]
  have hparse := hround _ hbytes
  rw [parseSseStream] at hparse
  rw [decode_utf8 hhead, hread] at hparse
  exact Option.some_ne_none _ (Prod.mk.inj hparse).2

lemma parseSseStream_of_lt (h : maxSseFrameBytes < utf8ByteLength (rawFrame wire event)) :
    parseSseStream wire {} [utf8 (eventFrame wire event)] = ([], some .frameTooLarge) := by
  have hframe : [event].flatMap (eventFrame wire) = eventFrame wire event := List.append_nil _
  have hhead : (eventFrame wire event).head? ≠ some '\uFEFF' := by
    rw [← hframe]
    exact head?_flatMap_eventFrame wire _
  have hread : readFrames wire (eventFrame wire event) = ([], .error .frameTooLarge) := by
    have hsplit := splitFrame_eventFrame wire event []
    rw [List.append_nil] at hsplit
    rw [readFrames]
    split
    · next hnone =>
      rw [hsplit] at hnone
      cases hnone
    · next frame rest hsome =>
      rw [hsplit] at hsome
      cases hsome
      rw [readFrame, if_pos h]
  rw [parseSseStream]
  rw [decode_utf8 hhead, hread]

lemma roundTrip_iff (events : List (Envelope Content)) :
    RoundTrip wire events ↔
      ∀ event ∈ events, utf8ByteLength (rawFrame wire event) < maxSseFrameBytes := by
  constructor
  · intro hround
    -- The first frame that is too large, if there is one.
    cases hfind : events.find? fun e => maxSseFrameBytes ≤ utf8ByteLength (rawFrame wire e) with
    | none =>
      intro event hevent
      have hsmall := List.find?_eq_none.mp hfind event hevent
      rw [decide_eq_true_eq] at hsmall
      exact Nat.not_le.mp hsmall
    | some event =>
      obtain ⟨hlarge, pre, post, rfl, hpre⟩ := List.find?_eq_some_iff_append.mp hfind
      rw [decide_eq_true_eq] at hlarge
      refine absurd hround (not_roundTrip (fun e he => ?_) hlarge)
      have hsmall := hpre e he
      rw [Bool.not_eq_true', decide_eq_false_iff_not] at hsmall
      exact Nat.not_le.mp hsmall
  · exact RoundTrip.of_lt

/-- The client reads the events that a session gives to its stream if and only if the JSON of each is
smaller than the limit by more than the lines before it. -/
theorem roundTrip_consume_iff (wire : Wire Content) (events : List (ProviderEvent Content)) :
    RoundTrip wire (consume wire 0 events) ↔
      ∀ e ∈ consume wire 0 events,
        utf8ByteLength (wire.stringify e) + headerBytes e < maxEventEnvelopeBytes := by
  rw [roundTrip_iff]
  constructor
  · intro h e he
    rw [← utf8ByteLength_rawFrame]
    exact h e he
  · intro h e he
    rw [utf8ByteLength_rawFrame]
    exact h e he

def longAnswer : ProviderEvent ℕ where
  type := .assistantMessage
  content := 1048486
  attached := none
  failure := 0

def longEnvelope : Envelope ℕ where
  sequence := 0
  type := .assistantMessage
  content := 1048486

lemma stringify_plainWire (e : Envelope ℕ) : plainWire.stringify e = plainText e := rfl

lemma utf8ByteLength_longEnvelope :
    utf8ByteLength (plainWire.stringify longEnvelope) = maxEventEnvelopeBytes := by
  have htype : utf8ByteLength (typeField .assistantMessage) = 27 := by decide
  have hsequence : utf8ByteLength (sequenceField 0) = 12 := by decide
  have htimestamp : utf8ByteLength timestampField = 39 := by decide
  rw [stringify_plainWire, utf8ByteLength_plainText, longEnvelope, htype, hsequence, htimestamp]
  decide

lemma consume_longAnswer : consume plainWire 0 [longAnswer] = [longEnvelope] := by
  have henvelope : envelope plainWire 0 longAnswer = longEnvelope := envelope_of_attached_eq_none rfl
  rw [consume, henvelope, utf8ByteLength_longEnvelope, if_neg (Nat.lt_irrefl _), consume]

/-- The session lets the answer pass, and the client refuses its frame. -/
theorem frameTooLarge_longAnswer :
    utf8ByteLength (plainWire.stringify longEnvelope) ≤ maxEventEnvelopeBytes ∧
      consume plainWire 0 [longAnswer] = [longEnvelope] ∧
        parseSseStream plainWire {} [utf8 (eventFrame plainWire longEnvelope)] =
          ([], some .frameTooLarge) := by
  refine ⟨utf8ByteLength_longEnvelope.le, consume_longAnswer, ?_⟩
  exact parseSseStream_of_lt (lt_rawFrame utf8ByteLength_longEnvelope)

end VacancyRadar.Sse
