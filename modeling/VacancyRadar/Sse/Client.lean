import VacancyRadar.Data.Utf8
import VacancyRadar.Sse.Text

/-!
# The client of an event stream

`parseSseStream` decodes the bytes as they come, cuts the text into frames at the blank lines, and
reads the event of each frame.  It refuses a frame that is too large, and a text that is too large and
has no blank line.
-/

namespace VacancyRadar.Sse

open Data

variable {Content : Type}

/-! ## The parser -/

def maxSseFrameBytes : ℕ := 1024 * 1024

/-- The `ValidationError`s. -/
inductive StreamError where
  | frameTooLarge
  | data (error : DataError)
  | unterminated

/-- The text before the first blank line, and the text after it. -/
def splitFrame : List Char → Option (List Char × List Char)
  | [] => none
  | c :: rest =>
    if c = '\n' ∧ rest.head? = some '\n' then some ([], rest.tail)
    else (splitFrame rest).map fun (frame, rest) => (c :: frame, rest)

def readFrame (wire : Wire Content) (frame : List Char) :
    Except StreamError (Option (Envelope Content)) :=
  if maxSseFrameBytes < utf8ByteLength frame then .error .frameTooLarge
  else
    match (frame.splitOn '\n').find? fun line => "data: ".toList.isPrefixOf line with
    | none => .ok none
    | some line =>
      match wire.parse (line.drop "data: ".length) with
      | .ok event => .ok (some event)
      | .error error => .error (.data error)

variable {rest text : List Char}

variable {frame : List Char}

lemma length_of_splitFrame (h : splitFrame text = some (frame, rest)) :
    rest.length < text.length := by
  induction text generalizing frame rest with
  | nil => cases h
  | cons c text ih =>
    unfold splitFrame at h
    split at h
    · cases h
      rw [List.length_tail, List.length_cons]
      omega
    · obtain ⟨⟨frame', rest'⟩, hrest, heq⟩ := Option.map_eq_some_iff.mp h
      cases heq
      rw [List.length_cons]
      exact (ih hrest).trans (Nat.lt_succ_self _)

def readFrames (wire : Wire Content) (buffer : List Char) :
    List (Envelope Content) × Except StreamError (List Char) :=
  match _h : splitFrame buffer with
  | none =>
    ([], if maxSseFrameBytes < utf8ByteLength buffer then .error .unterminated else .ok buffer)
  | some (frame, rest) =>
    match readFrame wire frame with
    | .error error => ([], .error error)
    | .ok event =>
      let (events, result) := readFrames wire rest
      (event.toList ++ events, result)
termination_by buffer.length
decreasing_by exact length_of_splitFrame _h

structure Client where
  decoder : Utf8Decoder := {}
  bomSeen : Bool := false
  buffer : List Char := []

/-- `decoder.decode`, which drops a byte order mark. -/
def Client.decode (client : Client) (chunk : List UInt8) : Client :=
  let (text, decoder) := client.decoder.decode chunk
  let text' := if ¬ client.bomSeen ∧ text.head? = some '\uFEFF' then text.tail else text
  { decoder, bomSeen := client.bomSeen || !text.isEmpty, buffer := client.buffer ++ text' }

/-- `parseSseStream`: the events that are given out, and the error if there is one. -/
def parseSseStream (wire : Wire Content) : Client → List (List UInt8) →
    List (Envelope Content) × Option StreamError
  | _, [] => ([], none)
  | client, chunk :: chunks =>
    let client := client.decode chunk
    match readFrames wire client.buffer with
    | (events, .error error) => (events, some error)
    | (events, .ok buffer) =>
      let (events', result) := parseSseStream wire { client with buffer } chunks
      (events ++ events', result)

/-! ## Frames -/

lemma splitFrame_append_of_notMem {line : List Char} (h : '\n' ∉ line) : splitFrame (line ++ rest) =
      (splitFrame rest).map fun (frame, rest) => (line ++ frame, rest) := by
  induction line with
  | nil => cases hsplit : splitFrame rest <;> simp [hsplit]
  | cons c line ih =>
    rw [List.mem_cons, not_or] at h
    rw [List.cons_append, splitFrame, if_neg fun hc => h.1 hc.1.symm, ih h.2, Option.map_map]
    rfl

lemma splitFrame_newline_cons {c : Char} (h : c ≠ '\n') : splitFrame ('\n' :: c :: rest) =
      (splitFrame (c :: rest)).map fun (frame, rest) => ('\n' :: frame, rest) := by
  rw [splitFrame, if_neg]
  rintro ⟨-, hhead⟩
  exact h (Option.some.inj hhead)

lemma splitFrame_append (h : splitFrame text = some (frame, rest)) (more : List Char) :
    splitFrame (text ++ more) = some (frame, rest ++ more) := by
  induction text generalizing frame rest with
  | nil => cases h
  | cons c text ih =>
    unfold splitFrame at h
    rw [List.cons_append]
    split at h
    · next hblank =>
      cases h
      cases text with
      | nil => cases hblank.2
      | cons c' text =>
        rw [splitFrame, if_pos ⟨hblank.1, hblank.2⟩]
        rfl
    · next hnot =>
      obtain ⟨⟨frame', rest'⟩, hrest, heq⟩ := Option.map_eq_some_iff.mp h
      cases heq
      have hne : ¬ (c = '\n' ∧ (text ++ more).head? = some '\n') := by
        cases text with
        | nil => cases hrest
        | cons c' text => exact hnot
      rw [splitFrame, if_neg hne, ih hrest]
      rfl

lemma eq_of_splitFrame (h : splitFrame text = some (frame, rest)) :
    text = frame ++ '\n' :: '\n' :: rest := by
  induction text generalizing frame rest with
  | nil => cases h
  | cons c text ih =>
    unfold splitFrame at h
    split at h
    · next hblank =>
      cases h
      cases text with
      | nil => cases hblank.2
      | cons c' text =>
        obtain ⟨rfl, hhead⟩ := hblank
        obtain rfl : c' = '\n' := Option.some.inj hhead
        rfl
    · obtain ⟨⟨frame', rest'⟩, hrest, heq⟩ := Option.map_eq_some_iff.mp h
      cases heq
      rw [ih hrest]
      rfl

section Events

variable {wire : Wire Content}

def idLine (event : Envelope Content) : List Char := "id: ".toList ++ (toString event.sequence).toList

def eventLine (event : Envelope Content) : List Char :=
  "event: ".toList ++ (typeName event.type).toList

def dataLine (wire : Wire Content) (event : Envelope Content) : List Char :=
  "data: ".toList ++ wire.stringify event

lemma rawFrame_eq (event : Envelope Content) :
    rawFrame wire event =
      idLine event ++ '\n' :: (eventLine event ++ '\n' :: dataLine wire event) := rfl

lemma toList_id : "id: ".toList = ['i', 'd', ':', ' '] := by decide

lemma toList_event : "event: ".toList = ['e', 'v', 'e', 'n', 't', ':', ' '] := by decide

lemma toList_data : "data: ".toList = ['d', 'a', 't', 'a', ':', ' '] := by decide

lemma newline_notMem_idLine (event : Envelope Content) : '\n' ∉ idLine event := by
  intro hmem
  rcases List.mem_append.mp hmem with hin | hin
  · rw [toList_id] at hin
    exact absurd hin (by decide)
  · exact notMem_toString (by decide) hin

lemma newline_notMem_eventLine (event : Envelope Content) : '\n' ∉ eventLine event := by
  intro hmem
  rcases List.mem_append.mp hmem with hin | hin
  · rw [toList_event] at hin
    exact absurd hin (by decide)
  · have hname : '\n' ∉ (typeName event.type).toList := by cases event.type <;> decide
    exact hname hin

variable (wire) in
lemma newline_notMem_dataLine (event : Envelope Content) : '\n' ∉ dataLine wire event := by
  intro hmem
  rcases List.mem_append.mp hmem with hin | hin
  · rw [toList_data] at hin
    exact absurd hin (by decide)
  · exact wire.newline_notMem event hin

lemma exists_idLine (event : Envelope Content) : ∃ tail, idLine event = 'i' :: tail :=
  ⟨_, congrArg (fun text => text ++ (toString event.sequence).toList) toList_id⟩

lemma exists_eventLine (event : Envelope Content) : ∃ tail, eventLine event = 'e' :: tail :=
  ⟨_, congrArg (fun text => text ++ (typeName event.type).toList) toList_event⟩

lemma exists_dataLine (event : Envelope Content) : ∃ tail, dataLine wire event = 'd' :: tail :=
  ⟨_, congrArg (fun text => text ++ wire.stringify event) toList_data⟩

variable (wire) in
lemma splitFrame_eventFrame (event : Envelope Content) (rest : List Char) :
    splitFrame (eventFrame wire event ++ rest) = some (rawFrame wire event, rest) := by
  obtain ⟨eventTail, hevent⟩ := exists_eventLine event
  obtain ⟨dataTail, hdata⟩ := exists_dataLine event
  have hend : splitFrame (dataLine wire event ++ '\n' :: '\n' :: rest) =
      some (dataLine wire event, rest) := by
    rw [splitFrame_append_of_notMem (newline_notMem_dataLine wire event)]
    simp [splitFrame]
  have hmiddle : splitFrame ('\n' :: (dataLine wire event ++ '\n' :: '\n' :: rest)) =
      some ('\n' :: dataLine wire event, rest) := by
    rw [hdata, List.cons_append, ← List.cons_append] at hend ⊢
    rw [List.cons_append, splitFrame_newline_cons (by decide), ← List.cons_append, hend]
    rfl
  have hsecond : splitFrame
      (eventLine event ++ '\n' :: (dataLine wire event ++ '\n' :: '\n' :: rest)) =
      some (eventLine event ++ '\n' :: dataLine wire event, rest) := by
    rw [splitFrame_append_of_notMem (newline_notMem_eventLine event), hmiddle]
    rfl
  have htext : eventFrame wire event ++ rest =
      idLine event ++ '\n' ::
        (eventLine event ++ '\n' :: (dataLine wire event ++ '\n' :: '\n' :: rest)) := by
    rw [eventFrame, rawFrame_eq]
    simp
  have hfirst : splitFrame ('\n' ::
      (eventLine event ++ '\n' :: (dataLine wire event ++ '\n' :: '\n' :: rest))) =
      some ('\n' :: (eventLine event ++ '\n' :: dataLine wire event), rest) := by
    rw [hevent, List.cons_append, splitFrame_newline_cons (by decide), ← List.cons_append, ← hevent,
      hsecond]
    rfl
  rw [htext, splitFrame_append_of_notMem (newline_notMem_idLine event), hfirst]
  rfl

variable {event : Envelope Content} {events : List (Envelope Content)} {text : List Char}

lemma readFrame_rawFrame (h : utf8ByteLength (rawFrame wire event) ≤ maxSseFrameBytes) :
    readFrame wire (rawFrame wire event) = .ok (some event) := by
  have hlines : (rawFrame wire event).splitOn '\n' =
      [idLine event, eventLine event, dataLine wire event] := by
    have hid := newline_notMem_idLine event
    have hevent := newline_notMem_eventLine event
    have hdata := newline_notMem_dataLine wire event
    rw [rawFrame_eq]
    generalize idLine event = first at *
    generalize eventLine event = second at *
    generalize dataLine wire event = third at *
    rw [List.splitOn_append_cons_self_of_not_mem hid,
      List.splitOn_append_cons_self_of_not_mem hevent, List.splitOn_eq_singleton hdata]
  have hid : ¬ "data: ".toList.isPrefixOf (idLine event) = true := by
    obtain ⟨tail, htail⟩ := exists_idLine event
    rw [htail, toList_data]
    exact fun heq => nomatch heq
  have hevent : ¬ "data: ".toList.isPrefixOf (eventLine event) = true := by
    obtain ⟨tail, htail⟩ := exists_eventLine event
    rw [htail, toList_data]
    exact fun heq => nomatch heq
  have hdata : "data: ".toList.isPrefixOf (dataLine wire event) = true :=
    List.isPrefixOf_iff_prefix.mpr ⟨wire.stringify event, rfl⟩
  have hdrop : (dataLine wire event).drop "data: ".length = wire.stringify event := by
    have hlength : "data: ".toList.length = "data: ".length := by decide
    change ("data: ".toList ++ wire.stringify event).drop "data: ".length = wire.stringify event
    rw [← hlength, List.drop_left]
  rw [readFrame, if_neg (Nat.not_lt.mpr h), hlines, List.find?_cons_of_neg hid,
    List.find?_cons_of_neg hevent, List.find?_cons_of_pos hdata]
  dsimp only
  rw [hdrop, wire.parse_stringify]

lemma readFrames_append
    (h : ∀ event ∈ events, utf8ByteLength (rawFrame wire event) ≤ maxSseFrameBytes)
    (rest : List Char) : readFrames wire (events.flatMap (eventFrame wire) ++ rest) =
      (events ++ (readFrames wire rest).1, (readFrames wire rest).2) := by
  induction events with
  | nil => rfl
  | cons event events ih =>
    have hsplit := splitFrame_eventFrame wire event
      (events.flatMap (eventFrame wire) ++ rest)
    rw [List.flatMap_cons, List.append_assoc, readFrames]
    split
    · next hnone =>
      rw [hsplit] at hnone
      cases hnone
    · next frame rest' hsome =>
      rw [hsplit] at hsome
      cases hsome
      rw [readFrame_rawFrame (h event List.mem_cons_self)]
      rw [ih fun e he => h e (List.mem_cons_of_mem _ he)]
      rfl

lemma readFrames_of_splitFrame_eq_none {buffer : List Char} (h : splitFrame buffer = none) :
    readFrames wire buffer =
      ([], if maxSseFrameBytes < utf8ByteLength buffer then .error .unterminated else .ok buffer) := by
  rw [readFrames]
  split
  · rfl
  · next hsome =>
    rw [h] at hsome
    cases hsome

lemma exists_of_append_eq {more : List Char} (h : text ++ more = events.flatMap (eventFrame wire)) :
    ∃ done rest part, events = done ++ rest ∧ text = done.flatMap (eventFrame wire) ++ part ∧
      part ++ more = rest.flatMap (eventFrame wire) ∧
      (part = [] ∨ ∃ event, event ∈ rest ∧ part <+: rawFrame wire event ++ ['\n']) := by
  induction events generalizing text with
  | nil =>
    obtain ⟨rfl, rfl⟩ := List.append_eq_nil_iff.mp h
    exact ⟨[], [], [], rfl, rfl, rfl, .inl rfl⟩
  | cons event events ih =>
    rw [List.flatMap_cons] at h
    by_cases hlength : (eventFrame wire event).length ≤ text.length
    · obtain ⟨text', rfl⟩ : eventFrame wire event <+: text :=
        List.prefix_of_prefix_length_le ⟨_, h.symm⟩ (List.prefix_append ..) hlength
      rw [List.append_assoc] at h
      obtain ⟨done, rest, part, rfl, rfl, hmore, hpart⟩ := ih (List.append_cancel_left h)
      exact ⟨event :: done, rest, part, rfl, by rw [List.flatMap_cons, List.append_assoc], hmore, hpart⟩
    · refine ⟨[], event :: events, text, rfl, rfl, by rw [h, List.flatMap_cons],
        .inr ⟨event, List.mem_cons_self, ?_⟩⟩
      have hframe : text <+: eventFrame wire event :=
        List.prefix_of_prefix_length_le ⟨_, h⟩ (List.prefix_append ..) (by omega)
      have hend : eventFrame wire event = (rawFrame wire event ++ ['\n']) ++ ['\n'] := by
        rw [eventFrame, List.append_assoc]
        rfl
      rw [hend] at hframe hlength
      refine List.prefix_of_prefix_length_le hframe (List.prefix_append ..) ?_
      rw [List.length_append, List.length_singleton] at hlength
      omega

lemma utf8ByteLength_newline : utf8ByteLength ['\n'] = 1 := by decide

lemma utf8ByteLength_le_of_isPrefix {text' : List Char} (h : text <+: text') :
    utf8ByteLength text ≤ utf8ByteLength text' := by
  obtain ⟨rest, rfl⟩ := h
  rw [utf8ByteLength_append]
  exact Nat.le_add_right ..

lemma splitFrame_eq_none {part : List Char} (h : part <+: rawFrame wire event ++ ['\n']) :
    splitFrame part = none := by
  cases hsplit : splitFrame part with
  | none => rfl
  | some r =>
    obtain ⟨frame, rest⟩ := r
    obtain ⟨more, hmore⟩ := h
    have hwhole := splitFrame_append hsplit (more ++ ['\n'])
    have hframe : part ++ (more ++ ['\n']) = eventFrame wire event ++ [] := by
      rw [← List.append_assoc, hmore, List.append_nil, eventFrame, List.append_assoc]
      rfl
    rw [hframe, splitFrame_eventFrame] at hwhole
    obtain ⟨rfl, -⟩ := Prod.mk.inj (Option.some.inj hwhole)
    have hlength := congrArg List.length hmore
    rw [eq_of_splitFrame hsplit] at hlength
    simp only [List.length_append, List.length_cons, List.length_nil] at hlength
    omega

variable (wire) in
lemma head?_flatMap_eventFrame (events : List (Envelope Content)) :
    (events.flatMap (eventFrame wire)).head? ≠ some '\uFEFF' := by
  cases events with
  | nil => exact fun h => nomatch h
  | cons event events =>
    obtain ⟨tail, htail⟩ := exists_idLine event
    rw [List.flatMap_cons, eventFrame, rawFrame_eq, htail]
    intro h
    exact absurd (Option.some.inj h) (by decide)

structure Reads (wire : Wire Content) (events : List (Envelope Content)) (client : Client)
    (bytes : List UInt8) : Prop where
  text : ∃ more, client.decoder.decode bytes = (more, {}) ∧
    client.buffer ++ more = events.flatMap (eventFrame wire)
  split : splitFrame client.buffer = none
  bom : client.bomSeen = false → client.buffer = []

lemma Reads.parseSseStream {chunks : List (List UInt8)} {client : Client}
    (h : ∀ event ∈ events, utf8ByteLength (rawFrame wire event) < maxSseFrameBytes)
    (hreads : Reads wire events client chunks.flatten) :
    parseSseStream wire client chunks = (events, none) := by
  induction chunks generalizing client events with
  | nil =>
    obtain ⟨more, hmore, htext⟩ := hreads.text
    obtain ⟨rfl, -⟩ := Prod.mk.inj hmore
    rw [List.append_nil] at htext
    cases events with
    | nil => rfl
    | cons event events =>
      have hsplit := hreads.split
      rw [htext, List.flatMap_cons, splitFrame_eventFrame] at hsplit
      cases hsplit
  | cons chunk chunks ih =>
    obtain ⟨more, hmore, htext⟩ := hreads.text
    rw [List.flatten_cons, Utf8Decoder.decode_append] at hmore
    obtain ⟨rfl, hdecoder⟩ := Prod.mk.inj hmore
    -- There is no byte order mark that would be dropped.
    have hdecode : client.decode chunk =
        { decoder := (client.decoder.decode chunk).2
          bomSeen := client.bomSeen || !(client.decoder.decode chunk).1.isEmpty
          buffer := client.buffer ++ (client.decoder.decode chunk).1 } := by
      unfold Client.decode
      dsimp only
      rw [if_neg]
      rintro ⟨hbom, hhead⟩
      rw [hreads.bom (Bool.eq_false_iff.mpr hbom), List.nil_append] at htext
      have hfirst := head?_flatMap_eventFrame wire events
      rw [← htext, List.head?_append, hhead] at hfirst
      exact hfirst rfl
    rw [← List.append_assoc] at htext
    obtain ⟨done, rest, part, rfl, hbuffer, hpart, hsmall⟩ := exists_of_append_eq htext
    have hnone : splitFrame part = none := by
      rcases hsmall with rfl | ⟨event, -, hbegin⟩
      · rfl
      · exact splitFrame_eq_none hbegin
    have hsize : utf8ByteLength part ≤ maxSseFrameBytes := by
      rcases hsmall with rfl | ⟨event, hevent, hbegin⟩
      · exact Nat.zero_le _
      · have hle := utf8ByteLength_le_of_isPrefix hbegin
        have hlt := h event (List.mem_append_right _ hevent)
        rw [utf8ByteLength_append, utf8ByteLength_newline] at hle
        omega
    have hread : readFrames wire (client.decode chunk).buffer = (done, .ok part) := by
      rw [hdecode]
      rw [hbuffer, readFrames_append fun event hevent =>
        (h event (List.mem_append_left _ hevent)).le, readFrames_of_splitFrame_eq_none hnone,
        if_neg (Nat.not_lt.mpr hsize), List.append_nil]
    have hnext : Reads wire rest { client.decode chunk with buffer := part } chunks.flatten := by
      refine ⟨⟨_, ?_, hpart⟩, hnone, fun hbom => ?_⟩
      · rw [hdecode]
        exact Prod.ext rfl hdecoder
      · rw [hdecode] at hbom
        obtain ⟨hseen, hempty⟩ := Bool.or_eq_false_iff.mp hbom
        have htext' : (client.decoder.decode chunk).1 = [] := by
          rw [Bool.not_eq_false', List.isEmpty_iff] at hempty
          exact hempty
        rw [hreads.bom hseen, htext'] at hbuffer
        exact (List.append_eq_nil_iff.mp hbuffer.symm).2
    rw [Sse.parseSseStream]
    rw [hread]
    dsimp only
    rw [ih (fun event hevent => h event (List.mem_append_right _ hevent)) hnext]

end Events

end VacancyRadar.Sse
