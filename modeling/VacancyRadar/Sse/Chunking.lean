import VacancyRadar.Data.TextDecoder
import VacancyRadar.Sse.Client

/-!
# How a stream is cut

What `parseSseStream` makes of a stream, for every way in which its bytes are cut into chunks.  A frame
that has the greatest size is accepted if it comes with its blank line, and is too large as long as only
the first newline of the blank line is there.
-/

namespace VacancyRadar.Sse

open Data

variable {Content : Type} {wire : Wire Content}

/-! ## The text of a stream -/

/-- The loop of `parseSseStream`, over the texts of the chunks. -/
def readTexts (wire : Wire Content) : List Char → List (List Char) → List (Envelope Content) × Option StreamError
  | _, [] => ([], none)
  | buffer, text :: texts =>
    match readFrames wire (buffer ++ text) with
    | (events, .error error) => (events, some error)
    | (events, .ok buffer) =>
      let (events', result) := readTexts wire buffer texts
      (events ++ events', result)

def streamText (bytes : List UInt8) : List Char := (({} : TextDecoder).decode bytes).1

def Client.textDecoder (client : Client) : TextDecoder := ⟨client.decoder, client.bomSeen⟩

lemma Client.decode_eq (client : Client) (chunk : List UInt8) : client.decode chunk =
    { decoder := (client.textDecoder.decode chunk).2.decoder
      bomSeen := (client.textDecoder.decode chunk).2.bomSeen
      buffer := client.buffer ++ (client.textDecoder.decode chunk).1 } := by
  obtain ⟨decoder, seen, buffer⟩ := client
  cases seen with
  | true => rfl
  | false =>
    by_cases hmark : (decoder.decode chunk).1.head? = some '\uFEFF'
    · simp [Client.decode, Client.textDecoder, TextDecoder.decode, TextDecoder.dropMark, hmark]
    · simp [Client.decode, Client.textDecoder, TextDecoder.decode, TextDecoder.dropMark, hmark]

lemma parseSseStream_eq (chunks : List (List UInt8)) (client : Client) :
    parseSseStream wire client chunks = readTexts wire client.buffer (client.textDecoder.texts chunks) := by
  induction chunks generalizing client with
  | nil => rfl
  | cons chunk chunks ih =>
    rw [parseSseStream, TextDecoder.texts, readTexts, Client.decode_eq]
    generalize readFrames wire (client.buffer ++ (client.textDecoder.decode chunk).1) = read
    obtain ⟨events, outcome⟩ := read
    cases outcome with
    | error error => rfl
    | ok buffer =>
      dsimp only
      rw [ih]
      rfl

/-! ## Frames one after the other -/

inductive Consumes (wire : Wire Content) : List Char → List (Envelope Content) → List Char → Prop
  | nil (text : List Char) : Consumes wire text [] text
  | frame {text frame rest left : List Char} {event : Option (Envelope Content)} {events : List (Envelope Content)}
      (hsplit : splitFrame text = some (frame, rest)) (hread : readFrame wire frame = .ok event)
      (hrest : Consumes wire rest events left) : Consumes wire text (event.toList ++ events) left

/-- The error comes before any other event. -/
inductive Refused (wire : Wire Content) : List Char → Prop
  | frame {text frame rest : List Char} {error : StreamError} (hsplit : splitFrame text = some (frame, rest))
      (hread : readFrame wire frame = .error error) : Refused wire text
  | skip {text frame rest : List Char} (hsplit : splitFrame text = some (frame, rest))
      (hread : readFrame wire frame = .ok none) (hrest : Refused wire rest) : Refused wire text
  | rest {text : List Char} (hsplit : splitFrame text = none) (hsize : maxSseFrameBytes < utf8ByteLength text) :
      Refused wire text

def frameOutcome (wire : Wire Content) (text : List Char) : List (Envelope Content) × Bool :=
  ((readFrames wire text).1, !(readFrames wire text).2.isOk)

/-- What is given out for a stream, and whether there is an error. -/
def streamOutcome (wire : Wire Content) (chunks : List (List UInt8)) : List (Envelope Content) × Bool :=
  ((parseSseStream wire {} chunks).1, (parseSseStream wire {} chunks).2.isSome)

variable {text rest left frame : List Char} {event : Option (Envelope Content)} {error : StreamError}
variable {events : List (Envelope Content)}

lemma readFrames_of_error (hsplit : splitFrame text = some (frame, rest))
    (hread : readFrame wire frame = .error error) : readFrames wire text = ([], .error error) := by
  rw [readFrames]
  split
  · next hnone =>
    rw [hsplit] at hnone
    cases hnone
  · next hsome =>
    rw [hsplit] at hsome
    cases hsome
    rw [hread]

lemma readFrames_of_ok (hsplit : splitFrame text = some (frame, rest)) (hread : readFrame wire frame = .ok event) :
    readFrames wire text = (event.toList ++ (readFrames wire rest).1, (readFrames wire rest).2) := by
  rw [readFrames]
  split
  · next hnone =>
    rw [hsplit] at hnone
    cases hnone
  · next hsome =>
    rw [hsplit] at hsome
    cases hsome
    rw [hread]

lemma Consumes.readFrames (h : Consumes wire text events left) :
    readFrames wire text = (events ++ (readFrames wire left).1, (readFrames wire left).2) := by
  induction h with
  | nil => rfl
  | frame hsplit hread _ ih => rw [readFrames_of_ok hsplit hread, ih, List.append_assoc]

lemma Consumes.frameOutcome (h : Consumes wire text events left) :
    frameOutcome wire text = (events ++ (frameOutcome wire left).1, (frameOutcome wire left).2) := by
  rw [Sse.frameOutcome, h.readFrames]
  rfl

lemma Consumes.append (h : Consumes wire text events left) (more : List Char) :
    Consumes wire (text ++ more) events (left ++ more) := by
  induction h with
  | nil => exact .nil _
  | frame hsplit hread _ ih => exact .frame (splitFrame_append hsplit more) hread ih

lemma Consumes.trans {events' : List (Envelope Content)} {last : List Char} (h : Consumes wire text events left)
    (h' : Consumes wire left events' last) : Consumes wire text (events ++ events') last := by
  induction h with
  | nil => exact h'
  | frame hsplit hread _ ih =>
    rw [List.append_assoc]
    exact .frame hsplit hread (ih h')

variable (wire) in
lemma exists_consumes (text : List Char) : ∃ events left, Consumes wire text events left ∧
    (splitFrame left = none ∨
      ∃ frame rest error, splitFrame left = some (frame, rest) ∧ readFrame wire frame = .error error) := by
  induction hlength : text.length using Nat.strong_induction_on generalizing text with
  | h n ih =>
    subst hlength
    cases hsplit : splitFrame text with
    | none => exact ⟨[], text, .nil text, .inl hsplit⟩
    | some r =>
      obtain ⟨frame, rest⟩ := r
      cases hread : readFrame wire frame with
      | error error => exact ⟨[], text, .nil text, .inr ⟨frame, rest, error, hsplit, hread⟩⟩
      | ok event =>
        obtain ⟨events, left, hrest, hstop⟩ := ih rest.length (length_of_splitFrame hsplit) rest rfl
        exact ⟨event.toList ++ events, left, .frame hsplit hread hrest, hstop⟩

lemma splitFrame_congr (h : splitFrame (frame ++ '\n' :: '\n' :: rest) = some (frame, rest)) (other : List Char) :
    splitFrame (frame ++ '\n' :: '\n' :: other) = some (frame, other) := by
  induction frame with
  | nil => rfl
  | cons c frame ih =>
    have hhead : ∀ more : List Char, (frame ++ '\n' :: more).head? = (frame ++ ['\n']).head? := by
      intro more
      cases frame <;> rfl
    rw [List.cons_append, splitFrame, hhead] at h ⊢
    split at h
    · cases h
    · next hnot =>
      obtain ⟨⟨frame', rest'⟩, hrest, heq⟩ := Option.map_eq_some_iff.mp h
      cases heq
      rw [if_neg hnot, ih hrest]
      rfl

lemma splitFrame_concat (h : splitFrame (frame ++ '\n' :: '\n' :: rest) = some (frame, rest)) :
    splitFrame (frame ++ ['\n']) = none := by
  cases hsplit : splitFrame (frame ++ ['\n']) with
  | none => rfl
  | some r =>
    have hwhole := splitFrame_append hsplit ('\n' :: rest)
    rw [List.append_assoc, List.singleton_append, h] at hwhole
    obtain ⟨rfl, -⟩ := Prod.mk.inj (Option.some.inj hwhole)
    have hlength := congrArg List.length (eq_of_splitFrame hsplit)
    simp only [List.length_append, List.length_cons, List.length_nil] at hlength
    omega

lemma isPrefix_of_splitFrame_eq_none {more : List Char} (hnone : splitFrame text = none)
    (h : splitFrame (text ++ more) = some (frame, rest)) : text <+: frame ++ ['\n'] := by
  have heq := eq_of_splitFrame h
  rcases Nat.lt_or_ge (frame.length + 1) text.length with hlong | hshort
  · -- then the blank line is in it
    have hbegin : frame ++ ['\n', '\n'] <+: text :=
      List.prefix_of_prefix_length_le ⟨rest, by rw [heq, List.append_assoc]; rfl⟩ (List.prefix_append text more)
        (by rw [List.length_append]; exact hlong)
    obtain ⟨other, rfl⟩ := hbegin
    rw [heq] at h
    have hsome := splitFrame_congr h other
    rw [List.append_assoc] at hnone
    exact absurd (hnone.symm.trans hsome) (Option.some_ne_none _).symm
  · refine List.prefix_of_prefix_length_le (List.prefix_append text more) ⟨'\n' :: rest, ?_⟩ ?_
    · rw [heq, List.append_assoc]
      rfl
    · rw [List.length_append]
      exact hshort

/-! ## Refused texts -/

lemma Refused.of_consumes (h : Consumes wire text events left) (hempty : events = []) (hleft : Refused wire left) :
    Refused wire text := by
  induction h with
  | nil => exact hleft
  | frame hsplit hread _ ih =>
    obtain ⟨hnone, hrest⟩ := List.append_eq_nil_iff.mp hempty
    rw [Option.toList_eq_nil_iff] at hnone
    subst hnone
    exact .skip hsplit hread (ih hrest hleft)

lemma refused_iff : Refused wire text ↔ frameOutcome wire text = ([], true) := by
  constructor
  · intro h
    induction h with
    | frame hsplit hread =>
      rw [frameOutcome, readFrames_of_error hsplit hread]
      rfl
    | skip hsplit hread _ ih =>
      rw [(Consumes.frame hsplit hread (.nil _)).frameOutcome, ih]
      rfl
    | rest hsplit hsize =>
      rw [frameOutcome, readFrames_of_splitFrame_eq_none hsplit, if_pos hsize]
      rfl
  · intro h
    obtain ⟨events, left, hconsumes, hstop⟩ := exists_consumes wire text
    rw [hconsumes.frameOutcome] at h
    obtain ⟨hevents, herror⟩ := Prod.mk.inj h
    refine .of_consumes hconsumes (List.append_eq_nil_iff.mp hevents).1 ?_
    rcases hstop with hnone | ⟨frame, rest, error, hsplit, hread⟩
    · refine .rest hnone ?_
      rw [frameOutcome, readFrames_of_splitFrame_eq_none hnone] at herror
      by_contra hsmall
      rw [if_neg hsmall] at herror
      cases herror
    · exact .frame hsplit hread

/-! ## Cuts -/

def NoExactFrame (wire : Wire Content) (text : List Char) : Prop :=
  ∀ events left frame rest, Consumes wire text events left → splitFrame left = some (frame, rest) →
    utf8ByteLength frame = maxSseFrameBytes → Refused wire left

lemma NoExactFrame.of_consumes (h : NoExactFrame wire text) (hconsumes : Consumes wire text events left) :
    NoExactFrame wire left :=
  fun _ _ _ _ hnext => h _ _ _ _ (hconsumes.trans hnext)

lemma refused_append {more : List Char} (hnone : splitFrame text = none)
    (hsize : maxSseFrameBytes < utf8ByteLength text) (h : NoExactFrame wire (text ++ more)) :
    Refused wire (text ++ more) := by
  cases hsplit : splitFrame (text ++ more) with
  | none =>
    refine .rest hsplit ?_
    rw [utf8ByteLength_append]
    exact Nat.lt_add_right _ hsize
  | some r =>
    obtain ⟨frame, rest⟩ := r
    have hle := utf8ByteLength_le_of_isPrefix (isPrefix_of_splitFrame_eq_none hnone hsplit)
    rw [utf8ByteLength_append, utf8ByteLength_newline] at hle
    rcases (show maxSseFrameBytes ≤ utf8ByteLength frame by omega).eq_or_lt with hexact | hlarge
    · exact h [] _ frame rest (.nil _) hsplit hexact.symm
    · have hread : readFrame wire frame = .error .frameTooLarge := by rw [readFrame, if_pos hlarge]
      exact .frame hsplit hread

lemma readTexts_outcome {texts : List (List Char)} {buffer : List Char} (hnone : splitFrame buffer = none)
    (hsize : utf8ByteLength buffer ≤ maxSseFrameBytes) (h : NoExactFrame wire (buffer ++ texts.flatten)) :
    ((readTexts wire buffer texts).1, (readTexts wire buffer texts).2.isSome) =
      frameOutcome wire (buffer ++ texts.flatten) := by
  induction texts generalizing buffer with
  | nil =>
    rw [List.flatten_nil, List.append_nil, frameOutcome, readFrames_of_splitFrame_eq_none hnone,
      if_neg (Nat.not_lt.mpr hsize)]
    rfl
  | cons text texts ih =>
    rw [List.flatten_cons, ← List.append_assoc] at h ⊢
    obtain ⟨events, left, hconsumes, hstop⟩ := exists_consumes wire (buffer ++ text)
    have hwhole := hconsumes.append texts.flatten
    have hrest := h.of_consumes hwhole
    rw [hwhole.frameOutcome, readTexts, hconsumes.readFrames]
    rcases hstop with hnone | ⟨frame, rest, error, hsplit, hread⟩
    · rw [readFrames_of_splitFrame_eq_none hnone]
      by_cases hsize : utf8ByteLength left ≤ maxSseFrameBytes
      · rw [if_neg (Nat.not_lt.mpr hsize), ← ih hnone hsize hrest, List.append_nil]
      · have hrefused := refused_iff.mp (refused_append hnone (Nat.not_le.mp hsize) hrest)
        rw [if_pos (Nat.not_le.mp hsize), hrefused]
        rfl
    · have herror := refused_iff.mp (Refused.frame (splitFrame_append hsplit texts.flatten) hread)
      rw [readFrames_of_error hsplit hread, herror]
      rfl

lemma streamOutcome_eq (chunks : List (List UInt8)) : streamOutcome wire chunks =
    ((readTexts wire [] (({} : TextDecoder).texts chunks)).1,
      (readTexts wire [] (({} : TextDecoder).texts chunks)).2.isSome) := by
  rw [streamOutcome, parseSseStream_eq]
  rfl

lemma streamOutcome_singleton (bytes : List UInt8) :
    streamOutcome wire [bytes] = frameOutcome wire (streamText bytes) := by
  rw [streamOutcome_eq, TextDecoder.texts, TextDecoder.texts, readTexts, List.nil_append, frameOutcome]
  rw [show (({} : TextDecoder).decode bytes).1 = streamText bytes from rfl]
  rcases readFrames wire (streamText bytes) with ⟨events, error | buffer⟩
  · rfl
  · exact Prod.ext (List.append_nil events) rfl

lemma Consumes.exists_cut (h : Consumes wire text events left) :
    ∃ before, text = before ++ left ∧ ∀ other, Consumes wire (before ++ other) events other := by
  induction h with
  | nil => exact ⟨[], rfl, fun other => .nil other⟩
  | @frame text frame rest left event events hsplit hread _ ih =>
    obtain ⟨before, rfl, hconsumes⟩ := ih
    have heq := eq_of_splitFrame hsplit
    refine ⟨frame ++ '\n' :: '\n' :: before, by rw [heq, List.append_assoc]; rfl, fun other => ?_⟩
    rw [heq] at hsplit
    rw [List.append_assoc]
    exact .frame (splitFrame_congr hsplit (before ++ other)) hread (hconsumes other)

lemma exists_cut_outcome {bytes : List UInt8} (hconsumes : Consumes wire (streamText bytes) events left)
    (hsplit : splitFrame left = some (frame, rest)) (hexact : utf8ByteLength frame = maxSseFrameBytes) :
    ∃ before after, bytes = before ++ after ∧ streamOutcome wire [before, after] = (events, true) := by
  obtain ⟨start, htext, hcut⟩ := hconsumes.exists_cut
  rw [eq_of_splitFrame hsplit, ← List.append_assoc] at htext
  obtain ⟨before, after, hbytes, hbefore⟩ := TextDecoder.exists_decode_eq htext
  refine ⟨before, after, hbytes, ?_⟩
  have hnone : splitFrame (frame ++ ['\n']) = none := by
    rw [eq_of_splitFrame hsplit] at hsplit
    exact splitFrame_concat hsplit
  have hlarge : maxSseFrameBytes < utf8ByteLength (frame ++ ['\n']) := by
    rw [utf8ByteLength_append, utf8ByteLength_newline, hexact]
    exact Nat.lt_succ_self _
  have hread : readFrames wire (start ++ (frame ++ ['\n'])) = (events, .error .unterminated) := by
    rw [(hcut (frame ++ ['\n'])).readFrames, readFrames_of_splitFrame_eq_none hnone, if_pos hlarge, List.append_nil]
  rw [streamOutcome_eq, TextDecoder.texts, hbefore, readTexts, List.nil_append, List.append_assoc, hread]
  rfl

/-- **When the chunks do not matter.**  The events that are given out for a stream, and whether there is an
error, are the same for any two ways to cut it exactly if no frame that is reached has the greatest size,
unless an error follows before any event. -/
theorem chunkInvariant_iff (wire : Wire Content) (bytes : List UInt8) :
    (∀ chunks chunks' : List (List UInt8), chunks.flatten = bytes → chunks'.flatten = bytes →
      streamOutcome wire chunks = streamOutcome wire chunks') ↔
    ∀ events left frame rest, Consumes wire (streamText bytes) events left →
      splitFrame left = some (frame, rest) → utf8ByteLength frame = maxSseFrameBytes → Refused wire left := by
  constructor
  · intro h events left frame rest hconsumes hsplit hexact
    obtain ⟨before, after, hbytes, hcut⟩ := exists_cut_outcome hconsumes hsplit hexact
    have hwhole := h [before, after] [bytes] (by simp [hbytes]) (by simp)
    rw [hcut, streamOutcome_singleton, hconsumes.frameOutcome] at hwhole
    obtain ⟨hevents, herror⟩ := Prod.mk.inj hwhole
    exact refused_iff.mpr (Prod.ext (List.self_eq_append_right.mp hevents) herror.symm)
  · intro h
    have hstart : splitFrame [] = none := rfl
    have houtcome : ∀ chunks : List (List UInt8), chunks.flatten = bytes →
        streamOutcome wire chunks = frameOutcome wire (streamText bytes) := by
      intro chunks hchunks
      have htext : (({} : TextDecoder).texts chunks).flatten = streamText bytes := by
        rw [TextDecoder.flatten_texts, hchunks]
        rfl
      rw [streamOutcome_eq, ← htext]
      refine readTexts_outcome hstart (Nat.zero_le _) ?_
      rw [List.nil_append, htext]
      exact h
    intro chunks chunks' hchunks hchunks'
    rw [houtcome chunks hchunks, houtcome chunks' hchunks']

/-! ## A frame of the greatest size -/

def letterFrame (n : ℕ) : List Char := List.replicate n 'a' ++ ['\n', '\n']

lemma streamText_flatMap_utf8EncodeChar (text : List Char) :
    streamText (text.flatMap String.utf8EncodeChar) = TextDecoder.dropMark text := by
  rw [streamText, TextDecoder.decode, Utf8Decoder.decode_flatMap_utf8EncodeChar]
  rfl

variable {n : ℕ}

lemma newline_notMem_replicate : '\n' ∉ List.replicate n 'a' := by
  intro hmem
  exact absurd (List.eq_of_mem_replicate hmem) (by decide)

lemma streamText_letterFrame (n : ℕ) : streamText ((letterFrame n).flatMap String.utf8EncodeChar) = letterFrame n := by
  rw [streamText_flatMap_utf8EncodeChar, TextDecoder.dropMark, if_neg]
  cases n with
  | zero => decide
  | succ n =>
    rw [letterFrame, List.replicate_succ, List.cons_append, List.head?_cons]
    decide

lemma splitFrame_letterFrame (n : ℕ) : splitFrame (letterFrame n) = some (List.replicate n 'a', []) := by
  rw [letterFrame, splitFrame_append_of_notMem newline_notMem_replicate]
  exact congrArg some (Prod.ext (List.append_nil _) rfl)

lemma readFrame_replicate (h : n ≤ maxSseFrameBytes) : readFrame wire (List.replicate n 'a') = .ok none := by
  have hdata : ¬ "data: ".toList.isPrefixOf (List.replicate n 'a') = true := by
    rw [toList_data]
    cases n with
    | zero => decide
    | succ n =>
      rw [List.replicate_succ, List.isPrefixOf_cons_cons]
      simp
  rw [readFrame, if_neg (by rw [utf8ByteLength_replicate]; exact Nat.not_lt.mpr h),
    List.splitOn_eq_singleton newline_notMem_replicate, List.find?_cons_of_neg hdata]
  rfl

/-- A frame of the greatest size is accepted in one piece, and is refused if it is cut within its blank line. -/
theorem not_chunkInvariant_letterFrame : ¬ ∀ chunks chunks' : List (List UInt8),
    chunks.flatten = (letterFrame maxSseFrameBytes).flatMap String.utf8EncodeChar →
    chunks'.flatten = (letterFrame maxSseFrameBytes).flatMap String.utf8EncodeChar →
      streamOutcome plainWire chunks = streamOutcome plainWire chunks' := by
  intro h
  have hconsumes : Consumes plainWire (streamText ((letterFrame maxSseFrameBytes).flatMap String.utf8EncodeChar)) []
      (letterFrame maxSseFrameBytes) := by
    rw [streamText_letterFrame]
    exact .nil _
  obtain ⟨before, after, hbytes, hcut⟩ :=
    exists_cut_outcome hconsumes (splitFrame_letterFrame _) (utf8ByteLength_replicate _)
  have hwhole := h [before, after] [_] (by simp [hbytes]) (List.flatten_singleton ..)
  have hrest : Consumes plainWire (letterFrame maxSseFrameBytes) (Option.toList none ++ []) [] :=
    .frame (splitFrame_letterFrame _) (readFrame_replicate le_rfl) (.nil [])
  have hempty : frameOutcome plainWire [] = ([], false) := by
    rw [frameOutcome, readFrames_of_splitFrame_eq_none rfl]
    rfl
  rw [hcut, streamOutcome_singleton, streamText_letterFrame, hrest.frameOutcome, hempty] at hwhole
  exact absurd (Prod.mk.inj hwhole).2 (by decide)

end VacancyRadar.Sse
