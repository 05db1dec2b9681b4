import VacancyRadar.Data.Text
import VacancyRadar.Data.TextDecoder
import VacancyRadar.Sse.Writer

/-!
# Lines of the output of a process

`process/line-reader.ts`: the bytes are decoded as they come, and the lines are given out.  What is
compared with the limit is the text that was not given out yet, before it is cut into lines.
-/

namespace VacancyRadar.Provider

open Data
open Sse (utf8ByteLength utf8ByteLength_append)

/-! ## The reader -/

def cutLines : List Char → List (List Char) × List Char
  | [] => ([], [])
  | c :: text =>
    let (lines, rest) := cutLines text
    if c = '\n' then ([] :: lines, rest)
    else
      match lines with
      | [] => ([], c :: rest)
      | line :: lines => ((c :: line) :: lines, rest)

/-- `replace(/\r$/, '')`. -/
def dropReturn (line : List Char) : List Char := if line.getLast? = some '\r' then line.dropLast else line

def emitLine (line : List Char) : List (List Char) := if dropReturn line = [] then [] else [dropReturn line]

def emitRest (rest : List Char) : List (List Char) :=
  let rest := ((dropReturn rest).dropWhile isTrimmed).rdropWhile isTrimmed
  if rest = [] then [] else [rest]

/-- The loop of `readLines`: the lines that are given out, and whether the limit was exceeded. -/
def readChunks (maxLineBytes : ℕ) : TextDecoder → List Char → List (List UInt8) → List (List Char) × Bool
  | decoder, buffer, [] => (emitRest (buffer ++ decoder.decoder.flush), false)
  | decoder, buffer, chunk :: chunks =>
    let (text, decoder) := decoder.decode chunk
    let buffer := buffer ++ text
    if maxLineBytes < utf8ByteLength buffer then ([], true)
    else
      let (lines, buffer) := cutLines buffer
      let (later, exceeded) := readChunks maxLineBytes decoder buffer chunks
      (lines.flatMap emitLine ++ later, exceeded)

def readLines (maxLineBytes : ℕ) (chunks : List (List UInt8)) : List (List Char) × Bool :=
  readChunks maxLineBytes {} [] chunks

/-! ## What a stream says -/

def linesUpTo (maxLineBytes : ℕ) : List (List Char) → List Char → List (List Char) × Bool
  | [], rest => if maxLineBytes < utf8ByteLength rest then ([], true) else (emitRest rest, false)
  | line :: lines, rest =>
    if maxLineBytes < utf8ByteLength line then ([], true)
    else
      let (later, exceeded) := linesUpTo maxLineBytes lines rest
      (emitLine line ++ later, exceeded)

def wholeText (bytes : List UInt8) : List Char :=
  let (text, decoder) := ({} : TextDecoder).decode bytes
  text ++ decoder.decoder.flush

def streamLines (maxLineBytes : ℕ) (bytes : List UInt8) : List (List Char) × Bool :=
  linesUpTo maxLineBytes (cutLines (wholeText bytes)).1 (cutLines (wholeText bytes)).2

inductive BeginsTooLong (maxLineBytes : ℕ) : List (List Char) → List Char → Prop
  | line {line : List Char} {lines : List (List Char)} {rest : List Char}
      (hline : maxLineBytes < utf8ByteLength line) : BeginsTooLong maxLineBytes (line :: lines) rest
  | empty {line : List Char} {lines : List (List Char)} {rest : List Char} (hline : dropReturn line = [])
      (hlines : BeginsTooLong maxLineBytes lines rest) : BeginsTooLong maxLineBytes (line :: lines) rest
  | rest {rest : List Char} (hrest : maxLineBytes < utf8ByteLength rest) : BeginsTooLong maxLineBytes [] rest

/-- The unfinished line and the next text are always within the limit, and so is the last line with what the
decoder gives out at the end; or the first time that they are not, a line that is too long comes before any
other that would be given out. -/
inductive Within (maxLineBytes : ℕ) (last : List Char) : List Char → List (List Char) → Prop
  | done {rest : List Char} (hrest : utf8ByteLength (rest ++ last) ≤ maxLineBytes) :
      Within maxLineBytes last rest []
  | fits {rest text : List Char} {texts : List (List Char)}
      (htext : utf8ByteLength (rest ++ text) ≤ maxLineBytes)
      (hlater : Within maxLineBytes last (cutLines (rest ++ text)).2 texts) :
      Within maxLineBytes last rest (text :: texts)
  | exceeds {rest text : List Char} {texts : List (List Char)}
      (htext : maxLineBytes < utf8ByteLength (rest ++ text))
      (hline : BeginsTooLong maxLineBytes (cutLines (rest ++ text ++ texts.flatten ++ last)).1
        (cutLines (rest ++ text ++ texts.flatten ++ last)).2) :
      Within maxLineBytes last rest (text :: texts)

/-! ## Lines -/

variable {maxLineBytes : ℕ} {text rest last line : List Char} {lines : List (List Char)}

lemma cutLines_append (text more : List Char) : cutLines (text ++ more) =
    ((cutLines text).1 ++ (cutLines ((cutLines text).2 ++ more)).1, (cutLines ((cutLines text).2 ++ more)).2) := by
  induction text with
  | nil => rfl
  | cons c text ih =>
    rw [List.cons_append, cutLines, ih, cutLines]
    rcases cutLines text with ⟨lines, rest⟩
    by_cases hc : c = '\n'
    · simp only [if_pos hc, List.cons_append]
    · cases lines with
      | nil => simp only [if_neg hc, List.nil_append, List.cons_append, cutLines]
      | cons line lines => simp only [if_neg hc, List.cons_append]

lemma cutLines_of_notMem (h : '\n' ∉ text) : cutLines text = ([], text) := by
  induction text with
  | nil => rfl
  | cons c text ih =>
    rw [List.mem_cons, not_or] at h
    rw [cutLines, ih h.2]
    exact if_neg (Ne.symm h.1)

lemma newline_notMem_cutLines (text : List Char) : '\n' ∉ (cutLines text).2 := by
  induction text with
  | nil => exact List.not_mem_nil
  | cons c text ih =>
    rw [cutLines]
    rcases hcut : cutLines text with ⟨lines, rest⟩
    rw [hcut] at ih
    by_cases hc : c = '\n'
    · simpa only [if_pos hc] using ih
    · cases lines with
      | nil =>
        simp only [if_neg hc, List.mem_cons, not_or]
        exact ⟨Ne.symm hc, ih⟩
      | cons line lines => simpa only [if_neg hc] using ih

lemma utf8ByteLength_le_of_mem_cutLines (h : line ∈ (cutLines text).1) :
    utf8ByteLength line ≤ utf8ByteLength text := by
  have hcons : ∀ (c : Char) (text : List Char), utf8ByteLength (c :: text) =
      utf8ByteLength [c] + utf8ByteLength text := fun c text => utf8ByteLength_append [c] text
  induction text generalizing line with
  | nil => exact absurd h List.not_mem_nil
  | cons c text ih =>
    rw [hcons]
    rw [cutLines] at h
    rcases hcut : cutLines text with ⟨lines, rest⟩
    simp only [hcut] at h ih
    by_cases hc : c = '\n'
    · rw [if_pos hc] at h
      rcases List.mem_cons.mp h with rfl | h
      · exact Nat.zero_le _
      · exact (ih h).trans (Nat.le_add_left ..)
    · cases lines with
      | nil =>
        rw [if_neg hc] at h
        exact absurd h List.not_mem_nil
      | cons first lines =>
        rw [if_neg hc] at h
        rcases List.mem_cons.mp h with rfl | h
        · rw [hcons]
          exact Nat.add_le_add_left (ih List.mem_cons_self) _
        · exact (ih (List.mem_cons_of_mem _ h)).trans (Nat.le_add_left ..)

lemma linesUpTo_append (h : ∀ line ∈ lines, utf8ByteLength line ≤ maxLineBytes) (later : List (List Char)) :
    linesUpTo maxLineBytes (lines ++ later) rest =
      (lines.flatMap emitLine ++ (linesUpTo maxLineBytes later rest).1, (linesUpTo maxLineBytes later rest).2) := by
  induction lines with
  | nil => rfl
  | cons line lines ih =>
    rw [List.cons_append, linesUpTo, if_neg (Nat.not_lt.mpr (h line List.mem_cons_self)),
      ih fun line hline => h line (List.mem_cons_of_mem _ hline), List.flatMap_cons, List.append_assoc]

lemma beginsTooLong_iff : BeginsTooLong maxLineBytes lines rest ↔ linesUpTo maxLineBytes lines rest = ([], true) := by
  constructor
  · intro h
    induction h with
    | line hline => rw [linesUpTo, if_pos hline]
    | empty hline _ ih =>
      rw [linesUpTo, ih, emitLine, if_pos hline]
      split <;> rfl
    | rest hrest => rw [linesUpTo, if_pos hrest]
  · intro h
    induction lines with
    | nil =>
      rw [linesUpTo] at h
      split at h
      · next hrest => exact .rest hrest
      · exact absurd (Prod.mk.inj h).2 Bool.false_ne_true
    | cons line lines ih =>
      rw [linesUpTo] at h
      split at h
      · next hline => exact .line hline
      · obtain ⟨hlines, hexceeded⟩ := Prod.mk.inj h
        obtain ⟨hline, hlater⟩ := List.append_eq_nil_iff.mp hlines
        refine .empty ?_ (ih (Prod.ext hlater hexceeded))
        by_contra hsome
        rw [emitLine, if_neg hsome] at hline
        cases hline

/-! ## Chunks -/

def readTexts (maxLineBytes : ℕ) (last : List Char) : List Char → List (List Char) → List (List Char) × Bool
  | buffer, [] => (emitRest (buffer ++ last), false)
  | buffer, text :: texts =>
    if maxLineBytes < utf8ByteLength (buffer ++ text) then ([], true)
    else
      let (later, exceeded) := readTexts maxLineBytes last (cutLines (buffer ++ text)).2 texts
      ((cutLines (buffer ++ text)).1.flatMap emitLine ++ later, exceeded)

lemma readChunks_eq (chunks : List (List UInt8)) (decoder : TextDecoder) (buffer : List Char) :
    readChunks maxLineBytes decoder buffer chunks =
      readTexts maxLineBytes (decoder.decode chunks.flatten).2.decoder.flush buffer (decoder.texts chunks) := by
  induction chunks generalizing decoder buffer with
  | nil => rw [readChunks, List.flatten_nil, TextDecoder.decode_nil, TextDecoder.texts, readTexts]
  | cons chunk chunks ih =>
    rw [readChunks, TextDecoder.texts, readTexts, List.flatten_cons, TextDecoder.decode_append]
    dsimp only
    rw [ih]

lemma readTexts_eq_iff (hlast : '\n' ∉ last) {texts : List (List Char)} {buffer : List Char}
    (hbuffer : '\n' ∉ buffer) : readTexts maxLineBytes last buffer texts =
      linesUpTo maxLineBytes (cutLines (buffer ++ texts.flatten ++ last)).1
        (cutLines (buffer ++ texts.flatten ++ last)).2 ↔ Within maxLineBytes last buffer texts := by
  induction texts generalizing buffer with
  | nil =>
    have hrest : '\n' ∉ buffer ++ last := by
      rw [List.mem_append, not_or]
      exact ⟨hbuffer, hlast⟩
    rw [List.flatten_nil, List.append_nil, cutLines_of_notMem hrest, linesUpTo, readTexts]
    constructor
    · intro h
      refine .done (Nat.not_lt.mp fun hlong => ?_)
      rw [if_pos hlong] at h
      exact Bool.false_ne_true (Prod.mk.inj h).2
    · rintro ⟨hsmall⟩
      rw [if_neg (Nat.not_lt.mpr hsmall)]
  | cons text texts ih =>
    rw [List.flatten_cons, ← List.append_assoc, readTexts]
    by_cases hsize : maxLineBytes < utf8ByteLength (buffer ++ text)
    · rw [if_pos hsize, eq_comm, ← beginsTooLong_iff]
      refine ⟨fun hline => .exceeds hsize hline, fun h => ?_⟩
      cases h with
      | fits htext _ => exact absurd hsize (Nat.not_lt.mpr htext)
      | exceeds _ hline => exact hline
    · have hlines : ∀ line ∈ (cutLines (buffer ++ text)).1, utf8ByteLength line ≤ maxLineBytes := fun line hline =>
        (utf8ByteLength_le_of_mem_cutLines hline).trans (Nat.not_lt.mp hsize)
      rw [if_neg hsize, List.append_assoc (buffer ++ text), cutLines_append (buffer ++ text),
        linesUpTo_append hlines, ← List.append_assoc, Prod.mk.injEq, List.append_cancel_left_eq, ← Prod.ext_iff,
        ih (newline_notMem_cutLines _)]
      refine ⟨fun hlater => .fits (Nat.not_lt.mp hsize) hlater, fun h => ?_⟩
      cases h with
      | fits _ hlater => exact hlater
      | exceeds htext _ => exact absurd htext hsize

/-- **When the lines of a stream are read.**  The lines up to the first one that is too long are
given out, and the limit is exceeded if there is one, exactly if the unfinished line and each chunk
are within the limit together, or the first ones that are not begin with such a line. -/
theorem readLines_eq_iff (maxLineBytes : ℕ) (chunks : List (List UInt8)) :
    readLines maxLineBytes chunks = streamLines maxLineBytes chunks.flatten ↔
      Within maxLineBytes (({} : TextDecoder).decode chunks.flatten).2.decoder.flush []
        (({} : TextDecoder).texts chunks) := by
  have hflush : '\n' ∉ (({} : TextDecoder).decode chunks.flatten).2.decoder.flush := by
    rw [Utf8Decoder.flush]
    split <;> decide
  rw [← readTexts_eq_iff hflush List.not_mem_nil, readLines, readChunks_eq, TextDecoder.flatten_texts]
  rfl

/-- Two lines within the limit, in one chunk that is not. -/
theorem readLines_ne_twoLines :
    readLines 10 ["claude\ncodex\n".toUTF8.toList] ≠ streamLines 10 ["claude\ncodex\n".toUTF8.toList].flatten := by
  decide +kernel

end VacancyRadar.Provider
