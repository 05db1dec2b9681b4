import VacancyRadar.Sse.Writer

/-!
# The text of an event

The JSON of an event that has a text, at a fixed time.  All texts here consist of one letter.
-/

namespace VacancyRadar.Sse

open Sessions (AgentEventType)

def typeField (type : AgentEventType) : List Char :=
  "\x7b\"type\":\"".toList ++ ((typeName type).toList ++ "\"".toList)

def textField (length : ℕ) : List Char :=
  "\"text\":\"".toList ++ (List.replicate length 'a' ++ "\"".toList)

def sequenceField (sequence : ℕ) : List Char :=
  "\"sequence\":".toList ++ (toString sequence).toList

def timestampField : List Char := "\"timestamp\":\"1970-01-01T00:00:00.000Z\"\x7d".toList

def plainText (e : Envelope ℕ) : List Char :=
  typeField e.type ++ ',' ::
    (textField e.content ++ ',' :: (sequenceField e.sequence ++ ',' :: timestampField))

def eventTypes : List AgentEventType :=
  [.sessionStarted, .status, .assistantMessage, .thinkingDelta, .toolStarted, .toolCompleted, .usage,
    .usageRateLimits, .error, .sessionCompleted, .sessionFailed, .sessionCancelled]

def parsePlain (text : List Char) : Except DataError (Envelope ℕ) :=
  match text.splitOn ',' with
  | [type, text, sequence, _] =>
    match eventTypes.find? fun t => typeField t = type with
    | some t =>
      .ok
        { sequence := Nat.ofDigitChars 10 (sequence.drop 11) 0
          type := t
          content := text.length - 9 }
    | none => .error .mismatch
  | _ => .error .malformed

variable {c : Char} {n : ℕ}

lemma notMem_toString (h : c.isDigit = false) : c ∉ (toString n).toList := by
  intro hmem
  rw [Nat.toString_eq_ofList_toDigits, String.toList_ofList] at hmem
  rw [Nat.isDigit_of_mem_toDigits (by decide) (by decide) hmem] at h
  cases h

lemma notMem_sequenceField (h : c.isDigit = false) (hname : c ∉ "\"sequence\":".toList) :
    c ∉ sequenceField n := by
  intro hmem
  rcases List.mem_append.mp hmem with hin | hin
  · exact hname hin
  · exact notMem_toString h hin

lemma notMem_textField (hletter : c ≠ 'a') (hname : c ∉ "\"text\":\"".toList)
    (hquote : c ∉ "\"".toList) : c ∉ textField n := by
  intro hmem
  rcases List.mem_append.mp hmem with hin | hin
  · exact hname hin
  · rcases List.mem_append.mp hin with hin | hin
    · exact hletter (List.eq_of_mem_replicate hin)
    · exact hquote hin

lemma length_textField (n : ℕ) : (textField n).length = n + 9 := by
  have hname : "\"text\":\"".toList.length = 8 := by decide
  have hquote : "\"".toList.length = 1 := by decide
  have hlength : (textField n).length =
      "\"text\":\"".toList.length + ((List.replicate n 'a').length + "\"".toList.length) :=
    List.length_append.trans (congrArg _ List.length_append)
  rw [hlength, hname, hquote, List.length_replicate]
  omega

lemma parsePlain_plainText (e : Envelope ℕ) : parsePlain (plainText e) = .ok e := by
  obtain ⟨sequence, type, content⟩ := e
  have htype : ',' ∉ typeField type := by cases type <;> decide
  have htext : ',' ∉ textField content :=
    notMem_textField (by decide) (by decide) (by decide)
  have hsequence : ',' ∉ sequenceField sequence :=
    notMem_sequenceField (by decide) (by decide)
  have htimestamp : ',' ∉ timestampField := by decide
  have hfind : (eventTypes.find? fun t => typeField t = typeField type) = some type := by
    cases type <;> decide
  have hnumber : Nat.ofDigitChars 10 ((sequenceField sequence).drop 11) 0 = sequence := by
    have hdrop : (sequenceField sequence).drop 11 = (toString sequence).toList :=
      List.drop_left' (by decide)
    rw [hdrop, Nat.toString_eq_ofList_toDigits, String.toList_ofList, Nat.ofDigitChars_ten_toDigits]
  have hlength : (textField content).length - 9 = content := by
    rw [length_textField, Nat.add_sub_cancel]
  rw [parsePlain, plainText]
  generalize sequenceField sequence = third at *
  generalize textField content = second at *
  generalize timestampField = last at *
  generalize hfirst : typeField type = first at *
  rw [List.splitOn_append_cons_self_of_not_mem htype, List.splitOn_append_cons_self_of_not_mem htext,
    List.splitOn_append_cons_self_of_not_mem hsequence, List.splitOn_eq_singleton htimestamp]
  dsimp only
  rw [hfind]
  rw [hnumber, hlength]

lemma newline_notMem_plainText (e : Envelope ℕ) : '\n' ∉ plainText e := by
  have htype : '\n' ∉ typeField e.type := by cases e.type <;> decide
  have htext : '\n' ∉ textField e.content :=
    notMem_textField (by decide) (by decide) (by decide)
  have hsequence : '\n' ∉ sequenceField e.sequence :=
    notMem_sequenceField (by decide) (by decide)
  have htimestamp : '\n' ∉ timestampField := by decide
  rw [plainText]
  generalize sequenceField e.sequence = third at *
  generalize textField e.content = second at *
  generalize timestampField = last at *
  generalize typeField e.type = first at *
  simp [htype, htext, hsequence, htimestamp]

def plainWire : Wire ℕ where
  stringify := plainText
  parse := parsePlain
  parse_stringify := parsePlain_plainText
  newline_notMem := newline_notMem_plainText

lemma length_plainText (e : Envelope ℕ) :
    (plainText e).length =
      (typeField e.type).length + (e.content + ((sequenceField e.sequence).length +
        (timestampField.length + 12))) := by
  have htext := length_textField e.content
  rw [plainText]
  generalize sequenceField e.sequence = third at *
  generalize textField e.content = second at *
  generalize timestampField = last at *
  generalize typeField e.type = first at *
  simp only [List.length_append, List.length_cons, htext]
  omega

lemma utf8ByteLength_replicate (n : ℕ) : utf8ByteLength (List.replicate n 'a') = n := by
  have hletter : utf8ByteLength ['a'] = 1 := by decide
  induction n with
  | zero => rfl
  | succ n ih => rw [List.replicate_succ', utf8ByteLength_append, ih, hletter]

lemma utf8ByteLength_textField (n : ℕ) : utf8ByteLength (textField n) = n + 9 := by
  have hname : utf8ByteLength "\"text\":\"".toList = 8 := by decide
  have hquote : utf8ByteLength "\"".toList = 1 := by decide
  have hlength : utf8ByteLength (textField n) =
      utf8ByteLength "\"text\":\"".toList +
        (utf8ByteLength (List.replicate n 'a') + utf8ByteLength "\"".toList) :=
    (utf8ByteLength_append ..).trans (congrArg _ (utf8ByteLength_append ..))
  rw [hlength, hname, hquote, utf8ByteLength_replicate]
  omega

lemma utf8ByteLength_plainText (e : Envelope ℕ) :
    utf8ByteLength (plainText e) =
      utf8ByteLength (typeField e.type) + (e.content + (utf8ByteLength (sequenceField e.sequence) +
        (utf8ByteLength timestampField + 12))) := by
  have htext := utf8ByteLength_textField e.content
  have hcomma (text : List Char) : utf8ByteLength (',' :: text) = utf8ByteLength text + 1 := by
    rw [← List.singleton_append, utf8ByteLength_append]
    exact Nat.add_comm ..
  rw [plainText]
  generalize sequenceField e.sequence = third at *
  generalize textField e.content = second at *
  generalize timestampField = last at *
  generalize typeField e.type = first at *
  simp only [utf8ByteLength_append, hcomma, htext]
  omega

end VacancyRadar.Sse
