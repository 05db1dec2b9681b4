import VacancyRadar.Sessions.Disk

/-!
# The text of an event

How a redacted event that says nothing but its type is written: the text of `JSON.stringify`, which
has its fields between braces.
-/

namespace VacancyRadar.Sessions

open Data

def ascii (text : String) : List UInt8 := text.toList.map fun c => UInt8.ofNat c.toNat

def digits (n : ℕ) : List UInt8 := (Nat.toDigits 10 n).map fun c => UInt8.ofNat c.toNat

def number (text : List UInt8) : ℕ := Nat.ofDigitChars 10 (text.map fun b => Char.ofNat b.toNat) 0

variable {n : ℕ} {b : UInt8}

lemma toNat_of_mem_toDigits {c : Char} (h : c ∈ Nat.toDigits 10 n) : 48 ≤ c.toNat ∧ c.toNat ≤ 57 :=
  Char.isDigit_iff_toNat.mp (Nat.isDigit_of_mem_toDigits (by decide) (by decide) h)

lemma number_digits (n : ℕ) : number (digits n) = n := by
  have hchars : (digits n).map (fun b => Char.ofNat b.toNat) = Nat.toDigits 10 n := by
    rw [digits, List.map_map]
    refine (List.map_congr_left fun c hc => ?_).trans (List.map_id _)
    obtain ⟨-, hhi⟩ := toNat_of_mem_toDigits hc
    have hlt : c.toNat < 256 := by omega
    simp [Nat.mod_eq_of_lt hlt]
  rw [number, hchars, Nat.ofDigitChars_ten_toDigits]

def EventBody.name : EventBody Unit → List UInt8
  | .agent .sessionStarted _ => ascii "session.started"
  | .agent .status _ => ascii "status"
  | .agent .assistantMessage _ => ascii "assistant.message"
  | .agent .thinkingDelta _ => ascii "thinking.delta"
  | .agent .toolStarted _ => ascii "tool.started"
  | .agent .toolCompleted _ => ascii "tool.completed"
  | .agent .usage _ => ascii "usage"
  | .agent .usageRateLimits _ => ascii "usage.rate_limits"
  | .agent .error _ => ascii "error"
  | .agent .sessionCompleted _ => ascii "session.completed"
  | .agent .sessionFailed _ => ascii "session.failed"
  | .agent .sessionCancelled _ => ascii "session.cancelled"
  | .interrupted => ascii "session.interrupted"

def bodies : List (EventBody Unit) :=
  [.agent .sessionStarted (), .agent .status (), .agent .assistantMessage (),
    .agent .thinkingDelta (), .agent .toolStarted (), .agent .toolCompleted (), .agent .usage (),
    .agent .usageRateLimits (), .agent .error (), .agent .sessionCompleted (),
    .agent .sessionFailed (), .agent .sessionCancelled (), .interrupted]

def fields (e : EventRecord Unit) : List UInt8 :=
  ascii "\"v\":1" ++ 44 :: (ascii "\"sequence\":" ++ digits e.sequence ++ 44 ::
    (ascii "\"timestamp\":" ++ digits e.timestamp ++ 44 ::
      (ascii "\"type\":\"" ++ e.body.name ++ ascii "\"")))

def parseFields (text : List UInt8) : Option (EventRecord Unit) :=
  match text.splitOn 44 with
  | [_, sequence, timestamp, type] =>
    (bodies.find? fun body => ascii "\"type\":\"" ++ body.name ++ ascii "\"" = type).map fun body =>
      { sequence := number (sequence.drop 11), timestamp := number (timestamp.drop 12), body }
  | _ => none

lemma mem_digits (h : b ∈ digits n) : 48 ≤ b.toNat ∧ b.toNat ≤ 57 := by
  obtain ⟨c, hc, rfl⟩ := List.mem_map.mp h
  obtain ⟨hlo, hhi⟩ := toNat_of_mem_toDigits hc
  have hlt : c.toNat < 256 := by omega
  rw [UInt8.toNat_ofNat_of_lt' hlt]
  exact ⟨hlo, hhi⟩

lemma notMem_digits (h : ¬ (48 ≤ b.toNat ∧ b.toNat ≤ 57)) : b ∉ digits n :=
  fun hmem => h (mem_digits hmem)

lemma notMem_name (body : EventBody Unit) : (44 : UInt8) ∉ body.name ∧ (123 : UInt8) ∉ body.name ∧
    (125 : UInt8) ∉ body.name ∧ (10 : UInt8) ∉ body.name := by
  cases body with
  | agent type content => cases content; cases type <;> decide
  | interrupted => decide

lemma find_body (body : EventBody Unit) :
    (bodies.find? fun body' =>
      ascii "\"type\":\"" ++ body'.name ++ ascii "\"" = ascii "\"type\":\"" ++ body.name ++ ascii "\"") =
      some body := by
  cases body with
  | agent type content => cases content; cases type <;> decide
  | interrupted => decide

lemma parseFields_fields (e : EventRecord Unit) : parseFields (fields e) = some e := by
  obtain ⟨hcomma, -, -, -⟩ := notMem_name e.body
  have hsequence : (44 : UInt8) ∉ ascii "\"sequence\":" ++ digits e.sequence := by
    rw [List.mem_append, not_or]
    exact ⟨by decide, notMem_digits (by decide)⟩
  have htimestamp : (44 : UInt8) ∉ ascii "\"timestamp\":" ++ digits e.timestamp := by
    rw [List.mem_append, not_or]
    exact ⟨by decide, notMem_digits (by decide)⟩
  have htype : (44 : UInt8) ∉ ascii "\"type\":\"" ++ e.body.name ++ ascii "\"" := by
    rw [List.mem_append, List.mem_append, not_or, not_or]
    exact ⟨⟨by decide, hcomma⟩, by decide⟩
  have hsplit : (fields e).splitOn 44 =
      [ascii "\"v\":1", ascii "\"sequence\":" ++ digits e.sequence,
        ascii "\"timestamp\":" ++ digits e.timestamp,
        ascii "\"type\":\"" ++ e.body.name ++ ascii "\""] := by
    rw [fields, List.splitOn_append_cons_self_of_not_mem (by decide),
      List.splitOn_append_cons_self_of_not_mem hsequence,
      List.splitOn_append_cons_self_of_not_mem htimestamp, List.splitOn_eq_singleton htype]
  rw [parseFields, hsplit]
  dsimp only
  rw [find_body, Option.map_some]
  have hdrop : (ascii "\"sequence\":" ++ digits e.sequence).drop 11 = digits e.sequence := rfl
  have hdrop' : (ascii "\"timestamp\":" ++ digits e.timestamp).drop 12 = digits e.timestamp := rfl
  rw [hdrop, hdrop', number_digits, number_digits]

def braces : LineCode.Brackets UInt8 where
  opening := 123
  closing := 125
  newline := 10
  opening_ne_closing := by decide
  newline_ne_opening := by decide
  newline_ne_closing := by decide

lemma inside_fields (e : EventRecord Unit) : braces.Inside (fields e) := by
  obtain ⟨-, hopen, hclose, hline⟩ := notMem_name e.body
  have hnot : ∀ b : UInt8, ¬ (48 ≤ b.toNat ∧ b.toNat ≤ 57) → b ∉ e.body.name →
      b ∉ ascii "\"v\":1" ++ 44 :: (ascii "\"sequence\":" ++ 44 ::
        (ascii "\"timestamp\":" ++ 44 :: (ascii "\"type\":\"" ++ ascii "\""))) →
      b ∉ fields e := by
    intro b hdigit hname hother
    simp only [fields, List.mem_append, List.mem_cons, not_or] at hother ⊢
    obtain ⟨hv, hcomma, hsequence, -, htimestamp, -, htype, hend⟩ := hother
    exact ⟨hv, hcomma, ⟨hsequence, notMem_digits hdigit⟩, hcomma,
      ⟨htimestamp, notMem_digits hdigit⟩, hcomma, ⟨htype, hname⟩, hend⟩
  refine ⟨hnot _ (by decide) hopen (by decide), hnot _ (by decide) hclose (by decide), ?_⟩
  exact hnot _ (by decide) hline (by decide)

def textCode : LineCode UInt8 (EventRecord Unit) :=
  LineCode.bracketed braces fields parseFields inside_fields parseFields_fields

def textFormat : Format Unit where
  code := textCode
  size _ := 600

end VacancyRadar.Sessions
