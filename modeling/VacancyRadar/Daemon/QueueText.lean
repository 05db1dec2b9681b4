import VacancyRadar.Daemon.QueueStore
import VacancyRadar.Sessions.Text

/-!
# The text of a queue event

How the events of the queue are written, with their times in digits.
-/

namespace VacancyRadar.Daemon

open Data Sessions

def QueueEventType.name : QueueEventType → List UInt8
  | .enqueued => ascii "enqueued"
  | .leaseAcquired => ascii "lease_acquired"
  | .paused => ascii "paused"
  | .resumed => ascii "resumed"
  | .skipped => ascii "skipped"
  | .cancelled => ascii "cancelled"
  | .released => ascii "released"

def queueEventTypes : List QueueEventType :=
  [.enqueued, .leaseAcquired, .paused, .resumed, .skipped, .cancelled, .released]

def queueFields (e : QueueEvent) : List UInt8 :=
  ascii "\"seq\":" ++ digits e.seq ++ 44 ::
    (ascii "\"at\":" ++ digits e.time ++ 44 ::
      (ascii "\"type\":\"" ++ e.type.name ++ ascii "\"" ++ 44 ::
        (ascii "\"attemptId\":" ++ digits e.attemptId)))

def parseQueueFields (text : List UInt8) : Option QueueEvent :=
  match text.splitOn 44 with
  | [seq, time, type, attemptId] =>
    (queueEventTypes.find? fun t => ascii "\"type\":\"" ++ t.name ++ ascii "\"" = type).map fun type =>
      { seq := number (seq.drop 6), time := number (time.drop 5), type,
        attemptId := number (attemptId.drop 12) }
  | _ => none

lemma notMem_queueName (type : QueueEventType) : (44 : UInt8) ∉ type.name ∧
    (123 : UInt8) ∉ type.name ∧ (125 : UInt8) ∉ type.name ∧ (10 : UInt8) ∉ type.name := by
  cases type <;> decide

lemma find_queueEventType (type : QueueEventType) :
    (queueEventTypes.find? fun t =>
      ascii "\"type\":\"" ++ t.name ++ ascii "\"" = ascii "\"type\":\"" ++ type.name ++ ascii "\"") =
      some type := by
  cases type <;> decide

lemma parseQueueFields_queueFields (e : QueueEvent) : parseQueueFields (queueFields e) = some e := by
  have hfield (name : List UInt8) (n : ℕ) (hname : (44 : UInt8) ∉ name) :
      (44 : UInt8) ∉ name ++ digits n := by
    rw [List.mem_append, not_or]
    exact ⟨hname, notMem_digits (by decide)⟩
  have htype : (44 : UInt8) ∉ ascii "\"type\":\"" ++ e.type.name ++ ascii "\"" := by
    rw [List.mem_append, List.mem_append, not_or, not_or]
    exact ⟨⟨by decide, (notMem_queueName e.type).1⟩, by decide⟩
  have hsplit : (queueFields e).splitOn 44 =
      [ascii "\"seq\":" ++ digits e.seq, ascii "\"at\":" ++ digits e.time,
        ascii "\"type\":\"" ++ e.type.name ++ ascii "\"",
        ascii "\"attemptId\":" ++ digits e.attemptId] := by
    rw [queueFields, List.splitOn_append_cons_self_of_not_mem (hfield _ _ (by decide)),
      List.splitOn_append_cons_self_of_not_mem (hfield _ _ (by decide)),
      List.splitOn_append_cons_self_of_not_mem htype,
      List.splitOn_eq_singleton (hfield _ _ (by decide))]
  have hseq : (ascii "\"seq\":" ++ digits e.seq).drop 6 = digits e.seq := rfl
  have htime : (ascii "\"at\":" ++ digits e.time).drop 5 = digits e.time := rfl
  have hattempt : (ascii "\"attemptId\":" ++ digits e.attemptId).drop 12 = digits e.attemptId := rfl
  rw [parseQueueFields, hsplit]
  dsimp only
  rw [find_queueEventType, Option.map_some, hseq, htime, hattempt, number_digits, number_digits,
    number_digits]

lemma inside_queueFields (e : QueueEvent) : braces.Inside (queueFields e) := by
  obtain ⟨-, hopen, hclose, hline⟩ := notMem_queueName e.type
  have hnot : ∀ b : UInt8, ¬ (48 ≤ b.toNat ∧ b.toNat ≤ 57) → b ∉ e.type.name →
      b ∉ ascii "\"seq\":" ++ 44 :: (ascii "\"at\":" ++ 44 ::
        (ascii "\"type\":\"" ++ ascii "\"" ++ 44 :: ascii "\"attemptId\":")) →
      b ∉ queueFields e := by
    intro b hdigit hname hother
    simp only [queueFields, List.mem_append, List.mem_cons, not_or] at hother ⊢
    obtain ⟨hseq, hcomma, htime, -, ⟨htype, hquote⟩, -, hattempt⟩ := hother
    exact ⟨⟨hseq, notMem_digits hdigit⟩, hcomma, ⟨htime, notMem_digits hdigit⟩, hcomma,
      ⟨⟨htype, hname⟩, hquote⟩, hcomma, hattempt, notMem_digits hdigit⟩
  exact ⟨hnot _ (by decide) hopen (by decide), hnot _ (by decide) hclose (by decide),
    hnot _ (by decide) hline (by decide)⟩

def queueCode : LineCode UInt8 QueueEvent :=
  LineCode.bracketed braces queueFields parseQueueFields inside_queueFields
    parseQueueFields_queueFields

end VacancyRadar.Daemon
