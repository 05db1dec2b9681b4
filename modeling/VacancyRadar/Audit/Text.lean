import VacancyRadar.Audit.Store
import VacancyRadar.Sessions.Text

/-!
# The text of an audit entry

How an entry that has nothing besides its number and its stamp is written: between braces, with the
id and the time in digits of a fixed number.
-/

namespace VacancyRadar.Audit

open Data Sessions

def padded (width n : ℕ) : List UInt8 :=
  List.replicate (width - (digits n).length) 48 ++ digits n

lemma length_digits_le {m n : ℕ} (h : m ≤ n) : (digits m).length ≤ (digits n).length := by
  rw [digits, digits, List.length_map, List.length_map,
    Nat.length_toDigits_le_iff (by decide) Nat.length_toDigits_pos]
  exact h.trans_lt
    ((Nat.length_toDigits_le_iff (by decide) Nat.length_toDigits_pos).mp (le_refl _))

lemma length_padded {width n : ℕ} (hwidth : 0 < width) (h : n < 10 ^ width) :
    (padded width n).length = width := by
  have hle : (digits n).length ≤ width := by
    rw [digits, List.length_map]
    exact (Nat.length_toDigits_le_iff (by decide) hwidth).mpr h
  rw [padded, List.length_append, List.length_replicate]
  omega

lemma number_padded (width n : ℕ) : number (padded width n) = n := by
  have hzeros : ∀ k text, number (List.replicate k 48 ++ text) = number text := by
    intro k text
    induction k with
    | zero => rfl
    | succ k ih => rw [← ih]; rfl
  rw [padded, hzeros, number_digits]

lemma notMem_padded {width n : ℕ} {b : UInt8} (h : ¬ (48 ≤ b.toNat ∧ b.toNat ≤ 57)) :
    b ∉ padded width n := by
  rw [padded, List.mem_append, not_or]
  refine ⟨fun hmem => ?_, notMem_digits h⟩
  rw [List.eq_of_mem_replicate hmem] at h
  exact h (by decide)

def entryFields (e : AuditEntry Unit) : List UInt8 :=
  ascii "\"sequence\":" ++ digits e.sequence ++ 44 ::
    (ascii "\"entryId\":\"" ++ padded 39 e.stamp.entryId.toNat ++ ascii "\"" ++ 44 ::
      (ascii "\"recordedAt\":\"" ++ padded 15 e.stamp.recordedAt ++ ascii "\""))

def parseEntry (text : List UInt8) : Option (AuditEntry Unit) :=
  match text.splitOn 44 with
  | [sequence, entryId, recordedAt] =>
    let time := number ((recordedAt.drop 14).dropLast)
    if h : time < 253402300800000 then
      some
        { sequence := number (sequence.drop 11)
          stamp := ⟨BitVec.ofNat 128 (number ((entryId.drop 11).dropLast)), time, h⟩
          input := () }
    else none
  | _ => none

lemma parseEntry_entryFields (e : AuditEntry Unit) : parseEntry (entryFields e) = some e := by
  obtain ⟨sequence, ⟨entryId, recordedAt, hlt⟩, ⟨⟩⟩ := e
  have hsequence : (44 : UInt8) ∉ ascii "\"sequence\":" ++ digits sequence := by
    rw [List.mem_append, not_or]
    exact ⟨by decide, notMem_digits (by decide)⟩
  have hentryId : (44 : UInt8) ∉ ascii "\"entryId\":\"" ++ padded 39 entryId.toNat ++ ascii "\"" := by
    rw [List.mem_append, List.mem_append, not_or, not_or]
    exact ⟨⟨by decide, notMem_padded (by decide)⟩, by decide⟩
  have hrecordedAt : (44 : UInt8) ∉ ascii "\"recordedAt\":\"" ++ padded 15 recordedAt ++ ascii "\"" := by
    rw [List.mem_append, List.mem_append, not_or, not_or]
    exact ⟨⟨by decide, notMem_padded (by decide)⟩, by decide⟩
  have hsplit : (entryFields ⟨sequence, ⟨entryId, recordedAt, hlt⟩, ()⟩).splitOn 44 =
      [ascii "\"sequence\":" ++ digits sequence,
        ascii "\"entryId\":\"" ++ padded 39 entryId.toNat ++ ascii "\"",
        ascii "\"recordedAt\":\"" ++ padded 15 recordedAt ++ ascii "\""] := by
    rw [entryFields, List.splitOn_append_cons_self_of_not_mem hsequence,
      List.splitOn_append_cons_self_of_not_mem hentryId, List.splitOn_eq_singleton hrecordedAt]
  have hdrop : (ascii "\"sequence\":" ++ digits sequence).drop 11 = digits sequence := rfl
  have hdrop' : ((ascii "\"entryId\":\"" ++ padded 39 entryId.toNat ++ ascii "\"").drop 11).dropLast =
      padded 39 entryId.toNat := by
    exact List.dropLast_concat
  have hdrop'' : ((ascii "\"recordedAt\":\"" ++ padded 15 recordedAt ++ ascii "\"").drop 14).dropLast =
      padded 15 recordedAt := by
    exact List.dropLast_concat
  rw [parseEntry, hsplit]
  dsimp only
  rw [hdrop, hdrop', hdrop'', number_digits, number_padded]
  simp only [number_padded, BitVec.ofNat_toNat, BitVec.setWidth_eq, dif_pos hlt]

lemma inside_entryFields (e : AuditEntry Unit) : braces.Inside (entryFields e) := by
  have hnot : ∀ b : UInt8, ¬ (48 ≤ b.toNat ∧ b.toNat ≤ 57) →
      b ∉ ascii "\"sequence\":" ++ 44 :: (ascii "\"entryId\":\"" ++ ascii "\"" ++ 44 ::
        (ascii "\"recordedAt\":\"" ++ ascii "\"")) →
      b ∉ entryFields e := by
    intro b hdigit hother
    simp only [entryFields, List.mem_append, List.mem_cons, not_or] at hother ⊢
    obtain ⟨hsequence, hcomma, ⟨hentryId, hquote⟩, -, hrecordedAt, -⟩ := hother
    exact ⟨⟨hsequence, notMem_digits hdigit⟩, hcomma, ⟨⟨hentryId, notMem_padded hdigit⟩, hquote⟩,
      hcomma, ⟨hrecordedAt, notMem_padded hdigit⟩, hquote⟩
  exact ⟨hnot _ (by decide) (by decide), hnot _ (by decide) (by decide),
    hnot _ (by decide) (by decide)⟩

def entryFormat : AuditFormat Unit where
  code := LineCode.bracketed braces entryFields parseEntry inside_entryFields parseEntry_entryFields
  accepts _ := true
  parses _ := false
  length_le e e' _ h := by
    have hid : ∀ stamp : Stamp, (padded 39 stamp.entryId.toNat).length = 39 := by
      intro stamp
      exact length_padded (by decide) (stamp.entryId.isLt.trans (by decide))
    have htime : ∀ stamp : Stamp, (padded 15 stamp.recordedAt).length = 15 := by
      intro stamp
      exact length_padded (by decide) (stamp.recordedAt_lt.trans (by decide))
    have hdigits := length_digits_le h
    have hlength : ∀ e : AuditEntry Unit, (entryFields e).length = (digits e.sequence).length + 94 := by
      intro e
      simp only [entryFields, List.length_append, List.length_cons, hid, htime]
      have h₁ : (ascii "\"sequence\":").length = 11 := by decide
      have h₂ : (ascii "\"entryId\":\"").length = 11 := by decide
      have h₃ : (ascii "\"recordedAt\":\"").length = 14 := by decide
      have h₄ : (ascii "\"").length = 1 := by decide
      omega
    change (braces.enclose (entryFields e)).length ≤ (braces.enclose (entryFields e')).length
    simp only [LineCode.Brackets.enclose, List.length_cons, List.length_append, hlength]
    omega

end VacancyRadar.Audit
