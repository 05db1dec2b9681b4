import VacancyRadar.BlindApply.Answers

/-!
# The keys of answers

An answer is saved under the key of its question, and then it is for every form, or under that key with the
item that it is for.  The two kinds of keys never collide.
-/

namespace VacancyRadar.BlindApply

open Data

/-! ## Keys -/

lemma eq_of_last_colon {x y r s : List Char} (hr : ':' ∉ r) (hs : ':' ∉ s) (h : x ++ ':' :: r = y ++ ':' :: s) :
    x = y ∧ r = s := by
  rcases List.append_eq_append_iff.mp h with ⟨t, rfl, ht⟩ | ⟨t, rfl, ht⟩
  · cases t with
    | nil => exact ⟨(List.append_nil x).symm, (List.cons.inj ht).2⟩
    | cons c t =>
      have hmem : ':' ∈ r := by
        rw [(List.cons.inj ht).2]
        simp
      exact absurd hmem hr
  · cases t with
    | nil => exact ⟨List.append_nil y, (List.cons.inj ht).2.symm⟩
    | cons c t =>
      have hmem : ':' ∈ s := by
        rw [(List.cons.inj ht).2]
        simp
      exact absurd hmem hs

lemma colon_not_mem_toString (id : ℕ) : ':' ∉ (toString id).toList := by
  intro h
  rw [Nat.toString_eq_ofList_toDigits, String.toList_ofList] at h
  exact absurd (Nat.isDigit_of_mem_toDigits (by decide) (by decide) h) (by decide)

lemma toList_scopedBlindAnswerKey (key : String) (id : ℕ) :
    (Store.scopedBlindAnswerKey key id).toList = (key.toList ++ "::item".toList) ++ ':' :: (toString id).toList := by
  rw [Store.scopedBlindAnswerKey, String.toList_append, String.toList_append, List.append_assoc,
    List.append_assoc]
  rfl

lemma scopedBlindAnswerKey_inj {key key' : String} {id id' : ℕ} :
    Store.scopedBlindAnswerKey key id = Store.scopedBlindAnswerKey key' id' ↔ key = key' ∧ id = id' := by
  constructor
  · intro h
    have hlist := congrArg String.toList h
    rw [toList_scopedBlindAnswerKey, toList_scopedBlindAnswerKey] at hlist
    obtain ⟨hkey, hid⟩ := eq_of_last_colon (colon_not_mem_toString id) (colon_not_mem_toString id') hlist
    refine ⟨String.toList_inj.mp (List.append_cancel_right hkey), ?_⟩
    rw [Nat.toString_eq_ofList_toDigits, Nat.toString_eq_ofList_toDigits, String.toList_ofList,
      String.toList_ofList] at hid
    have hvalue := congrArg (fun digits => Nat.ofDigitChars 10 digits 0) hid
    simpa only [Nat.ofDigitChars_ten_toDigits] using hvalue
  · rintro ⟨rfl, rfl⟩
    rfl

def OptionPart (hash : Option String) : Prop := ':' ∉ (hash.getD "").toList

lemma Reading.optionPart (reading : Reading) (labels : List String) :
    OptionPart (some (reading.optionSetHashOf labels)) :=
  colon_not_mem_hex _ _

lemma blindAnswerKey_ne_scoped (reading : Reading) (label : String) (controlType : ControlType)
    {hash : Option String} (hhash : OptionPart hash) (key : String) (id : ℕ) :
    reading.blindAnswerKey label controlType hash ≠ Store.scopedBlindAnswerKey key id := by
  intro h
  have hlist := congrArg String.toList h
  rw [toList_scopedBlindAnswerKey, Reading.blindAnswerKey, String.toList_append, String.toList_append,
    show "::".toList = [':'] ++ [':'] from rfl, ← List.append_assoc, List.append_assoc _ [':']] at hlist
  obtain ⟨hbefore, -⟩ := eq_of_last_colon hhash (colon_not_mem_toString id) hlist
  -- a colon stands before the last colon, or the letter of "item"
  have hlast : some ':' = (key.toList ++ "::item".toList).getLast? := by
    rw [← hbefore, List.getLast?_concat]
  rw [List.getLast?_append] at hlast
  cases hlast

/-! ## Rows -/

namespace Store

variable {db : Store} {key other : String} {label : String} {controlType : ControlType} {given : String}
  {hash : Option String} {now : ℤ}

def answerUnder (db : Store) (key : String) : Option String := (db.findBlindApplyAnswer key).map Answer.answer

lemma findSavedAnswer_map_snd (db : Store) (itemId : ℕ) (key : String) :
    (db.findSavedAnswer itemId key).map Prod.snd =
      (db.answerUnder key).or (db.answerUnder (scopedBlindAnswerKey key itemId)) := by
  unfold findSavedAnswer answerUnder
  cases db.findBlindApplyAnswer key <;> cases db.findBlindApplyAnswer (scopedBlindAnswerKey key itemId) <;> rfl

lemma answerUnder_saveBlindApplyAnswer :
    (db.saveBlindApplyAnswer key label controlType given hash now).answerUnder other =
      if other = key then some given else db.answerUnder other := by
  unfold saveBlindApplyAnswer
  cases hfind : db.findBlindApplyAnswer key with
  | some r =>
    have hr : r ∈ db.answers.rows := List.mem_of_find?_eq_some hfind
    have hkey : r.matchKey = key := by simpa using List.find?_some hfind
    have hrows : ∀ f : Answer → Answer, (∀ r, (f r).matchKey = r.matchKey) →
        (db.answers.rows.map f).find? (fun r => r.matchKey == other) =
          (db.findBlindApplyAnswer other).map f := by
      intro f hf
      have hcomp : ((fun r : Answer => r.matchKey == other) ∘ f) = fun r => r.matchKey == other := by
        funext r
        simp [hf]
      rw [List.find?_map, hcomp, findBlindApplyAnswer]
    unfold answerUnder
    show (((db.answers.rows.map fun r' => if Keyed.key r' == r.id then { r' with answer := given, label }
      else r').find? fun r => r.matchKey == other).map Answer.answer) = _
    rw [hrows _ fun r' => by split <;> rfl]
    split
    · next hother =>
      rw [hother, hfind]
      simp [Keyed.key]
    · next hother =>
      cases hfound : db.findBlindApplyAnswer other with
      | none => rfl
      | some r' =>
        -- the row under the other key is another row
        have hne : Keyed.key r' ≠ r.id := by
          intro hid
          have hsame : r' = r := Table.eq_of_key_eq (List.mem_of_find?_eq_some hfound) hr hid
          have hkey' : r'.matchKey = other := by simpa using List.find?_some hfound
          exact hother (by rw [← hkey', hsame, hkey])
        simp [hne]
  | none =>
    unfold answerUnder findBlindApplyAnswer
    dsimp only [Table.insert]
    rw [List.find?_append]
    split
    · next hother =>
      rw [hother]
      unfold findBlindApplyAnswer at hfind
      rw [hfind]
      simp
    · next hother => simp [Ne.symm hother]

end Store

end VacancyRadar.BlindApply
