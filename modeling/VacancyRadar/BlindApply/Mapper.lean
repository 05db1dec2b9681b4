import VacancyRadar.BlindApply.Runner

/-!
# The field mapper as one step on the record

The mapper of `createBlindApplyFieldMapper` never waits, so a caller in another part of the
process sees it as a single step on the Blind Apply record.  `advance_blindApplyFieldMapper` says
that the step is what the program of the runner does.
-/

namespace VacancyRadar.BlindApply

open Coop Prog

namespace Store

def recordAnswersUsed (db : Store) (uses : List AnswerUse) (now : ℤ) : Store :=
  uses.foldl (fun db use =>
    match use.answerId with
    | some id => db.recordBlindApplyAnswerUsed id now
    | none => db) db

def handles (db : Store) (attemptId : ℕ) : Bool :=
  (db.getBlindApplyItemByAttempt attemptId).any fun item =>
    (item.state == .preparing || item.state == .needsAnswer) &&
      db.isBlindApplyAuthorizationActive item.authorizationId

def fieldMapper (db : Store) (attemptId : ℕ)
    (mapBlindApplyAnswers : (String → Option (ℕ × String)) → Mapping) (now : ℤ) :
    Store × Except StoreError MapOutcome :=
  match db.getBlindApplyItemByAttempt attemptId with
  | none => (db, .ok ⟨false, notHandledDetail⟩)
  | some item =>
    if item.state ≠ .preparing ∧ item.state ≠ .needsAnswer then
      (db, .ok ⟨false, notHandledDetail⟩)
    else if !db.isBlindApplyAuthorizationActive item.authorizationId then
      (db, .ok ⟨false, "Blind Apply paused: Blind Apply was stopped"⟩)
    else
      let mapping := mapBlindApplyAnswers (db.findSavedAnswer item.id)
      match mapping.interventions with
      | (kind, label) :: _ =>
        ((db.transitionBlindApplyItem item.id [.preparing, .needsAnswer] .needsYou
          { intervention := some kind, stateDetail := some ("Needs you: " ++ label)
            attemptId := some (some attemptId) }
          { kind := .prepare, detail := some ("needs you (" ++ kind.text ++ ")") } now).1,
          .ok ⟨false, "Blind Apply paused: \"" ++ label ++ "\" needs you"⟩)
      | [] =>
        if mapping.missing ≠ [] then
          let n := mapping.missing.length
          ((db.transitionBlindApplyItem item.id [.preparing, .needsAnswer] .needsAnswer
            { missingFields := some mapping.missing
              stateDetail := some ("Needs " ++ answersText n) }
            { kind := .prepare, detail := some ("needs " ++ toString n ++ " answer(s)") } now).1,
            .ok ⟨false, "Blind Apply paused: it needs " ++ answersText n ++ " from you"⟩)
        else
          let q := (db.recordAnswersUsed mapping.uses now).appendBlindApplyEvent item.id item.state
            { kind := .answerUsed, answers := some mapping.uses
              detail := some "form filled from your saved details" } now
          (q.1, q.2.map fun _ => ⟨true, ""⟩)

lemma fieldMapper_of_not_handles {db : Store} {attemptId : ℕ}
    {mapBlindApplyAnswers : (String → Option (ℕ × String)) → Mapping} {now : ℤ}
    (h : db.handles attemptId = false) :
    (db.fieldMapper attemptId mapBlindApplyAnswers now).1 = db := by
  unfold fieldMapper
  cases hitem : db.getBlindApplyItemByAttempt attemptId with
  | none => rfl
  | some item =>
    simp only [handles, hitem, Option.any_some, Bool.and_eq_false_iff, Bool.or_eq_false_iff,
      beq_eq_false_iff_ne] at h
    dsimp only
    by_cases hstate : item.state ≠ .preparing ∧ item.state ≠ .needsAnswer
    · rw [if_pos hstate]
    · have hactive := h.resolve_left hstate
      rw [if_neg hstate, if_pos (by rw [hactive]; rfl)]

end Store

lemma advance_op_bind {α : Type} {a : Op} {f : a.Res → Run α} {s s' : State} {r : a.Res}
    (h : Op.run a s = (s', .ok r)) :
    (op a >>= f).advance Op.run s = (f r).advance Op.run s' := by
  refine advance_bind_of_ret Op.run ?_
  change (Prog.ofExcept (S := sig) (Op.run a s).2).advance Op.run (Op.run a s).1 = _
  rw [h]
  rfl

lemma advance_recordAnswersUsed (uses : List AnswerUse) (s : State) :
    (forEach (S := sig) uses fun use =>
      match use.answerId with
      | some id => op (.answerUsed id)
      | none => pure ()).advance Op.run s =
      ({ s with db := s.db.recordAnswersUsed uses s.clock }, .ret ()) := by
  induction uses generalizing s with
  | nil => rfl
  | cons use uses ih =>
    cases hid : use.answerId with
    | none =>
      simp only [forEach, hid, Store.recordAnswersUsed, List.foldl_cons]
      exact ih s
    | some id =>
      simp only [forEach, hid, Store.recordAnswersUsed, List.foldl_cons]
      exact ih _

end VacancyRadar.BlindApply
