import Mathlib.Data.List.Find
import VacancyRadar.BlindApply.Keys
import VacancyRadar.BlindApply.Mapper

/-!
# Answering a card

The mapper asks the person for the required fields that it cannot fill, `answer` saves what they give, and
the mapper runs again.  The form gets on if it asks for none of these fields then; `Answerable` says when it
does.
-/

namespace VacancyRadar.BlindApply

open Coop Data Form Prog

variable {resolved : List (MissingField × String)} {last : SnapshotField}

/-! ## The fields that are asked for -/

def askType (field : SnapshotField) : ControlType :=
  match field.controlType with
  | .select => .select
  | .textarea => .textarea
  | _ => .text

section Asked

variable (reading : Reading) (input : BlindAnswerMapperInput) (field : SnapshotField)

def askable : Bool :=
  field.required && field.classification.isNone &&
    !verificationCodeLabel (reading.letters.normalizeFieldLabel field.label) &&
    match field.controlType with
    | .select => true
    | .text | .textarea => (knownValue reading input field).isNone && !ambiguous reading input field
    | _ => false

def fills (answer : String) : Bool :=
  match field.controlType with
  | .select => (chosenOption reading field answer).isSome
  | _ => trim answer ≠ ""

def filled : Bool :=
  (savedFor reading input field (askType field)).any fun saved => fills reading field saved.2

def askedFields : List SnapshotField :=
  (activeFields input).filter fun field => askable reading input field && !filled reading input field

/-- The labels among which the answer to a `select` has to be. -/
def offered : List String :=
  ((optionLabels field).getD []).filter fun label => !isPlaceholderOption label

def askKey : String := questionKey reading field (askType field)

end Asked

section Missing

variable {reading : Reading} {mintValueRef : Ref → Ref} {input : BlindAnswerMapperInput} {field : SnapshotField}

lemma missing?_intervene (kind : Intervention) (reason : UnmappedReason) :
    (Decision.intervene field kind reason).missing? = none := rfl

lemma missing?_ask (controlType : ControlType) : (Decision.ask reading field controlType).missing? =
    if field.required then some (missingAnswer reading field controlType) else none := rfl

lemma missing?_decideSelect (hselect : field.controlType = .select) :
    (decideSelect reading input field).missing? =
      if field.required && !filled reading input field then some (missingAnswer reading field .select)
      else none := by
  unfold decideSelect filled fills askType
  rw [hselect]
  rcases savedFor reading input field .select with _ | ⟨id, answer⟩
  · rw [missing?_ask]
    simp
  · dsimp only
    cases hchosen : chosenOption reading field answer with
    | none =>
      rw [missing?_ask]
      simp [hchosen]
    | some chosen => simp [Decision.missing?, hchosen]

lemma missing?_decideText (htext : field.controlType = .text ∨ field.controlType = .textarea) :
    (decideText reading mintValueRef input field (askType field)).missing? =
      if field.required && ((knownValue reading input field).isNone && !ambiguous reading input field) &&
          !filled reading input field then
        some (missingAnswer reading field (askType field)) else none := by
  have hfills : ∀ answer, fills reading field answer = decide (trim answer ≠ "") := by
    intro answer
    unfold fills
    rcases htext with htext | htext <;> rw [htext]
  unfold decideText
  cases hknown : knownValue reading input field with
  | some entry => simp [Decision.missing?]
  | none =>
    unfold decideAnswered filled
    cases hambiguous : ambiguous reading input field with
    | true =>
      have hsaved : savedFor reading input field (askType field) = none := by
        rw [savedFor, hambiguous]
        rfl
      rw [hsaved]
      cases hrequired : field.required <;> simp [Decision.missing?, Decision.ask, hrequired]
    | false =>
      rcases savedFor reading input field (askType field) with _ | ⟨id, answer⟩
      · simp [missing?_ask]
      · simp only [Option.any_some, hfills]
        split
        · next hanswer => simp [Decision.missing?, hanswer]
        · next hanswer => simp [missing?_ask, hanswer]

lemma missing?_decision (field : SnapshotField) : (decision reading mintValueRef input field).missing? =
    if askable reading input field && !filled reading input field then
      some (missingAnswer reading field (askType field)) else none := by
  unfold decision askable
  cases hclass : field.classification with
  | some classification => cases classification <;> simp [missing?_intervene]
  | none =>
    cases hcode : verificationCodeLabel (reading.letters.normalizeFieldLabel field.label) with
    | true => simp [missing?_intervene]
    | false =>
      rw [if_neg Bool.false_ne_true]
      cases htype : field.controlType with
      | file =>
        cases chooseArtifactForField reading.letters field input.artifacts with
        | none => simp [missing?_intervene]
        | some artifact => simp [Decision.missing?]
      | checkbox => simp [missing?_intervene]
      | radio => simp [missing?_intervene]
      | unknown => simp [missing?_intervene]
      | select =>
        rw [missing?_decideSelect htype]
        simp [askType, htype]
      | text =>
        have htext : (decideText reading mintValueRef input field (askType field)).missing? = _ :=
          missing?_decideText (.inl htype)
        rw [show askType field = .text by rw [askType, htype]] at htext ⊢
        rw [htext]
        simp
      | textarea =>
        have htext : (decideText reading mintValueRef input field (askType field)).missing? = _ :=
          missing?_decideText (.inr htype)
        rw [show askType field = .textarea by rw [askType, htype]] at htext ⊢
        rw [htext]
        simp

lemma missing_mapBlindApplyAnswers : (mapBlindApplyAnswers reading mintValueRef input).missing =
    (askedFields reading input).map fun field => missingAnswer reading field (askType field) := by
  show (activeFields input).filterMap (fun field => (decision reading mintValueRef input field).missing?) = _
  simp only [missing?_decision]
  rw [askedFields, ← List.filterMap_eq_map, List.filterMap_filter]
  rfl

end Missing

/-! ## Giving answers -/

section Given

variable (given : AnswerInput)

def AnswerInput.text (field : MissingField) : String :=
  trim (((given.answers.find? fun e => e.1 == field.label).map Prod.snd).getD "")

def AnswerInput.Suits (field : MissingField) : Prop :=
  given.text field ≠ "" ∧ (field.controlType = .select → given.text field ∈ field.options.getD [])

variable {given}

lemma resolveAnswers_eq_ok {missing : List MissingField} :
    resolveAnswers given missing = .ok resolved ↔
      (∀ field ∈ missing, given.Suits field) ∧ resolved = missing.map fun field => (field, given.text field) := by
  induction missing generalizing resolved with
  | nil =>
    simp [resolveAnswers, eq_comm]
  | cons field missing ih =>
    rw [resolveAnswers, List.forall_mem_cons, List.map_cons]
    show (if given.text field = "" then _ else if field.controlType = .select ∧
      given.text field ∉ field.options.getD [] then _ else _) = _ ↔ _
    split
    · next hempty => simp [AnswerInput.Suits, hempty]
    · next hgiven =>
      split
      · next hoption => simp [AnswerInput.Suits, hoption.1, hoption.2]
      · next hoption =>
        have hsuits : given.Suits field := by
          refine ⟨hgiven, fun hselect => ?_⟩
          by_contra hnot
          exact hoption ⟨hselect, hnot⟩
        cases hrest : resolveAnswers given missing with
        | error refusal =>
          simp only [Except.map, reduceCtorEq, false_iff]
          rintro ⟨⟨-, hall⟩, -⟩
          have hok := ih.mpr ⟨hall, rfl⟩
          rw [hrest] at hok
          cases hok
        | ok rest =>
          obtain ⟨hall, rfl⟩ := ih.mp hrest
          simp only [Except.map, Except.ok.injEq, hsuits, true_and]
          constructor
          · rintro rfl
            exact ⟨hall, rfl⟩
          · exact fun h => h.2.symm

end Given

/-! ## Saving answers -/

section Saved

variable (host : Host) (given : AnswerInput) (itemId : ℕ)

def savedOptionSet (field : MissingField) : Option String :=
  if field.controlType = .select then field.optionSetHash else none

def AnswerInput.savedKey (field : MissingField) : String :=
  let key := host.blindAnswerKey field.label field.controlType (savedOptionSet field)
  if given.remember then key else Store.scopedBlindAnswerKey key itemId

def Store.saveAllGiven (db : Store) (resolved : List (MissingField × String)) (now : ℤ) : Store :=
  resolved.foldl (fun db e =>
    db.saveBlindApplyAnswer (given.savedKey host itemId e.1) e.1.label e.1.controlType e.2
      (savedOptionSet e.1) now) db

lemma advance_saveGiven (resolved : List (MissingField × String)) (s : State) :
    (forEach (S := sig) resolved fun (field, text) => saveGiven host given itemId field text).advance Op.run s =
      ({ s with db := s.db.saveAllGiven host given itemId resolved s.clock }, .ret ()) := by
  induction resolved generalizing s with
  | nil => rfl
  | cons e resolved ih =>
    exact ih _

/-- After the answers are accepted they are saved, and then preparation is asked to go on. -/
theorem advance_answer {s : State} {item : Item} {attemptId : ℕ}
    (hitem : s.db.getBlindApplyItem given.itemId = some item) (hattempt : item.attemptId = some attemptId)
    (hstate : item.state = .needsAnswer) (hactive : s.isActive item.authorizationId = true)
    (hresolved : resolveAnswers given (item.missingFields.getD []) = .ok resolved) :
    (answer host given).advance Op.run s =
      (do
        if !(← pipelineResume .answer attemptId) then
          return .error .notWaiting
        let _ ← move item [.needsAnswer] .preparing
          { stateDetail := some "Preparing with your answer" }
          { kind := .userAction
            detail := some (if given.remember then "answered; remembered for Blind Apply"
              else "answered for this form only") }
        return .ok () : Run (Except AnswerRefusal Unit)).advance Op.run
        { s with db := s.db.saveAllGiven host given item.id resolved s.clock } := by
  rw [answer, advance_op_bind (show Op.run (.getItem given.itemId) s = (s, .ok (some item)) by
    rw [← hitem]; rfl)]
  dsimp only
  rw [hattempt]
  dsimp only
  rw [if_neg (by simp [hstate]), advance_op_bind (show Op.run (.isActive item.authorizationId) s = (s, .ok true) by
    rw [← hactive]; rfl)]
  simp only [Bool.not_true, Bool.false_eq_true, if_false, hresolved]
  exact advance_bind_of_ret Op.run (advance_saveGiven host given item.id resolved s)

variable {host given itemId}

lemma Store.answerUnder_saveAllGiven {db : Store} {now : ℤ} (key : String) :
    (db.saveAllGiven host given itemId resolved now).answerUnder key =
      ((resolved.reverse.find? fun e => given.savedKey host itemId e.1 = key).map Prod.snd).or
        (db.answerUnder key) := by
  induction resolved generalizing db with
  | nil => rfl
  | cons e resolved ih =>
    rw [Store.saveAllGiven, List.foldl_cons, ← Store.saveAllGiven, ih, Store.answerUnder_saveBlindApplyAnswer,
      List.reverse_cons, List.find?_append]
    cases resolved.reverse.find? fun e => given.savedKey host itemId e.1 = key with
    | some last => rfl
    | none =>
      by_cases hkey : given.savedKey host itemId e.1 = key
      · simp [hkey]
      · simp [hkey, Ne.symm hkey]

end Saved

/-! ## Getting on -/

def Reading.host (reading : Reading) (deriveApplicationIdentity : String → String → ApplicationIdentity) : Host :=
  ⟨deriveApplicationIdentity, reading.letters.normalizeBlindLabel⟩

def BlindAnswerMapperInput.on (input : BlindAnswerMapperInput) (db : Store) (itemId : ℕ) :
    BlindAnswerMapperInput :=
  { input with findSavedAnswer := db.findSavedAnswer itemId }

def BlindAnswerMapping.card (mapping : BlindAnswerMapping) : List MissingField :=
  mapping.missing.map MissingAnswer.toMissingField

section Progress

variable (reading : Reading) (derive : String → String → ApplicationIdentity) (mintValueRef : Ref → Ref)
  (input : BlindAnswerMapperInput) (db : Store) (itemId : ℕ)

def mappingOn : BlindAnswerMapping := mapBlindApplyAnswers reading mintValueRef (input.on db itemId)

structure Progresses : Prop where
  accepted : ∃ given : AnswerInput, given.itemId = itemId ∧
    ∃ resolved, resolveAnswers given (mappingOn reading mintValueRef input db itemId).card = .ok resolved
  answered : ∀ (given : AnswerInput) resolved now, given.itemId = itemId →
    resolveAnswers given (mappingOn reading mintValueRef input db itemId).card = .ok resolved →
    ∀ m ∈ (mappingOn reading mintValueRef input db itemId).missing,
      m.fieldRef ∉ (mappingOn reading mintValueRef input
        (db.saveAllGiven (reading.host derive) given itemId resolved now) itemId).missing.map
          MissingAnswer.fieldRef

def lastAsked (field : SnapshotField) : Option SnapshotField :=
  (askedFields reading (input.on db itemId)).reverse.find? fun other =>
    askKey reading other = askKey reading field

/-- When answering makes progress: a field that is asked for is not ambiguous and no answer is remembered for
it, and a `select` offers a label without white space around it and understands each answer that the last
`select` with its question accepts. -/
structure Answerable : Prop where
  unambiguous : ∀ field ∈ askedFields reading (input.on db itemId), ambiguous reading input field = false
  unremembered : ∀ field ∈ askedFields reading (input.on db itemId),
    db.findBlindApplyAnswer (askKey reading field) = none
  offers : ∀ field ∈ askedFields reading (input.on db itemId), field.controlType = .select →
    ∃ label ∈ offered field, trim label = label
  understood : ∀ field ∈ askedFields reading (input.on db itemId), field.controlType = .select →
    ∀ last, lastAsked reading input db itemId field = some last → ∀ label ∈ offered last,
      trim label = label → (chosenOption reading field label).isSome

end Progress

section Lemmas

variable {reading : Reading} {derive : String → String → ApplicationIdentity} {mintValueRef : Ref → Ref}
  {input : BlindAnswerMapperInput} {db : Store} {itemId : ℕ} {field other : SnapshotField}

lemma mem_askedFields : field ∈ askedFields reading (input.on db itemId) ↔ field ∈ activeFields input ∧
    askable reading input field = true ∧ filled reading (input.on db itemId) field = false := by
  show field ∈ (activeFields input).filter _ ↔ _
  rw [List.mem_filter, Bool.and_eq_true, Bool.not_eq_true']
  rfl

def asks (reading : Reading) (field : SnapshotField) : MissingField :=
  (missingAnswer reading field (askType field)).toMissingField

lemma card_mappingOn : (mappingOn reading mintValueRef input db itemId).card =
    (askedFields reading (input.on db itemId)).map (asks reading) := by
  rw [BlindAnswerMapping.card, mappingOn, missing_mapBlindApplyAnswers, List.map_map]
  rfl

lemma askType_eq_select : askType field = .select ↔ field.controlType = .select := by
  unfold askType
  cases field.controlType <;> simp

lemma options_asks : (asks reading field).options.getD [] = offered field := by
  show ((optionLabels field).map _).getD [] = _
  unfold offered
  cases optionLabels field <;> rfl

variable {given : AnswerInput} {answer : String}

lemma resolveAnswers_card :
    resolveAnswers given (mappingOn reading mintValueRef input db itemId).card = .ok resolved ↔
      (∀ field ∈ askedFields reading (input.on db itemId), given.Suits (asks reading field)) ∧
        resolved = (askedFields reading (input.on db itemId)).map fun field =>
          (asks reading field, given.text (asks reading field)) := by
  rw [card_mappingOn, resolveAnswers_eq_ok, List.forall_mem_map, List.map_map]
  rfl

lemma Suits_asks : given.Suits (asks reading field) ↔
    given.text (asks reading field) ≠ "" ∧
      (field.controlType = .select → given.text (asks reading field) ∈ offered field) := by
  rw [AnswerInput.Suits, options_asks, ← askType_eq_select]
  rfl

lemma trim_text (given : AnswerInput) (field : MissingField) : trim (given.text field) = given.text field :=
  trim_trim _

lemma eq_of_unambiguous (hfield : field ∈ activeFields input) (hother : other ∈ activeFields input)
    (htype : other.controlType = field.controlType)
    (hlabel : reading.letters.normalizeFieldLabel other.label =
      reading.letters.normalizeFieldLabel field.label)
    (h : ambiguous reading input field = false) : other = field := by
  rw [ambiguous, decide_eq_false_iff_not, Nat.not_lt, List.countP_eq_length_filter] at h
  have hmem : ∀ f, f = field ∨ f = other → f ∈ (activeFields input).filter fun other =>
      other.controlType = field.controlType ∧ reading.letters.normalizeFieldLabel other.label =
        reading.letters.normalizeFieldLabel field.label := by
    rintro f (rfl | rfl)
    · simp [hfield]
    · simp [hother, htype, hlabel]
  generalize (activeFields input).filter _ = l at h hmem
  cases l with
  | nil => exact absurd (hmem field (.inl rfl)) List.not_mem_nil
  | cons only rest =>
    obtain rfl : rest = [] := List.eq_nil_of_length_eq_zero (by simpa using h)
    rw [List.mem_singleton.mp (hmem other (.inr rfl)), ← List.mem_singleton.mp (hmem field (.inl rfl))]

lemma optionPart_askKey : ∃ hash, OptionPart hash ∧
    askKey reading field = reading.blindAnswerKey field.label (askType field) hash := by
  unfold askKey questionKey
  split
  · exact ⟨_, reading.optionPart _, rfl⟩
  · exact ⟨none, by simp [OptionPart], rfl⟩

lemma askKey_ne_scoped (key : String) (id : ℕ) :
    askKey reading field ≠ Store.scopedBlindAnswerKey key id := by
  obtain ⟨hash, hhash, hkey⟩ := @optionPart_askKey reading field
  rw [hkey]
  exact blindAnswerKey_ne_scoped reading _ _ hhash key id

/-- The question of a `select` is not the question of another control. -/
lemma select_of_askKey_eq (h : askKey reading other = askKey reading field)
    (hselect : field.controlType = .select) : other.controlType = .select := by
  rw [← askType_eq_select] at hselect ⊢
  have hhead : ∀ f : SnapshotField, (askKey reading f).toList.head? = (askType f).spelling.toList.head? := by
    intro f
    rw [askKey, questionKey, Reading.blindAnswerKey, String.toList_append, String.toList_append,
      String.toList_append, List.append_assoc, List.append_assoc, List.head?_append]
    cases askType f <;> rfl
  have hsame := congrArg (fun key : String => key.toList.head?) h
  rw [hhead, hhead, hselect] at hsame
  cases htype : askType other with
  | select => rfl
  | text =>
    rw [htype] at hsame
    exact absurd hsame (by decide)
  | textarea =>
    rw [htype] at hsame
    exact absurd hsame (by decide)

lemma savedKey_asks (h : given.Suits (asks reading field)) :
    given.savedKey (reading.host derive) itemId (asks reading field) =
      if given.remember then askKey reading field
      else Store.scopedBlindAnswerKey (askKey reading field) itemId := by
  have hset : savedOptionSet (asks reading field) = if askType field = .select then
      some (reading.optionSetHashOf ((optionLabels field).getD [])) else none := by
    show (if askType field = .select then (optionLabels field).map reading.optionSetHashOf else none) = _
    split
    · next hselect =>
      have hoffered := (Suits_asks.mp h).2 (askType_eq_select.mp hselect)
      unfold offered at hoffered
      cases hlabels : optionLabels field with
      | none => simp [hlabels] at hoffered
      | some labels => rfl
    · rfl
  rw [AnswerInput.savedKey, hset]
  rfl

lemma filled_on : filled reading (input.on db itemId) field = (!ambiguous reading input field &&
    ((db.answerUnder (askKey reading field)).or
      (db.answerUnder (Store.scopedBlindAnswerKey (askKey reading field) itemId))).any
        (fills reading field)) := by
  rw [← Store.findSavedAnswer_map_snd]
  show ((if ambiguous reading input field then none
    else db.findSavedAnswer itemId (askKey reading field)).any fun saved => fills reading field saved.2) = _
  cases ambiguous reading input field with
  | true => rfl
  | false =>
    cases db.findSavedAnswer itemId (askKey reading field) <;> rfl

lemma exists_lastAsked (h : field ∈ askedFields reading (input.on db itemId)) :
    ∃ last, lastAsked reading input db itemId field = some last := by
  refine Option.ne_none_iff_exists'.mp fun hnone => ?_
  have hnot := List.find?_eq_none.mp hnone field (List.mem_reverse.mpr h)
  simp at hnot

lemma mem_of_lastAsked (h : lastAsked reading input db itemId field = some last) :
    last ∈ askedFields reading (input.on db itemId) ∧ askKey reading last = askKey reading field :=
  ⟨List.mem_reverse.mp (List.mem_of_find?_eq_some h), by simpa using List.find?_some h⟩

lemma filled_of_accepted {now : ℤ}
    (hsuits : ∀ field ∈ askedFields reading (input.on db itemId), given.Suits (asks reading field))
    (hlast : lastAsked reading input db itemId field = some last) :
    filled reading (input.on (db.saveAllGiven (reading.host derive) given itemId
      ((askedFields reading (input.on db itemId)).map fun field =>
        (asks reading field, given.text (asks reading field))) now) itemId) field =
      (!ambiguous reading input field && fills reading field
        (if given.remember then given.text (asks reading last)
          else (db.answerUnder (askKey reading field)).getD (given.text (asks reading last)))) := by
  -- what is saved under a key
  have hunder : ∀ key, (db.saveAllGiven (reading.host derive) given itemId
      ((askedFields reading (input.on db itemId)).map fun field =>
        (asks reading field, given.text (asks reading field))) now).answerUnder key =
      (((askedFields reading (input.on db itemId)).reverse.find? fun other =>
        (if given.remember then askKey reading other
          else Store.scopedBlindAnswerKey (askKey reading other) itemId) = key).map fun other =>
            given.text (asks reading other)).or (db.answerUnder key) := by
    intro key
    have hkeys : ∀ other ∈ (askedFields reading (input.on db itemId)).reverse,
        decide (given.savedKey (reading.host derive) itemId (asks reading other) = key) =
          decide ((if given.remember then askKey reading other
            else Store.scopedBlindAnswerKey (askKey reading other) itemId) = key) := fun other hother => by
      rw [savedKey_asks (hsuits other (List.mem_reverse.mp hother))]
    rw [Store.answerUnder_saveAllGiven, ← List.map_reverse, List.find?_map, Option.map_map,
      ← List.find?_congr hkeys]
    rfl
  rw [filled_on, hunder, hunder]
  refine congrArg (!ambiguous reading input field && ·) ?_
  cases given.remember with
  | true =>
    simp only [if_true]
    rw [show (askedFields reading (input.on db itemId)).reverse.find? (fun other =>
      askKey reading other = askKey reading field) = some last from hlast]
    rfl
  | false =>
    have hnone : (askedFields reading (input.on db itemId)).reverse.find? (fun other =>
        Store.scopedBlindAnswerKey (askKey reading other) itemId = askKey reading field) = none :=
      List.find?_eq_none.mpr fun other _ => by simpa using (askKey_ne_scoped _ _).symm
    have hsome : (askedFields reading (input.on db itemId)).reverse.find? (fun other =>
        Store.scopedBlindAnswerKey (askKey reading other) itemId =
          Store.scopedBlindAnswerKey (askKey reading field) itemId) = some last := by
      rw [← hlast]
      refine List.find?_congr fun other _ => ?_
      simp [scopedBlindAnswerKey_inj]
    simp only [Bool.false_eq_true, if_false, hnone, hsome]
    cases db.answerUnder (askKey reading field) <;> rfl

lemma fieldRef_not_mem_missing {after : Store} (hfield : field ∈ askedFields reading (input.on db itemId)) :
    field.fieldRef ∉ (mappingOn reading mintValueRef input after itemId).missing.map MissingAnswer.fieldRef ↔
      filled reading (input.on after itemId) field = true := by
  obtain ⟨hactive, haskable, -⟩ := mem_askedFields.mp hfield
  rw [mappingOn, missing_mapBlindApplyAnswers, List.map_map]
  constructor
  · intro h
    by_contra hnot
    refine h (List.mem_map.mpr ⟨field, mem_askedFields.mpr ⟨hactive, haskable, ?_⟩, rfl⟩)
    simpa using hnot
  · intro h hmem
    obtain ⟨other, hother, href⟩ := List.mem_map.mp hmem
    obtain ⟨hother, -, hempty⟩ := mem_askedFields.mp hother
    have hsame : other = field := List.inj_on_of_nodup_map input.snapshot.fieldRefs
      (mem_activeFields.mp hother).1 (mem_activeFields.mp hactive).1 href
    rw [hsame, h] at hempty
    cases hempty

/-- An answer that is given to a question fills a field with another control than a `select`. -/
lemma fills_of_ne_select (htype : field.controlType ≠ .select) (hanswer : answer ≠ "")
    (htrim : trim answer = answer) : fills reading field answer = true := by
  unfold fills
  rw [htrim]
  cases hcontrol : field.controlType <;> simp_all

lemma fills_select (htype : field.controlType = .select) :
    fills reading field answer = (chosenOption reading field answer).isSome := by
  unfold fills
  rw [htype]

end Lemmas

/-! ## When answering makes progress -/

section Answers

variable {reading : Reading} {derive : String → String → ApplicationIdentity} {mintValueRef : Ref → Ref}
  {input : BlindAnswerMapperInput} {db : Store} {itemId : ℕ} {field other : SnapshotField}

def pickFor (reading : Reading) (input : BlindAnswerMapperInput) (db : Store) (itemId : ℕ) (label : String) :
    String :=
  (((askedFields reading (input.on db itemId)).find? fun field =>
    field.controlType = .select ∧ field.label = label).bind fun field =>
      (offered field).find? fun label => trim label = label).getD "yes"

/-- Two `select`s with one label that are asked for are the same. -/
lemma Answerable.eq_of_label (h : Answerable reading input db itemId)
    (hfield : field ∈ askedFields reading (input.on db itemId))
    (hother : other ∈ askedFields reading (input.on db itemId)) (hselect : field.controlType = .select)
    (hselect' : other.controlType = .select) (hlabel : other.label = field.label) : other = field :=
  eq_of_unambiguous (mem_askedFields.mp hfield).1 (mem_askedFields.mp hother).1 (by rw [hselect, hselect'])
    (by rw [hlabel]) (h.unambiguous field hfield)

lemma ne_empty_of_mem_offered {label : String} (h : label ∈ offered field) : label ≠ "" := by
  rintro rfl
  have hchoice := (List.mem_filter.mp h).2
  exact absurd hchoice (by decide)

lemma pickFor_spec (label : String) :
    pickFor reading input db itemId label ≠ "" ∧
      trim (pickFor reading input db itemId label) = pickFor reading input db itemId label := by
  unfold pickFor
  cases (askedFields reading (input.on db itemId)).find? fun field =>
      field.controlType = .select ∧ field.label = label with
  | none => exact ⟨by decide, by decide⟩
  | some found =>
    rw [Option.bind_some]
    cases hpick : (offered found).find? fun label => trim label = label with
    | none => exact ⟨by decide, by decide⟩
    | some pick =>
      exact ⟨ne_empty_of_mem_offered (List.mem_of_find?_eq_some hpick), by simpa using List.find?_some hpick⟩

lemma Answerable.pickFor_mem (h : Answerable reading input db itemId)
    (hfield : field ∈ askedFields reading (input.on db itemId)) (hselect : field.controlType = .select) :
    pickFor reading input db itemId field.label ∈ offered field := by
  unfold pickFor
  cases hfound : (askedFields reading (input.on db itemId)).find? fun other =>
      other.controlType = .select ∧ other.label = field.label with
  | none =>
    have hnot := List.find?_eq_none.mp hfound field hfield
    simp [hselect] at hnot
  | some found =>
    have hkind : found.controlType = .select ∧ found.label = field.label := by
      simpa using List.find?_some hfound
    obtain rfl := h.eq_of_label hfield (List.mem_of_find?_eq_some hfound) hselect hkind.1 hkind.2
    rw [Option.bind_some]
    obtain ⟨label, hlabel, htrim⟩ := h.offers found hfield hselect
    cases hpick : (offered found).find? fun label => trim label = label with
    | none =>
      have hnot := List.find?_eq_none.mp hpick label hlabel
      simp [htrim] at hnot
    | some pick => exact List.mem_of_find?_eq_some hpick

def pickedAnswers (reading : Reading) (input : BlindAnswerMapperInput) (db : Store) (itemId : ℕ) :
    AnswerInput where
  itemId := itemId
  answers := (askedFields reading (input.on db itemId)).map fun field =>
    (field.label, pickFor reading input db itemId field.label)
  remember := false

lemma text_pickedAnswers (hfield : field ∈ askedFields reading (input.on db itemId)) :
    (pickedAnswers reading input db itemId).text (asks reading field) =
      pickFor reading input db itemId field.label := by
  have hfind : ((pickedAnswers reading input db itemId).answers.find? fun e => e.1 == field.label).map Prod.snd =
      some (pickFor reading input db itemId field.label) := by
    cases hfound : (pickedAnswers reading input db itemId).answers.find? fun e => e.1 == field.label with
    | none =>
      have hnot := List.find?_eq_none.mp hfound _ (List.mem_map.mpr ⟨field, hfield, rfl⟩)
      simp at hnot
    | some e =>
      have hlabel : e.1 = field.label := by simpa using List.find?_some hfound
      obtain ⟨other, -, rfl⟩ := List.mem_map.mp (List.mem_of_find?_eq_some hfound)
      rw [Option.map_some, ← hlabel]
  show trim ((((pickedAnswers reading input db itemId).answers.find? fun e =>
    e.1 == field.label).map Prod.snd).getD "") = _
  rw [hfind]
  exact (pickFor_spec _).2

lemma Answerable.progresses (h : Answerable reading input db itemId) :
    Progresses reading derive mintValueRef input db itemId := by
  constructor
  · refine ⟨pickedAnswers reading input db itemId, rfl, _, resolveAnswers_card.mpr ⟨fun field hfield => ?_, rfl⟩⟩
    rw [Suits_asks, text_pickedAnswers hfield]
    exact ⟨(pickFor_spec _).1, h.pickFor_mem hfield⟩
  · intro given resolved now hitem hresolved m hm
    obtain ⟨hsuits, rfl⟩ := resolveAnswers_card.mp hresolved
    rw [mappingOn, missing_mapBlindApplyAnswers] at hm
    obtain ⟨field, hfield, rfl⟩ := List.mem_map.mp hm
    obtain ⟨last, hlast⟩ := exists_lastAsked hfield
    obtain ⟨hmem, hkey⟩ := mem_of_lastAsked hlast
    have hgiven := Suits_asks.mp (hsuits last hmem)
    refine (fieldRef_not_mem_missing hfield).mpr ?_
    have hunder : db.answerUnder (askKey reading field) = none := by
      rw [Store.answerUnder, h.unremembered field hfield]
      rfl
    rw [filled_of_accepted hsuits hlast, h.unambiguous field hfield, hunder, Option.getD_none, ite_self]
    by_cases hselect : field.controlType = .select
    · rw [fills_select hselect]
      exact h.understood field hfield hselect last hlast _
        (hgiven.2 (select_of_askKey_eq hkey hselect)) (trim_text given _)
    · exact fills_of_ne_select hselect hgiven.1 (trim_text given _)

lemma Progresses.answerable (h : Progresses reading derive mintValueRef input db itemId) :
    Answerable reading input db itemId := by
  obtain ⟨⟨given, hitem, resolved, hresolved⟩, hanswered⟩ := h
  obtain ⟨hsuits, -⟩ := resolveAnswers_card.mp hresolved
  -- a field that is asked for is filled by each answer that is accepted
  have hfilled : ∀ given : AnswerInput, given.itemId = itemId →
      (∀ field ∈ askedFields reading (input.on db itemId), given.Suits (asks reading field)) →
      ∀ field ∈ askedFields reading (input.on db itemId), ∀ last,
        lastAsked reading input db itemId field = some last →
          ambiguous reading input field = false ∧ fills reading field
            (if given.remember then given.text (asks reading last)
              else (db.answerUnder (askKey reading field)).getD (given.text (asks reading last))) = true := by
    intro given hitem hsuits field hfield last hlast
    have hnot := hanswered given _ 0 hitem (resolveAnswers_card.mpr ⟨hsuits, rfl⟩)
      (missingAnswer reading field (askType field)) (by
        rw [mappingOn, missing_mapBlindApplyAnswers]
        exact List.mem_map.mpr ⟨field, hfield, rfl⟩)
    have hfilled := (fieldRef_not_mem_missing hfield).mp hnot
    rw [filled_of_accepted hsuits hlast, Bool.and_eq_true, Bool.not_eq_true'] at hfilled
    exact hfilled
  have hunambiguous : ∀ field ∈ askedFields reading (input.on db itemId),
      ambiguous reading input field = false := fun field hfield => by
    obtain ⟨last, hlast⟩ := exists_lastAsked hfield
    exact (hfilled given hitem hsuits field hfield last hlast).1
  refine ⟨hunambiguous, fun field hfield => ?_, fun field hfield hselect => ?_,
    fun field hfield hselect last hlast label hlabel htrim => ?_⟩
  · -- an answer that is remembered did not fill the field, and is found first again
    cases hremembered : db.findBlindApplyAnswer (askKey reading field) with
    | none => rfl
    | some row =>
      have hunder : db.answerUnder (askKey reading field) = some row.answer := by
        rw [Store.answerUnder, hremembered]
        rfl
      obtain ⟨last, hlast⟩ := exists_lastAsked hfield
      have hfills := (hfilled { given with remember := false } hitem hsuits field hfield last hlast).2
      rw [hunder] at hfills
      have hempty := (mem_askedFields.mp hfield).2.2
      rw [filled_on, hunambiguous field hfield, hunder] at hempty
      have hnot : fills reading field row.answer = false := hempty
      have hyes : fills reading field row.answer = true := hfills
      rw [hnot] at hyes
      cases hyes
  · exact ⟨_, (Suits_asks.mp (hsuits field hfield)).2 hselect, trim_text given _⟩
  · -- give the label to the last field with the question, and the same as before to the others
    obtain ⟨hmem, hkey⟩ := mem_of_lastAsked hlast
    have hselect' := select_of_askKey_eq hkey hselect
    let chosen : AnswerInput := { given with answers := (last.label, label) :: given.answers, remember := true }
    have htext : ∀ f : SnapshotField, chosen.text (asks reading f) =
        if f.label = last.label then label else given.text (asks reading f) := by
      intro f
      show trim ((((last.label, label) :: given.answers).find? fun e => e.1 == f.label).map Prod.snd |>.getD "") = _
      rw [List.find?_cons]
      by_cases hlabel' : f.label = last.label
      · simp [hlabel', htrim]
      · rw [if_neg hlabel', show ((last.label, label).1 == f.label) = false by simpa using Ne.symm hlabel']
        rfl
    have hchosen : ∀ f ∈ askedFields reading (input.on db itemId), chosen.Suits (asks reading f) := by
      intro f hf
      rw [Suits_asks, htext f]
      split
      · next hlabel' =>
        refine ⟨ne_empty_of_mem_offered hlabel, fun hf' => ?_⟩
        have hsame : f = last := eq_of_unambiguous (mem_askedFields.mp hmem).1 (mem_askedFields.mp hf).1
          (by rw [hf', hselect']) (by rw [hlabel']) (hunambiguous last hmem)
        rw [hsame]
        exact hlabel
      · exact Suits_asks.mp (hsuits f hf)
    have hfills := (hfilled chosen hitem hchosen field hfield last hlast).2
    rw [if_pos rfl, htext, if_pos rfl, fills_select hselect] at hfills
    exact hfills

/-- Answering makes progress exactly under the condition. -/
theorem progresses_iff_answerable (reading : Reading) (derive : String → String → ApplicationIdentity)
    (mintValueRef : Ref → Ref) (input : BlindAnswerMapperInput) (db : Store) (itemId : ℕ) :
    Progresses reading derive mintValueRef input db itemId ↔ Answerable reading input db itemId :=
  ⟨Progresses.answerable, Answerable.progresses⟩

end Answers

def noticeSelect (fieldRef : Ref) : SnapshotField where
  fieldRef := fieldRef
  label := "Notice period"
  controlType := .select
  required := true
  options := some [⟨1, "One month"⟩, ⟨2, "Two months"⟩]
  classification := none
  frameId := 0
  formScope := none
  active := true
  hasOptions _ := .inl rfl
  optionRefs := by decide

def twinForm : BlindAnswerMapperInput where
  attemptId := 1
  snapshot := ⟨1, [noticeSelect 1, noticeSelect 2], by decide⟩
  valueTable := []
  artifacts := []
  findSavedAnswer _ := none

/-- The person is asked for the notice period again and again. -/
theorem not_progresses_twinForm :
    (mappingOn plainReading id twinForm .empty 1).missing.map MissingAnswer.fieldRef = [1, 2] ∧
      (mappingOn plainReading id twinForm .empty 1).interventions = [] ∧
      ¬ Progresses plainReading (fun company url => ⟨company, none, url⟩) id twinForm .empty 1 := by
  refine ⟨by decide +kernel, by decide +kernel, fun h => ?_⟩
  have hasked : noticeSelect 1 ∈ askedFields plainReading (twinForm.on .empty 1) := by decide +kernel
  have hambiguous : ambiguous plainReading twinForm (noticeSelect 1) = true := by decide +kernel
  rw [h.answerable.unambiguous _ hasked] at hambiguous
  cases hambiguous

end VacancyRadar.BlindApply
