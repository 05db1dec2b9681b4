import VacancyRadar.BlindApply.Progress
import VacancyRadar.BlindApply.Trail

/-!
# One-time answers

An answer that is not to be remembered is for one item.  It is never used for another item.  For its own
item it is used unless something else comes first: a value with a known label, or an answer to the same
question that was given for another item and is remembered.
-/

namespace VacancyRadar.BlindApply

open Data Form

variable {key : String} {missing : List MissingField} {resolved : List (MissingField × String)}
  {P : MissingField → Prop} {event : EventInput} {attemptId : ℕ} {o : SnapshotOption} {valueRef : Ref}
  {e : ApplicationValueTableEntry} {g : Given}

/-! ## Histories -/

structure Given where
  itemId : ℕ
  /-- The key of the question. -/
  key : String
  text : String
  remember : Bool
deriving DecidableEq

structure Interview where
  db : Store
  history : List Given

def BlindAnswerMapping.toMapping (mapping : BlindAnswerMapping) : Mapping where
  interventions := mapping.interventions
  missing := mapping.card
  uses := mapping.uses

def mapperFor (reading : Reading) (mintValueRef : Ref → Ref) (input : BlindAnswerMapperInput)
    (findSavedAnswer : String → Option (ℕ × String)) : Mapping :=
  (mapBlindApplyAnswers reading mintValueRef { input with findSavedAnswer }).toMapping

def cardKey (reading : Reading) (field : MissingField) : String :=
  reading.blindAnswerKey field.label field.controlType (savedOptionSet field)

def AnswerInput.history (reading : Reading) (given : AnswerInput) (itemId : ℕ)
    (resolved : List (MissingField × String)) : List Given :=
  resolved.map fun e => ⟨itemId, cardKey reading e.1, e.2, given.remember⟩

/-- What happens to the record: `answer` saves what it accepts, the mapper runs, and anything else
leaves the answers alone and writes no card. -/
inductive Answering (reading : Reading) (derive : String → String → ApplicationIdentity) :
    Interview → Interview → Prop
  | answer {w : Interview} {given : AnswerInput} {item : Item} {attemptId : ℕ}
      {resolved : List (MissingField × String)} (now : ℤ)
      (hitem : w.db.getBlindApplyItem given.itemId = some item) (hattempt : item.attemptId = some attemptId)
      (hstate : item.state = .needsAnswer)
      (hactive : w.db.isBlindApplyAuthorizationActive item.authorizationId = true)
      (hresolved : resolveAnswers given (item.missingFields.getD []) = .ok resolved) :
      Answering reading derive w ⟨w.db.saveAllGiven (reading.host derive) given item.id resolved now,
        w.history ++ given.history reading item.id resolved⟩
  | fieldMapper {w : Interview} (attemptId : ℕ) (mintValueRef : Ref → Ref) (input : BlindAnswerMapperInput)
      (now : ℤ) : Answering reading derive w
        ⟨(w.db.fieldMapper attemptId (mapperFor reading mintValueRef input) now).1, w.history⟩
  | other {w : Interview} {db : Store} (hanswers : db.answers = w.db.answers)
      (hcards : ∀ r ∈ db.items.rows, r ∈ w.db.items.rows ∨ r.missingFields = none) :
      Answering reading derive w ⟨db, w.history⟩

/-- The records that sequences of such steps lead to. -/
inductive Answering.Reach (reading : Reading) (derive : String → String → ApplicationIdentity) :
    Interview → Prop
  | empty : Reach reading derive ⟨.empty, []⟩
  | step {w w' : Interview} : Reach reading derive w → Answering reading derive w w' → Reach reading derive w'

/-! ## What the record says of the history -/

def IsKey (reading : Reading) (key : String) : Prop :=
  ∃ label controlType hash, OptionPart hash ∧ key = reading.blindAnswerKey label controlType hash

def lastRemembered (history : List Given) (key : String) : Option Given :=
  history.reverse.find? fun g => g.remember ∧ g.key = key

def lastOneTime (history : List Given) (itemId : ℕ) (key : String) : Option Given :=
  history.reverse.find? fun g => g.remember = false ∧ g.itemId = itemId ∧ g.key = key

def lastGiven (history : List Given) (itemId : ℕ) (key : String) : Option Given :=
  history.reverse.find? fun g => g.itemId = itemId ∧ g.key = key

structure Tracks (reading : Reading) (w : Interview) : Prop where
  cards : ∀ r ∈ w.db.items.rows, ∀ m ∈ r.missingFields.getD [], OptionPart (savedOptionSet m)
  texts : ∀ g ∈ w.history, g.text ≠ "" ∧ trim g.text = g.text
  remembered : ∀ key, IsKey reading key →
    w.db.answerUnder key = (lastRemembered w.history key).map Given.text
  oneTime : ∀ key itemId, w.db.answerUnder (Store.scopedBlindAnswerKey key itemId) =
    (lastOneTime w.history itemId key).map Given.text

section Tracks

variable {reading : Reading} {derive : String → String → ApplicationIdentity} {w w' : Interview}

lemma IsKey.ne_scoped (h : IsKey reading key) (other : String) (id : ℕ) :
    key ≠ Store.scopedBlindAnswerKey other id := by
  obtain ⟨label, controlType, hash, hhash, rfl⟩ := h
  exact blindAnswerKey_ne_scoped reading label controlType hhash other id

lemma isKey_askKey (field : SnapshotField) : IsKey reading (askKey reading field) := by
  obtain ⟨hash, hhash, hkey⟩ := @optionPart_askKey reading field
  exact ⟨_, _, hash, hhash, hkey⟩

variable {input : BlindAnswerMapperInput} {mintValueRef : Ref → Ref} {given : AnswerInput}
  {db db' : Store} {itemId : ℕ} {now : ℤ}

lemma optionPart_of_mem_card {m : MissingField}
    (h : m ∈ (mapBlindApplyAnswers reading mintValueRef input).card) :
    OptionPart (savedOptionSet m) := by
  rw [BlindAnswerMapping.card, missing_mapBlindApplyAnswers, List.map_map] at h
  obtain ⟨field, -, rfl⟩ := List.mem_map.mp h
  show OptionPart (if askType field = .select then (optionLabels field).map reading.optionSetHashOf else none)
  split
  · cases optionLabels field with
    | none => simp [OptionPart]
    | some labels => exact reading.optionPart labels
  · simp [OptionPart]

lemma texts_of_resolved (h : resolveAnswers given missing = .ok resolved) :
    ∀ e ∈ resolved, e.1 ∈ missing ∧ e.2 ≠ "" ∧ trim e.2 = e.2 := by
  obtain ⟨hsuits, rfl⟩ := resolveAnswers_eq_ok.mp h
  intro e he
  obtain ⟨field, hfield, rfl⟩ := List.mem_map.mp he
  exact ⟨hfield, (hsuits field hfield).1, trim_text given field⟩

lemma saveAllGiven_items {host : Host} :
    (db.saveAllGiven host given itemId resolved now).items = db.items := by
  induction resolved generalizing db with
  | nil => rfl
  | cons e resolved ih =>
    rw [Store.saveAllGiven, List.foldl_cons, ← Store.saveAllGiven, ih, Store.saveBlindApplyAnswer_items]

lemma Tracks.answer (h : Tracks reading w) {item : Item}
    (hitem : w.db.getBlindApplyItem given.itemId = some item)
    (hresolved : resolveAnswers given (item.missingFields.getD []) = .ok resolved) :
    Tracks reading ⟨w.db.saveAllGiven (reading.host derive) given item.id resolved now,
      w.history ++ given.history reading item.id resolved⟩ := by
  have htexts := texts_of_resolved hresolved
  have hcards : ∀ e ∈ resolved, OptionPart (savedOptionSet e.1) := fun e he =>
    h.cards item (Table.mem_of_get? hitem) e.1 (htexts e he).1
  -- where the answer to a field is saved
  have hsaved : ∀ m : MissingField, given.savedKey (reading.host derive) item.id m =
      if given.remember then cardKey reading m
      else Store.scopedBlindAnswerKey (cardKey reading m) item.id := fun _ => rfl
  have hkeys : ∀ e ∈ resolved, IsKey reading (cardKey reading e.1) := fun e he =>
    ⟨_, _, _, hcards e he, rfl⟩
  have hfind : ∀ (p : Given → Bool) key, (∀ e ∈ resolved,
      p ⟨item.id, cardKey reading e.1, e.2, given.remember⟩ =
        decide (given.savedKey (reading.host derive) item.id e.1 = key)) →
      ((w.history ++ given.history reading item.id resolved).reverse.find? p).map Given.text =
        ((resolved.reverse.find? fun e =>
          given.savedKey (reading.host derive) item.id e.1 = key).map Prod.snd).or
            ((w.history.reverse.find? p).map Given.text) := by
    intro p key hp
    have hcongr : resolved.reverse.find?
        (p ∘ fun e => ⟨item.id, cardKey reading e.1, e.2, given.remember⟩) =
        resolved.reverse.find? fun e => given.savedKey (reading.host derive) item.id e.1 = key :=
      List.find?_congr fun e he => hp e (List.mem_reverse.mp he)
    rw [List.reverse_append, List.find?_append, AnswerInput.history, ← List.map_reverse, List.find?_map,
      hcongr]
    cases resolved.reverse.find? fun e => given.savedKey (reading.host derive) item.id e.1 = key <;> rfl
  refine ⟨?_, fun g hg => ?_, fun key hkey => ?_, fun key itemId => ?_⟩
  · rw [saveAllGiven_items]
    exact h.cards
  · rcases List.mem_append.mp hg with hg | hg
    · exact h.texts g hg
    · obtain ⟨e, he, rfl⟩ := List.mem_map.mp hg
      exact (htexts e he).2
  · rw [Store.answerUnder_saveAllGiven, lastRemembered, hfind _ key, h.remembered key hkey]
    · rfl
    · intro e he
      rw [hsaved]
      cases given.remember with
      | true => simp
      | false => simpa using (hkey.ne_scoped _ _).symm
  · rw [Store.answerUnder_saveAllGiven, lastOneTime, hfind _ (Store.scopedBlindAnswerKey key itemId),
      h.oneTime key itemId]
    · rfl
    · intro e he
      rw [hsaved]
      cases given.remember with
      | true => simpa using (hkeys e he).ne_scoped _ _
      | false => simp [scopedBlindAnswerKey_inj, and_comm]

structure Quiet (P : MissingField → Prop) (db db' : Store) : Prop where
  answers : ∀ key, db'.answerUnder key = db.answerUnder key
  cards : ∀ r ∈ db'.items.rows, r ∈ db.items.rows ∨ ∀ m ∈ r.missingFields.getD [], P m

lemma Quiet.refl (db : Store) : Quiet P db db:= ⟨fun _ => rfl, fun _ => .inl⟩

lemma Quiet.trans {db'' : Store} (h : Quiet P db db') (h' : Quiet P db' db'') : Quiet P db db'':= by
  refine ⟨fun key => (h'.answers key).trans (h.answers key), fun r hr => ?_⟩
  rcases h'.cards r hr with hr | hr
  · exact h.cards r hr
  · exact .inr hr

lemma quiet_of_same (hanswers : db'.answers = db.answers) (hitems : db'.items = db.items) :
    Quiet P db db':= by
  constructor
  · intro key
    rw [Store.answerUnder, Store.findBlindApplyAnswer, hanswers]
    rfl
  · intro r hr
    exact .inl (hitems ▸ hr)

lemma quiet_transition {expected : List ItemState} {target : ItemState} {patch : ItemPatch}
    (h : ∀ m ∈ patch.missingFields.getD [], P m) :
    Quiet P db (db.transitionBlindApplyItem itemId expected target patch event now).1 := by
  obtain heq | ⟨current, detail, hget, -, -, heq⟩ :=
    db.transition_cases itemId expected target patch event now
  · rw [heq]
    exact .refl db
  · rw [heq]
    refine ⟨fun key => rfl, fun r hr => ?_⟩
    have hrow : r ∈ (db.items.update itemId (Store.moveItem target patch now)
      (Store.key_moveItem _ _ _)).rows := hr
    rcases Table.of_mem_update hget hrow with rfl | ⟨hr, -⟩
    · exact .inr h
    · exact .inl hr

lemma quiet_append {state : ItemState} :
    Quiet P db (db.appendBlindApplyEvent itemId state event now).1:= by
  obtain heq | ⟨r, -, heq⟩ := db.append_cases itemId state event now
  · rw [heq]
    exact .refl db
  · rw [heq]
    exact quiet_of_same rfl rfl

lemma answerUnder_empty (key : String) : Store.empty.answerUnder key = none := rfl

lemma answerUnder_recordBlindApplyAnswerUsed {id : ℕ} (key : String) :
    (db.recordBlindApplyAnswerUsed id now).answerUnder key = db.answerUnder key := by
  show (((db.answers.rows.map fun r => if Keyed.key r == id then { r with lastUsedAt := some now }
    else r).find? fun r => r.matchKey == key).map Answer.answer) = _
  have hcomp : ((fun r : Answer => r.matchKey == key) ∘ fun r => if Keyed.key r == id then
      { r with lastUsedAt := some now } else r) = fun r => r.matchKey == key := by
    funext r
    rw [Function.comp_apply]
    split <;> rfl
  rw [List.find?_map, hcomp, Option.map_map]
  congr 1
  funext r
  rw [Function.comp_apply]
  split <;> rfl

lemma recordAnswersUsed_quiet {uses : List AnswerUse} :
    Quiet P db (db.recordAnswersUsed uses now) := by
  induction uses generalizing db with
  | nil => exact .refl db
  | cons use uses ih =>
    rw [Store.recordAnswersUsed, List.foldl_cons, ← Store.recordAnswersUsed]
    cases use.answerId with
    | none => exact ih
    | some id =>
      have hused : Quiet P db (db.recordBlindApplyAnswerUsed id now) :=
        ⟨answerUnder_recordBlindApplyAnswerUsed, fun _ => .inl⟩
      exact hused.trans ih

lemma quiet_fieldMapper : Quiet (fun m => OptionPart (savedOptionSet m)) db
      (db.fieldMapper attemptId (mapperFor reading mintValueRef input) now).1 := by
  unfold Store.fieldMapper
  cases hitem : db.getBlindApplyItemByAttempt attemptId with
  | none => exact .refl db
  | some item =>
    dsimp only
    split
    · exact .refl db
    split
    · exact .refl db
    cases hinterventions : (mapperFor reading mintValueRef input (db.findSavedAnswer item.id)).interventions with
    | cons first rest => exact quiet_transition nofun
    | nil =>
      dsimp only
      split
      · exact quiet_transition fun m hm => optionPart_of_mem_card hm
      · have hused : Quiet (fun m => OptionPart (savedOptionSet m)) db (db.recordAnswersUsed
            (mapperFor reading mintValueRef input (db.findSavedAnswer item.id)).uses now) :=
          recordAnswersUsed_quiet
        exact hused.trans quiet_append

lemma Tracks.quiet (h : Tracks reading w)
    (hquiet : Quiet (fun m => OptionPart (savedOptionSet m)) w.db db) :
    Tracks reading ⟨db, w.history⟩ := by
  refine ⟨fun r hr m hm => ?_, h.texts, fun key hkey => ?_, fun key itemId => ?_⟩
  · rcases hquiet.cards r hr with hr | hr
    · exact h.cards r hr m hm
    · exact hr m hm
  · rw [hquiet.answers]
    exact h.remembered key hkey
  · rw [hquiet.answers]
    exact h.oneTime key itemId

lemma Tracks.step (h : Tracks reading w) (hstep : Answering reading derive w w') : Tracks reading w' := by
  cases hstep with
  | answer now hitem hattempt hstate hactive hresolved => exact h.answer hitem hresolved
  | fieldMapper attemptId mintValueRef input now => exact h.quiet quiet_fieldMapper
  | other hanswers hcards =>
    refine h.quiet ⟨fun key => ?_, fun r hr => ?_⟩
    · rw [Store.answerUnder, Store.findBlindApplyAnswer, hanswers]
      rfl
    · rcases hcards r hr with hr | hnone
      · exact .inl hr
      · exact .inr (by simp [hnone])

lemma Answering.Reach.tracks (h : Answering.Reach reading derive w) : Tracks reading w := by
  induction h with
  | empty =>
    refine ⟨fun r hr => absurd hr List.not_mem_nil, fun g hg => absurd hg List.not_mem_nil, fun key _ => ?_,
      fun key itemId => ?_⟩
    · rw [answerUnder_empty]
      rfl
    · rw [answerUnder_empty]
      rfl
  | step _ hstep ih => exact ih.step hstep

end Tracks

/-! ## What goes into a field -/

inductive Puts (reading : Reading) (field : SnapshotField) (answer : String) :
    AssignmentSource → Option ApplicationValueTableEntry → Prop
  | value {e : ApplicationValueTableEntry} (h : e.value = answer) :
      Puts reading field answer (.value e.valueRef) (some e)
  | option {o : SnapshotOption} (h : chosenOption reading field answer = some o) :
      Puts reading field answer (.option o.optionRef) none

def Differs (reading : Reading) (field : SnapshotField) (other answer : String) : Prop :=
  match field.controlType with
  | .select => chosenOption reading field other ≠ chosenOption reading field answer
  | _ => trim other ≠ answer

def Overtaken (reading : Reading) (input : BlindAnswerMapperInput) (db : Store) (field : SnapshotField)
    (answer : String) : Prop :=
  field.classification = none ∧ verificationCodeLabel (reading.letters.normalizeFieldLabel field.label) = false ∧
    ((field.controlType ≠ .select ∧ (knownValue reading input field).isSome = true) ∨
      ∃ other, db.answerUnder (askKey reading field) = some other ∧ ambiguous reading input field = false ∧
        fills reading field other = true ∧ Differs reading field other answer)

def questionTypes : List Form.ControlType := [.select, .text, .textarea]

section Fields

variable {reading : Reading} {mintValueRef : Ref → Ref} {input : BlindAnswerMapperInput} {field : SnapshotField}
  {source : AssignmentSource} {use : AnswerUse} {entry : Option ApplicationValueTableEntry}

lemma decision_of_question (hclass : field.classification = none)
    (hcode : verificationCodeLabel (reading.letters.normalizeFieldLabel field.label) = false)
    (htype : field.controlType ∈ questionTypes) : decision reading mintValueRef input field =
      if field.controlType = .select then decideSelect reading input field
      else decideText reading mintValueRef input field (askType field) := by
  unfold decision
  rw [hclass]
  rw [hcode, if_neg Bool.false_ne_true]
  unfold askType
  cases hcontrol : field.controlType with
  | select => simp
  | text => simp
  | textarea => simp
  | checkbox | radio | file | unknown =>
    rw [hcontrol] at htype
    exact absurd htype (by decide)

lemma decision_of_excluded (h : field.classification ≠ none ∨
    verificationCodeLabel (reading.letters.normalizeFieldLabel field.label) = true) :
    decision reading mintValueRef input field ≠ .assign source use entry := by
  intro hd
  have hsound := sound_decision reading mintValueRef input field
  rw [hd] at hsound
  obtain ⟨hclass, hcode, -⟩ := hsound
  rcases h with h | h
  · exact h hclass
  · rw [hcode] at h
    cases h

lemma chosenOption_mem {answer : String} (h : chosenOption reading field answer = some o) :
    o ∈ field.options.getD [] :=
  List.mem_of_find?_eq_some h

lemma puts_option_iff {answer : String} (ho : o ∈ field.options.getD []) :
    Puts reading field answer (.option o.optionRef) none ↔ chosenOption reading field answer = some o := by
  constructor
  · generalize hsource : AssignmentSource.option o.optionRef = source
    intro h
    cases h with
    | option hchosen =>
      rw [hchosen, List.inj_on_of_nodup_map field.optionRefs (chosenOption_mem hchosen) ho
        (AssignmentSource.option.inj hsource).symm]
  · exact .option

lemma puts_value_iff {answer : String} (href : e.valueRef = valueRef) :
    Puts reading field answer (.value valueRef) (some e) ↔ e.value = answer := by
  subst href
  constructor
  · generalize AssignmentSource.value e.valueRef = source, hentry : some e = entry
    intro h
    cases h with
    | value hvalue =>
      cases hentry
      exact hvalue
    | option => cases hentry
  · exact .value

lemma not_puts_value_none {answer : String} : ¬ Puts reading field answer (.value valueRef) none:= by
  generalize hentry : (none : Option ApplicationValueTableEntry) = entry,
    hsource : AssignmentSource.value valueRef = source
  intro h
  cases h with
  | value hvalue => cases hentry
  | option => cases hsource

lemma savedFor_of_ambiguous (hambiguous : ambiguous reading input field = true) (controlType : ControlType) :
    savedFor reading input field controlType = none := by
  rw [savedFor, hambiguous, if_pos rfl]

lemma ask_ne_assign {controlType : ControlType} :
    Decision.ask reading field controlType ≠ .assign source use entry := nofun

end Fields

section Used

variable {reading : Reading} {mintValueRef : Ref → Ref} {input : BlindAnswerMapperInput} {field : SnapshotField}
  {db : Store} {itemId : ℕ} {source : AssignmentSource} {use : AnswerUse}
  {entry : Option ApplicationValueTableEntry} {answer : String}

lemma savedFor_on (hambiguous : ambiguous reading input field = false)
    (hscoped : db.answerUnder (Store.scopedBlindAnswerKey (askKey reading field) itemId) = some answer) :
    ∃ id, savedFor reading (input.on db itemId) field (askType field) =
      some (id, (db.answerUnder (askKey reading field)).getD answer) := by
  have hsaved : savedFor reading (input.on db itemId) field (askType field) =
      db.findSavedAnswer itemId (askKey reading field) := by
    show (if ambiguous reading input field then none else _) = _
    rw [hambiguous]
    rfl
  have hanswer := Store.findSavedAnswer_map_snd db itemId (askKey reading field)
  rw [hscoped] at hanswer
  rw [hsaved]
  cases hfound : db.findSavedAnswer itemId (askKey reading field) with
  | none =>
    rw [hfound] at hanswer
    cases hunder : db.answerUnder (askKey reading field) <;> simp [hunder] at hanswer
  | some found =>
    rw [hfound] at hanswer
    refine ⟨found.1, ?_⟩
    cases hunder : db.answerUnder (askKey reading field) with
    | none =>
      rw [hunder] at hanswer
      simp only [Option.map_some, Option.none_or, Option.some.injEq] at hanswer
      rw [Option.getD_none, ← hanswer]
    | some other =>
      rw [hunder] at hanswer
      simp only [Option.map_some, Option.some_or, Option.some.injEq] at hanswer
      rw [Option.getD_some, ← hanswer]

lemma puts_iff_select (hselect : field.controlType = .select)
    (hscoped : db.answerUnder (Store.scopedBlindAnswerKey (askKey reading field) itemId) = some answer) :
    (∀ source use entry, decideSelect reading (input.on db itemId) field = .assign source use entry →
      Puts reading field answer source entry) ↔
      ¬ ∃ other, db.answerUnder (askKey reading field) = some other ∧ ambiguous reading input field = false ∧
        fills reading field other = true ∧ Differs reading field other answer := by
  have hdiffers : ∀ other, Differs reading field other answer ↔
      chosenOption reading field other ≠ chosenOption reading field answer := fun other => by
    unfold Differs
    rw [hselect]
  have htype : askType field = .select := askType_eq_select.mpr hselect
  cases hambiguous : ambiguous reading input field with
  | true =>
    rw [decideSelect, savedFor_of_ambiguous (show ambiguous reading (input.on db itemId) field = true from hambiguous)]
    simp [ask_ne_assign]
  | false =>
    obtain ⟨id, hsaved⟩ := savedFor_on hambiguous hscoped
    rw [htype] at hsaved
    unfold decideSelect
    rw [hsaved]
    dsimp only
    cases hchosen : chosenOption reading field ((db.answerUnder (askKey reading field)).getD answer) with
    | none =>
      simp only [ask_ne_assign, false_imp_iff, implies_true, true_iff]
      rintro ⟨other, hother, -, hfills, -⟩
      rw [hother, Option.getD_some] at hchosen
      rw [fills_select hselect, hchosen] at hfills
      cases hfills
    | some chosen =>
      have hputs : Puts reading field answer (.option chosen.optionRef) none ↔
          chosenOption reading field answer = some chosen := puts_option_iff (chosenOption_mem hchosen)
      constructor
      · rintro h ⟨other, hother, -, -, hother'⟩
        rw [hother, Option.getD_some] at hchosen
        exact (hdiffers other).mp hother' (hchosen.trans (hputs.mp (h _ _ _ rfl)).symm)
      · intro hnot source use entry hd
        cases hd
        refine hputs.mpr ?_
        cases hunder : db.answerUnder (askKey reading field) with
        | none =>
          rw [hunder] at hchosen
          exact hchosen
        | some other =>
          rw [hunder, Option.getD_some] at hchosen
          by_contra hne
          refine hnot ⟨other, hunder, rfl, ?_, (hdiffers other).mpr fun hsame => hne (hsame ▸ hchosen)⟩
          rw [fills_select hselect, hchosen]
          rfl

lemma puts_iff_text (htext : field.controlType ≠ .select) (htrim : trim answer = answer)
    (hscoped : db.answerUnder (Store.scopedBlindAnswerKey (askKey reading field) itemId) = some answer) :
    (∀ source use entry, decideText reading mintValueRef (input.on db itemId) field (askType field) =
        .assign source use entry → Puts reading field answer source entry) ↔
      ¬ ((knownValue reading input field).isSome = true ∨
        ∃ other, db.answerUnder (askKey reading field) = some other ∧ ambiguous reading input field = false ∧
          fills reading field other = true ∧ Differs reading field other answer) := by
  have hdiffers : ∀ other, Differs reading field other answer ↔ trim other ≠ answer := fun other => by
    unfold Differs
    cases hcontrol : field.controlType with
    | select => exact absurd hcontrol htext
    | text | textarea | checkbox | radio | file | unknown => rfl
  have hfills : ∀ other, fills reading field other = decide (trim other ≠ "") := fun other => by
    unfold fills
    cases hcontrol : field.controlType with
    | select => exact absurd hcontrol htext
    | text | textarea | checkbox | radio | file | unknown => rfl
  unfold decideText
  rw [show knownValue reading (input.on db itemId) field = knownValue reading input field from rfl]
  cases hknown : knownValue reading input field with
  | some known =>
    simp only [Option.isSome_some, true_or, not_true_eq_false, iff_false]
    exact fun h => not_puts_value_none (h _ _ _ rfl)
  | none =>
    unfold decideAnswered
    cases hambiguous : ambiguous reading input field with
    | true =>
      rw [savedFor_of_ambiguous (show ambiguous reading (input.on db itemId) field = true from hambiguous)]
      dsimp only
      constructor
      · simp
      · intro _ source use entry hd
        split at hd
        · cases hd
        · exact absurd hd ask_ne_assign
    | false =>
      obtain ⟨id, hsaved⟩ := savedFor_on hambiguous hscoped
      rw [hsaved, show ambiguous reading (input.on db itemId) field = false from hambiguous]
      dsimp only
      by_cases hempty : trim ((db.answerUnder (askKey reading field)).getD answer) = ""
      · rw [if_neg (not_not.mpr hempty), if_neg (by simp)]
        simp only [ask_ne_assign, false_imp_iff, implies_true, true_iff]
        rintro (hnone | ⟨other, hother, -, hother', -⟩)
        · cases hnone
        · rw [hother, Option.getD_some] at hempty
          rw [hfills, hempty] at hother'
          cases hother'
      · rw [if_pos hempty]
        constructor
        · rintro h (hnone | ⟨other, hother, -, -, hother'⟩)
          · cases hnone
          · have hvalue := (puts_value_iff (by rfl)).mp (h _ _ _ rfl)
            rw [hother, Option.getD_some] at hvalue
            exact (hdiffers other).mp hother' hvalue
        · intro hnot source use entry hd
          cases hd
          refine (puts_value_iff (by rfl)).mpr ?_
          cases hunder : db.answerUnder (askKey reading field) with
          | none => exact htrim
          | some other =>
            rw [hunder, Option.getD_some] at hempty
            by_contra hne
            refine hnot (.inr ⟨other, hunder, rfl, ?_, (hdiffers other).mpr hne⟩)
            rw [hfills, decide_eq_true_eq]
            exact hempty

lemma puts_iff_not_overtaken (htype : field.controlType ∈ questionTypes) (htrim : trim answer = answer)
    (hscoped : db.answerUnder (Store.scopedBlindAnswerKey (askKey reading field) itemId) = some answer) :
    (∀ source use entry, decision reading mintValueRef (input.on db itemId) field = .assign source use entry →
      Puts reading field answer source entry) ↔ ¬ Overtaken reading input db field answer := by
  by_cases hclass : field.classification = none
  · cases hcode : verificationCodeLabel (reading.letters.normalizeFieldLabel field.label) with
    | true =>
      refine iff_of_true (fun source use entry hd => ?_) fun h => ?_
      · exact absurd hd (decision_of_excluded (.inr hcode))
      · rw [h.2.1] at hcode
        cases hcode
    | false =>
      rw [decision_of_question hclass hcode htype]
      by_cases hselect : field.controlType = .select
      · rw [if_pos hselect, puts_iff_select hselect hscoped]
        simp [Overtaken, hclass, hcode, hselect]
      · rw [if_neg hselect, puts_iff_text hselect htrim hscoped]
        simp [Overtaken, hclass, hcode, hselect]
  · refine iff_of_true (fun source use entry hd => ?_) fun h => hclass h.1
    exact absurd hd (decision_of_excluded (.inl hclass))

lemma saved_of_use {id : ℕ} (hd : decision reading mintValueRef input field = .assign source use entry)
    (huse : use.answerId = some id) : ∃ found, savedFor reading input field (askType field) = some (id, found) ∧
      (trim found = found → Puts reading field found source entry) := by
  have hsound := sound_decision reading mintValueRef input field
  rw [hd] at hsound
  obtain ⟨hclass, hcode, hproper⟩ := hsound
  by_cases htype : field.controlType ∈ questionTypes
  · rw [decision_of_question hclass hcode htype] at hd
    split at hd
    · next hselect =>
      rw [askType_eq_select.mpr hselect]
      unfold decideSelect at hd
      rcases hsaved : savedFor reading input field .select with _ | ⟨id', found⟩
      · rw [hsaved] at hd
        exact absurd hd ask_ne_assign
      · rw [hsaved] at hd
        dsimp only at hd
        cases hchosen : chosenOption reading field found with
        | none =>
          rw [hchosen] at hd
          exact absurd hd ask_ne_assign
        | some chosen =>
          rw [hchosen] at hd
          cases hd
          cases huse
          exact ⟨found, rfl, fun _ => .option hchosen⟩
    · unfold decideText at hd
      cases hknown : knownValue reading input field with
      | some known =>
        rw [hknown] at hd
        cases hd
        cases huse
      | none =>
        rw [hknown] at hd
        unfold decideAnswered at hd
        rcases hsaved : savedFor reading input field (askType field) with _ | ⟨id', found⟩
        · rw [hsaved] at hd
          dsimp only at hd
          split at hd
          · cases hd
          · exact absurd hd ask_ne_assign
        · rw [hsaved] at hd
          dsimp only at hd
          split at hd
          · cases hd
            cases huse
            exact ⟨found, rfl, fun htrim => (puts_value_iff (by rfl)).mpr htrim⟩
          · split at hd
            · cases hd
            · exact absurd hd ask_ne_assign
  · unfold decision at hd
    rw [hclass] at hd
    rw [hcode, if_neg Bool.false_ne_true] at hd
    cases hcontrol : field.controlType with
    | file =>
      rw [hcontrol] at hd
      cases hchosen : chooseArtifactForField reading.letters field input.artifacts with
      | none =>
        rw [hchosen] at hd
        cases hd
      | some artifact =>
        rw [hchosen] at hd
        cases hd
        cases huse
    | checkbox | radio | unknown =>
      rw [hcontrol] at hd
      cases hd
    | select | text | textarea =>
      rw [hcontrol] at htype
      exact absurd (by decide) htype

end Used

/-! ## One-time answers in every run -/

section Run

variable (reading : Reading) (mintValueRef : Ref → Ref) (input : BlindAnswerMapperInput) (w : Interview) (itemId : ℕ)

/-- A one-time answer goes into the field of its item, whenever something goes into that field. -/
def HonoursOneTime : Prop :=
  ∀ field ∈ activeFields input, field.controlType ∈ questionTypes →
    ∀ g, lastGiven w.history itemId (askKey reading field) = some g → g.remember = false →
      ∀ source use entry, decision reading mintValueRef (input.on w.db itemId) field = .assign source use entry →
        Puts reading field g.text source entry

def NoneOvertaken : Prop :=
  ∀ field ∈ activeFields input, field.controlType ∈ questionTypes →
    ∀ g, lastGiven w.history itemId (askKey reading field) = some g → g.remember = false →
      ¬ Overtaken reading input w.db field g.text

structure Entitled (field : SnapshotField) (id : ℕ) (g : Given) : Prop where
  question : g.key = askKey reading field
  entitled : g.remember = true ∨ g.itemId = itemId
  last : (if g.remember then lastRemembered w.history g.key else lastOneTime w.history g.itemId g.key) = some g
  row : ∃ r ∈ w.db.answers.rows, r.id = id ∧ r.answer = g.text ∧
    r.matchKey = if g.remember then g.key else Store.scopedBlindAnswerKey g.key g.itemId

end Run

section Theorem

variable {reading : Reading} {derive : String → String → ApplicationIdentity} {w : Interview}

lemma lastOneTime_of_lastGiven {history : List Given} {itemId : ℕ}
    (h : lastGiven history itemId key = some g) (hremember : g.remember = false) :
    lastOneTime history itemId key = some g := by
  unfold lastGiven at h
  unfold lastOneTime
  generalize history.reverse = l at h ⊢
  induction l with
  | nil => cases h
  | cons first rest ih =>
    rw [List.find?_cons] at h ⊢
    cases hfirst : decide (first.itemId = itemId ∧ first.key = key) with
    | true =>
      rw [hfirst] at h
      cases h
      have hall : g.remember = false ∧ g.itemId = itemId ∧ g.key = key :=
        ⟨hremember, of_decide_eq_true hfirst⟩
      rw [decide_eq_true hall]
    | false =>
      rw [hfirst] at h
      have hnot : ¬ (first.remember = false ∧ first.itemId = itemId ∧ first.key = key) := fun hall =>
        of_decide_eq_false hfirst hall.2
      rw [decide_eq_false hnot]
      exact ih h

lemma find?_of_last {history : List Given} {p : Given → Bool} (h : history.reverse.find? p = some g) :
    g ∈ history ∧ p g = true :=
  ⟨List.mem_reverse.mp (List.mem_of_find?_eq_some h), List.find?_some h⟩

lemma mem_of_findBlindApplyAnswer {db : Store} {r : Answer} (h : db.findBlindApplyAnswer key = some r) :
    r ∈ db.answers.rows ∧ r.matchKey = key:=
  ⟨List.mem_of_find?_eq_some h, by simpa using List.find?_some h⟩

lemma Tracks.entitled (h : Tracks reading w) {itemId id : ℕ} {field : SnapshotField} {found : String}
    (hfound : w.db.findSavedAnswer itemId (askKey reading field) = some (id, found)) :
    ∃ g, Entitled reading w itemId field id g ∧ g ∈ w.history ∧ g.text = found := by
  unfold Store.findSavedAnswer at hfound
  cases hrow : w.db.findBlindApplyAnswer (askKey reading field) with
  | some r =>
    rw [hrow] at hfound
    cases hfound
    obtain ⟨hmem, hkey⟩ := mem_of_findBlindApplyAnswer hrow
    have hunder := h.remembered (askKey reading field) (isKey_askKey field)
    rw [Store.answerUnder, hrow] at hunder
    obtain ⟨g, hlast, htext⟩ := Option.map_eq_some_iff.mp hunder.symm
    obtain ⟨hg, hkind⟩ := find?_of_last hlast
    rw [decide_eq_true_eq] at hkind
    refine ⟨g, ⟨hkind.2, .inl hkind.1, ?_, r, hmem, rfl, htext.symm, ?_⟩, hg, htext⟩
    · rw [if_pos hkind.1, hkind.2]
      exact hlast
    · rw [if_pos hkind.1, hkey, hkind.2]
  | none =>
    rw [hrow] at hfound
    obtain ⟨r, hrow', hpair⟩ := Option.map_eq_some_iff.mp hfound
    rw [Option.none_or] at hrow'
    cases hpair
    obtain ⟨hmem, hkey⟩ := mem_of_findBlindApplyAnswer hrow'
    have hunder := h.oneTime (askKey reading field) itemId
    rw [Store.answerUnder, hrow'] at hunder
    obtain ⟨g, hlast, htext⟩ := Option.map_eq_some_iff.mp hunder.symm
    obtain ⟨hg, hkind⟩ := find?_of_last hlast
    rw [decide_eq_true_eq] at hkind
    refine ⟨g, ⟨hkind.2.2, .inr hkind.2.1, ?_, r, hmem, rfl, htext.symm, ?_⟩, hg, htext⟩
    · rw [if_neg (by simp [hkind.1]), hkind.2.1, hkind.2.2]
      exact hlast
    · rw [if_neg (by simp [hkind.1]), hkey, hkind.2.1, hkind.2.2]

/-- In every run a one-time answer is used for its own form unless something else comes first, and
no answer is used for an item for which it was not given or remembered. -/
theorem honoursOneTime_iff (h : Answering.Reach reading derive w) (mintValueRef : Ref → Ref)
    (input : BlindAnswerMapperInput) (itemId : ℕ) :
    (HonoursOneTime reading mintValueRef input w itemId ↔ NoneOvertaken reading input w itemId) ∧
      ∀ field ∈ activeFields input, ∀ source use entry id,
        decision reading mintValueRef (input.on w.db itemId) field = .assign source use entry →
        use.answerId = some id →
        ∃ g, Entitled reading w itemId field id g ∧ Puts reading field g.text source entry := by
  have htracks := h.tracks
  constructor
  · refine forall₅_congr fun field hfield htype g hlast => forall_congr' fun hremember => ?_
    have hone := lastOneTime_of_lastGiven hlast hremember
    have hscoped := htracks.oneTime (askKey reading field) itemId
    rw [hone] at hscoped
    exact puts_iff_not_overtaken htype (htracks.texts g (find?_of_last hlast).1).2 hscoped
  · intro field hfield source use entry id hd huse
    obtain ⟨found, hsaved, hputs⟩ := saved_of_use hd huse
    have hfound : w.db.findSavedAnswer itemId (askKey reading field) = some (id, found) := by
      unfold savedFor at hsaved
      split at hsaved
      · cases hsaved
      · exact hsaved
    obtain ⟨g, hentitled, hg, rfl⟩ := htracks.entitled hfound
    exact ⟨g, hentitled, hputs (htracks.texts g hg).2⟩

end Theorem

/-! ## Two items with one question -/

def noticeText : SnapshotField where
  fieldRef := 1
  label := "Notice period"
  controlType := .text
  required := true
  options := none
  classification := none
  frameId := 0
  formScope := none
  active := true
  hasOptions := no_options
  optionRefs := List.nodup_nil

def noticeForm : BlindAnswerMapperInput where
  attemptId := 1
  snapshot := ⟨1, [noticeText], by decide⟩
  valueTable := []
  artifacts := []
  findSavedAnswer _ := none

def noticePrepared : Store :=
  let authorized := (Store.empty.createBlindApplyAuthorization Store.sampleAuthorization 0).1
  let queued := (authorized.insertBlindApplyItem (Store.sampleInput "v1") 1).1
  let both := (queued.insertBlindApplyItem { Store.sampleInput "v2" with identityKey := "v2" } 2).1
  let first := (both.transitionBlindApplyItem 0 [.queued] .preparing { attemptId := some (some 1) }
    { kind := .prepare } 3).1
  (first.transitionBlindApplyItem 1 [.queued] .preparing { attemptId := some (some 2) }
    { kind := .prepare } 4).1

/-- The items wait for an answer. -/
def noticeAsked : Store :=
  let first := (noticePrepared.fieldMapper 1 (mapperFor plainReading id noticeForm) 5).1
  (first.fieldMapper 2 (mapperFor plainReading id noticeForm) 6).1

def noticeOneTime : AnswerInput := ⟨0, [("Notice period", "two weeks")], false⟩

def noticeRemembered : AnswerInput := ⟨1, [("Notice period", "three months")], true⟩

def noticeAsks : MissingField := ⟨"Notice period", .text, none, none⟩

def noIdentity (company url : String) : ApplicationIdentity := ⟨company, none, url⟩

def noticeAnswered : Interview :=
  ⟨noticeAsked.saveAllGiven (plainReading.host noIdentity) noticeOneTime 0 [(noticeAsks, "two weeks")] 7,
    noticeOneTime.history plainReading 0 [(noticeAsks, "two weeks")]⟩

def noticeBoth : Interview :=
  ⟨noticeAnswered.db.saveAllGiven (plainReading.host noIdentity) noticeRemembered 1
      [(noticeAsks, "three months")] 8,
    noticeAnswered.history ++ noticeRemembered.history plainReading 1 [(noticeAsks, "three months")]⟩

lemma reach_noticeAsked : Answering.Reach plainReading noIdentity ⟨noticeAsked, []⟩ := by
  have hprepared : Answering.Reach plainReading noIdentity ⟨noticePrepared, []⟩ :=
    .step .empty (.other rfl fun r hr => .inr ((by decide :
      ∀ r ∈ noticePrepared.items.rows, r.missingFields = none) r hr))
  have hfirst := hprepared.step (.fieldMapper 1 id noticeForm 5)
  exact hfirst.step (.fieldMapper 2 id noticeForm 6)

/-- A call of `answer` for an item that waits with a card. -/
lemma Answering.Reach.answered {reading : Reading} {derive : String → String → ApplicationIdentity}
    {w : Interview} (h : Answering.Reach reading derive w) {given : AnswerInput}
    {authorizationId : ℕ} (now : ℤ)
    (hcard : (w.db.getBlindApplyItem given.itemId).map (fun r =>
      (r.attemptId, r.state, r.authorizationId, r.missingFields)) =
        some (some attemptId, .needsAnswer, authorizationId, some missing))
    (hactive : w.db.isBlindApplyAuthorizationActive authorizationId = true)
    (hresolved : resolveAnswers given missing = .ok resolved) :
    Answering.Reach reading derive ⟨w.db.saveAllGiven (reading.host derive) given given.itemId resolved now,
      w.history ++ given.history reading given.itemId resolved⟩ := by
  obtain ⟨item, hitem, hrow⟩ := Option.map_eq_some_iff.mp hcard
  simp only [Prod.mk.injEq] at hrow
  obtain ⟨hattempt, hstate, hauthorization, hmissing⟩ := hrow
  have hid : item.id = given.itemId := Table.key_of_get? hitem
  rw [← hid]
  refine h.step (.answer now hitem hattempt hstate ?_ ?_)
  · rw [hauthorization]
    exact hactive
  · rw [hmissing]
    exact hresolved

lemma reach_noticeAnswered : Answering.Reach plainReading noIdentity noticeAnswered := by
  have hcard : (noticeAsked.getBlindApplyItem 0).map (fun r =>
      (r.attemptId, r.state, r.authorizationId, r.missingFields)) =
        some (some 1, .needsAnswer, 0, some [noticeAsks]) := by decide +kernel
  have hactive : noticeAsked.isBlindApplyAuthorizationActive 0 = true := by decide +kernel
  exact reach_noticeAsked.answered 7 hcard hactive rfl

/-- The first item gets the answer that was given for the second one. -/
theorem not_honoursOneTime_noticeBoth : ¬ HonoursOneTime plainReading id noticeForm noticeBoth 0 := by
  intro h
  have hlast : lastGiven noticeBoth.history 0 (askKey plainReading noticeText) =
      some ⟨0, askKey plainReading noticeText, "two weeks", false⟩ := by decide +kernel
  have hdecision : decision plainReading id (noticeForm.on noticeBoth.db 0) noticeText =
      .assign (.value 1) ⟨"Notice period", .savedAnswer, some 1⟩
        (some ⟨⟨1, "three months", .userAnswer⟩, "Notice period"⟩) := by decide +kernel
  have hputs := h noticeText (by decide) (by decide) _ hlast rfl _ _ _ hdecision
  have hsame : "three months" = "two weeks" := (puts_value_iff (by rfl)).mp hputs
  exact absurd hsame (by decide)

/-- Before the second item was answered, the first one gets its own answer. -/
theorem honoursOneTime_iff_noticeAnswered :
    (HonoursOneTime plainReading id noticeForm noticeAnswered 0 ↔
      NoneOvertaken plainReading noticeForm noticeAnswered 0) ∧
      ∀ field ∈ activeFields noticeForm, ∀ source use entry i,
        decision plainReading id (noticeForm.on noticeAnswered.db 0) field = .assign source use entry →
        use.answerId = some i →
        ∃ g, Entitled plainReading noticeAnswered 0 field i g ∧ Puts plainReading field g.text source entry :=
  honoursOneTime_iff reach_noticeAnswered id noticeForm 0

end VacancyRadar.BlindApply
