import VacancyRadar.BlindApply.Store

/-!
# Histories of the Blind Apply record

Each function of the store either leaves the record alone or does one of a few things to it; the
first part says which.  A history is any sequence of such calls.
-/

namespace VacancyRadar.BlindApply

open Data Keyed

namespace Store

variable {db db' : Store}

/-! ## What one call does -/

lemma transition_cases (db : Store) (itemId : ℕ) (expected : List ItemState) (target : ItemState)
    (patch : ItemPatch) (event : EventInput) (now : ℤ) :
    db.transitionBlindApplyItem itemId expected target patch event now = (db, none) ∨
      ∃ current detail, db.items.get? itemId = some current ∧ current.state ∈ expected ∧
        current.state ∉ terminalStates ∧
        db.transitionBlindApplyItem itemId expected target patch event now =
          ({ db with
              items := db.items.update itemId (moveItem target patch now) (key_moveItem _ _ _)
              events := db.events.insert (newEvent itemId (some current.state) target event
                detail now) (key_newEvent _ _ _ _ _ _) },
            some (moveItem target patch now current)) := by
  unfold transitionBlindApplyItem
  cases hget : db.items.get? itemId with
  | none => exact Or.inl rfl
  | some current =>
    simp only
    split
    · rename_i hmem
      rw [List.mem_filter] at hmem
      exact Or.inr ⟨current, _, rfl, hmem.1, by simpa using hmem.2, rfl⟩
    · exact Or.inl rfl

lemma insert_cases (db : Store) (input : ItemInput) (now : ℤ) :
    (db.insertBlindApplyItem input now).1 = db ∨
      (∀ r ∈ db.items.rows, r.authorizationId = input.authorizationId →
        r.vacancyKey ≠ input.vacancyKey) ∧
      (input.state ∈ liveStates → ∀ r ∈ db.items.rows, r.identityKey = input.identityKey →
        r.state ∉ identityBlockingStates) ∧
      (db.authorizations.get? input.authorizationId).isSome ∧
      (db.insertBlindApplyItem input now).1 = { db with
        items := db.items.insert (newItem input now) (key_newItem _ _)
        events := db.events.insert (newEvent db.items.next none input.state { kind := .gate }
          input.stateDetail now) (key_newEvent _ _ _ _ _ _) } := by
  unfold insertBlindApplyItem
  cases hfind : db.itemOfVacancy input.authorizationId input.vacancyKey with
  | some existing => exact Or.inl rfl
  | none =>
    simp only
    split
    · exact Or.inl rfl
    · rename_i hblocking
      split
      · exact Or.inl rfl
      · rename_i hauth
        refine Or.inr ⟨fun r hr hauth hkey => ?_, fun hlive r hr hid hst => ?_, ?_, rfl⟩
        · have := List.find?_eq_none.mp hfind r hr
          simp [hauth, hkey] at this
        · rw [if_pos hlive] at hblocking
          have := List.find?_eq_none.mp hblocking r hr
          simp [hid, hst] at this
        · simpa [← Option.isSome_iff_ne_none] using hauth

lemma append_cases (db : Store) (itemId : ℕ) (state : ItemState) (event : EventInput) (now : ℤ) :
    (db.appendBlindApplyEvent itemId state event now).1 = db ∨
      ∃ r, db.items.get? itemId = some r ∧
        (db.appendBlindApplyEvent itemId state event now).1 = { db with
          events := db.events.insert
            (newEvent itemId (some state) state event (event.detail.getD "") now)
            (key_newEvent _ _ _ _ _ _) } := by
  unfold appendBlindApplyEvent
  cases hget : db.items.get? itemId with
  | none => exact Or.inl rfl
  | some r => exact Or.inr ⟨r, rfl, rfl⟩

variable {answer label : String} {ct : ControlType} {hash : Option String} {now : ℤ}
  {event : EventInput} {itemId : ℕ}

@[simp] lemma saveBlindApplyAnswer_items {key : String} :
    (db.saveBlindApplyAnswer key label ct answer hash now).items = db.items := by
  unfold saveBlindApplyAnswer
  split <;> rfl

@[simp] lemma saveBlindApplyAnswer_events {key : String} :
    (db.saveBlindApplyAnswer key label ct answer hash now).events = db.events := by
  unfold saveBlindApplyAnswer
  split <;> rfl

@[simp] lemma saveBlindApplyAnswer_authorizations {key : String} :
    (db.saveBlindApplyAnswer key label ct answer hash now).authorizations
      = db.authorizations := by
  unfold saveBlindApplyAnswer
  split <;> rfl

/-! ## Histories -/

def insertedStates : List ItemState := [.queued, .skipped, .applyYourself]

/-- One call of a store function, with the arguments its callers use: items are inserted in one of
three states, and an event without a move names the state its item is in. -/
inductive Step (db : Store) : Store → Prop
  | insert (input : ItemInput) (now : ℤ) :
      input.state ∈ insertedStates → Step db (db.insertBlindApplyItem input now).1
  | transition (itemId : ℕ) (expected : List ItemState) (target : ItemState) (patch : ItemPatch)
      (event : EventInput) (now : ℤ) :
      Step db (db.transitionBlindApplyItem itemId expected target patch event now).1
  | append (itemId : ℕ) (state : ItemState) (event : EventInput) (now : ℤ) :
      (∀ r, db.items.get? itemId = some r → r.state = state) →
        Step db (db.appendBlindApplyEvent itemId state event now).1
  | createAuthorization (input : AuthorizationInput) (now : ℤ) :
      Step db (db.createBlindApplyAuthorization input now).1
  | stopAuthorization (id : ℕ) (reason : String) (now : ℤ) :
      Step db (db.stopBlindApplyAuthorization id reason now).1
  | saveAnswer (matchKey label : String) (controlType : ControlType) (answer : String)
      (optionSetHash : Option String) (now : ℤ) :
      Step db (db.saveBlindApplyAnswer matchKey label controlType answer optionSetHash now)
  | answerUsed (id : ℕ) (now : ℤ) : Step db (db.recordBlindApplyAnswerUsed id now)

/-- The records that a sequence of calls leads to. -/
inductive Reach : Store → Prop
  | empty : Reach .empty
  | step {db db' : Store} : Reach db → Step db db' → Reach db'

/-! ## Trails -/

def Replays : Option ItemState → List Event → Option ItemState → Prop
  | st, [], fin => st = fin
  | st, e :: es, fin => e.fromState = st ∧ Replays (some e.toState) es fin

lemma Replays.concat {st fin : Option ItemState} {es : List Event} {e : Event}
    (h : Replays st es fin) (he : e.fromState = fin) :
    Replays st (es ++ [e]) (some e.toState) := by
  induction es generalizing st with
  | nil =>
    obtain rfl : st = fin := h
    exact ⟨he, rfl⟩
  | cons d es ih => exact ⟨h.1, ih h.2⟩

lemma eventsOf_insert {mk : ℕ → Event} {h : ∀ i, key (mk i) = i} {id : ℕ} {items : Table Item} :
    eventsOf { db with items, events := db.events.insert mk h } id =
      db.eventsOf id ++ if (mk db.events.next).itemId = id then [mk db.events.next] else [] := by
  simp only [eventsOf, Table.insert, List.filter_append]
  by_cases hid : (mk db.events.next).itemId = id <;> simp [hid]

/-! ## What every history preserves -/

structure Wf (db : Store) : Prop where
  /-- At most one item covers an identity. -/
  identity : ∀ a ∈ db.items.rows, ∀ b ∈ db.items.rows, a.identityKey = b.identityKey →
    a.state ∈ identityBlockingStates → b.state ∈ identityBlockingStates → a = b
  /-- At most one item per authorization and vacancy. -/
  vacancy : ∀ a ∈ db.items.rows, ∀ b ∈ db.items.rows,
    a.authorizationId = b.authorizationId → a.vacancyKey = b.vacancyKey → a = b
  /-- The events of an item lead from nothing to its state. -/
  trail : ∀ a ∈ db.items.rows, Replays none (db.eventsOf a.id) (some a.state)
  /-- Events belong to items. -/
  known : ∀ e ∈ db.events.rows, e.itemId < db.items.next

lemma Wf.of_items_events (h : db.Wf) (hi : db'.items = db.items) (he : db'.events = db.events) :
    db'.Wf := by
  obtain ⟨h₁, h₂, h₃, h₄⟩ := h
  refine ⟨?_, ?_, ?_, ?_⟩
  · rwa [hi]
  · rwa [hi]
  · simpa only [hi, eventsOf, he] using h₃
  · rwa [hi, he]

lemma Wf.eventsOf_next (h : db.Wf) : db.eventsOf db.items.next = [] := by
  rw [eventsOf, List.filter_eq_nil_iff]
  intro e he
  have := h.known e he
  simp
  omega

lemma Wf.insert (h : db.Wf) {input : ItemInput} (hstate : input.state ∈ insertedStates) :
    (db.insertBlindApplyItem input now).1.Wf := by
  obtain heq | ⟨hvacancy, hidentity, -, heq⟩ := db.insert_cases input now
  · rwa [heq]
  rw [heq]
  -- a blocking state of a new item is a live one
  have hblock : input.state ∈ identityBlockingStates → input.state ∈ liveStates := by
    revert hstate
    cases input.state <;> decide
  refine ⟨?_, ?_, ?_, ?_⟩
  · intro a ha b hb hkey hsta hstb
    simp only [Table.mem_insert] at ha hb
    rcases ha with ha | rfl <;> rcases hb with hb | rfl
    · exact h.identity a ha b hb hkey hsta hstb
    · exact absurd hsta (hidentity (hblock hstb) a ha hkey)
    · exact absurd hstb (hidentity (hblock hsta) b hb hkey.symm)
    · rfl
  · intro a ha b hb hauth hkey
    simp only [Table.mem_insert] at ha hb
    rcases ha with ha | rfl <;> rcases hb with hb | rfl
    · exact h.vacancy a ha b hb hauth hkey
    · exact absurd hkey (hvacancy a ha hauth)
    · exact absurd hkey.symm (hvacancy b hb hauth.symm)
    · rfl
  · intro a ha
    simp only [Table.mem_insert] at ha
    rw [eventsOf_insert]
    rcases ha with ha | rfl
    · have hlt : a.id < db.items.next := db.items.key_lt a ha
      have hne : ¬ db.items.next = a.id := by omega
      simpa [newEvent, hne] using h.trail a ha
    · have hid : (newItem input now db.items.next).id = db.items.next := rfl
      rw [hid, h.eventsOf_next, if_pos (by rfl)]
      exact ⟨rfl, rfl⟩
  · intro e he
    simp only [Table.mem_insert, Table.next_insert] at he ⊢
    rcases he with he | rfl
    · exact Nat.lt_succ_of_lt (h.known e he)
    · exact Nat.lt_succ_self _

lemma Wf.transition (h : db.Wf) {expected : List ItemState} {target : ItemState} {patch : ItemPatch} :
    (db.transitionBlindApplyItem itemId expected target patch event now).1.Wf := by
  obtain heq | ⟨current, detail, hget, -, hterm, heq⟩ :=
    db.transition_cases itemId expected target patch event now
  · rwa [heq]
  rw [heq]
  have hcur := mem_identityBlockingStates_of_not_terminal hterm
  -- every row of the new table stands for a row of the old one
  have hold : ∀ a ∈ (db.items.update itemId (moveItem target patch now)
      (key_moveItem _ _ _)).rows,
      ∃ a' ∈ db.items.rows, a'.id = a.id ∧ a'.identityKey = a.identityKey ∧
        a'.authorizationId = a.authorizationId ∧ a'.vacancyKey = a.vacancyKey ∧
        (a.state ∈ identityBlockingStates → a'.state ∈ identityBlockingStates) ∧
        (a.id ≠ itemId → a' = a) := by
    intro a ha
    rcases Table.of_mem_update hget ha with rfl | ⟨ha, -⟩
    · have hkey : (moveItem target patch now current).id = itemId := Table.key_of_get? hget
      exact ⟨current, Table.mem_of_get? hget, rfl, rfl, rfl, rfl, fun _ => hcur,
        fun hne => absurd hkey hne⟩
    · exact ⟨a, ha, rfl, rfl, rfl, rfl, id, fun _ => rfl⟩
  have hnew : ∀ {a b : Item}, a ∈ (db.items.update itemId (moveItem target patch now)
      (key_moveItem _ _ _)).rows → b ∈ (db.items.update itemId (moveItem target patch now)
      (key_moveItem _ _ _)).rows → a.id = b.id → a = b :=
    fun ha hb hab => Table.eq_of_key_eq ha hb hab
  refine ⟨?_, ?_, ?_, ?_⟩
  · intro a ha b hb hkey hsta hstb
    obtain ⟨a', ha', hida, hkeya, -, -, hblocka, -⟩ := hold a ha
    obtain ⟨b', hb', hidb, hkeyb, -, -, hblockb, -⟩ := hold b hb
    have := h.identity a' ha' b' hb' (by rw [hkeya, hkeyb, hkey]) (hblocka hsta) (hblockb hstb)
    exact hnew ha hb (by rw [← hida, ← hidb, this])
  · intro a ha b hb hauth hkey
    obtain ⟨a', ha', hida, -, hautha, hvaca, -, -⟩ := hold a ha
    obtain ⟨b', hb', hidb, -, hauthb, hvacb, -, -⟩ := hold b hb
    have := h.vacancy a' ha' b' hb' (by rw [hautha, hauthb, hauth]) (by rw [hvaca, hvacb, hkey])
    exact hnew ha hb (by rw [← hida, ← hidb, this])
  · intro a ha
    obtain ⟨a', ha', -, -, -, -, -, hsame⟩ := hold a ha
    rw [eventsOf_insert]
    by_cases hid : itemId = a.id
    · have hsta : a.state = target := by
        rcases Table.of_mem_update (h := key_moveItem _ _ _) hget ha with rfl | ⟨-, hkey⟩
        · rfl
        · exact absurd hid.symm hkey
      have htrail := h.trail current (Table.mem_of_get? hget)
      have hcid : current.id = itemId := Table.key_of_get? hget
      rw [hcid, hid] at htrail
      simpa [newEvent, hid, hsta] using
        htrail.concat (e := newEvent itemId (some current.state) target event detail now
          db.events.next) rfl
    · obtain rfl := hsame (Ne.symm hid)
      simpa [newEvent, hid] using h.trail a' ha'
  · intro e he
    simp only [Table.mem_insert, Table.next_update] at he ⊢
    rcases he with he | rfl
    · exact h.known e he
    · exact Table.lt_next_of_get? hget

lemma Wf.append (h : db.Wf) {state : ItemState}
    (hstate : ∀ r, db.items.get? itemId = some r → r.state = state) :
    (db.appendBlindApplyEvent itemId state event now).1.Wf := by
  obtain heq | ⟨r, hget, heq⟩ := db.append_cases itemId state event now
  · rwa [heq]
  rw [heq]
  refine ⟨h.identity, h.vacancy, ?_, ?_⟩
  · intro a ha
    rw [eventsOf_insert]
    by_cases hid : itemId = a.id
    · have hsta : a.state = state := hstate a (hid ▸ Table.get?_key ha)
      simpa [newEvent, hid, hsta] using (h.trail a ha).concat
        (e := newEvent itemId (some state) state event (event.detail.getD "") now
          db.events.next) (by rw [hsta]; rfl)
    · simpa [newEvent, hid] using h.trail a ha
  · intro e he
    simp only [Table.mem_insert] at he
    rcases he with he | rfl
    · exact h.known e he
    · exact Table.lt_next_of_get? hget

lemma Wf.step (h : db.Wf) (hstep : Step db db') : db'.Wf := by
  cases hstep with
  | insert input now hstate => exact h.insert hstate
  | transition itemId expected target patch event now => exact h.transition
  | append itemId state event now hstate => exact h.append hstate
  | createAuthorization input now => exact h.of_items_events rfl rfl
  | stopAuthorization id reason now => exact h.of_items_events rfl rfl
  | saveAnswer key label ct answer hash now => exact h.of_items_events (by simp) (by simp)
  | answerUsed id now => exact h.of_items_events rfl rfl

lemma Reach.wf (h : Reach db) : db.Wf := by
  induction h with
  | empty => exact ⟨by simp [Store.empty], by simp [Store.empty], by simp [Store.empty],
      by simp [Store.empty]⟩
  | step _ hstep ih => exact ih.step hstep

def Keeps (db db' : Store) : Prop :=
  ∀ i a, db.items.get? i = some a → ∃ b, db'.items.get? i = some b ∧
    b.authorizationId = a.authorizationId ∧ b.vacancyKey = a.vacancyKey ∧
    b.identityKey = a.identityKey ∧ (a.state ∈ terminalStates → b = a)

lemma Keeps.of_items (h : db'.items = db.items) : Keeps db db' :=
  fun _ a ha => ⟨a, by rw [h, ha], rfl, rfl, rfl, fun _ => rfl⟩

lemma Keeps.refl : Keeps db db := .of_items rfl

lemma Keeps.trans {db'' : Store} (h : Keeps db db') (h' : Keeps db' db'') : Keeps db db'' := by
  intro i a ha
  obtain ⟨b, hb, hauth, hvac, hid, hterm⟩ := h i a ha
  obtain ⟨c, hc, hauth', hvac', hid', hterm'⟩ := h' i b hb
  refine ⟨c, hc, hauth'.trans hauth, hvac'.trans hvac, hid'.trans hid, fun ht => ?_⟩
  obtain rfl := hterm ht
  exact hterm' ht

lemma Keeps.insert (input : ItemInput) (now : ℤ) :
    Keeps db (db.insertBlindApplyItem input now).1 := by
  obtain heq | ⟨-, -, -, heq⟩ := db.insert_cases input now
  · exact .of_items (by rw [heq])
  · intro i a ha
    refine ⟨a, ?_, rfl, rfl, rfl, fun _ => rfl⟩
    rw [heq]
    exact Table.get?_insert_of_some (h := key_newItem _ _) ha

lemma Keeps.transition (itemId : ℕ) (expected : List ItemState) (target : ItemState)
    (patch : ItemPatch) (event : EventInput) (now : ℤ) :
    Keeps db (db.transitionBlindApplyItem itemId expected target patch event now).1 := by
  obtain heq | ⟨current, detail, hget, -, hterm, heq⟩ :=
    db.transition_cases itemId expected target patch event now
  · exact .of_items (by rw [heq])
  · intro i a ha
    rw [heq]
    simp only [Table.get?_update]
    by_cases hi : itemId = i
    · subst hi
      obtain rfl : current = a := Option.some.inj (hget.symm.trans ha)
      refine ⟨moveItem target patch now current, by simp [ha], rfl, rfl, rfl, ?_⟩
      exact fun h => absurd h hterm
    · exact ⟨a, by simp [hi, ha], rfl, rfl, rfl, fun _ => rfl⟩

lemma Step.keeps (hstep : Step db db') : Keeps db db' := by
  cases hstep with
  | insert input now hstate => exact .insert input now
  | transition itemId expected target patch event now => exact .transition _ _ _ _ _ _
  | append itemId state event now hstate =>
    obtain heq | ⟨r, -, heq⟩ := db.append_cases itemId state event now
    · exact .of_items (by rw [heq])
    · exact .of_items (by rw [heq])
  | createAuthorization input now => exact .of_items rfl
  | stopAuthorization id reason now => exact .of_items rfl
  | saveAnswer key label ct answer hash now => exact .of_items (by simp)
  | answerUsed id now => exact .of_items rfl

/-- **Identity safety of the Blind Apply record.**  After every history of calls, at most one item
per identity is in a live, submitted or outcome-unknown state, at most one exists per authorization
and vacancy, terminal items are kept, and the events of an item lead to its state. -/
theorem identity_safety (h : Reach db) :
    (∀ a ∈ db.items.rows, ∀ b ∈ db.items.rows, a.identityKey = b.identityKey →
      a.state ∈ liveStates ++ [.submitted, .outcomeUnknown] →
      b.state ∈ liveStates ++ [.submitted, .outcomeUnknown] → a = b) ∧
    (∀ a ∈ db.items.rows, ∀ b ∈ db.items.rows, a.authorizationId = b.authorizationId →
      a.vacancyKey = b.vacancyKey → a = b) ∧
    (∀ a ∈ db.items.rows, a.state ∈ terminalStates → ∀ db', Step db db' →
      a ∈ db'.items.rows) ∧
    (∀ a ∈ db.items.rows, Replays none (db.eventsOf a.id) (some a.state)) := by
  refine ⟨h.wf.identity, h.wf.vacancy, ?_, h.wf.trail⟩
  intro a ha hterm db' hstep
  obtain ⟨b, hb, -, -, -, hsame⟩ := hstep.keeps _ _ (Table.get?_key ha)
  obtain rfl := hsame hterm
  exact Table.mem_of_get? hb

/-! A short history: a vacancy is queued under an authorization, a second posting of the same role
is refused, and the item is stopped. -/

def sampleAuthorization : AuthorizationInput where
  roleFamilies := ["frontend"]
  filtersSnapshot := ""
  filtersHash := ""
  profileVersion := "p1"
  sourceCvId := none
  sourceCvContentHash := "cv1"
  useSavedAnswers := true
  policyIds := ["ashby-fixture-test-only"]
  confirmTextHash := ""

def sampleInput (vacancyKey : String) : ItemInput where
  authorizationId := 0
  vacancyKey := vacancyKey
  identityKey := "acme|file:///fixtures/blind-apply-supported-form.html"
  company := "Acme"
  role := "Frontend Engineer"
  applyUrl := "file:///fixtures/blind-apply-supported-form.html"
  policyId := some "ashby-fixture-test-only"
  state := .queued
  stateDetail := "Waiting to start"
  skipReason := none
  gateEvidence := ⟨some "frontend", .eligible, .verified, some "ashby-fixture-test-only",
    some "open", none, .clear⟩

def sampleRecord : Store :=
  let authorized := (Store.empty.createBlindApplyAuthorization sampleAuthorization 0).1
  let queued := (authorized.insertBlindApplyItem (sampleInput "v1") 1).1
  let refused := (queued.insertBlindApplyItem (sampleInput "v2") 2).1
  (refused.transitionBlindApplyItem 0 [.queued] .stopped {} { kind := .stop } 3).1

lemma reach_sampleRecord : Reach sampleRecord := by
  have h₁ := Reach.step .empty (.createAuthorization sampleAuthorization 0)
  have h₂ := Reach.step h₁ (.insert (sampleInput "v1") 1 (by decide))
  have h₃ := Reach.step h₂ (.insert (sampleInput "v2") 2 (by decide))
  exact .step h₃ (.transition 0 [.queued] .stopped {} { kind := .stop } 3)

theorem identity_safety_sampleRecord :
    sampleRecord.items.rows.map (fun a => (a.vacancyKey, a.state)) = [("v1", .stopped)] ∧
      (∀ a ∈ sampleRecord.items.rows, a.state ∈ terminalStates → ∀ db', Step sampleRecord db' →
        a ∈ db'.items.rows) ∧
      ∀ a ∈ sampleRecord.items.rows,
        Replays none (sampleRecord.eventsOf a.id) (some a.state) := by
  obtain ⟨-, -, hterminal, htrail⟩ := identity_safety reach_sampleRecord
  exact ⟨by decide, hterminal, htrail⟩

end Store

end VacancyRadar.BlindApply
