import VacancyRadar.Provider.RunSession

/-!
# The events of a session of a CLI process

Whatever happens to the session, the consumer sees the start of it first, then inner events, and one
terminal event at the end.  The terminal event is pushed with the step that ends `run`, and the
channel is closed with it.
-/

namespace VacancyRadar.Provider

open Data

def Begun (first : AgentEvent) (events : List AgentEvent) : Prop :=
  ∃ inner, (∀ event ∈ inner, event.isInner) ∧ events = first :: inner

def Whole (first : AgentEvent) (events : List AgentEvent) : Prop :=
  ∃ inner terminal, (∀ event ∈ inner, event.isInner) ∧ terminal.isTerminal ∧
    events = first :: (inner ++ [terminal])

def Closes (events : List AgentEvent) : Prop :=
  ∃ inner terminal, (∀ event ∈ inner, event.isInner) ∧ terminal.isTerminal ∧
    events = inner ++ [terminal]

variable {first event : AgentEvent} {events rest : List AgentEvent}

lemma Begun.append (h : Begun first events) (hrest : ∀ event ∈ rest, event.isInner) :
    Begun first (events ++ rest) := by
  obtain ⟨inner, hinner, rfl⟩ := h
  refine ⟨inner ++ rest, fun event hevent => ?_, rfl⟩
  rcases List.mem_append.mp hevent with hmem | hmem
  · exact hinner event hmem
  · exact hrest event hmem

lemma Begun.whole (h : Begun first events) (hrest : Closes rest) : Whole first (events ++ rest) := by
  obtain ⟨inner, terminal, hinner, hterminal, rfl⟩ := hrest
  obtain ⟨all, hall, hevents⟩ := h.append hinner
  refine ⟨all, terminal, hall, hterminal, ?_⟩
  rw [← List.append_assoc, hevents]
  rfl

lemma closes_singleton (h : event.isTerminal) : Closes [event] :=
  ⟨[], event, fun _ hevent => (nomatch hevent), h, rfl⟩

lemma closes_pair (hevent : event.isInner) {terminal : AgentEvent} (h : terminal.isTerminal) :
    Closes [event, terminal] :=
  ⟨[event], terminal, fun _ hmem => List.mem_singleton.mp hmem ▸ hevent, h, rfl⟩

lemma closes_failure {code message : String} : Closes (failure code message) := closes_pair rfl rfl

/-! ## The invariant -/

namespace Session

/-- What the consumer has seen, and what it has still to see. -/
def transcript (s : Session) : List AgentEvent := s.seen ++ s.channel.items

end Session

variable {launch : Launch} {s s' : Session}

structure Open (launch : Launch) (s : Session) : Prop where
  ok : s.channel.Ok
  opened : s.channel.closed = false
  begun : Begun launch.started s.transcript

structure Closed (launch : Launch) (s : Session) : Prop where
  ok : s.channel.Ok
  closed : s.channel.closed = true
  whole : Whole launch.started s.transcript

inductive Inv (launch : Launch) (s : Session) : Prop where
  | underWay (hstage : s.stage ≠ .done) (h : Open launch s)
  | ended (hstage : s.stage = .done) (h : Closed launch s)

lemma Inv.opened (h : Inv launch s) (hstage : s.stage ≠ .done) : Open launch s := by
  cases h with
  | underWay _ h => exact h
  | ended hdone => exact absurd hdone hstage

lemma Inv.closed (h : Inv launch s) (hstage : s.stage = .done) : Closed launch s := by
  cases h with
  | underWay hdone => exact absurd hstage hdone
  | ended _ h => exact h

lemma Open.finish (h : Open launch s) (hevents : Closes events) : Inv launch (s.finish events) := by
  refine .ended rfl ⟨h.ok.closeWith, Channel.closed_closeWith, ?_⟩
  have hitems : (s.finish events).transcript = s.transcript ++ events := by
    show s.seen ++ (s.channel.closeWith events).items = s.seen ++ s.channel.items ++ events
    rw [h.ok.items_closeWith h.opened, List.append_assoc]
  rw [hitems]
  exact h.begun.whole hevents

lemma Open.crash (h : Open launch s) : Inv launch s.crash := h.finish closes_failure

lemma Open.offer (h : Open launch s) (hevent : event.isInner) : Open launch (s.offer event) := by
  unfold Session.offer
  cases hpush : s.channel.push event with
  | none => exact h
  | some channel =>
    refine ⟨.of_push hpush, Channel.closed_of_push hpush, ?_⟩
    have hitems : s.seen ++ channel.items = s.transcript ++ [event] := by
      rw [h.ok.items_push hpush, ← List.append_assoc]
      rfl
    show Begun launch.started (s.seen ++ channel.items)
    rw [hitems]
    exact h.begun.append fun _ hmem => List.mem_singleton.mp hmem ▸ hevent

lemma Open.of_same (h : Open launch s) (hchannel : s'.channel = s.channel)
    (hseen : s'.seen = s.seen) : Open launch s' := by
  refine ⟨hchannel ▸ h.ok, hchannel ▸ h.opened, ?_⟩
  have hevents : s'.transcript = s.transcript := by rw [Session.transcript, hchannel, hseen, Session.transcript]
  exact hevents ▸ h.begun

/-! ## Steps -/

lemma inv_start (launch : Launch) (cwd : Except String Bool) : Inv launch (launch.start cwd) := by
  have hopen : Open launch { channel := { queue := [launch.started] } } :=
    ⟨.of_not_waiting rfl, rfl, [], fun _ hevent => (nomatch hevent), rfl⟩
  rcases cwd with _ | _ | _
  · exact hopen.crash
  · exact hopen.finish (closes_pair rfl rfl)
  · exact .underWay (fun h => nomatch h) hopen

lemma Open.deliver (h : Open launch s) : Inv launch (launch.deliver s).1 := by
  have hspawned : Open launch { s with spawned := true } := h.of_same rfl rfl
  have hreading : Inv launch { s with spawned := true, stage := .reading, handedOver := true } :=
    .underWay (fun h => nomatch h) (h.of_same rfl rfl)
  unfold Launch.deliver
  split
  · split
    · exact hspawned.crash
    · exact hreading
  · exact hreading

lemma Open.located (h : Open launch s) (exePath : Except String (Option String))
    (spawn : Except String Unit) : Inv launch (launch.located exePath spawn s).1 := by
  unfold Launch.located
  split
  · exact h.crash
  · split
    · exact h.finish (closes_pair rfl rfl)
    · split
      · exact h.finish (closes_singleton rfl)
      · unfold Launch.spawn
        split
        · exact h.crash
        · split
          · exact h.crash
          · exact h.deliver

lemma Open.onLine (h : Open launch s) (hstage : s.stage = .reading) (text : String) :
    Inv launch (launch.onLine text s) := by
  have hnot : ∀ {stage : Stage}, stage = .reading → stage ≠ .done := by
    rintro _ rfl h
    cases h
  unfold Launch.onLine
  split
  · exact .underWay (hnot hstage) h
  · next raw _ =>
    split
    · exact .underWay (fun h => nomatch h) (h.of_same rfl rfl)
    · next parsed hparsed =>
      have hpushed : (s.channel.pushAll parsed.events).1.Ok ∧
          (s.channel.pushAll parsed.events).1.closed = false ∧ ∃ taken, taken <+: parsed.events ∧
            (s.channel.pushAll parsed.events).1.items = s.channel.items ++ taken :=
        h.ok.pushAll h.opened
      obtain ⟨hok, hopen, taken, htaken, hitems⟩ := hpushed
      have hinner : ∀ event ∈ taken, event.isInner := fun event hevent =>
        launch.config.inner raw parsed hparsed event (htaken.subset hevent)
      refine .underWay ?_ ⟨hok, hopen, ?_⟩
      · show (if (s.channel.pushAll parsed.events).2 then s.stage else .closing none) ≠ .done
        split
        · exact hnot hstage
        · exact fun h => nomatch h
      · show Begun launch.started (s.seen ++ (s.channel.pushAll parsed.events).1.items)
        rw [hitems, ← List.append_assoc]
        exact h.begun.append hinner

lemma Open.exited (h : Open launch s) (code : Option ℤ) (signal : Option String) :
    Inv launch (launch.exited code signal s) := by
  unfold Launch.exited
  split
  · exact h.finish (closes_singleton rfl)
  · split
    · exact h.finish (closes_singleton rfl)
    · exact h.finish closes_failure

lemma transcript_next (s : Session) :
    ({ s with channel := s.channel.next.1, seen := s.seen ++ s.channel.next.2.toList } :
      Session).transcript = s.transcript := by
  show s.seen ++ s.channel.next.2.toList ++ s.channel.next.1.items = s.seen ++ s.channel.items
  rw [List.append_assoc, ← Channel.items_next]

lemma Inv.of_same (h : Inv launch s) (hstage : s'.stage = s.stage)
    (hchannel : s'.channel = s.channel) (hseen : s'.seen = s.seen) : Inv launch s' := by
  cases h with
  | underWay hnot h => exact .underWay (hstage ▸ hnot) (h.of_same hchannel hseen)
  | ended hdone h =>
    have hevents : s'.transcript = s.transcript := by
      rw [Session.transcript, hchannel, hseen, Session.transcript]
    exact .ended (hstage.trans hdone) ⟨hchannel ▸ h.ok, hchannel ▸ h.closed, hevents ▸ h.whole⟩

lemma Inv.next (h : Inv launch s) :
    Inv launch { s with channel := s.channel.next.1, seen := s.seen ++ s.channel.next.2.toList } := by
  cases h with
  | underWay hstage h =>
    exact .underWay hstage ⟨h.ok.next, Channel.closed_next.trans h.opened,
      (transcript_next s).symm ▸ h.begun⟩
  | ended hstage h =>
    exact .ended hstage ⟨h.ok.next, Channel.closed_next.trans h.closed,
      (transcript_next s).symm ▸ h.whole⟩

lemma Inv.step {event : Event} (h : Inv launch s) (hstep : launch.step s event = some s') :
    Inv launch s' := by
  obtain ⟨⟨next, notices⟩, hreact, rfl⟩ := Option.map_eq_some_iff.mp hstep
  cases event with
  | located exePath spawn =>
    obtain ⟨hstage, hnext⟩ := Option.ite_none_right_eq_some.mp hreact
    have hlocated : (launch.located exePath spawn s).1 = next :=
      congrArg Prod.fst (Option.some.inj hnext)
    exact hlocated ▸ (h.opened (by rw [hstage]; exact nofun)).located exePath spawn
  | line text =>
    obtain ⟨hstage, hnext⟩ := Option.ite_none_right_eq_some.mp hreact
    cases hnext
    exact (h.opened (by rw [hstage]; exact nofun)).onLine hstage text
  | endOfOutput =>
    obtain ⟨hstage, hnext⟩ := Option.ite_none_right_eq_some.mp hreact
    cases hnext
    exact .underWay nofun ((h.opened (by rw [hstage]; exact nofun)).of_same rfl rfl)
  | readFailed message =>
    obtain ⟨hstage, hnext⟩ := Option.ite_none_right_eq_some.mp hreact
    cases hnext
    have hopen := h.opened (by rw [hstage]; exact nofun)
    have hoffer : Open launch (s.offer (launch.readError message)) := hopen.offer rfl
    exact .underWay nofun (hoffer.of_same rfl rfl)
  | readerClosed error =>
    simp only [Launch.react] at hreact
    split at hreact
    · next message hstage =>
      cases hreact
      have hopen := h.opened (by rw [hstage]; exact nofun)
      have hoffer : Open launch (s.offer (launch.readError message)) := hopen.offer rfl
      exact .underWay nofun (hoffer.of_same rfl rfl)
    · next hstage =>
      cases hreact
      have hopen := h.opened (by rw [hstage]; exact nofun)
      cases error with
      | none => exact .underWay nofun (hopen.of_same rfl rfl)
      | some message =>
        have hoffer : Open launch (s.offer (launch.readError message)) := hopen.offer rfl
        exact .underWay nofun (hoffer.of_same rfl rfl)
    · cases hreact
  | stderr text bytes =>
    obtain ⟨-, hnext⟩ := Option.ite_none_right_eq_some.mp hreact
    cases hnext
    split
    · exact h.of_same rfl rfl rfl
    · exact h
  | killed =>
    obtain ⟨hstage, hnext⟩ := Option.ite_none_right_eq_some.mp hreact
    cases hnext
    exact (h.opened (by rw [hstage]; exact nofun)).finish closes_failure
  | exited code signal =>
    obtain ⟨hstage, hnext⟩ := Option.ite_none_right_eq_some.mp hreact
    cases hnext
    exact (h.opened (by rw [hstage]; exact nofun)).exited code signal
  | cancel =>
    cases hreact
    exact h.of_same rfl rfl rfl
  | next =>
    cases hreact
    exact h.next

lemma inv_run {cwd : Except String Bool} {happened : List Event}
    (hrun : runSteps launch.step happened (launch.start cwd) = some s) : Inv launch s :=
  runSteps_induction (fun _ _ _ h hstep => h.step hstep) (inv_start launch cwd) hrun

/-! ## What the consumer sees -/

/-- What the consumer may have seen: nothing, the beginning of a session, or all of it. -/
def SoFar (first : AgentEvent) (seen : List AgentEvent) : Prop :=
  seen = [] ∨ Begun first seen ∨ Whole first seen

variable {seen : List AgentEvent} {n : ℕ}

lemma Begun.soFar (h : Begun first events) (hseen : seen <+: events) : SoFar first seen := by
  obtain ⟨inner, hinner, rfl⟩ := h
  rcases List.prefix_cons_iff.mp hseen with rfl | ⟨taken, rfl, htaken⟩
  · exact .inl rfl
  · exact .inr (.inl ⟨taken, fun event hevent => hinner event (htaken.subset hevent), rfl⟩)

lemma Whole.soFar (h : Whole first events) (hseen : seen <+: events) : SoFar first seen := by
  obtain ⟨inner, terminal, hinner, hterminal, rfl⟩ := h
  rcases List.prefix_concat_iff.mp (show seen <+: (first :: inner) ++ [terminal] from hseen)
    with rfl | hshort
  · exact .inr (.inr ⟨inner, terminal, hinner, hterminal, rfl⟩)
  · exact Begun.soFar ⟨inner, hinner, rfl⟩ hshort

lemma Inv.soFar (h : Inv launch s) : SoFar launch.started s.seen := by
  have hseen : s.seen <+: s.transcript := List.prefix_append _ _
  cases h with
  | underWay _ h => exact h.begun.soFar hseen
  | ended _ h => exact h.whole.soFar hseen

/-! ## What a step does to the process -/

/-- A step that does nothing with the process. -/
structure Beside (s s' : Session) : Prop where
  spawned : s'.spawned = s.spawned
  handedOver : s'.handedOver = s.handedOver
  cancelled : s.cancelled = true → s'.cancelled = true
  locating : s'.stage = .locating → s.stage = .locating

def Notice.accepts : Notice → Bool
  | spawnAttempt viaStdin => !viaStdin
  | promptDelivered => true
  | spawnFailed => false

structure Spawns (s s' : Session) (notices : List Notice) : Prop where
  locating : s.stage = .locating
  notCancelled : s.cancelled = false
  onward : s'.stage ≠ .locating
  told : s'.handedOver = true → s.handedOver = true ∨ ∃ notice ∈ notices, notice.accepts

lemma Beside.refl : Beside s s := ⟨rfl, rfl, id, id⟩

lemma beside_finish : Beside s (s.finish events) := ⟨rfl, rfl, id, nofun⟩

lemma located_cases (launch : Launch) (exePath : Except String (Option String))
    (spawn : Except String Unit) (hstage : s.stage = .locating) :
    Beside s (launch.located exePath spawn s).1 ∨
      Spawns s (launch.located exePath spawn s).1 (launch.located exePath spawn s).2 := by
  unfold Launch.located
  split
  · exact .inl beside_finish
  · split
    · exact .inl beside_finish
    · split
      · exact .inl beside_finish
      · next hcancelled =>
        have hopen : s.cancelled = false := by simpa using hcancelled
        unfold Launch.spawn
        split
        · exact .inl beside_finish
        · split
          · exact .inl beside_finish
          · right
            unfold Launch.deliver
            split
            · split
              · exact ⟨hstage, hopen, nofun, .inl⟩
              · exact ⟨hstage, hopen, nofun, fun _ => .inr ⟨.promptDelivered, by simp, rfl⟩⟩
            · next hargv =>
              refine ⟨hstage, hopen, nofun, fun _ => .inr ⟨_, List.mem_cons_self, ?_⟩⟩
              simpa [Notice.accepts] using hargv

lemma beside_onLine {text : String} : Beside s (launch.onLine text s) := by
  unfold Launch.onLine
  split
  · exact .refl
  · split
    · exact ⟨rfl, rfl, id, nofun⟩
    · refine ⟨rfl, rfl, id, fun h => ?_⟩
      simp only at h
      split at h
      · exact h
      · cases h

lemma react_cases {event : Event} {notices : List Notice}
    (hreact : launch.react s event = some (s', notices)) :
    Beside s s' ∨ Spawns s s' notices := by
  cases event with
  | located exePath spawn =>
    obtain ⟨hstage, hnext⟩ := Option.ite_none_right_eq_some.mp hreact
    have hlocated : launch.located exePath spawn s = (s', notices) := Option.some.inj hnext
    have hcases := located_cases launch exePath spawn hstage
    rwa [hlocated] at hcases
  | line text =>
    obtain ⟨-, hnext⟩ := Option.ite_none_right_eq_some.mp hreact
    cases hnext
    exact .inl beside_onLine
  | endOfOutput =>
    obtain ⟨-, hnext⟩ := Option.ite_none_right_eq_some.mp hreact
    cases hnext
    exact .inl ⟨rfl, rfl, id, nofun⟩
  | readFailed message =>
    obtain ⟨-, hnext⟩ := Option.ite_none_right_eq_some.mp hreact
    cases hnext
    exact .inl ⟨rfl, rfl, id, nofun⟩
  | readerClosed error =>
    simp only [Launch.react] at hreact
    split at hreact
    · cases hreact
      exact .inl ⟨rfl, rfl, id, nofun⟩
    · cases hreact
      left
      cases error with
      | none => exact ⟨rfl, rfl, id, nofun⟩
      | some message => exact ⟨rfl, rfl, id, nofun⟩
    · cases hreact
  | stderr text bytes =>
    obtain ⟨-, hnext⟩ := Option.ite_none_right_eq_some.mp hreact
    cases hnext
    left
    split
    · exact ⟨rfl, rfl, id, id⟩
    · exact .refl
  | killed =>
    obtain ⟨-, hnext⟩ := Option.ite_none_right_eq_some.mp hreact
    cases hnext
    exact .inl beside_finish
  | exited code signal =>
    obtain ⟨-, hnext⟩ := Option.ite_none_right_eq_some.mp hreact
    cases hnext
    left
    unfold Launch.exited
    split
    · exact beside_finish
    · split <;> exact beside_finish
  | cancel =>
    cases hreact
    exact .inl ⟨rfl, rfl, fun _ => rfl, id⟩
  | next =>
    cases hreact
    exact .inl ⟨rfl, rfl, id, id⟩

lemma unspawned_step {event : Event} (h : s.cancelled = true ∧ s.spawned = false)
    (hstep : launch.step s event = some s') : s'.cancelled = true ∧ s'.spawned = false := by
  obtain ⟨⟨next, notices⟩, hreact, rfl⟩ := Option.map_eq_some_iff.mp hstep
  rcases react_cases hreact with hbeside | hspawns
  · exact ⟨hbeside.cancelled h.1, hbeside.spawned.trans h.2⟩
  · rw [hspawns.notCancelled] at h
    exact nomatch h.1

/-! ## The end of a session -/

/-- How far `run` is. -/
def Stage.rank : Stage → ℕ
  | locating => 0
  | reading => 1
  | closing _ => 2
  | killing => 3
  | exiting => 4
  | done => 5

lemma Stage.eq_done {stage : Stage} (h : 5 ≤ stage.rank) : stage = .done := by
  cases stage with
  | done => rfl
  | _ => simp [rank] at h

/-- `run` goes on. -/
def Onward (s s' : Session) : Prop := s'.stage = s.stage ∨ s.stage.rank < s'.stage.rank

lemma onward_finish (h : s.stage ≠ .done) : Onward s (s.finish events) := by
  right
  by_contra hrank
  exact h (Stage.eq_done (not_lt.mp hrank))

lemma onward_located (launch : Launch) (exePath : Except String (Option String))
    (spawn : Except String Unit) (hstage : s.stage = .locating) :
    Onward s (launch.located exePath spawn s).1 := by
  have hnot : s.stage ≠ .done := by rw [hstage]; exact nofun
  have hreading : s.stage.rank < Stage.reading.rank := by rw [hstage]; exact Nat.zero_lt_one
  unfold Launch.located
  split
  · exact onward_finish hnot
  · split
    · exact onward_finish hnot
    · split
      · exact onward_finish hnot
      · unfold Launch.spawn
        split
        · exact onward_finish hnot
        · split
          · exact onward_finish hnot
          · unfold Launch.deliver
            split
            · split
              · exact onward_finish (s := { s with spawned := true }) hnot
              · exact .inr hreading
            · exact .inr hreading

lemma onward_step {event : Event} (hstep : launch.step s event = some s') : Onward s s' := by
  obtain ⟨⟨next, notices⟩, hreact, rfl⟩ := Option.map_eq_some_iff.mp hstep
  cases event with
  | located exePath spawn =>
    obtain ⟨hstage, hnext⟩ := Option.ite_none_right_eq_some.mp hreact
    have hlocated : (launch.located exePath spawn s).1 = next :=
      congrArg Prod.fst (Option.some.inj hnext)
    exact hlocated ▸ onward_located launch exePath spawn hstage
  | line text =>
    obtain ⟨hstage, hnext⟩ := Option.ite_none_right_eq_some.mp hreact
    cases hnext
    have hclosing : ∀ error, s.stage.rank < (Stage.closing error).rank := by
      intro error
      rw [hstage]
      exact Nat.lt_succ_self 1
    unfold Launch.onLine
    split
    · exact .inl rfl
    · split
      · exact .inr (hclosing _)
      · show (if _ then s.stage else _) = s.stage ∨ s.stage.rank < (if _ then s.stage else _).rank
        split
        · exact .inl rfl
        · exact .inr (hclosing none)
  | endOfOutput =>
    obtain ⟨hstage, hnext⟩ := Option.ite_none_right_eq_some.mp hreact
    cases hnext
    exact .inr (by rw [hstage]; simp [Stage.rank])
  | readFailed message =>
    obtain ⟨hstage, hnext⟩ := Option.ite_none_right_eq_some.mp hreact
    cases hnext
    exact .inr (by rw [hstage]; simp [Stage.rank])
  | readerClosed error =>
    simp only [Launch.react] at hreact
    split at hreact
    · next message hstage =>
      cases hreact
      exact .inr (by rw [hstage]; simp [Stage.rank])
    · next hstage =>
      cases hreact
      exact .inr (by rw [hstage]; simp [Stage.rank])
    · cases hreact
  | stderr text bytes =>
    obtain ⟨-, hnext⟩ := Option.ite_none_right_eq_some.mp hreact
    cases hnext
    left
    split <;> rfl
  | killed =>
    obtain ⟨hstage, hnext⟩ := Option.ite_none_right_eq_some.mp hreact
    cases hnext
    exact onward_finish (by rw [hstage]; exact nofun)
  | exited code signal =>
    obtain ⟨hstage, hnext⟩ := Option.ite_none_right_eq_some.mp hreact
    cases hnext
    have hnot : s.stage ≠ .done := by rw [hstage]; exact nofun
    unfold Launch.exited
    split
    · exact onward_finish hnot
    · split <;> exact onward_finish hnot
  | cancel =>
    cases hreact
    exact .inl rfl
  | next =>
    cases hreact
    exact .inl rfl

/-- After the end of `run` the consumer goes on to see what was pushed, and nothing else. -/
lemma transcript_of_done {event : Event} (hdone : s.stage = .done)
    (hstep : launch.step s event = some s') :
    s'.transcript = s.transcript ∧ s'.stage = .done ∧ s.seen <+: s'.seen := by
  obtain ⟨⟨next, notices⟩, hreact, rfl⟩ := Option.map_eq_some_iff.mp hstep
  cases event with
  | stderr text bytes =>
    obtain ⟨-, hnext⟩ := Option.ite_none_right_eq_some.mp hreact
    cases hnext
    split
    · exact ⟨rfl, hdone, List.prefix_rfl⟩
    · exact ⟨rfl, hdone, List.prefix_rfl⟩
  | cancel =>
    cases hreact
    exact ⟨rfl, hdone, List.prefix_rfl⟩
  | next =>
    cases hreact
    exact ⟨transcript_next s, hdone, List.prefix_append _ _⟩
  | _ => simp [Launch.react, hdone] at hreact

/-- Whatever the session waits for happens, and the consumer takes what there is for it. -/
structure Fair (states : ℕ → Session) : Prop where
  answered : ∀ n, (states n).stage ≠ .done → ∃ m, n < m ∧ (states m).stage ≠ (states n).stage
  reads : ∀ n, (states n).channel.items ≠ [] →
    ∃ m, n < m ∧ (states n).seen.length < (states m).seen.length

variable {states : ℕ → Session}

lemma onward_of_le (hexec : Execution launch.step states) {m : ℕ} (h : n ≤ m) :
    Onward (states n) (states m) := by
  induction h with
  | refl => exact .inl rfl
  | @step m _ ih =>
    rcases hexec m with heq | ⟨event, hstep⟩
    · rw [heq]
      exact ih
    · rcases ih, onward_step hstep with ⟨hsame | hless, hnext | hnext⟩
      · exact .inl (hnext.trans hsame)
      · exact .inr (hsame ▸ hnext)
      · exact .inr (hnext ▸ hless)
      · exact .inr (Nat.lt_trans hless hnext)

lemma exists_done (hexec : Execution launch.step states) (hfair : Fair states) :
    ∃ n, (states n).stage = .done := by
  have hrank : ∀ rank, ∃ n, rank ≤ (states n).stage.rank ∨ (states n).stage = .done := by
    intro rank
    induction rank with
    | zero => exact ⟨0, .inl (Nat.zero_le _)⟩
    | succ rank ih =>
      obtain ⟨n, hn | hdone⟩ := ih
      · by_cases hdone : (states n).stage = .done
        · exact ⟨n, .inr hdone⟩
        · obtain ⟨m, hm, hchanged⟩ := hfair.answered n hdone
          rcases onward_of_le hexec (Nat.le_of_lt hm) with hsame | hless
          · exact absurd hsame hchanged
          · exact ⟨m, .inl (Nat.succ_le_of_lt (Nat.lt_of_le_of_lt hn hless))⟩
      · exact ⟨n, .inr hdone⟩
  obtain ⟨n, hn | hdone⟩ := hrank 5
  · exact ⟨n, Stage.eq_done hn⟩
  · exact ⟨n, hdone⟩

/-- `run` is over, and these are all the events of the session. -/
structure Final (events : List AgentEvent) (s : Session) : Prop where
  done : s.stage = .done
  transcript : s.transcript = events

lemma Final.step {event : Event} (h : Final events s) (hstep : launch.step s event = some s') :
    Final events s' := by
  obtain ⟨htranscript, hdone, -⟩ := transcript_of_done h.done hstep
  exact ⟨hdone, htranscript.trans h.transcript⟩

lemma Final.seen_step {event : Event} (h : Final events s) (hseen : s.seen = events)
    (hstep : launch.step s event = some s') : s'.seen = events := by
  obtain ⟨htranscript, -, hmore⟩ := transcript_of_done h.done hstep
  have hall : s'.seen <+: s'.transcript := List.prefix_append _ _
  rw [htranscript, h.transcript] at hall
  exact hall.eq_of_length_le (hseen ▸ hmore.length_le)

lemma exists_all_seen (hexec : Execution launch.step states) (hfair : Fair states)
    (hdone : (states n).stage = .done) : ∃ m, n ≤ m ∧ (states m).seen = (states n).transcript := by
  have hlater : ∀ m, n ≤ m → Final (states n).transcript (states m) := fun m hm =>
    hexec.induction (fun _ _ _ h hstep => h.step hstep) ⟨hdone, rfl⟩ hm
  -- The consumer sees more and more of a transcript that does not change.
  have hcount : ∀ count, ∃ m, n ≤ m ∧
      (count ≤ (states m).seen.length ∨ (states m).channel.items = []) := by
    intro count
    induction count with
    | zero => exact ⟨n, Nat.le_refl n, .inl (Nat.zero_le _)⟩
    | succ count ih =>
      obtain ⟨m, hm, hseen | hempty⟩ := ih
      · by_cases hempty : (states m).channel.items = []
        · exact ⟨m, hm, .inr hempty⟩
        · obtain ⟨k, hk, hmore⟩ := hfair.reads m hempty
          exact ⟨k, Nat.le_trans hm (Nat.le_of_lt hk), .inl (by omega)⟩
      · exact ⟨m, hm, .inr hempty⟩
  obtain ⟨m, hm, hseen⟩ := hcount ((states n).transcript.length)
  have htranscript : (states m).seen ++ (states m).channel.items = (states n).transcript :=
    (hlater m hm).transcript
  refine ⟨m, hm, ?_⟩
  have hitems : (states m).channel.items = [] := by
    rcases hseen with hlong | hempty
    · have hlength := congrArg List.length htranscript
      rw [List.length_append] at hlength
      exact List.eq_nil_of_length_eq_zero (by omega)
    · exact hempty
  rw [← htranscript, hitems, List.append_nil]

/-! ## The protocol -/

/-- At every moment the consumer has seen the beginning of a session, or a whole one.  When `run` is
over, the channel is closed and holds the rest of a whole session, which a consumer that goes on to
read comes to see; and a cancellation that comes first keeps the process from being spawned. -/
theorem session_protocol (launch : Launch) (cwd : Except String Bool) :
    (∀ happened s, runSteps launch.step happened (launch.start cwd) = some s →
      SoFar launch.started s.seen ∧
        (s.stage = .done → s.channel.closed = true ∧ Whole launch.started s.transcript)) ∧
    (∀ states : ℕ → Session, states 0 = launch.start cwd → Execution launch.step states →
      Fair states →
        ∃ n, Whole launch.started (states n).seen ∧ ∀ m, n ≤ m → (states m).seen = (states n).seen) ∧
    (∀ happened s, runSteps launch.step happened (launch.start cwd) = some s → s.spawned = false →
      ∀ later s', runSteps launch.step (.cancel :: later) s = some s' → s'.spawned = false) := by
  refine ⟨fun happened s hrun => ?_, fun states hzero hexec hfair => ?_,
    fun happened s _ hspawned later s' hrun => ?_⟩
  · have hinv := inv_run hrun
    exact ⟨hinv.soFar, fun hdone => ⟨(hinv.closed hdone).closed, (hinv.closed hdone).whole⟩⟩
  · obtain ⟨n, hdone⟩ := exists_done hexec hfair
    have hinv : Inv launch (states n) :=
      hexec.induction (fun _ _ _ h hstep => h.step hstep) (hzero ▸ inv_start launch cwd)
        (Nat.zero_le n)
    obtain ⟨m, hm, hseen⟩ := exists_all_seen hexec hfair hdone
    have hfinal : Final (states n).transcript (states m) :=
      hexec.induction (fun _ _ _ h hstep => h.step hstep) ⟨hdone, rfl⟩ hm
    refine ⟨m, hseen ▸ (hinv.closed hdone).whole, fun k hk => ?_⟩
    have hlater := hexec.induction (P := fun s => Final (states n).transcript s ∧
        s.seen = (states n).transcript)
      (fun _ _ _ h hstep => ⟨h.1.step hstep, h.1.seen_step h.2 hstep⟩) ⟨hfinal, hseen⟩ hk
    rw [hlater.2, hseen]
  · obtain ⟨next, hcancel, hrest⟩ := Option.bind_eq_some_iff.mp hrun
    cases hcancel
    exact (runSteps_induction (P := fun s => s.cancelled = true ∧ s.spawned = false)
      (fun _ _ _ h hstep => unspawned_step h hstep) ⟨rfl, hspawned⟩ hrest).2

def sampleLaunch : Launch where
  config := codexConfig (fun _ => "0") (fun _ => .ok [])
  options := { sessionId := "s", cwd := "d", prompt := "p" }
  parse text :=
    if text = "m" then
      some (.obj [("type", .str "item.completed"),
        ("item", .obj [("type", .str "agent_message"), ("text", .str "hi")])])
    else none

def sampleEvents : List Event :=
  [.located (.ok (some "codex")) (.ok ()), .next, .line "m", .line "x", .next, .endOfOutput,
    .exited (some 0) none, .next]

def sampleEnd : Session :=
  (runSteps sampleLaunch.step sampleEvents (sampleLaunch.start (.ok true))).getD {}

lemma run_sample :
    runSteps sampleLaunch.step sampleEvents (sampleLaunch.start (.ok true)) = some sampleEnd :=
  (Option.getD_of_ne_none (by decide) _).symm

lemma fair_sample :
    Fair (thenStay sampleLaunch.step sampleEvents (sampleLaunch.start (.ok true))) := by
  have hend : ∀ n, 8 ≤ n →
      thenStay sampleLaunch.step sampleEvents (sampleLaunch.start (.ok true)) n = sampleEnd :=
    fun n hn => thenStay_of_le run_sample hn
  constructor
  · intro n hn
    by_cases hlate : 8 ≤ n
    · rw [hend n hlate] at hn
      exact absurd (by decide) hn
    · refine ⟨8, by omega, ?_⟩
      rw [hend 8 (Nat.le_refl 8)]
      exact fun h => hn (h ▸ by decide)
  · intro n hn
    by_cases hlate : 8 ≤ n
    · rw [hend n hlate] at hn
      exact absurd (List.eq_nil_of_length_eq_zero (by decide)) hn
    · refine ⟨8, by omega, ?_⟩
      rw [hend 8 (Nat.le_refl 8)]
      have hshort : ∀ n < 8, (thenStay sampleLaunch.step sampleEvents
          (sampleLaunch.start (.ok true)) n).seen.length < sampleEnd.seen.length := by
        decide
      exact hshort n (by omega)

theorem session_protocol_sample :
    Whole sampleLaunch.started sampleEnd.transcript ∧
    (∃ n, Whole sampleLaunch.started
      (thenStay sampleLaunch.step sampleEvents (sampleLaunch.start (.ok true)) n).seen) ∧
    (∀ s, runSteps sampleLaunch.step [.cancel, .located (.ok (some "codex")) (.ok ())]
      (sampleLaunch.start (.ok true)) = some s → s.spawned = false) := by
  obtain ⟨hrun, hlive, hcancel⟩ := session_protocol sampleLaunch (.ok true)
  refine ⟨((hrun sampleEvents sampleEnd run_sample).2 (by decide)).2, ?_,
    hcancel [] (sampleLaunch.start (.ok true)) rfl rfl _⟩
  obtain ⟨n, hwhole, -⟩ := hlive _ rfl (execution_thenStay run_sample) fair_sample
  exact ⟨n, hwhole⟩

end VacancyRadar.Provider
