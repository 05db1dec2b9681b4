import VacancyRadar.Provider.Protocol

/-!
# Supervised sessions

`superviseProviderSession` passes the events of a session on and tells at the end whether the prompt
may have reached the provider.  It reads the session only when its own consumer asks for an event;
it cancels the session if the consumer leaves before the end.  The session goes on beside it, also
after the outcome is settled.
-/

namespace VacancyRadar.Provider

open Data

/-! ## The latch -/

inductive AcceptedWorkState where
  | notAccepted
  | unknown
  | accepted

def AcceptedWorkState.rank : AcceptedWorkState → ℕ
  | notAccepted => 0
  | unknown => 1
  | accepted => 2

def AcceptedWorkState.observe (current next : AcceptedWorkState) : AcceptedWorkState :=
  if current.rank < next.rank then next else current

/-- `ProviderDeliveryState`, as far as the supervisor uses it. -/
inductive DeliveryState where
  | notDelivered
  | delivered
deriving DecidableEq

/-! ## The supervisor -/

inductive SupervisedTerminal where
  | completed
  | failed
  | cancelled

def terminalByEvent : AgentEvent → Option SupervisedTerminal
  | .sessionCompleted _ => some .completed
  | .sessionFailed _ => some .failed
  | .sessionCancelled => some .cancelled
  | _ => none

/-- `SupervisedOutcome`, without the frames that were not understood. -/
structure SupervisedOutcome where
  terminal : SupervisedTerminal
  acceptedWork : AcceptedWorkState
  delivery : DeliveryState
  providerSessionId : Option String
  failureReasonCode : Option String
  reaped : Bool

inductive Phase where
  /-- Nobody has asked for an event. -/
  | fresh
  /-- It waits for the next event of the session. -/
  | waiting
  /-- It has given an event to its consumer. -/
  | yielded
  /-- The consumer has left; it waits for the iterator of the session to be closed. -/
  | returning
  /-- It waits for `performCancel`. -/
  | cancelling
  | finished
deriving DecidableEq

structure Supervised where
  session : Session
  latch : AcceptedWorkState := .notAccepted
  delivery : DeliveryState := .notDelivered
  reaped : Bool := true
  phase : Phase := .fresh
  terminal : Option SupervisedTerminal := none
  providerSessionId : Option String := none
  failureReasonCode : Option String := none
  settled : Option SupervisedOutcome := none
  /-- What its consumer has got. -/
  given : List AgentEvent := []

inductive Move where
  /-- Something happens to the session itself. -/
  | session (event : Event)
  /-- The consumer asks for the next event. -/
  | pull
  /-- The session answers, or tells that there is nothing yet. -/
  | answer
  /-- The consumer leaves, or it throws. -/
  | abandon
  | returned
  /-- `cancel` of the handle. -/
  | cancel
  /-- A `performCancel` of the handle ends, with or without a confirmation. -/
  | cancelEnded (confirmed : Bool)
  /-- The `performCancel` that the generator waits for ends. -/
  | reaped (confirmed : Bool)

namespace Supervised

/-- The launch probe. -/
def notify (s : Supervised) : Notice → Supervised
  | .spawnAttempt viaStdin =>
    if viaStdin then s else { s with delivery := .delivered, latch := s.latch.observe .accepted }
  | .promptDelivered => { s with delivery := .delivered, latch := s.latch.observe .accepted }
  | .spawnFailed => if s.delivery ≠ .delivered then { s with delivery := .notDelivered } else s

def finish (s : Supervised) (terminal : SupervisedTerminal) : Supervised :=
  { s with
    phase := .finished
    settled := s.settled.or (some
      { terminal
        acceptedWork := s.latch
        delivery := s.delivery
        providerSessionId := s.providerSessionId
        failureReasonCode := s.failureReasonCode
        reaped := s.reaped }) }

/-- The `finally` of the generator, up to its await. -/
def leave (s : Supervised) : Supervised :=
  match s.terminal with
  | some terminal => s.finish terminal
  | none =>
    { s with
      phase := .cancelling
      failureReasonCode := s.failureReasonCode.or (some "SUPERVISED_STREAM_ABANDONED")
      session := { s.session with cancelled := true } }

def passOn (s : Supervised) (event : AgentEvent) : Supervised :=
  { s with
    phase := .yielded
    given := s.given ++ [event]
    terminal := (terminalByEvent event).or s.terminal
    providerSessionId :=
      match event with
      | .sessionCompleted id => (id.filter (· ≠ "")).or s.providerSessionId
      | _ => s.providerSessionId
    failureReasonCode :=
      match event with
      | .error code _ _ => s.failureReasonCode.or (some (code.getD "PROVIDER_ERROR"))
      | _ => s.failureReasonCode }

end Supervised

namespace Launch

def observe (launch : Launch) (s : Supervised) (event : Event) : Option Supervised :=
  (launch.react s.session event).map fun next =>
    next.2.foldl Supervised.notify { s with session := next.1 }

def answer (launch : Launch) (s : Supervised) : Option Supervised :=
  (launch.observe s .next).map fun next =>
    match s.session.channel.next.2 with
    | some event => next.passOn event
    | none => if s.session.channel.closed then next.leave else next

def superviseStep (launch : Launch) (s : Supervised) : Move → Option Supervised
  | .session .next | .session .cancel => none
  | .session event => launch.observe s event
  | .pull =>
    if s.phase = .fresh ∨ s.phase = .yielded then some { s with phase := .waiting } else none
  | .answer => if s.phase = .waiting then launch.answer s else none
  | .abandon =>
    if s.phase = .yielded then some { s with phase := .returning }
    else if s.phase = .fresh then
      -- A generator that never ran does not come to its `finally`.
      some { s with phase := .finished }
    else none
  | .returned => if s.phase = .returning then some s.leave else none
  | .cancel => some { s with session := { s.session with cancelled := true } }
  | .cancelEnded confirmed => some { s with reaped := s.reaped && confirmed }
  | .reaped confirmed =>
    if s.phase = .cancelling then some ({ s with reaped := s.reaped && confirmed }.finish .failed)
    else none

def supervise (launch : Launch) (cwd : Except String Bool) : Supervised :=
  { session := launch.start cwd }

end Launch

/-! ## The latch says accepted when the prompt was handed over -/

lemma observe_accepted (state : AcceptedWorkState) : state.observe .accepted = .accepted := by
  cases state <;> rfl

lemma accepted_observe (state : AcceptedWorkState) :
    AcceptedWorkState.observe .accepted state = .accepted := by
  cases state <;> rfl

variable {launch : Launch} {s s' : Supervised} {notices : List Notice}

/-- What the probe leaves alone. -/
structure Watched (s s' : Supervised) : Prop where
  session : s'.session = s.session
  phase : s'.phase = s.phase
  terminal : s'.terminal = s.terminal
  settled : s'.settled = s.settled
  given : s'.given = s.given
  latch : s.latch = .accepted → s'.latch = .accepted

lemma Watched.refl : Watched s s := ⟨rfl, rfl, rfl, rfl, rfl, id⟩

lemma Watched.trans {s'' : Supervised} (h : Watched s s') (h' : Watched s' s'') : Watched s s'' where
  session := h'.session.trans h.session
  phase := h'.phase.trans h.phase
  terminal := h'.terminal.trans h.terminal
  settled := h'.settled.trans h.settled
  given := h'.given.trans h.given
  latch haccepted := h'.latch (h.latch haccepted)

lemma watched_notify (s : Supervised) (notice : Notice) : Watched s (s.notify notice) := by
  cases notice with
  | spawnAttempt viaStdin =>
    cases viaStdin with
    | true => exact .refl
    | false => exact ⟨rfl, rfl, rfl, rfl, rfl, fun h => h ▸ accepted_observe _⟩
  | promptDelivered => exact ⟨rfl, rfl, rfl, rfl, rfl, fun h => h ▸ accepted_observe _⟩
  | spawnFailed =>
    show Watched s (if _ then _ else _)
    split
    · exact ⟨rfl, rfl, rfl, rfl, rfl, id⟩
    · exact .refl

lemma watched_foldl (s : Supervised) (notices : List Notice) :
    Watched s (notices.foldl Supervised.notify s) := by
  induction notices generalizing s with
  | nil => exact .refl
  | cons notice rest ih => exact (watched_notify s notice).trans (ih _)

lemma latch_notify (s : Supervised) {notice : Notice} (h : notice.accepts) :
    (s.notify notice).latch = .accepted := by
  cases notice with
  | spawnAttempt viaStdin =>
    cases viaStdin with
    | true => cases h
    | false => exact observe_accepted _
  | promptDelivered => exact observe_accepted _
  | spawnFailed => cases h

lemma latch_foldl (s : Supervised) (h : ∃ notice ∈ notices, notice.accepts) :
    (notices.foldl Supervised.notify s).latch = .accepted := by
  induction notices generalizing s with
  | nil =>
    obtain ⟨notice, hmem, -⟩ := h
    cases hmem
  | cons notice rest ih =>
    obtain ⟨found, hmem, haccepts⟩ := h
    rcases List.mem_cons.mp hmem with rfl | hrest
    · exact (watched_foldl _ rest).latch (latch_notify s haccepts)
    · exact ih _ ⟨found, hrest, haccepts⟩

/-! ## The invariant -/

structure Spared (session : Session) : Prop where
  notHanded : session.handedOver = false
  never : session.stage = .locating → session.cancelled = true

structure Supervised.Inv (launch : Launch) (s : Supervised) : Prop where
  session : Provider.Inv launch s.session
  latch : s.session.handedOver = true → s.latch = .accepted
  given : s.given = s.session.seen
  terminal : s.terminal ≠ none → ∃ event ∈ s.given, event.isTerminal
  cancelling : s.phase = .cancelling → s.session.cancelled = true
  settled : ∀ outcome, s.settled = some outcome →
    outcome.acceptedWork = .accepted ∨ Spared s.session

variable {session session' : Session} {event : Event} {outcome : SupervisedOutcome}

lemma stage_of_terminal (h : Provider.Inv launch session)
    (hseen : ∃ event ∈ session.seen, event.isTerminal) : session.stage = .done := by
  cases h with
  | ended hstage => exact hstage
  | underWay _ h =>
    obtain ⟨inner, hinner, hall⟩ := h.begun
    obtain ⟨event, hmem, hterminal⟩ := hseen
    have hevent : event ∈ session.transcript := List.mem_append_left _ hmem
    rw [hall] at hevent
    rcases List.mem_cons.mp hevent with rfl | hrest
    · cases hterminal
    · have := hinner event hrest
      simp [AgentEvent.isInner, hterminal] at this

lemma Spared.of_react (hreact : launch.react session event = some (session', notices))
    (h : Spared session) : Spared session' := by
  rcases react_cases hreact with hbeside | hspawns
  · exact ⟨hbeside.handedOver.trans h.notHanded,
      fun hstage => hbeside.cancelled (h.never (hbeside.locating hstage))⟩
  · have hcancelled := h.never hspawns.locating
    rw [hspawns.notCancelled] at hcancelled
    cases hcancelled

structure Observed (launch : Launch) (s s' : Supervised) : Prop where
  session : Provider.Inv launch s'.session
  latch : s'.session.handedOver = true → s'.latch = .accepted
  spared : Spared s.session → Spared s'.session
  cancelled : s.session.cancelled = true → s'.session.cancelled = true
  phase : s'.phase = s.phase
  terminal : s'.terminal = s.terminal
  settled : s'.settled = s.settled
  given : s'.given = s.given

lemma Supervised.Inv.observed (h : s.Inv launch) (hstep : launch.observe s event = some s') :
    Observed launch s s' := by
  obtain ⟨⟨session, notices⟩, hreact, rfl⟩ := Option.map_eq_some_iff.mp hstep
  have hwatched := watched_foldl { s with session } notices
  have hsession : (notices.foldl Supervised.notify { s with session }).session = session :=
    hwatched.session
  have hnext : launch.step s.session event = some session := by rw [Launch.step, hreact]; rfl
  have hinv : Provider.Inv launch session := h.session.step hnext
  refine ⟨?_, fun hhanded => ?_, fun hspared => ?_, fun hcancelled => ?_,
    hwatched.phase, hwatched.terminal, hwatched.settled, hwatched.given⟩
  · rw [hsession]
    exact hinv
  · rw [hsession] at hhanded
    rcases react_cases hreact with hbeside | hspawns
    · exact hwatched.latch (h.latch (hbeside.handedOver ▸ hhanded))
    · rcases hspawns.told hhanded with hbefore | htold
      · exact hwatched.latch (h.latch hbefore)
      · exact latch_foldl _ htold
  · rw [hsession]
    exact hspared.of_react hreact
  · rw [hsession]
    rcases react_cases hreact with hbeside | hspawns
    · exact hbeside.cancelled hcancelled
    · rw [hspawns.notCancelled] at hcancelled
      cases hcancelled

lemma seen_react (hevent : event ≠ .next)
    (hreact : launch.react session event = some (session', notices)) :
    session'.seen = session.seen := by
  cases event with
  | next => exact absurd rfl hevent
  | located exePath spawn =>
    obtain ⟨-, hnext⟩ := Option.ite_none_right_eq_some.mp hreact
    rw [← (Prod.mk.inj (Option.some.inj hnext)).1]
    show (launch.located exePath spawn session).1.seen = session.seen
    unfold Launch.located Launch.spawn Launch.deliver
    repeat' split
    all_goals rfl
  | line text =>
    obtain ⟨-, hnext⟩ := Option.ite_none_right_eq_some.mp hreact
    cases hnext
    unfold Launch.onLine
    repeat' split
    all_goals rfl
  | endOfOutput =>
    obtain ⟨-, hnext⟩ := Option.ite_none_right_eq_some.mp hreact
    cases hnext
    rfl
  | readFailed message =>
    obtain ⟨-, hnext⟩ := Option.ite_none_right_eq_some.mp hreact
    cases hnext
    rfl
  | readerClosed error =>
    simp only [Launch.react] at hreact
    split at hreact
    · cases hreact
      rfl
    · cases hreact
      cases error <;> rfl
    · cases hreact
  | stderr text bytes =>
    obtain ⟨-, hnext⟩ := Option.ite_none_right_eq_some.mp hreact
    cases hnext
    split <;> rfl
  | killed =>
    obtain ⟨-, hnext⟩ := Option.ite_none_right_eq_some.mp hreact
    cases hnext
    rfl
  | exited code signal =>
    obtain ⟨-, hnext⟩ := Option.ite_none_right_eq_some.mp hreact
    cases hnext
    unfold Launch.exited
    repeat' split
    all_goals rfl
  | cancel =>
    cases hreact
    rfl

namespace Supervised

variable {event : Event}

lemma Inv.observe (h : s.Inv launch) (hevent : event ≠ .next)
    (hstep : launch.observe s event = some s') : s'.Inv launch := by
  have hobserved := h.observed hstep
  have hseen : s'.session.seen = s.session.seen := by
    obtain ⟨⟨session, notices⟩, hreact, rfl⟩ := Option.map_eq_some_iff.mp hstep
    rw [(watched_foldl _ notices).session]
    exact seen_react hevent hreact
  exact
    { session := hobserved.session
      latch := hobserved.latch
      given := hobserved.given.trans (h.given.trans hseen.symm)
      terminal := by
        rw [hobserved.terminal, hobserved.given]
        exact h.terminal
      cancelling := fun hphase =>
        hobserved.cancelled (h.cancelling (hobserved.phase.symm.trans hphase))
      settled := fun outcome houtcome =>
        (h.settled outcome (hobserved.settled ▸ houtcome)).imp id hobserved.spared }

lemma Inv.finish (h : s.Inv launch) (hsafe : s.session.handedOver = false → Spared s.session)
    (terminal : SupervisedTerminal) : (s.finish terminal).Inv launch :=
  { h with
    cancelling := nofun
    settled := fun outcome houtcome => by
      rcases Option.or_eq_some_iff.mp houtcome with hold | ⟨-, hnew⟩
      · exact h.settled outcome hold
      · cases hnew
        cases hhanded : s.session.handedOver with
        | true => exact .inl (h.latch hhanded)
        | false => exact .inr (hsafe hhanded) }

lemma Inv.cancel (h : s.Inv launch) :
    Inv launch { s with session := { s.session with cancelled := true } } :=
  { h with
    session := h.session.of_same rfl rfl rfl
    cancelling := fun _ => rfl
    settled := fun outcome houtcome =>
      (h.settled outcome houtcome).imp id fun hspared => ⟨hspared.notHanded, fun _ => rfl⟩ }

lemma Inv.leave (h : s.Inv launch) : s.leave.Inv launch := by
  unfold Supervised.leave
  split
  · next terminal hterminal =>
    obtain ⟨event, hmem, hevent⟩ := h.terminal (by rw [hterminal]; exact nofun)
    have hdone := stage_of_terminal h.session ⟨event, h.given ▸ hmem, hevent⟩
    exact h.finish (fun hhanded => ⟨hhanded, fun hstage => by rw [hdone] at hstage; cases hstage⟩) _
  · exact { h.cancel with cancelling := fun _ => rfl, terminal := h.terminal }

lemma Inv.passOn (h : s.Inv launch) {event : AgentEvent}
    (hobserved : Observed launch s s') (hseen : s'.session.seen = s.session.seen ++ [event]) :
    (s'.passOn event).Inv launch where
  session := hobserved.session
  latch := hobserved.latch
  given := by
    show s'.given ++ [event] = s'.session.seen
    rw [hobserved.given, h.given, hseen]
  terminal hterminal := by
    by_cases hevent : event.isTerminal
    · exact ⟨event, List.mem_append_right _ (List.mem_singleton.mpr rfl), hevent⟩
    · have hnone : terminalByEvent event = none := by
        cases event <;> first | rfl | exact absurd rfl hevent
      have hbefore : s.terminal ≠ none := by
        rw [← hobserved.terminal]
        simpa [Supervised.passOn, hnone] using hterminal
      obtain ⟨before, hmem, hbefore⟩ := h.terminal hbefore
      refine ⟨before, List.mem_append_left _ ?_, hbefore⟩
      rw [hobserved.given]
      exact hmem
  cancelling := nofun
  settled outcome houtcome :=
    (h.settled outcome (hobserved.settled ▸ houtcome)).imp id hobserved.spared

lemma Inv.answer (h : s.Inv launch) (hphase : s.phase = .waiting)
    (hstep : launch.answer s = some s') : s'.Inv launch := by
  obtain ⟨next, hnext, rfl⟩ := Option.map_eq_some_iff.mp hstep
  have hobserved := h.observed hnext
  have hseen : next.session.seen = s.session.seen ++ s.session.channel.next.2.toList := by
    obtain ⟨_, hreact, rfl⟩ := Option.map_eq_some_iff.mp hnext
    cases hreact
    rfl
  cases hvalue : s.session.channel.next.2 with
  | some event =>
    rw [hvalue] at hseen
    exact h.passOn hobserved hseen
  | none =>
    rw [hvalue] at hseen
    have hinv : next.Inv launch :=
      { session := hobserved.session
        latch := hobserved.latch
        given := by rw [hobserved.given, h.given, hseen]; exact (List.append_nil _).symm
        terminal := by
          rw [hobserved.terminal, hobserved.given]
          exact h.terminal
        cancelling := fun hcancelling => by
          rw [hobserved.phase, hphase] at hcancelling
          cases hcancelling
        settled := fun outcome houtcome =>
          (h.settled outcome (hobserved.settled ▸ houtcome)).imp id hobserved.spared }
    show (if _ then next.leave else next).Inv launch
    split
    · exact hinv.leave
    · exact hinv

end Supervised

lemma observe_of_session (h : launch.superviseStep s (.session event) = some s') :
    event ≠ .next ∧ launch.observe s event = some s' := by
  cases event with
  | next => cases h
  | cancel => cases h
  | _ => exact ⟨nofun, h⟩

lemma Supervised.Inv.step {move : Move} (h : s.Inv launch)
    (hstep : launch.superviseStep s move = some s') : s'.Inv launch := by
  cases move with
  | session event =>
    obtain ⟨hevent, hobserve⟩ := observe_of_session hstep
    exact h.observe hevent hobserve
  | pull =>
    obtain ⟨-, hnext⟩ := Option.ite_none_right_eq_some.mp hstep
    cases hnext
    exact { h with cancelling := nofun }
  | answer =>
    obtain ⟨hphase, hnext⟩ := Option.ite_none_right_eq_some.mp hstep
    exact h.answer hphase hnext
  | abandon =>
    simp only [Launch.superviseStep] at hstep
    split at hstep
    · cases hstep
      exact { h with cancelling := nofun }
    · split at hstep
      · cases hstep
        exact { h with cancelling := nofun }
      · cases hstep
  | returned =>
    obtain ⟨-, hnext⟩ := Option.ite_none_right_eq_some.mp hstep
    cases hnext
    exact h.leave
  | cancel =>
    cases hstep
    exact h.cancel
  | cancelEnded confirmed =>
    cases hstep
    exact { h with }
  | reaped confirmed =>
    obtain ⟨hphase, hnext⟩ := Option.ite_none_right_eq_some.mp hstep
    cases hnext
    have hinv : Inv launch { s with reaped := s.reaped && confirmed } := { h with }
    exact hinv.finish (fun hhanded => ⟨hhanded, fun _ => h.cancelling hphase⟩) .failed

lemma inv_supervise (launch : Launch) (cwd : Except String Bool) :
    (launch.supervise cwd).Inv launch where
  session := inv_start launch cwd
  latch hhanded := by
    rcases cwd with _ | _ | _ <;> cases hhanded
  given := by
    rcases cwd with _ | _ | _ <;> rfl
  terminal hterminal := absurd rfl hterminal
  cancelling := nofun
  settled := nofun

/-! ## The outcome -/

lemma settled_observe (hstep : launch.observe s event = some s') : s'.settled = s.settled := by
  obtain ⟨⟨session, notices⟩, -, rfl⟩ := Option.map_eq_some_iff.mp hstep
  exact (watched_foldl { s with session } notices).settled

lemma settled_finish (h : s.settled = some outcome) (terminal : SupervisedTerminal) :
    (s.finish terminal).settled = some outcome := by
  show s.settled.or _ = some outcome
  rw [h]
  rfl

lemma settled_leave (h : s.settled = some outcome) : s.leave.settled = some outcome := by
  unfold Supervised.leave
  split
  · exact settled_finish h _
  · exact h

lemma settled_step {move : Move} (h : s.settled = some outcome)
    (hstep : launch.superviseStep s move = some s') : s'.settled = some outcome := by
  cases move with
  | session event => exact (settled_observe (observe_of_session hstep).2).trans h
  | answer =>
    obtain ⟨-, hanswer⟩ := Option.ite_none_right_eq_some.mp hstep
    obtain ⟨next, hnext, rfl⟩ := Option.map_eq_some_iff.mp hanswer
    have hsettled := (settled_observe hnext).trans h
    split
    · exact hsettled
    · split
      · exact settled_leave hsettled
      · exact hsettled
  | abandon =>
    simp only [Launch.superviseStep] at hstep
    split at hstep
    · cases hstep
      exact h
    · split at hstep
      · cases hstep
        exact h
      · cases hstep
  | returned =>
    obtain ⟨-, hnext⟩ := Option.ite_none_right_eq_some.mp hstep
    cases hnext
    exact settled_leave h
  | reaped confirmed =>
    obtain ⟨-, hnext⟩ := Option.ite_none_right_eq_some.mp hstep
    cases hnext
    exact settled_finish (s := { s with reaped := s.reaped && confirmed }) h .failed
  | pull =>
    obtain ⟨-, hnext⟩ := Option.ite_none_right_eq_some.mp hstep
    cases hnext
    exact h
  | cancel =>
    cases hstep
    exact h
  | cancelEnded confirmed =>
    cases hstep
    exact h

/-- In every run of a supervised session: an outcome that says that the prompt was not accepted is
never settled where the prompt is handed to the process before or later; and the events that the
consumer got are those of the session, in order. -/
theorem supervised_outcome (launch : Launch) (cwd : Except String Bool) (before after : List Move)
    (s s' : Supervised)
    (hbefore : runSteps launch.superviseStep before (launch.supervise cwd) = some s)
    (hafter : runSteps launch.superviseStep after s = some s') :
    (∀ outcome, s.settled = some outcome → s'.session.handedOver = true →
      outcome.acceptedWork ≠ .notAccepted) ∧ s.given <+: s.session.transcript := by
  have hinv : s.Inv launch :=
    runSteps_induction (fun _ _ _ h hstep => h.step hstep) (inv_supervise launch cwd) hbefore
  constructor
  · intro outcome houtcome hhanded
    have hinv' : s'.Inv launch :=
      runSteps_induction (fun _ _ _ h hstep => h.step hstep) hinv hafter
    have hsettled : s'.settled = some outcome :=
      runSteps_induction (P := fun s => s.settled = some outcome)
        (fun _ _ _ h hstep => settled_step h hstep) houtcome hafter
    rcases hinv'.settled outcome hsettled with haccepted | hspared
    · rw [haccepted]
      exact nofun
    · rw [hspared.notHanded] at hhanded
      cases hhanded
  · rw [hinv.given]
    exact List.prefix_append _ _

def abandoned : List Move :=
  [.pull, .answer, .session (.located (.ok (some "codex")) (.ok ())), .abandon, .returned,
    .reaped false]

def abandonedEnd : Supervised :=
  (runSteps sampleLaunch.superviseStep abandoned (sampleLaunch.supervise (.ok true))).getD
    (sampleLaunch.supervise (.ok true))

theorem supervised_outcome_abandoned :
    ∃ outcome, abandonedEnd.settled = some outcome ∧ outcome.acceptedWork ≠ .notAccepted := by
  have hrun : runSteps sampleLaunch.superviseStep abandoned (sampleLaunch.supervise (.ok true)) =
      some abandonedEnd := (Option.getD_of_ne_none (by decide) _).symm
  obtain ⟨outcome, houtcome⟩ := Option.isSome_iff_exists.mp
    (show abandonedEnd.settled.isSome by decide)
  have hafter : runSteps sampleLaunch.superviseStep [] abandonedEnd = some abandonedEnd := rfl
  exact ⟨outcome, houtcome, (supervised_outcome sampleLaunch (.ok true) abandoned [] _ _ hrun hafter).1
    outcome houtcome (by decide)⟩

end VacancyRadar.Provider
