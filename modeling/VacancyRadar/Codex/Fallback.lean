import Mathlib.Data.List.TakeWhile
import VacancyRadar.Codex.Transport

/-!
# The prompt goes to one transport

The fallback starts an exec transport with the prompt when the app-server failed before the prompt
was handed to it.  That is safe if the handshake of the app-server has come to its end by then.  It
has when the handshake itself failed, when the process is gone, and when the RPC peer is closed.  It
has not when a notification made the transport report a failure: nobody stops the handshake then.
-/

namespace VacancyRadar.Codex

open Data Provider

variable {method : Outgoing} {waiter : Waiter} {params : Option Json} {event : AgentEvent} {s' : Session}

/-! ## The app-server -/

namespace Leg

variable {machine : Machine} {leg leg' : Leg} {events : List AgentEvent}

def turns (leg : Leg) : ℕ := leg.written.count .turnStart

/-- The handshake does not go on. -/
def Dead (leg : Leg) : Prop := leg.fatal = true ∨ leg.phase = .ended

def Failed (leg : Leg) : Prop := ∃ event ∈ leg.events.items, event.isFailure = true

/-- What happens to the app-server outside of its handshake. -/
structure Beside (leg leg' : Leg) : Prop where
  turns : leg'.turns = leg.turns
  phase : leg'.phase = leg.phase ∨ leg'.phase = .ended
  dead : leg.Dead → leg'.Dead

lemma Beside.refl (leg : Leg) : Beside leg leg := ⟨rfl, .inl rfl, id⟩

lemma Beside.trans {leg'' : Leg} (h : Beside leg leg') (h' : Beside leg' leg'') :
    Beside leg leg'' where
  turns := h'.turns.trans h.turns
  phase := by
    rcases h'.phase with hphase | hphase
    · rw [hphase]
      exact h.phase
    · exact .inr hphase
  dead hdead := h'.dead (h.dead hdead)

lemma beside_finish : Beside leg (leg.finish events) := by
  unfold finish
  split
  · exact Beside.refl leg
  · exact ⟨rfl, .inl rfl, id⟩

lemma failed_finish (h : (leg.finish events).Failed) :
    leg.Failed ∨ ∃ event ∈ events, event.isFailure = true := by
  unfold finish at h
  split at h
  · exact .inl h
  · obtain ⟨event, hmem, hfailure⟩ := h
    rcases Channel.mem_items_closeWith hmem with hold | hnew
    · exact .inl ⟨event, hold, hfailure⟩
    · exact .inr ⟨event, hnew, hfailure⟩

lemma beside_endRun : Beside leg leg.endRun := ⟨rfl, .inr rfl, fun _ => .inr rfl⟩

lemma beside_crash (message : String) : Beside leg (leg.crash message) :=
  beside_finish.trans beside_endRun

lemma dead_crash (message : String) : (leg.crash message).Dead := .inr rfl

lemma beside_fail (message : String) : Beside leg (leg.fail message) := by
  unfold fail
  split
  · exact Beside.refl leg
  · refine Beside.trans ?_ beside_finish
    exact ⟨rfl, .inl rfl, fun _ => .inl rfl⟩

lemma dead_fail (message : String) : (leg.fail message).Dead := by
  unfold fail
  split
  · rename_i hfatal
    exact .inl hfatal
  · exact beside_finish.dead (.inl rfl)

lemma beside_processFailed (message : String) (gone : Bool) :
    Beside leg (leg.processFailed message gone) := by
  unfold processFailed
  dsimp only
  split
  · exact ⟨rfl, .inl rfl, id⟩
  · have hexited : Beside leg { leg with exited := leg.exited || gone } := ⟨rfl, .inl rfl, id⟩
    exact hexited.trans (beside_finish.trans (beside_fail message))

variable {message : String}

lemma failed_processFailed {gone : Bool} (h : (leg.processFailed message gone).Failed) :
    leg.Failed ∨ (leg.processFailed message gone).Dead := by
  unfold processFailed at h ⊢
  dsimp only at h ⊢
  split
  · rename_i hclosing
    rw [if_pos hclosing] at h
    exact .inl h
  · exact .inr (dead_fail message)

lemma beside_writeFailed (message : String) : Beside leg (leg.writeFailed message) := by
  unfold writeFailed
  split
  · exact Beside.refl leg
  · exact ⟨rfl, .inl rfl, id⟩

lemma failed_writeFailed (h : (leg.writeFailed message).Failed) : leg.Failed := by
  unfold writeFailed at h
  split at h
  · exact h
  · exact h

lemma beside_request (hmethod : method ≠ .turnStart) (h : leg.request machine method waiter = .written leg') :
    Beside leg leg' ∧ leg'.events = leg.events ∧ leg'.fatal = leg.fatal := by
  unfold request at h
  split at h
  · cases h
  · split at h
    · cases h
    · split at h
      · cases h
      · cases h
        refine ⟨⟨?_, .inl rfl, id⟩, rfl, rfl⟩
        simp [turns, List.count_append, hmethod]

lemma beside_cancel : Beside leg (leg.cancel machine) := by
  have hset : Beside leg { leg with cancelled := true } := ⟨rfl, .inl rfl, id⟩
  unfold cancel
  dsimp only
  split
  · exact ⟨rfl, .inl rfl, id⟩
  · split
    · split
      · rename_i next hrequest
        obtain ⟨hbeside, -, -⟩ := beside_request (by decide) hrequest
        have hnext := hset.trans hbeside
        exact ⟨hnext.turns, hnext.phase, hnext.dead⟩
      · exact ⟨rfl, .inl rfl, id⟩
    · exact ⟨rfl, .inl rfl, id⟩

lemma failed_cancel (h : (leg.cancel machine).Failed) : leg.Failed := by
  unfold cancel at h
  dsimp only at h
  split at h
  · exact h
  · split at h
    · split at h
      · rename_i next hrequest
        obtain ⟨-, hevents, -⟩ := beside_request (by decide) hrequest
        obtain ⟨event, hmem, hfailure⟩ := h
        exact ⟨event, hevents ▸ hmem, hfailure⟩
      · exact h
    · exact h

lemma beside_cancelDue : Beside leg leg.cancelDue := by
  unfold cancelDue
  split
  · have hfinish : Beside leg (leg.finish [.sessionCancelled]) := beside_finish
    exact ⟨hfinish.turns, hfinish.phase, hfinish.dead⟩
  · exact Beside.refl leg

lemma failed_cancelDue (h : leg.cancelDue.Failed) : leg.Failed := by
  unfold cancelDue at h
  split at h
  · have hfinish : (leg.finish [.sessionCancelled]).Failed := h
    rcases failed_finish hfinish with hold | ⟨event, hmem, hfailure⟩
    · exact hold
    · rw [List.mem_singleton.mp hmem] at hfailure
      cases hfailure
  · exact h

def notificationFails (machine : Machine) (leg : Leg) (method : NotificationMethod)
    (params : Option Json) : Bool :=
  match normalize machine.unicode leg.providerSessionId method params with
  | .error _ => true
  | .ok (_, events) =>
    !(leg.events.pushAll (events.takeWhile fun event => !event.isTerminal)).2 ||
      (events.dropWhile fun event => !event.isTerminal).any AgentEvent.isFailure

lemma beside_onNotification {method : NotificationMethod} :
    Beside leg (leg.onNotification machine method params) := by
  unfold onNotification
  split
  · exact Beside.refl leg
  · split
    · exact beside_finish
    · dsimp only
      split
      · split
        · exact ⟨rfl, .inl rfl, id⟩
        · refine Beside.trans ?_ beside_finish
          exact ⟨rfl, .inl rfl, id⟩
      · refine Beside.trans ?_ beside_finish
        exact ⟨rfl, .inl rfl, id⟩

lemma not_failure_of_mem_takeWhile (h : event ∈ events.takeWhile fun event => !event.isTerminal) :
    event.isFailure = false:= by
  have hterminal := List.mem_takeWhile_imp h
  cases event <;> first | rfl | cases hterminal

lemma failed_onNotification {method : NotificationMethod}
    (hcalm : leg.terminalEmitted = false → leg.notificationFails machine method params = false)
    (h : (leg.onNotification machine method params).Failed) : leg.Failed:= by
  unfold onNotification at h
  split at h
  · exact h
  · rename_i hopen
    have hnot := hcalm (Bool.eq_false_iff.mpr hopen)
    unfold notificationFails at hnot
    split at h
    · rename_i message hnormalize
      rw [hnormalize] at hnot
      cases hnot
    · rename_i providerSessionId found hnormalize
      rw [hnormalize] at hnot
      simp only [Bool.or_eq_false_iff, Bool.not_eq_false'] at hnot
      have hpushed : ∀ {event : AgentEvent},
          event ∈ (leg.events.pushAll (found.takeWhile fun event => !event.isTerminal)).1.items →
            event.isFailure = true → leg.Failed := by
        intro event hmem hfailure
        rcases Channel.mem_items_pushAll hmem with hold | hnew
        · exact ⟨event, hold, hfailure⟩
        · rw [not_failure_of_mem_takeWhile hnew] at hfailure
          cases hfailure
      dsimp only at h
      generalize hpush : leg.events.pushAll (found.takeWhile fun event => !event.isTerminal) = pushed
        at h hnot hpushed
      obtain ⟨channel, whole⟩ := pushed
      obtain rfl : whole = true := hnot.1
      dsimp only at h
      split at h
      · obtain ⟨event, hmem, hfailure⟩ := h
        exact hpushed hmem hfailure
      · rcases failed_finish h with ⟨event, hmem, hfailure⟩ | ⟨event, hmem, hfailure⟩
        · exact hpushed hmem hfailure
        · have hrest := List.any_eq_false.mp hnot.2 event hmem
          exact absurd hfailure hrest

lemma beside_handleFrame (frame : Frame) : Beside leg (leg.handleFrame machine frame) := by
  cases frame with
  | malformed message => exact beside_fail message
  | notification method params =>
    cases method with
    | none => exact beside_fail _
    | some method => exact beside_onNotification
  | request allowed =>
    cases allowed with
    | true => exact Beside.refl leg
    | false => exact beside_fail _
  | response n result =>
    dsimp only [handleFrame]
    split
    · exact beside_fail _
    · exact ⟨rfl, .inl rfl, id⟩

lemma failed_handleFrame {frame : Frame}
    (hcalm : ∀ method params, frame = .notification (some method) params →
      leg.terminalEmitted = false → leg.notificationFails machine method params = false)
    (h : (leg.handleFrame machine frame).Failed) :
    leg.Failed ∨ (leg.handleFrame machine frame).Dead := by
  cases frame with
  | malformed message => exact .inr (dead_fail message)
  | notification method params =>
    cases method with
    | none => exact .inr (dead_fail _)
    | some method => exact .inl (failed_onNotification (hcalm method params rfl) h)
  | request allowed =>
    cases allowed with
    | true => exact .inl h
    | false => exact .inr (dead_fail _)
  | response n result =>
    dsimp only [handleFrame] at h ⊢
    split
    · exact .inr (dead_fail _)
    · rename_i hfind
      rw [hfind] at h
      exact .inl h

lemma open_of_request (h : leg.request machine method waiter = .written leg') : leg.fatal = false:= by
  unfold request at h
  split at h
  · cases h
  · rename_i hopen
    exact Bool.eq_false_iff.mpr hopen

lemma turns_request (h : leg.request machine .turnStart waiter = .written leg') :
    leg'.turns = leg.turns + 1 := by
  unfold request at h
  split at h
  · cases h
  · split at h
    · cases h
    · split at h
      · cases h
      · cases h
        simp [turns, List.count_append]

end Leg

/-! ## The session -/

namespace Session

variable {machine : Machine} {options : StartSessionOptions} {s : Session} {leg leg' : Leg}

structure LegInv (s : Session) (leg : Leg) : Prop where
  once : leg.turns ≤ 1
  before : leg.phase.beforeTurn = true → leg.turns = 0
  held : s.promptDelivered = false → leg.turns = 0
  /-- Next to an exec transport the app-server does nothing. -/
  alone : s.execs ≠ 0 → leg.turns = 0 ∧ leg.Dead
  /-- A failure that the fallback will act on comes from a handshake that is over. -/
  failed : s.stage = .watching → s.promptDelivered = false → s.cancelled = false →
    leg.Failed → leg.Dead

structure Inv (s : Session) : Prop where
  detecting : s.stage = .detecting → s.leg = none ∧ s.execs = 0
  watching : s.stage = .watching → s.execs = 0
  execs : s.execs ≤ 1
  leg : ∀ leg, s.leg = some leg → LegInv s leg

lemma Inv.initial : Inv {} where
  detecting _ := ⟨rfl, rfl⟩
  watching _ := rfl
  execs := Nat.zero_le 1
  leg _ h := nomatch h

lemma Inv.prompts_le_one (h : Inv s) : s.prompts ≤ 1 := by
  unfold prompts
  cases hleg : s.leg with
  | none => exact h.execs
  | some leg =>
    have hinv := h.leg leg hleg
    change s.execs + leg.turns ≤ 1
    by_cases hexecs : s.execs = 0
    · have honce := hinv.once
      omega
    · have halone := (hinv.alone hexecs).1
      have hone := h.execs
      omega

lemma LegInv.of_beside (h : LegInv s leg) (hbeside : leg.Beside leg')
    (hfailed : s.stage = .watching → s.promptDelivered = false → s.cancelled = false →
      leg'.Failed → leg.Failed ∨ leg'.Dead) : LegInv s leg' where
  once := hbeside.turns ▸ h.once
  before hphase := by
    rcases hbeside.phase with heq | heq
    · rw [heq] at hphase
      exact hbeside.turns.trans (h.before hphase)
    · rw [heq] at hphase
      cases hphase
  held hheld := hbeside.turns.trans (h.held hheld)
  alone hexecs := ⟨hbeside.turns.trans (h.alone hexecs).1, hbeside.dead (h.alone hexecs).2⟩
  failed hstage hheld hcancelled hfails := by
    rcases hfailed hstage hheld hcancelled hfails with hold | hdead
    · exact hbeside.dead (h.failed hstage hheld hcancelled hold)
    · exact hdead

lemma LegInv.of_dead (h : LegInv s leg) (hbeside : leg.Beside leg') (hdead : leg'.Dead) :
    LegInv s leg' :=
  h.of_beside hbeside fun _ _ _ _ => .inr hdead

lemma LegInv.crash (h : LegInv s leg) (message : String) : LegInv s (leg.crash message) :=
  h.of_dead (Leg.beside_crash message) (Leg.dead_crash message)

lemma LegInv.stopped (h : LegInv s leg) (events : List AgentEvent) :
    LegInv s (leg.finish events).endRun :=
  h.of_dead (Leg.beside_finish.trans Leg.beside_endRun) (.inr rfl)

lemma LegInv.onward (h : LegInv s leg) (hphase : leg.phase ≠ .ended)
    (hturns : leg'.turns = leg.turns) (hevents : leg'.events = leg.events)
    (hfatal : leg'.fatal = leg.fatal)
    (hbefore : leg'.phase.beforeTurn = true → leg.phase.beforeTurn = true) : LegInv s leg' := by
  have hdead : leg.Dead → leg'.Dead := by
    rintro (hclosed | hended)
    · exact .inl (hfatal.trans hclosed)
    · exact absurd hended hphase
  constructor
  · exact hturns ▸ h.once
  · exact fun hstill => hturns.trans (h.before (hbefore hstill))
  · exact fun hheld => hturns.trans (h.held hheld)
  · exact fun hexecs => ⟨hturns.trans (h.alone hexecs).1, hdead (h.alone hexecs).2⟩
  · rintro hstage hheld hcancelled ⟨event, hmem, hfailure⟩
    rw [hevents] at hmem
    exact hdead (h.failed hstage hheld hcancelled ⟨event, hmem, hfailure⟩)

lemma LegInv.runRequest {phase : Phase} (h : LegInv s leg) (hmethod : method ≠ .turnStart)
    (hbefore : leg.phase.beforeTurn = true) : LegInv s (leg.runRequest machine method phase):= by
  unfold Leg.runRequest
  split
  · exact h.crash _
  · exact h.crash _
  · rename_i next hrequest
    obtain ⟨hbeside, hevents, hfatal⟩ := Leg.beside_request hmethod hrequest
    refine h.onward ?_ hbeside.turns hevents hfatal fun _ => hbefore
    intro hended
    rw [hended] at hbefore
    cases hbefore

lemma Inv.of_leg (h : Inv s) (hleg : s.leg = some leg) (hstage : s'.stage = s.stage)
    (hexecs : s'.execs = s.execs) (hnext : ∀ leg', s'.leg = some leg' → LegInv s' leg') :
    Inv s' where
  detecting hdetecting := by
    rw [(h.detecting (hstage ▸ hdetecting)).1] at hleg
    cases hleg
  watching hwatching := hexecs ▸ h.watching (hstage ▸ hwatching)
  execs := hexecs ▸ h.execs
  leg := hnext

lemma Inv.setLeg (h : Inv s) (hleg : s.leg = some leg) (hnext : LegInv s leg') :
    Inv { s with leg := some leg' } := by
  refine h.of_leg hleg rfl rfl fun next hsome => ?_
  obtain rfl := Option.some.inj hsome
  exact ⟨hnext.once, hnext.before, hnext.held, hnext.alone, hnext.failed⟩

lemma Inv.onLeg {f : Leg → Leg} (h : Inv s) (hf : ∀ leg, s.leg = some leg → LegInv s (f leg)) :
    Inv (s.onLeg f) := by
  unfold Session.onLeg
  cases hleg : s.leg with
  | none =>
    rw [Option.map_none, ← hleg]
    exact h
  | some leg => exact h.setLeg hleg (hf leg hleg)

lemma Inv.of_same (h : Inv s) (hleg : s'.leg = s.leg) (hexecs : s'.execs = s.execs)
    (hheld : s'.promptDelivered = s.promptDelivered) (hstage : s'.stage = s.stage ∨ s'.stage = .done)
    (hcancelled : s.cancelled = true → s'.cancelled = true) : Inv s' where
  detecting hdetecting := by
    rcases hstage with heq | heq
    · rw [hleg, hexecs]
      exact h.detecting (heq ▸ hdetecting)
    · rw [heq] at hdetecting
      cases hdetecting
  watching hwatching := by
    rcases hstage with heq | heq
    · rw [hexecs]
      exact h.watching (heq ▸ hwatching)
    · rw [heq] at hwatching
      cases hwatching
  execs := hexecs ▸ h.execs
  leg leg hsome := by
    have hinv := h.leg leg (hleg ▸ hsome)
    refine ⟨hinv.once, hinv.before, hheld ▸ hinv.held, hexecs ▸ hinv.alone, ?_⟩
    intro hwatching hnot hopen
    rcases hstage with heq | heq
    · refine hinv.failed (heq ▸ hwatching) (hheld ▸ hnot) ?_
      cases hold : s.cancelled with
      | false => rfl
      | true =>
        rw [hcancelled hold] at hopen
        cases hopen
    · rw [heq] at hwatching
      cases hwatching

lemma Inv.closeWithOverflow (h : Inv s) : Inv s.closeWithOverflow :=
  h.of_same rfl rfl rfl (.inr rfl) fun hcancelled => hcancelled

lemma Inv.flushAndClose (h : Inv s) (events : List AgentEvent) : Inv (s.flushAndClose events) := by
  unfold Session.flushAndClose
  split
  · exact h.of_same rfl rfl rfl (.inr rfl) fun hcancelled => hcancelled
  · exact h.of_same rfl rfl rfl (.inr rfl) fun hcancelled => hcancelled

lemma Inv.startExec (h : Inv s) (hexecs : s.execs = 0)
    (hdead : ∀ leg, s.leg = some leg → leg.turns = 0 ∧ leg.Dead) : Inv s.startExec where
  detecting hstage := nomatch hstage
  watching hstage := nomatch hstage
  execs := by
    change s.execs + 1 ≤ 1
    omega
  leg leg hsome := by
    have hinv := h.leg leg hsome
    exact ⟨hinv.once, hinv.before, hinv.held, fun _ => hdead leg hsome, fun hstage => nomatch hstage⟩

variable {status : ProviderStatus}

lemma legInv_startLeg (hexecs : s.execs = 0) :
    ∀ leg, (s.startLeg machine options status).leg = some leg →
      LegInv (s.startLeg machine options status) leg := by
  intro leg hleg
  have hfresh : ∀ {leg : Leg}, leg.turns = 0 → (leg.Failed → leg.Dead) →
      LegInv (s.startLeg machine options status) leg := fun hturns hfailed =>
    ⟨hturns ▸ Nat.zero_le 1, fun _ => hturns, fun _ => hturns, fun h => absurd hexecs h,
      fun _ _ _ => hfailed⟩
  have hcrashed : ∀ message, LegInv (s.startLeg machine options status)
      (({ events := { queue := [.sessionStarted options.sessionId "codex"] } } : Leg).finish
        (failure "ADAPTER_CRASH" message)) := fun _ =>
    hfresh Leg.beside_finish.turns fun _ => Leg.beside_finish.dead (.inr rfl)
  have hspawned : LegInv (s.startLeg machine options status)
      (({ events := { queue := [.sessionStarted options.sessionId "codex"] } } : Leg).runRequest machine
        .initializeRequest .initializing) := by
    unfold Leg.runRequest
    split
    · exact hfresh (Leg.beside_crash _).turns fun _ => Leg.dead_crash _
    · exact hfresh (Leg.beside_crash _).turns fun _ => Leg.dead_crash _
    · rename_i next hrequest
      obtain ⟨hbeside, hevents, -⟩ := Leg.beside_request (by decide) hrequest
      refine hfresh hbeside.turns ?_
      rintro ⟨event, hmem, hfailure⟩
      rw [hevents] at hmem
      obtain rfl : event = .sessionStarted options.sessionId "codex" := List.mem_singleton.mp hmem
      cases hfailure
  obtain rfl := Option.some.inj hleg
  split
  · refine LegInv.of_beside ?_ Leg.beside_cancel fun _ _ _ hfailed => .inl (Leg.failed_cancel hfailed)
    split
    · exact hcrashed _
    · exact hspawned
  · split
    · exact hcrashed _
    · exact hspawned

lemma Inv.startLeg (h : Inv s) (hexecs : s.execs = 0) :
    Inv (s.startLeg machine options status) where
  detecting hstage := nomatch hstage
  watching _ := hexecs
  execs := h.execs
  leg := legInv_startLeg hexecs

lemma Inv.detected {result : Except String ProviderStatus} (h : Inv s)
    (hstage : s.stage = .detecting) : Inv (s.detected machine options result) := by
  obtain ⟨hleg, hexecs⟩ := h.detecting hstage
  have hexec : Inv s.startExec := by
    refine h.startExec hexecs fun leg hsome => ?_
    rw [hleg] at hsome
    cases hsome
  cases result with
  | error message => exact hexec
  | ok status =>
    dsimp only [Session.detected]
    split
    · exact h.of_same rfl rfl rfl (.inr rfl) fun hcancelled => hcancelled
    · split
      · exact hexec
      · split
        · exact hexec
        · split
          · exact hexec
          · exact h.startLeg hexecs

lemma cancelled_of_mayFallBack (h : s.mayFallBack machine options = true) :
    s.cancelled = false := by
  unfold mayFallBack at h
  split at h
  · cases h
  · by_contra hcancelled
    simp [authorize, Bool.not_eq_false _ ▸ hcancelled] at h

lemma Inv.watch (h : Inv s) (hstage : s.stage = .watching)
    (hdead : s.promptDelivered = false → s.cancelled = false → event.isFailure = true →
      ∀ leg, s.leg = some leg → leg.Dead) : Inv (s.watch machine options event):= by
  unfold Session.watch
  split
  · split
    · exact h.of_same rfl rfl rfl (.inl rfl) fun hcancelled => hcancelled
    · exact h.closeWithOverflow
  · split
    · split
      · exact h.of_same rfl rfl rfl (.inl rfl) fun hcancelled => hcancelled
      · exact h.of_same rfl rfl rfl (.inr rfl) fun hcancelled => hcancelled
    · rename_i hheld
      have hheld := Bool.eq_false_iff.mpr hheld
      have hbuffered : Inv { s with buffered := s.buffered ++ [event] } :=
        h.of_same rfl rfl rfl (.inl rfl) fun hcancelled => hcancelled
      dsimp only
      split
      · exact hbuffered
      · split
        · rename_i hfallback
          have hcancelled : s.cancelled = false :=
            cancelled_of_mayFallBack (s := { s with buffered := s.buffered ++ [event] }) hfallback.2
          have hconsumed : Inv
              { s with buffered := s.buffered ++ [event], consumed := s.consumed + 1 } :=
            h.of_same rfl rfl rfl (.inl rfl) fun hcancelled => hcancelled
          refine hconsumed.startExec (h.watching hstage) fun leg hsome => ⟨?_, ?_⟩
          · exact (h.leg leg hsome).held hheld
          · exact hdead hheld hcancelled hfallback.1 leg hsome
        · exact hbuffered.flushAndClose _

lemma Inv.consume (h : Inv s) (hleg : s.leg = some leg) (hstage : s.stage = .watching) :
    Inv (s.consume machine options leg) := by
  have hinv := h.leg leg hleg
  have hnext : LegInv s { leg with events := leg.events.next.1 } := by
    refine hinv.of_beside ⟨rfl, .inl rfl, id⟩ ?_
    rintro - - - ⟨event, hmem, hfailure⟩
    exact .inl ⟨event, Channel.mem_items_next hmem, hfailure⟩
  have htaken := h.setLeg hleg hnext
  unfold Session.consume
  split
  · rename_i event hevent
    refine htaken.watch hstage fun hheld hcancelled hfailure next hsome => ?_
    obtain rfl := Option.some.inj hsome
    exact hinv.failed hstage hheld hcancelled ⟨event, Channel.next_mem_items hevent, hfailure⟩
  · split
    · split
      · exact htaken.of_same rfl rfl rfl (.inr rfl) fun hcancelled => hcancelled
      · exact htaken.flushAndClose _
    · exact htaken

lemma Inv.startTurn (h : Inv s) (hleg : s.leg = some leg') (hinv : LegInv s leg)
    (hbefore : leg.phase.beforeTurn = true) : Inv (s.startTurn machine leg) := by
  have hcrash : ∀ message, Inv { s with leg := some (leg.crash message) } := fun message =>
    h.setLeg hleg (hinv.crash message)
  unfold Session.startTurn
  split
  · exact hcrash _
  · rename_i message hrequest
    have hcrashed := hinv.crash message
    refine h.of_leg hleg rfl rfl fun next hsome => ?_
    obtain rfl := Option.some.inj hsome
    exact ⟨hcrashed.once, hcrashed.before, (nomatch ·), hcrashed.alone, fun _ => (nomatch ·)⟩
  · rename_i next hrequest
    have hturns := Leg.turns_request hrequest
    have hopen := Leg.open_of_request hrequest
    refine h.of_leg hleg rfl rfl fun sent hsome => ?_
    obtain rfl := Option.some.inj hsome
    refine ⟨?_, (nomatch ·), (nomatch ·), fun hexecs => ?_, fun _ => (nomatch ·)⟩
    · change next.turns ≤ 1
      rw [hturns, hinv.before hbefore]
    · -- The handshake would be over if an exec transport had been started.
      rcases (hinv.alone hexecs).2 with hfatal | hended
      · rw [hopen] at hfatal
        cases hfatal
      · rw [hended] at hbefore
        cases hbefore

lemma Inv.resumeWith {result : Json} (h : Inv s) (hleg : s.leg = some leg) :
    Inv (s.resumeWith machine options leg result) := by
  have hinv := h.leg leg hleg
  have hcrash : ∀ message, Inv { s with leg := some (leg.crash message) } := fun message =>
    h.setLeg hleg (hinv.crash message)
  have hstopped := h.setLeg hleg (hinv.stopped [.sessionCancelled])
  unfold Session.resumeWith
  split
  · rename_i hphase
    split
    · exact hcrash _
    · split
      · exact hcrash _
      · refine h.setLeg hleg (hinv.onward ?_ ?_ rfl rfl ?_)
        · rw [hphase]
          decide
        · simp [Leg.turns, List.count_append]
        · intro _
          rw [hphase]
          rfl
  · rename_i hphase
    exact h.setLeg hleg (hinv.runRequest (by decide) (by rw [hphase]; rfl))
  · rename_i hphase
    split
    · exact hcrash _
    · split
      · exact hstopped
      · refine h.setLeg hleg (hinv.runRequest ?_ (by rw [hphase]; rfl))
        split <;> decide
  · rename_i hphase
    split
    · exact hcrash _
    · rename_i id _
      have hnamed : LegInv s { leg with threadId := some id, providerSessionId := some id } :=
        hinv.of_beside ⟨rfl, .inl rfl, fun hdead => hdead⟩ fun _ _ _ hfailed => .inl hfailed
      dsimp only
      split
      · exact h.setLeg hleg (hnamed.stopped [.sessionCancelled])
      · exact h.startTurn hleg hnamed (by rw [hphase]; rfl)
  · rename_i hphase
    split
    · exact hcrash _
    · rename_i id _
      have hnamed : LegInv s { leg with turnId := some id, settled := none } :=
        hinv.of_beside ⟨rfl, .inl rfl, fun hdead => hdead⟩ fun _ _ _ hfailed => .inl hfailed
      have hphase : leg.phase ≠ .ended := by
        rw [hphase]
        decide
      dsimp only
      split
      · split
        · rename_i next hrequest
          obtain ⟨hbeside, hevents, hfatal⟩ := Leg.beside_request (by decide) hrequest
          exact h.setLeg hleg (hnamed.onward hphase hbeside.turns hevents hfatal (nomatch ·))
        · exact h.setLeg hleg (hnamed.onward hphase rfl rfl rfl (nomatch ·))
      · exact h.setLeg hleg (hnamed.onward hphase rfl rfl rfl (nomatch ·))
  · rename_i hphase
    refine h.setLeg hleg (hinv.onward ?_ rfl rfl rfl (nomatch ·))
    rw [hphase]
    decide
  · exact h
  · exact h

lemma Inv.resume (h : Inv s) (hleg : s.leg = some leg) : Inv (s.resume machine options leg) := by
  have hinv := h.leg leg hleg
  unfold Session.resume
  split
  · exact h.setLeg hleg (hinv.of_dead Leg.beside_endRun (.inr rfl))
  · split
    · exact h
    · split
      · rename_i hphase
        refine h.setLeg hleg (hinv.onward ?_ rfl rfl rfl (nomatch ·))
        rw [hphase]
        decide
      · exact h.setLeg hleg (hinv.crash _)
    · exact h.resumeWith hleg

/-- A notification makes the app-server report a failure that the fallback acts on, while its
handshake goes on. -/
def upset (machine : Machine) (s : Session) : Event → Bool
  | .frame (.notification (some method) params) =>
    decide (s.stage = .watching) && !s.cancelled && !s.promptDelivered && s.leg.any fun leg =>
      !leg.fatal && !leg.terminalEmitted && leg.notificationFails machine method params
  | _ => false

lemma Inv.frame {frame : Leg.Frame} (h : Inv s) (hcalm : upset machine s (.frame frame) = false) :
    Inv (s.onLeg fun leg => if leg.fatal then leg else leg.handleFrame machine frame) := by
  refine h.onLeg fun leg hleg => ?_
  have hinv := h.leg leg hleg
  split
  · exact hinv
  · rename_i hopen
    refine hinv.of_beside (Leg.beside_handleFrame frame) fun hstage hheld hcancelled hfailed => ?_
    refine Leg.failed_handleFrame ?_ hfailed
    rintro method params rfl hemitted
    by_contra hfails
    simp [upset, hstage, hheld, hcancelled, hleg, hemitted, hopen, hfails] at hcalm

lemma Inv.step {event : Event} (h : Inv s) (hcalm : upset machine s event = false) :
    Inv (s.step machine options event) := by
  cases event with
  | detected result =>
    dsimp only [Session.step]
    split
    · rename_i hstage
      exact h.detected hstage
    · exact h
  | frame frame => exact h.frame hcalm
  | stdoutEnded incomplete =>
    refine h.onLeg fun leg hleg => ?_
    split
    · exact (h.leg leg hleg).of_dead (Leg.beside_fail _) (Leg.dead_fail _)
    · exact h.leg leg hleg
  | processFailed message gone =>
    refine h.onLeg fun leg hleg => ?_
    exact (h.leg leg hleg).of_beside (Leg.beside_processFailed message gone) fun _ _ _ hfailed =>
      Leg.failed_processFailed hfailed
  | writeFailed message =>
    refine h.onLeg fun leg hleg => ?_
    exact (h.leg leg hleg).of_beside (Leg.beside_writeFailed message) fun _ _ _ hfailed =>
      .inl (Leg.failed_writeFailed hfailed)
  | resume =>
    dsimp only [Session.step]
    split
    · rename_i leg hleg
      exact h.resume hleg
    · exact h
  | consume =>
    dsimp only [Session.step]
    split
    · rename_i leg hleg
      split
      · rename_i hstage
        exact h.consume hleg hstage
      · exact h
    · exact h
  | execEvent event =>
    dsimp only [Session.step]
    split
    · split
      · exact h.of_same rfl rfl rfl (.inl rfl) fun hcancelled => hcancelled
      · exact h.closeWithOverflow
    · exact h
  | execEnded =>
    dsimp only [Session.step]
    split
    · exact h.of_same rfl rfl rfl (.inr rfl) fun hcancelled => hcancelled
    · exact h
  | cancel =>
    have hcancelled : Inv { s with cancelled := true } :=
      h.of_same rfl rfl rfl (.inl rfl) fun _ => rfl
    dsimp only [Session.step]
    split
    · exact hcancelled
    · refine hcancelled.onLeg fun leg hleg => ?_
      exact (hcancelled.leg leg hleg).of_beside Leg.beside_cancel fun _ _ _ hfailed =>
        .inl (Leg.failed_cancel hfailed)
    · exact hcancelled.of_same rfl rfl rfl (.inl rfl) fun hcancelled => hcancelled
  | cancelDue =>
    refine h.onLeg fun leg hleg => ?_
    exact (h.leg leg hleg).of_beside Leg.beside_cancelDue fun _ _ _ hfailed =>
      .inl (Leg.failed_cancelDue hfailed)

/-- Along the run, no notification makes the app-server fail before it is given the prompt. -/
def Orderly (machine : Machine) (options : StartSessionOptions) : Session → List Event → Prop
  | _, [] => True
  | s, event :: rest =>
    upset machine s event = false ∧ Orderly machine options (s.step machine options event) rest

lemma Inv.run {events : List Event} (h : Inv s) (horderly : Orderly machine options s events) :
    Inv (s.run machine options events) := by
  induction events generalizing s with
  | nil => exact h
  | cons event rest ih =>
    obtain ⟨hcalm, hrest⟩ := horderly
    exact ih (h.step hcalm) hrest

/-- The prompt is handed over at most once, also counting what is written to the app-server after it
was given up. -/
theorem prompts_run_le_one (machine : Machine) (options : StartSessionOptions)
    (events : List Event) (h : Orderly machine options {} events) :
    (run machine options {} events).prompts ≤ 1 :=
  (Inv.initial.run h).prompts_le_one

def sampleMachine : Machine where
  unicode := { isFormat := fun _ => false }
  platform := "linux"
  compatible _ := true
  spawnError := none
  fits _ := true

def sampleOptions : StartSessionOptions where
  sessionId := "s"
  cwd := "/work"
  prompt := "Find vacancies"

def sampleHandshake : List Event :=
  [.detected (.ok
      { executablePath := some "codex", version := some "1", authenticated := "yes",
        apiKey := false }),
    .frame (.response 1 (.ok (.obj []))), .resume, .resume,
    .frame (.response 2 (.ok (.obj
      [("data", .arr [.obj [("id", .str "m"), ("isDefault", .bool true)]])]))), .resume]

def sampleThread : List Event :=
  [.frame (.response 3 (.ok (.obj [("thread", .obj [("id", .str "t")])]))), .resume]

def sampleTurn : List Event :=
  [.frame (.response 4 (.ok (.obj [("turn", .obj [("id", .str "u")])]))), .resume,
    .frame (.notification (some .turnCompleted)
      (some (.obj [("turn", .obj [("status", .str "completed")])]))), .resume,
    .consume, .consume, .consume]

/-- In a session that goes well, the app-server is given the prompt once. -/
theorem prompts_run_le_one_sample :
    (run sampleMachine sampleOptions {}
        (sampleHandshake ++ sampleThread ++ sampleTurn)).prompts = 1 ∧
      (run sampleMachine sampleOptions {}
        (sampleHandshake ++ sampleThread ++ sampleTurn)).prompts ≤ 1 := by
  refine ⟨by decide, prompts_run_le_one _ _ _ ?_⟩
  simp only [sampleHandshake, sampleThread, sampleTurn, List.cons_append, List.nil_append, Orderly,
    and_true]
  decide

/-- A notification that cannot be read makes the app-server fail, and the fallback starts an exec
transport.  The thread and the turn of the handshake come afterwards. -/
theorem prompts_run_two :
    (run sampleMachine sampleOptions {} (sampleHandshake ++
      [.frame (.notification (some .turnCompleted) none), .consume, .consume, .consume] ++
        sampleThread)).prompts = 2 := by
  decide

end Session

end VacancyRadar.Codex
