import VacancyRadar.Data.Runs
import VacancyRadar.Sse.Replay
import VacancyRadar.Sse.RoundTrip

/-!
# Subscribing to a session

The session manager takes the events of a provider one after the other, numbers them, stores them for
those who come later and gives them to those who are there.  A subscriber gets the stored events from
the one on that it has not seen, and then all that come.

An event that is too large is replaced by the failure of the session, after the provider was told to
stop.  A provider that throws, or that is done without a terminal event, ends the session without one.
-/

namespace VacancyRadar.Sse

open Data

variable {Content : Type}

/-! ## The session and its subscribers -/

/-- Where the loop of `consume` is. -/
inductive Phase (Content : Type) where
  | running
  /-- An event was too large, and the provider is being cancelled. -/
  | cancelling (sequence : ℕ) (event : ProviderEvent Content)
  | finished

structure Subscriber (Content : Type) where
  sinceIndex : ℕ
  /-- How many events were published when it came. -/
  joined : ℕ
  /-- The history was full when it came. -/
  full : Bool
  attached : Bool := true
  received : List (ℕ × Envelope Content)

structure Session (Content : Type) where
  runtime : Runtime Content := {}
  nextSequence : ℕ := 0
  phase : Phase Content := .running
  /-- The manager still knows the session. -/
  known : Bool := true
  subscribers : List (Subscriber Content) := []
  given : List (ProviderEvent Content) := []
  published : List (Envelope Content) := []

/-- A call of a listener that is still there. -/
def Subscriber.call (subscriber : Subscriber Content) (event : Envelope Content) :
    Subscriber Content :=
  if subscriber.attached then
    { subscriber with received := subscriber.received ++ [(event.sequence, event)] }
  else subscriber

namespace Session

def publish (s : Session Content) (wire : Wire Content) (event : Envelope Content) :
    Session Content :=
  { s with
    runtime := s.runtime.storeEnvelope event (utf8ByteLength (wire.stringify event))
    subscribers := s.subscribers.map fun subscriber => subscriber.call event
    published := s.published ++ [event] }

def take (s : Session Content) (wire : Wire Content) (event : ProviderEvent Content) :
    Session Content :=
  let sequence := s.nextSequence
  let taken := { s with nextSequence := sequence + 1, given := s.given ++ [event] }
  if maxEventEnvelopeBytes < utf8ByteLength (wire.stringify (envelope wire sequence event)) then
    { taken with phase := .cancelling sequence event }
  else taken.publish wire (envelope wire sequence event)

def subscribe (s : Session Content) (sinceIndex : ℕ) : Session Content :=
  let replay := (s.runtime.events.zipIdx.drop sinceIndex).map fun entry => (entry.2, entry.1)
  { s with
    subscribers := s.subscribers ++
      [{ sinceIndex, joined := s.published.length, full := s.runtime.replayFull, received := replay }] }

end Session

/-- What happens to a session, one turn after the other. -/
inductive SessionStep (Content : Type) where
  | event (event : ProviderEvent Content)
  /-- `cancelRuntime` is over. -/
  | cancelled
  /-- The stream of the provider is over, or it threw. -/
  | ended (error : Option String)
  | subscribe (sinceIndex : ℕ)
  | unsubscribe (index : ℕ)
  /-- The manager forgets the session, which was removed or is too old. -/
  | forgotten

def Session.step (wire : Wire Content) (s : Session Content) :
    SessionStep Content → Option (Session Content)
  | .event event =>
    match s.phase with
    | .running => some (s.take wire event)
    | _ => none
  | .cancelled =>
    match s.phase with
    | .cancelling sequence event =>
      some ({ s with phase := .finished }.publish wire (failure sequence event))
    | _ => none
  | .ended _ =>
    match s.phase with
    | .running => some { s with phase := .finished }
    | _ => none
  | .subscribe sinceIndex => if s.known then some (s.subscribe sinceIndex) else none
  | .unsubscribe index =>
    some { s with
      subscribers := s.subscribers.modify index fun subscriber => { subscriber with attached := false } }
  | .forgotten => some { s with known := false }

/-! ## What is promised -/

def Served (published : List (Envelope Content)) (subscriber : Subscriber Content) : Prop :=
  ∃ upTo, subscriber.joined ≤ upTo ∧ upTo ≤ published.length ∧
    (subscriber.attached = true → upTo = published.length) ∧
    subscriber.received =
      ((published.take upTo).drop subscriber.sinceIndex).map fun event => (event.sequence, event)

structure InOrder (s : Session Content) : Prop where
  history : ∀ (i : ℕ) (event : Envelope Content),
    s.runtime.events[i]? = some event → event.sequence = i
  live : s.published.map Envelope.sequence = List.range s.published.length
  subscribers : ∀ subscriber ∈ s.subscribers, subscriber.full = false →
    subscriber.sinceIndex ≤ subscriber.joined → Served s.published subscriber

/-- The stream of a provider ended with its only terminal event, or it was cut off before that by an
event that was too large. -/
def EndsOnce (wire : Wire Content) (given : List (ProviderEvent Content)) : Prop :=
  ∃ front last, given = front ++ [last] ∧ (∀ event ∈ front, isTerminal event.type = false) ∧
    (isTerminal last.type = true ∨ maxEventEnvelopeBytes <
      utf8ByteLength (wire.stringify (envelope wire front.length last)))

/-! ## The envelopes of a stream -/

def numbered (wire : Wire Content) : ℕ → List (ProviderEvent Content) → List (Envelope Content)
  | _, [] => []
  | sequence, event :: events =>
    envelope wire sequence event :: numbered wire (sequence + 1) events

variable {wire : Wire Content} {s s' : Session Content}

@[simp]
lemma sequence_envelope (sequence : ℕ) (event : ProviderEvent Content) :
    (envelope wire sequence event).sequence = sequence := by
  unfold envelope
  dsimp only
  split
  · rfl
  · rfl

@[simp]
lemma type_envelope (sequence : ℕ) (event : ProviderEvent Content) :
    (envelope wire sequence event).type = event.type := by
  unfold envelope
  dsimp only
  split
  · rfl
  · rfl

lemma numbered_append (sequence : ℕ) (events events' : List (ProviderEvent Content)) :
    numbered wire sequence (events ++ events') =
      numbered wire sequence events ++ numbered wire (sequence + events.length) events' := by
  induction events generalizing sequence with
  | nil => rfl
  | cons event events ih =>
    rw [List.cons_append, numbered, ih, numbered, List.cons_append, List.length_cons,
      Nat.add_right_comm, Nat.add_assoc]

@[simp]
lemma length_numbered (sequence : ℕ) (events : List (ProviderEvent Content)) :
    (numbered wire sequence events).length = events.length := by
  induction events generalizing sequence with
  | nil => rfl
  | cons event events ih => rw [numbered, List.length_cons, ih, List.length_cons]

lemma type_numbered (sequence : ℕ) (events : List (ProviderEvent Content)) :
    (numbered wire sequence events).map Envelope.type = events.map ProviderEvent.type := by
  induction events generalizing sequence with
  | nil => rfl
  | cons event events ih =>
    rw [numbered, List.map_cons, type_envelope, ih, List.map_cons]

lemma sequence_numbered (sequence : ℕ) (events : List (ProviderEvent Content)) :
    (numbered wire sequence events).map Envelope.sequence = List.range' sequence events.length := by
  induction events generalizing sequence with
  | nil => rfl
  | cons event events ih =>
    rw [numbered, List.map_cons, sequence_envelope, ih, List.length_cons, List.range'_succ]

lemma numbered_concat (events : List (ProviderEvent Content)) (event : ProviderEvent Content) :
    numbered wire 0 (events ++ [event]) =
      numbered wire 0 events ++ [envelope wire events.length event] := by
  rw [numbered_append, Nat.zero_add]
  rfl

inductive Stream (wire : Wire Content) : Phase Content → List (ProviderEvent Content) →
    List (Envelope Content) → Prop where
  | running {given : List (ProviderEvent Content)}
      (fits : ∀ event ∈ numbered wire 0 given,
        utf8ByteLength (wire.stringify event) ≤ maxEventEnvelopeBytes) :
      Stream wire .running given (numbered wire 0 given)
  | cancelling {front : List (ProviderEvent Content)} {event : ProviderEvent Content}
      (large : maxEventEnvelopeBytes <
        utf8ByteLength (wire.stringify (envelope wire front.length event))) :
      Stream wire (.cancelling front.length event) (front ++ [event]) (numbered wire 0 front)
  | ended {given : List (ProviderEvent Content)}
      (fits : ∀ event ∈ numbered wire 0 given,
        utf8ByteLength (wire.stringify event) ≤ maxEventEnvelopeBytes) :
      Stream wire .finished given (numbered wire 0 given)
  | failed {front : List (ProviderEvent Content)} {event : ProviderEvent Content}
      (large : maxEventEnvelopeBytes <
        utf8ByteLength (wire.stringify (envelope wire front.length event))) :
      Stream wire .finished (front ++ [event])
        (numbered wire 0 front ++ [failure front.length event])

section Stream

variable {given : List (ProviderEvent Content)} {published : List (Envelope Content)}

lemma Stream.of_running (h : Stream wire .running given published) :
    published = numbered wire 0 given ∧ ∀ event ∈ numbered wire 0 given,
      utf8ByteLength (wire.stringify event) ≤ maxEventEnvelopeBytes := by
  cases h with
  | running fits => exact ⟨rfl, fits⟩

lemma Stream.end (h : Stream wire .running given published) :
    Stream wire .finished given published := by
  cases h with
  | running fits => exact .ended fits

lemma Stream.fail {sequence : ℕ} {event : ProviderEvent Content}
    (h : Stream wire (.cancelling sequence event) given published) :
    Stream wire .finished given (published ++ [failure sequence event]) := by
  cases h with
  | cancelling large => exact .failed large

lemma Stream.sequences {phase : Phase Content} (h : Stream wire phase given published) :
    published.map Envelope.sequence = List.range published.length := by
  have hnumbered : ∀ events : List (ProviderEvent Content),
      (numbered wire 0 events).map Envelope.sequence = List.range events.length := fun events => by
    rw [sequence_numbered, List.range_eq_range']
  cases h with
  | running _ => rw [hnumbered, length_numbered]
  | cancelling _ => rw [hnumbered, length_numbered]
  | ended _ => rw [hnumbered, length_numbered]
  | failed _ =>
    rw [List.map_append, hnumbered, List.length_append, length_numbered, List.length_singleton,
      List.range_succ]
    rfl

lemma ended_concat_iff {events : List (Envelope Content)} {last : Envelope Content} :
    Ended (events ++ [last]) ↔
      (∀ event ∈ events, isTerminal event.type = false) ∧ isTerminal last.type = true := by
  constructor
  · rintro ⟨front, last', heq, hlast, hfront⟩
    obtain ⟨rfl, hsingle⟩ := List.append_inj' heq rfl
    cases hsingle
    exact ⟨hfront, hlast⟩
  · rintro ⟨hfront, hlast⟩
    exact ⟨events, last, rfl, hlast, hfront⟩

lemma endsOnce_concat_iff {front : List (ProviderEvent Content)} {last : ProviderEvent Content} :
    EndsOnce wire (front ++ [last]) ↔
      (∀ event ∈ front, isTerminal event.type = false) ∧
        (isTerminal last.type = true ∨ maxEventEnvelopeBytes <
          utf8ByteLength (wire.stringify (envelope wire front.length last))) := by
  constructor
  · rintro ⟨front', last', heq, hfront, hlast⟩
    obtain ⟨rfl, hsingle⟩ := List.append_inj' heq rfl
    cases hsingle
    exact ⟨hfront, hlast⟩
  · rintro ⟨hfront, hlast⟩
    exact ⟨front, last, rfl, hfront, hlast⟩

lemma Stream.ended_iff (h : Stream wire .finished given published) :
    Ended published ↔ EndsOnce wire given := by
  have hfront : ∀ front : List (ProviderEvent Content),
      (∀ event ∈ numbered wire 0 front, isTerminal event.type = false) ↔
        ∀ event ∈ front, isTerminal event.type = false := by
    intro front
    have htypes : (numbered wire 0 front).map Envelope.type = front.map ProviderEvent.type :=
      type_numbered 0 front
    have hboth : (∀ type ∈ (numbered wire 0 front).map Envelope.type, isTerminal type = false) ↔
        ∀ type ∈ front.map ProviderEvent.type, isTerminal type = false := by rw [htypes]
    simpa only [List.forall_mem_map] using hboth
  cases h with
  | ended fits =>
    rcases List.eq_nil_or_concat given with rfl | ⟨front, last, rfl⟩
    · refine iff_of_false (fun h => h.ne_nil rfl) ?_
      rintro ⟨front, last, heq, -⟩
      simp at heq
    · rw [List.concat_eq_append] at fits ⊢
      rw [numbered_concat] at fits ⊢
      have hfits := fits (envelope wire front.length last) (by simp)
      rw [ended_concat_iff, hfront, type_envelope, endsOnce_concat_iff]
      exact and_congr_right fun _ => ⟨.inl, fun h => h.resolve_right (Nat.not_lt.mpr hfits)⟩
  | @failed front event large =>
    rw [ended_concat_iff, hfront, endsOnce_concat_iff]
    exact and_congr_right fun _ => iff_of_true rfl (.inr large)

end Stream

/-! ## The invariant -/

structure Session.Inv (wire : Wire Content) (s : Session Content) : Prop where
  runtime : s.runtime = storeAll wire s.published
  stream : Stream wire s.phase s.given s.published
  next : s.nextSequence = s.given.length
  served : ∀ subscriber ∈ s.subscribers, subscriber.full = false →
    subscriber.sinceIndex ≤ subscriber.joined → Served s.published subscriber

variable {events published : List (Envelope Content)} {subscriber : Subscriber Content} {i : ℕ}

lemma Served.call (h : Served published subscriber)
    (hvalid : subscriber.sinceIndex ≤ subscriber.joined) (event : Envelope Content) :
    Served (published ++ [event]) (subscriber.call event) := by
  obtain ⟨upTo, hjoined, hupTo, hattached, hreceived⟩ := h
  unfold Subscriber.call
  split
  · next hthere =>
    have hall := hattached hthere
    subst hall
    refine ⟨published.length + 1, Nat.le_succ_of_le hjoined, ?_, fun _ => ?_, ?_⟩
    · rw [List.length_append, List.length_singleton]
    · rw [List.length_append, List.length_singleton]
    · have hdrop : (published ++ [event]).drop subscriber.sinceIndex =
          published.drop subscriber.sinceIndex ++ [event] :=
        List.drop_append_of_le_length (hvalid.trans hjoined)
      rw [List.take_length] at hreceived
      rw [List.take_of_length_le (by simp), hdrop, List.map_append, ← hreceived]
      rfl
  · next hgone =>
    refine ⟨upTo, hjoined, ?_, fun hthere => absurd hthere hgone, ?_⟩
    · rw [List.length_append]
      omega
    · rw [List.take_append_of_le_length hupTo]
      exact hreceived

lemma full_call (subscriber : Subscriber Content) (event : Envelope Content) :
    (subscriber.call event).full = subscriber.full ∧
      (subscriber.call event).sinceIndex = subscriber.sinceIndex ∧
      (subscriber.call event).joined = subscriber.joined := by
  unfold Subscriber.call
  split
  · exact ⟨rfl, rfl, rfl⟩
  · exact ⟨rfl, rfl, rfl⟩

lemma Session.Inv.publish {event : Envelope Content} {phase : Phase Content}
    {given : List (ProviderEvent Content)} {sequence : ℕ} {known : Bool} (h : s.Inv wire)
    (hstream : Stream wire phase given (s.published ++ [event])) (hnext : sequence = given.length) :
    ({ s with phase, given, nextSequence := sequence, known }.publish wire event).Inv wire := by
  refine ⟨?_, hstream, hnext, ?_⟩
  · show s.runtime.storeEnvelope event _ = storeAll wire (s.published ++ [event])
    rw [storeAll_concat, h.runtime]
  · intro subscriber hsubscriber hfull hvalid
    obtain ⟨before, hbefore, rfl⟩ := List.mem_map.mp hsubscriber
    obtain ⟨hsame, hsince, hjoined⟩ := full_call before event
    rw [hsame] at hfull
    rw [hsince, hjoined] at hvalid
    exact (h.served before hbefore hfull hvalid).call hvalid event

lemma Session.Inv.take (h : s.Inv wire) (hphase : s.phase = .running)
    (event : ProviderEvent Content) : (s.take wire event).Inv wire := by
  obtain ⟨hgiven, hfits⟩ := Stream.of_running (hphase ▸ h.stream)
  have hlength : s.nextSequence + 1 = (s.given ++ [event]).length := by
    rw [h.next, List.length_append, List.length_singleton]
  simp only [Session.take]
  split
  · next hlarge =>
    rw [h.next] at hlarge
    have hstream : Stream wire (.cancelling s.nextSequence event) (s.given ++ [event])
        s.published := by
      rw [h.next, hgiven]
      exact .cancelling hlarge
    exact ⟨h.runtime, hstream, hlength, h.served⟩
  · next hsmall =>
    have hstream : Stream wire s.phase (s.given ++ [event])
        (s.published ++ [envelope wire s.nextSequence event]) := by
      have hconcat : numbered wire 0 (s.given ++ [event]) =
          numbered wire 0 s.given ++ [envelope wire s.given.length event] :=
        numbered_concat s.given event
      rw [hphase, hgiven, h.next, ← hconcat]
      refine .running fun e he => ?_
      rw [hconcat, List.mem_append, List.mem_singleton] at he
      rcases he with he | rfl
      · exact hfits e he
      · rw [← h.next]
        exact Nat.not_lt.mp hsmall
    exact h.publish hstream hlength

lemma sequence_getElem (h : events.map Envelope.sequence = List.range events.length)
    (hi : i < events.length) : events[i].sequence = i := by
  have hget := congrArg (fun numbers : List ℕ => numbers[i]?) h
  simpa [hi] using hget

lemma zipIdx_eq (h : events.map Envelope.sequence = List.range events.length) :
    events.zipIdx.map (fun entry => (entry.2, entry.1)) =
      events.map fun event => (event.sequence, event) := by
  refine List.ext_getElem (by simp) fun i hi _ => ?_
  have hlt : i < events.length := by simpa using hi
  simp [sequence_getElem h hlt]

lemma Session.Inv.subscribe (h : s.Inv wire) (sinceIndex : ℕ) :
    (s.subscribe sinceIndex).Inv wire := by
  refine ⟨h.runtime, h.stream, h.next, ?_⟩
  intro subscriber hsubscriber hfull hvalid
  rcases List.mem_append.mp hsubscriber with hold | hnew
  · exact h.served subscriber hold hfull hvalid
  · rw [List.mem_singleton.mp hnew] at hfull ⊢
    have hevents : s.runtime.events = s.published := by
      rw [h.runtime] at hfull ⊢
      exact (storeAll_spec wire s.published).2.1 hfull
    refine ⟨s.published.length, Nat.le_refl _, Nat.le_refl _, fun _ => rfl, ?_⟩
    show (s.runtime.events.zipIdx.drop sinceIndex).map (fun entry => (entry.2, entry.1)) =
      ((s.published.take s.published.length).drop sinceIndex).map _
    rw [hevents, List.take_length, List.map_drop, zipIdx_eq h.stream.sequences, List.map_drop]

lemma Served.leave (h : Served published subscriber) :
    Served published { subscriber with attached := false } := by
  obtain ⟨upTo, hjoined, hupTo, -, hreceived⟩ := h
  exact ⟨upTo, hjoined, hupTo, nofun, hreceived⟩

lemma mem_modify {α : Type} {f : α → α} {l : List α} {a : α} (h : a ∈ l.modify i f) :
    a ∈ l ∨ ∃ b ∈ l, a = f b := by
  obtain ⟨j, hj, rfl⟩ := List.getElem_of_mem h
  rw [List.length_modify] at hj
  rw [List.getElem_modify]
  split
  · exact .inr ⟨_, List.getElem_mem _, rfl⟩
  · exact .inl (List.getElem_mem _)

lemma Session.Inv.step {step : SessionStep Content} (h : s.Inv wire)
    (hstep : s.step wire step = some s') : s'.Inv wire := by
  cases step with
  | event event =>
    simp only [Session.step] at hstep
    split at hstep
    · next hphase =>
      cases hstep
      exact h.take hphase event
    · cases hstep
  | cancelled =>
    simp only [Session.step] at hstep
    split at hstep
    · next sequence event hphase =>
      cases hstep
      exact h.publish (Stream.fail (hphase ▸ h.stream)) h.next
    · cases hstep
  | ended error =>
    simp only [Session.step] at hstep
    split at hstep
    · next hphase =>
      cases hstep
      exact ⟨h.runtime, Stream.end (hphase ▸ h.stream), h.next, h.served⟩
    · cases hstep
  | subscribe sinceIndex =>
    obtain ⟨-, hnext⟩ := Option.ite_none_right_eq_some.mp hstep
    cases hnext
    exact h.subscribe sinceIndex
  | unsubscribe index =>
    cases hstep
    refine ⟨h.runtime, h.stream, h.next, fun subscriber hsubscriber hfull hvalid => ?_⟩
    rcases mem_modify hsubscriber with hold | ⟨before, hbefore, rfl⟩
    · exact h.served subscriber hold hfull hvalid
    · exact (h.served before hbefore hfull hvalid).leave
  | forgotten =>
    cases hstep
    exact ⟨h.runtime, h.stream, h.next, h.served⟩

lemma Session.inv_initial : Session.Inv wire {} :=
  ⟨rfl, .running nofun, rfl, nofun⟩

lemma Session.Inv.inOrder (h : s.Inv wire) : InOrder s := by
  refine ⟨fun i event hevent => ?_, h.stream.sequences, h.served⟩
  have hprefix : s.runtime.events <+: s.published := h.runtime ▸ (storeAll_spec wire s.published).1
  have hget : s.published[i]? = some event := by
    obtain ⟨rest, hrest⟩ := hprefix
    rw [← hrest, List.getElem?_append_left (List.getElem?_eq_some_iff.mp hevent).1]
    exact hevent
  obtain ⟨hlt, rfl⟩ := List.getElem?_eq_some_iff.mp hget
  exact sequence_getElem h.stream.sequences hlt

/-- The stored events have their places as numbers, the published ones the numbers from zero on, and
a subscriber that came before the history was full gets all events that it had not seen.  The last
published event is the only terminal one if and only if the provider ended so or was cut off before. -/
theorem session_numbered (wire : Wire Content) (steps : List (SessionStep Content))
    (hrun : runSteps (Session.step wire) steps {} = some s) :
    InOrder s ∧ (s.phase = .finished → (Ended s.published ↔ EndsOnce wire s.given)) := by
  have hinv : s.Inv wire :=
    runSteps_induction (fun s s' step h hstep => h.step hstep) Session.inv_initial hrun
  exact ⟨hinv.inOrder, fun hphase => (hphase ▸ hinv.stream).ended_iff⟩

/-! ## A session with a subscriber, and one whose provider throws -/

def sampleEvent (type : Sessions.AgentEventType) : ProviderEvent ℕ where
  type := type
  content := 0
  attached := none
  failure := 0

def sampleSession : List (SessionStep ℕ) :=
  [.event (sampleEvent .sessionStarted), .subscribe 0, .event (sampleEvent .sessionCompleted),
    .ended none]

theorem session_numbered_sample :
    runSteps (Session.step plainWire) sampleSession {} =
        some ((runSteps (Session.step plainWire) sampleSession {}).getD {}) ∧
      InOrder ((runSteps (Session.step plainWire) sampleSession {}).getD {}) :=
  have hrun := (Option.getD_of_ne_none (by decide +kernel) _).symm
  ⟨hrun, (session_numbered plainWire sampleSession hrun).1⟩

/-- A provider that throws ends the session without a terminal event. -/
theorem session_without_end :
    runSteps (Session.step plainWire) [.ended (some "spawn failed")] {} =
        some { phase := .finished } ∧
      ¬ Ended ({ phase := .finished } : Session ℕ).published :=
  ⟨rfl, fun h => h.ne_nil rfl⟩

end VacancyRadar.Sse
