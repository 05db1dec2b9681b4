import VacancyRadar.Sse.Order
import VacancyRadar.Sse.Text

/-!
# Replaying the history of a session

A subscriber of a session that has ended gets the stored events all at once, before the output has a
chance to drain.  It gets all of them if those that are written after the output was full for the
first time fit in the queue of the writer.
-/

namespace VacancyRadar.Sse

variable {Content : Type} {output : Output} {wire : Wire Content}

/-! ## The stored events -/

def maxStoredEvents : ℕ := 5000

def maxStoredEventBytes : ℕ := 16 * 1024 * 1024

/-- The fields of a `RuntimeState` that have to do with replay. -/
structure Runtime (Content : Type) where
  events : List (Envelope Content) := []
  replayBytes : ℕ := 0
  replayFull : Bool := false

def Runtime.storeEnvelope (runtime : Runtime Content) (envelope : Envelope Content) (bytes : ℕ) :
    Runtime Content :=
  if runtime.replayFull = false ∧ runtime.events.length < maxStoredEvents ∧
      runtime.replayBytes + bytes ≤ maxStoredEventBytes then
    { runtime with
      events := runtime.events ++ [envelope]
      replayBytes := runtime.replayBytes + bytes }
  else { runtime with replayFull := true }

def storeAll (wire : Wire Content) (admitted : List (Envelope Content)) : Runtime Content :=
  admitted.foldl
    (fun runtime event => runtime.storeEnvelope event (utf8ByteLength (wire.stringify event))) {}

def OnlyLast {α : Type} (p : α → Bool) (l : List α) : Prop :=
  ∃ front last, l = front ++ [last] ∧ p last = true ∧ ∀ a ∈ front, p a = false

def Ended (admitted : List (Envelope Content)) : Prop :=
  OnlyLast (fun event => isTerminal event.type) admitted

/-- What a subscription without `Last-Event-ID` does to the writer: `subscribe` replays the stored
events, and then the route calls `finishReplay`. -/
def replayMoves (history : List (Envelope Content)) : List (WriterMove Content) :=
  .start :: history.map .write ++ [.finishReplay]

structure Steady (output : Output) : Prop where
  write : ∀ n, output.write n ≠ .throws
  closing : ∀ n, output.closing n = false
  once : ∀ n, output.onceThrows n = false

def afterFull (output : Output) : ℕ → List (Envelope Content) → List (Envelope Content)
  | _, [] => []
  | n, _ :: events =>
    if output.write n = .full then events else afterFull output (n + 1) events

def replayQueue (output : Output) (history : List (Envelope Content)) : List (Envelope Content) :=
  if output.write 0 = .full then history else afterFull output 1 history

def FitsQueue (wire : Wire Content) (events : List (Envelope Content)) : Prop :=
  events.length ≤ maxQueuedEvents ∧
    (events.map fun event => (queuedFrame wire event).bytes).sum ≤ maxQueuedBytes

/-! ## Writing to an output that never fails -/

def Writer.called (s : Writer) (call : Call) : Writer := { s with calls := s.calls ++ [call] }

def Writer.waiting (s : Writer) (ending : Bool) : Writer :=
  { s with backpressured := true, endAfterDrain := ending, drainArmed := true, listening := true }

lemma output_eq (h : Steady output) (s : Writer) (call : Call) :
    s.output output call = (output.write s.writes, s.called call) := by
  unfold Writer.output
  dsimp only
  rw [h.closing, if_neg (by simp)]
  rfl

variable {s : Writer} {α : Type} {events front : List (Envelope Content)} {target : List QueuedFrame}
  {moves : List (WriterMove Content)}

lemma handOff_eq (h : Steady output) {queued : QueuedFrame} (hopen : s.closed = false)
    (harmed : s.drainArmed = false) :
    s.handOff output queued =
      if output.write s.writes = .full then (s.called (.frame queued)).waiting queued.terminal
      else if queued.terminal then (s.called (.frame queued)).finish output
      else s.called (.frame queued) := by
  unfold Writer.handOff
  rw [output_eq h]
  cases hwrite : output.write s.writes with
  | throws => exact absurd hwrite (h.write _)
  | ready => simp
  | full =>
    rw [if_pos rfl]
    dsimp only
    unfold Writer.armDrain
    rw [if_neg (by simp [Writer.called, hopen, harmed]), h.once, if_neg (by simp)]
    rfl

@[simp]
lemma writes_called_frame (s : Writer) (queued : QueuedFrame) :
    (s.called (.frame queued)).writes = s.writes + 1 := by
  simp [Writer.called, Writer.writes, Call.isWrite]

@[simp]
lemma frames_called_frame (s : Writer) (queued : QueuedFrame) :
    (s.called (.frame queued)).frames = s.frames ++ [queued] := by
  simp [Writer.called, Writer.frames, Call.frame?]

lemma frames_finish (output : Output) (s : Writer) : (s.finish output).frames = s.frames := by
  unfold Writer.finish
  split
  · rfl
  · simp [Writer.frames, Call.frame?]

lemma onlyLast_cons {p : α → Bool} {a : α} {l : List α} (h : OnlyLast p (a :: l)) :
    l = [] ∧ p a = true ∨ p a = false ∧ OnlyLast p l := by
  obtain ⟨front, last, heq, hlast, hfront⟩ := h
  cases front with
  | nil =>
    obtain ⟨rfl, rfl⟩ := List.cons.inj heq
    exact .inl ⟨rfl, hlast⟩
  | cons first front =>
    obtain ⟨rfl, rfl⟩ := List.cons.inj heq
    refine .inr ⟨hfront a List.mem_cons_self, front, last, rfl, hlast, ?_⟩
    exact fun b hb => hfront b (List.mem_cons_of_mem _ hb)

lemma OnlyLast.ne_nil {p : α → Bool} {l : List α} (h : OnlyLast p l) : l ≠ []:= by
  rintro rfl
  obtain ⟨front, last, heq, -⟩ := h
  simp at heq

lemma Ended.onlyLast (h : Ended events) :
    OnlyLast QueuedFrame.terminal (events.map (queuedFrame wire)) := by
  obtain ⟨front, last, rfl, hlast, hfront⟩ := h
  refine ⟨front.map (queuedFrame wire), queuedFrame wire last, by simp, hlast, ?_⟩
  intro queued hqueued
  obtain ⟨event, hevent, rfl⟩ := List.mem_map.mp hqueued
  exact hfront event hevent

def Finished (target : List QueuedFrame) (s : Writer) : Prop :=
  s.closed = true ∧ s.frames = target

structure Waiting (target : List QueuedFrame) (s : Writer) : Prop where
  closed : s.closed = false
  listening : s.listening = true
  frames : s.frames ++ s.queue = target
  rest : s.endAfterDrain = true ∧ s.queue = [] ∨ s.endAfterDrain = false ∧ OnlyLast QueuedFrame.terminal s.queue

/-! ## Draining -/

lemma handOffQueue_cases (h : Steady output) {queue : List QueuedFrame} (hqueue : s.queue = queue)
    (hends : OnlyLast QueuedFrame.terminal queue) (hopen : s.closed = false)
    (hidle : s.backpressured = false) (harmed : s.drainArmed = false) :
    Finished (s.frames ++ queue) (Writer.handOffQueue output queue s) ∨
      Waiting (s.frames ++ queue) (Writer.handOffQueue output queue s) ∧
        (Writer.handOffQueue output queue s).queue.length < queue.length := by
  induction queue generalizing s with
  | nil => exact absurd rfl hends.ne_nil
  | cons queued queue ih =>
    unfold Writer.handOffQueue
    rw [if_neg (by simp [hopen, hidle])]
    generalize ht : { s with queue, queuedBytes := s.queuedBytes - queued.bytes } = t
    have hframes : t.frames = s.frames := by rw [← ht]; rfl
    have hclosed : t.closed = false := by rw [← ht]; exact hopen
    have harmed' : t.drainArmed = false := by rw [← ht]; exact harmed
    have hqueue' : t.queue = queue := by rw [← ht]
    have hidle' : t.backpressured = false := by rw [← ht]; exact hidle
    have htarget : s.frames ++ queued :: queue = (t.called (.frame queued)).frames ++ queue := by
      rw [frames_called_frame, hframes, List.append_assoc]
      rfl
    rw [handOff_eq h hclosed harmed', htarget]
    by_cases hfull : output.write t.writes = .full
    · rw [if_pos hfull]
      -- The loop stops here.
      have hstop : Writer.handOffQueue output queue
          ((t.called (.frame queued)).waiting queued.terminal) =
          (t.called (.frame queued)).waiting queued.terminal := by
        cases queue with
        | nil => rfl
        | cons next queue =>
          unfold Writer.handOffQueue
          rw [if_pos (.inr rfl)]
      rw [hstop]
      refine .inr ⟨⟨hclosed, rfl, ?_, ?_⟩, ?_⟩
      · change (t.called (.frame queued)).frames ++ t.queue = _
        rw [hqueue']
      · rcases onlyLast_cons hends with ⟨hnil, hterminal⟩ | ⟨hterminal, hrest⟩
        · exact .inl ⟨hterminal, hqueue'.trans hnil⟩
        · refine .inr ⟨hterminal, ?_⟩
          change OnlyLast QueuedFrame.terminal t.queue
          rw [hqueue']
          exact hrest
      · change t.queue.length < _
        rw [hqueue', List.length_cons]
        omega
    · rw [if_neg hfull]
      rcases onlyLast_cons hends with ⟨rfl, hterminal⟩ | ⟨hterminal, hrest⟩
      · rw [if_pos hterminal, Writer.handOffQueue, List.append_nil]
        exact .inl ⟨closed_finish .., frames_finish ..⟩
      · rw [if_neg (by simp [hterminal])]
        have hnext := ih (s := t.called (.frame queued)) hqueue' hrest hclosed hidle' harmed'
        refine hnext.imp_right fun hwaiting => ⟨hwaiting.1, ?_⟩
        exact hwaiting.2.trans (by rw [List.length_cons]; omega)

lemma Waiting.drain (h : Steady output) (hs : Waiting target s) :
    Finished target (s.step output wire .drain) ∨
      Waiting target (s.step output wire .drain) ∧
        (s.step output wire .drain).queue.length < s.queue.length := by
  have hstep : s.step output wire .drain = { s with listening := false }.handleDrain output :=
    if_pos hs.listening
  have hopen := hs.closed
  rw [hstep]
  unfold Writer.handleDrain
  rw [if_neg (by simp [hopen])]
  rcases hs.rest with ⟨hend, hqueue⟩ | ⟨hend, hends⟩
  · rw [if_pos hend]
    refine .inl ⟨closed_finish .., ?_⟩
    rw [frames_finish]
    have hframes := hs.frames
    rw [hqueue, List.append_nil] at hframes
    exact hframes
  · rw [if_neg (by simp [hend])]
    have hcases := handOffQueue_cases h
      (s := { s with listening := false, drainArmed := false, backpressured := false })
      rfl hends hopen rfl rfl
    have hframes : ({ s with listening := false, drainArmed := false, backpressured := false } :
        Writer).frames ++ s.queue = target := hs.frames
    rw [hframes] at hcases
    exact hcases

lemma Finished.run (hs : Finished target s) : Finished target (Writer.run output wire moves s):= by
  induction moves generalizing s with
  | nil => exact hs
  | cons move moves ih =>
    obtain ⟨hcalls, hclosed⟩ := calls_step_of_closed hs.1
    refine ih ⟨hclosed, ?_⟩
    rw [Writer.frames, hcalls]
    exact hs.2

lemma Waiting.finished (h : Steady output) {target : List QueuedFrame} {s : Writer}
    (hs : Waiting target s) {m : ℕ} (hm : s.queue.length < m) :
    Finished target (Writer.run output wire (List.replicate m .drain) s) := by
  induction m generalizing s with
  | zero => omega
  | succ m ih =>
    rw [List.replicate_succ, Writer.run, List.foldl_cons]
    rcases hs.drain h with hfinished | ⟨hwaiting, hless⟩
    · exact hfinished.run
    · exact ih hwaiting (by omega)

/-! ## Replaying -/

structure Filling (s : Writer) : Prop where
  closed : s.closed = false
  backpressured : s.backpressured = true
  listening : s.listening = true
  endAfterDrain : s.endAfterDrain = false
  terminalReceived : s.terminalReceived = false
  queue : ∀ queued ∈ s.queue, queued.terminal = false

lemma run_map_write_cons (event : Envelope Content) (events : List (Envelope Content)) (s : Writer) :
    Writer.run output wire ((event :: events).map .write) s =
      Writer.run output wire (events.map .write) (s.write output wire event) := rfl

def Writer.enqueue (s : Writer) (frame : QueuedFrame) : Writer :=
  { s with
    terminalReceived := frame.terminal
    queue := s.queue ++ [frame]
    queuedBytes := s.queuedBytes + frame.bytes }

lemma Filling.write (hs : Filling s) (event : Envelope Content) : s.write output wire event =
    if maxQueuedEvents ≤ s.queue.length ∨
        maxQueuedBytes < s.queuedBytes + (queuedFrame wire event).bytes then
      { s with terminalReceived := (queuedFrame wire event).terminal, queue := [],
               queuedBytes := 0 }.finish output
    else s.enqueue (queuedFrame wire event) := by
  unfold Writer.write
  rw [if_neg (by simp [hs.closed, hs.terminalReceived])]
  rw [if_pos hs.backpressured]
  rfl

lemma Filling.enqueue {frame : QueuedFrame} (hs : Filling s) (hterminal : frame.terminal = false) :
    Filling (s.enqueue frame) := by
  refine ⟨hs.closed, hs.backpressured, hs.listening, hs.endAfterDrain, hterminal, ?_⟩
  intro f hf
  rcases List.mem_append.mp hf with hold | hnew
  · exact hs.queue f hold
  · rw [List.mem_singleton.mp hnew]
    exact hterminal

variable (output) in
lemma Filling.run (hs : Filling s) (hended : Ended events)
    (hlength : s.queue.length + events.length ≤ maxQueuedEvents)
    (hsize : s.queuedBytes + (events.map fun event => (queuedFrame wire event).bytes).sum ≤
      maxQueuedBytes) :
    Waiting (s.frames ++ s.queue ++ events.map (queuedFrame wire))
        (Writer.run output wire (events.map .write) s) ∧
      (Writer.run output wire (events.map .write) s).terminalReceived = true ∧
      (Writer.run output wire (events.map .write) s).queue.length = s.queue.length + events.length := by
  induction events generalizing s with
  | nil => exact absurd rfl hended.ne_nil
  | cons event events ih =>
    rw [List.length_cons] at hlength
    rw [List.map_cons, List.sum_cons] at hsize
    rw [run_map_write_cons, hs.write, if_neg (by rw [not_or]; constructor <;> omega)]
    rcases onlyLast_cons hended with ⟨rfl, hterminal⟩ | ⟨hterminal, hrest⟩
    · refine ⟨⟨hs.closed, hs.listening, ?_, .inr ⟨hs.endAfterDrain, ?_⟩⟩, hterminal, ?_⟩
      · exact (List.append_assoc ..).symm
      · exact ⟨s.queue, queuedFrame wire event, rfl, hterminal, hs.queue⟩
      · exact List.length_append
    · have hlonger : (s.enqueue (queuedFrame wire event)).queue.length = s.queue.length + 1 :=
        List.length_append
      have hbytes : (s.enqueue (queuedFrame wire event)).queuedBytes =
          s.queuedBytes + (queuedFrame wire event).bytes := rfl
      obtain ⟨hwaiting, hreceived, hlast⟩ := ih (hs.enqueue hterminal) hrest
        (by rw [hlonger]; omega) (by rw [hbytes]; omega)
      refine ⟨?_, hreceived, ?_⟩
      · have htarget : s.frames ++ s.queue ++ (event :: events).map (queuedFrame wire) =
            s.frames ++ (s.queue ++ [queuedFrame wire event]) ++ events.map (queuedFrame wire) := by
          simp
        rw [htarget]
        exact hwaiting
      · rw [hlast, hlonger, List.length_cons]
        omega

structure Idle (s : Writer) : Prop where
  closed : s.closed = false
  backpressured : s.backpressured = false
  drainArmed : s.drainArmed = false
  terminalReceived : s.terminalReceived = false
  queue : s.queue = []
  queuedBytes : s.queuedBytes = 0

lemma Idle.write_eq {event : Envelope Content} (hs : Idle s) :
    s.write output wire event =
      { s with terminalReceived := (queuedFrame wire event).terminal }.handOff output
        (queuedFrame wire event) := by
  unfold Writer.write
  rw [if_neg (by simp [hs.closed, hs.terminalReceived])]
  rw [if_neg (by simp [hs.backpressured])]

lemma Idle.run (h : Steady output) (hs : Idle s) (hended : Ended events)
    (hfits : FitsQueue wire (afterFull output s.writes events)) :
    Finished (s.frames ++ events.map (queuedFrame wire))
        (Writer.run output wire (events.map .write) s) ∨
      Waiting (s.frames ++ events.map (queuedFrame wire))
          (Writer.run output wire (events.map .write) s) ∧
        (Writer.run output wire (events.map .write) s).terminalReceived = true ∧
        (Writer.run output wire (events.map .write) s).queue.length ≤ events.length := by
  induction events generalizing s with
  | nil => exact absurd rfl hended.ne_nil
  | cons event events ih =>
    set queued := queuedFrame wire event with hqueued
    set t : Writer := { s with terminalReceived := queued.terminal } with ht
    have hwrite : s.write output wire event =
        if output.write s.writes = .full then (t.called (.frame queued)).waiting queued.terminal
        else if queued.terminal then (t.called (.frame queued)).finish output
        else t.called (.frame queued) := by
      rw [hs.write_eq]
      exact handOff_eq h hs.closed hs.drainArmed
    have htarget : s.frames ++ (event :: events).map (queuedFrame wire) =
        (t.called (.frame queued)).frames ++ events.map (queuedFrame wire) := by
      rw [frames_called_frame, List.append_assoc]
      rfl
    rw [htarget, run_map_write_cons, hwrite]
    unfold afterFull at hfits
    by_cases hfull : output.write s.writes = .full
    · rw [if_pos hfull] at hfits ⊢
      rcases onlyLast_cons hended with ⟨rfl, hterminal⟩ | ⟨hterminal, hrest⟩
      · refine .inr ⟨⟨hs.closed, rfl, ?_, .inl ⟨hterminal, hs.queue⟩⟩, hterminal, ?_⟩
        · change (t.called (.frame queued)).frames ++ s.queue = _
          rw [hs.queue]
          rfl
        · change s.queue.length ≤ _
          rw [hs.queue]
          exact Nat.zero_le _
      · set r := (t.called (.frame queued)).waiting queued.terminal with hr
        have hqueue : r.queue = [] := hs.queue
        have hbytes : r.queuedBytes = 0 := hs.queuedBytes
        have hfilling : Filling r := by
          refine ⟨hs.closed, rfl, rfl, hterminal, hterminal, ?_⟩
          rw [hqueue]
          exact fun f hf => nomatch hf
        have hrun := hfilling.run output hrest
          (by rw [hqueue, List.length_nil, Nat.zero_add]; exact hfits.1)
          (by rw [hbytes, Nat.zero_add]; exact hfits.2)
        rw [hqueue, List.append_nil] at hrun
        refine .inr ⟨hrun.1, hrun.2.1, ?_⟩
        rw [hrun.2.2, List.length_nil, List.length_cons]
        omega
    · rw [if_neg hfull] at hfits ⊢
      rcases onlyLast_cons hended with ⟨rfl, hterminal⟩ | ⟨hterminal, hrest⟩
      · have hyes : queued.terminal = true := hterminal
        rw [if_pos hyes, List.map_nil, List.append_nil]
        exact .inl ⟨closed_finish .., frames_finish ..⟩
      · have hnot : queued.terminal = false := hterminal
        rw [if_neg (by simp [hnot])]
        have hidle : Idle (t.called (.frame queued)) :=
          ⟨hs.closed, hs.backpressured, hs.drainArmed, hterminal, hs.queue, hs.queuedBytes⟩
        have hwrites : (t.called (.frame queued)).writes = s.writes + 1 := writes_called_frame t queued
        rw [← hwrites] at hfits
        refine (ih hidle hrest hfits).imp_right fun hnext => ⟨hnext.1, hnext.2.1, ?_⟩
        exact hnext.2.2.trans (by rw [List.length_cons]; omega)

variable (wire) in
lemma Idle.run_ready (h : Steady output) (hready : ∀ n, output.write n = .ready) (hs : Idle s)
    (hevents : ∀ event ∈ events, isTerminal event.type = false) :
    Idle (Writer.run output wire (events.map .write) s) ∧
      (Writer.run output wire (events.map .write) s).frames =
        s.frames ++ events.map (queuedFrame wire) := by
  induction events generalizing s with
  | nil => exact ⟨hs, (List.append_nil _).symm⟩
  | cons event events ih =>
    have hterminal : (queuedFrame wire event).terminal = false := hevents event List.mem_cons_self
    set t : Writer := { s with terminalReceived := (queuedFrame wire event).terminal } with ht
    have hwrite : s.write output wire event = t.called (.frame (queuedFrame wire event)) := by
      rw [hs.write_eq]
      have hopen : t.closed = false := hs.closed
      have harmed : t.drainArmed = false := hs.drainArmed
      rw [handOff_eq h hopen harmed, hready, if_neg (by simp), if_neg (by simp [hterminal])]
    have hidle : Idle (s.write output wire event) := by
      rw [hwrite]
      exact ⟨hs.closed, hs.backpressured, hs.drainArmed, hterminal, hs.queue, hs.queuedBytes⟩
    have hframes : (s.write output wire event).frames = s.frames ++ [queuedFrame wire event] := by
      rw [hwrite, frames_called_frame]
      rfl
    obtain ⟨hrun, hall⟩ := ih hidle fun e he => hevents e (List.mem_cons_of_mem _ he)
    rw [run_map_write_cons]
    refine ⟨hrun, ?_⟩
    rw [hall, hframes, List.append_assoc]
    rfl

lemma storeAll_concat (published : List (Envelope Content)) (event : Envelope Content) :
    storeAll wire (published ++ [event]) =
      (storeAll wire published).storeEnvelope event (utf8ByteLength (wire.stringify event)) := by
  rw [storeAll, List.foldl_concat]
  rfl

lemma storeAll_spec (wire : Wire Content) (admitted : List (Envelope Content)) :
    (storeAll wire admitted).events <+: admitted ∧
      ((storeAll wire admitted).replayFull = false → (storeAll wire admitted).events = admitted) ∧
      ((storeAll wire admitted).replayFull = true →
        (storeAll wire admitted).events.length < admitted.length) := by
  induction admitted using List.reverseRecOn with
  | nil => exact ⟨List.prefix_refl _, fun _ => rfl, fun hfull => nomatch hfull⟩
  | append_singleton admitted event ih =>
    obtain ⟨hbegin, hall, -⟩ := ih
    rw [storeAll_concat, Runtime.storeEnvelope]
    split
    · next hroom =>
      have heq := hall hroom.1
      refine ⟨by rw [heq], fun _ => by rw [heq], fun hfull => ?_⟩
      rw [hroom.1] at hfull
      cases hfull
    · refine ⟨hbegin.trans (List.prefix_append ..), (fun hfull => nomatch hfull), fun _ => ?_⟩
      rw [List.length_append, List.length_singleton]
      exact Nat.lt_succ_of_le hbegin.length_le

lemma start_eq (h : Steady output) :
    ({} : Writer).start output =
      if output.write 0 = .full then (({} : Writer).called .comment).waiting false
      else ({} : Writer).called .comment := by
  unfold Writer.start
  rw [if_neg (by simp), output_eq h]
  have hwrites : ({} : Writer).writes = 0 := rfl
  rw [hwrites]
  cases hwrite : output.write 0 with
  | throws => exact absurd hwrite (h.write _)
  | ready => rfl
  | full =>
    rw [if_pos rfl]
    dsimp only
    unfold Writer.armDrain
    rw [if_neg (by simp [Writer.called]), h.once, if_neg (by simp)]
    rfl

def Writer.replayed (output : Output) (wire : Wire Content) (events : List (Envelope Content)) : Writer :=
  Writer.run output wire (events.map .write) (({} : Writer).start output)

lemma run_replayMoves (output : Output) (wire : Wire Content) (events : List (Envelope Content)) (m : ℕ) :
    Writer.run output wire (replayMoves events ++ List.replicate m .drain) {} =
      Writer.run output wire (List.replicate m .drain)
        ((Writer.replayed output wire events).finishReplay output) := by
  rw [Writer.run, List.foldl_append, replayMoves, List.foldl_append]
  rfl

lemma idle_comment : Idle (({} : Writer).called .comment) := ⟨rfl, rfl, rfl, rfl, rfl, rfl⟩

lemma replayed_cases (h : Steady output) (hended : Ended events)
    (hfits : FitsQueue wire (replayQueue output events)) :
    Finished (events.map (queuedFrame wire)) (Writer.replayed output wire events) ∨
      Waiting (events.map (queuedFrame wire)) (Writer.replayed output wire events) ∧
        (Writer.replayed output wire events).terminalReceived = true ∧
        (Writer.replayed output wire events).queue.length ≤ events.length := by
  unfold Writer.replayed
  unfold replayQueue at hfits
  rw [start_eq h]
  by_cases hfull : output.write 0 = .full
  · rw [if_pos hfull] at hfits ⊢
    have hfilling : Filling ((({} : Writer).called .comment).waiting false) :=
      ⟨rfl, rfl, rfl, rfl, rfl, fun _ hf => absurd hf List.not_mem_nil⟩
    obtain ⟨hwaiting, hreceived, hlength⟩ := hfilling.run output hended
      ((Nat.zero_add _).trans_le hfits.1) ((Nat.zero_add _).trans_le hfits.2)
    refine .inr ⟨hwaiting, hreceived, ?_⟩
    rw [hlength]
    exact (Nat.zero_add _).le
  · rw [if_neg hfull] at hfits ⊢
    exact idle_comment.run h hended hfits

/-- The replay of a session that has ended, on an output that never fails and drains in the end.  If
the history has the terminal event, and the events after the first write that found the output full
fit in the queue, all stored events are written in order and the connection is ended; without the
terminal event they are if the output is never full. -/
theorem replay_complete (h : Steady output) (wire : Wire Content) {admitted : List (Envelope Content)}
    (hended : Ended admitted) :
    ((storeAll wire admitted).replayFull = false →
      FitsQueue wire (replayQueue output (storeAll wire admitted).events) →
      ∃ n, ∀ m, n ≤ m →
        (Writer.run output wire
          (replayMoves (storeAll wire admitted).events ++ List.replicate m .drain) {}).closed = true ∧
        (Writer.run output wire
          (replayMoves (storeAll wire admitted).events ++ List.replicate m .drain) {}).frames =
          (storeAll wire admitted).events.map (queuedFrame wire) ∧
        OnlyLast QueuedFrame.terminal ((storeAll wire admitted).events.map (queuedFrame wire))) ∧
    ((storeAll wire admitted).replayFull = true → (∀ n, output.write n = .ready) →
      (Writer.run output wire (replayMoves (storeAll wire admitted).events) {}).closed = true ∧
      (Writer.run output wire (replayMoves (storeAll wire admitted).events) {}).frames =
        (storeAll wire admitted).events.map (queuedFrame wire)) := by
  obtain ⟨hbegin, hall, hless⟩ := storeAll_spec wire admitted
  constructor
  · intro hstored hfits
    rw [hall hstored] at hfits ⊢
    refine ⟨admitted.length + 1, fun m hm => ?_⟩
    rw [and_comm (a := _ = _) (b := OnlyLast _ _), ← and_assoc, and_right_comm]
    refine ⟨?_, hended.onlyLast⟩
    change Finished (admitted.map (queuedFrame wire)) _
    rw [run_replayMoves]
    rcases replayed_cases h hended hfits with hfinished | ⟨hwaiting, hreceived, hlength⟩
    · have hstay : Finished (admitted.map (queuedFrame wire))
          (Writer.run output wire [.finishReplay] _) := hfinished.run
      exact hstay.run
    · have hsame : ∀ s : Writer, s.terminalReceived = true → s.finishReplay output = s :=
        fun s hs => if_pos hs
      rw [hsame _ hreceived]
      exact hwaiting.finished h (by omega)
  · intro hfull hready
    have hevents : ∀ event ∈ (storeAll wire admitted).events, isTerminal event.type = false := by
      obtain ⟨front, last, rfl, -, hfront⟩ := hended
      have hshort := hless hfull
      rw [List.length_append, List.length_singleton] at hshort
      have hstored : (storeAll wire (front ++ [last])).events <+: front :=
        List.prefix_of_prefix_length_le hbegin (List.prefix_append ..) (by omega)
      exact fun event hevent => hfront event (hstored.subset hevent)
    have hmoves := run_replayMoves output wire (storeAll wire admitted).events 0
    rw [List.replicate_zero, List.append_nil] at hmoves
    obtain ⟨hidle, hframes⟩ := idle_comment.run_ready wire h hready hevents
    rw [hmoves, Writer.replayed, start_eq h, hready, if_neg (by simp)]
    show (Writer.finishReplay _ _).closed = true ∧ (Writer.finishReplay _ _).frames = _
    unfold Writer.finishReplay
    rw [if_neg (by simp [hidle.terminalReceived])]
    refine ⟨closed_finish .., ?_⟩
    rw [frames_finish, hframes]
    rfl

def fullOutput : Output := { write := fun _ => .full }

lemma steady_fullOutput : Steady fullOutput :=
  ⟨fun _ => (fun h => nomatch h), fun _ => rfl, fun _ => rfl⟩

def plainSession (count : ℕ) : List (Envelope ℕ) :=
  (List.range count).map (fun n => { sequence := n, type := .status, content := 0 }) ++
    [{ sequence := count, type := .sessionCompleted, content := 0 }]

lemma ended_plainSession (count : ℕ) : Ended (plainSession count) := by
  refine ⟨_, _, rfl, rfl, fun event hevent => ?_⟩
  obtain ⟨n, -, rfl⟩ := List.mem_map.mp hevent
  rfl

theorem replay_complete_sample :
    (storeAll plainWire (plainSession 2)).events.length = 3 ∧
    ∃ n, ∀ m, n ≤ m →
      (Writer.run fullOutput plainWire
        (replayMoves (storeAll plainWire (plainSession 2)).events ++ List.replicate m .drain)
        {}).frames =
        (storeAll plainWire (plainSession 2)).events.map (queuedFrame plainWire) := by
  have hstored : (storeAll plainWire (plainSession 2)).events.length = 3 ∧
      (storeAll plainWire (plainSession 2)).replayFull = false := by
    decide
  have hfits : FitsQueue plainWire
      (replayQueue fullOutput (storeAll plainWire (plainSession 2)).events) := by
    unfold FitsQueue
    decide
  obtain ⟨n, hn⟩ := (replay_complete steady_fullOutput plainWire (ended_plainSession 2)).1
    hstored.2 hfits
  exact ⟨hstored.1, n, fun m hm => (hn m hm).2.1⟩

/-! ## A history that does not fit -/

lemma Filling.run_or_closed (hs : Filling s) (hevents : ∀ event ∈ events, isTerminal event.type = false)
    (hlength : s.queue.length ≤ maxQueuedEvents) :
    (Writer.run output wire (events.map .write) s).closed = true ∧
        (Writer.run output wire (events.map .write) s).frames = s.frames ∨
      s.queue.length + events.length ≤ maxQueuedEvents := by
  induction events generalizing s with
  | nil => exact .inr hlength
  | cons event events ih =>
    have hterminal : (queuedFrame wire event).terminal = false := hevents event List.mem_cons_self
    rw [run_map_write_cons, hs.write]
    split
    · have hfinished : Finished s.frames
          ({ s with terminalReceived := (queuedFrame wire event).terminal, queue := [],
                    queuedBytes := 0 }.finish output) := ⟨closed_finish .., frames_finish ..⟩
      exact .inl hfinished.run
    · next hroom =>
      have hlonger : (s.enqueue (queuedFrame wire event)).queue.length = s.queue.length + 1 :=
        List.length_append
      have hnext := ih (hs.enqueue hterminal) (fun e he => hevents e (List.mem_cons_of_mem _ he)) (by
        rw [hlonger]
        omega)
      refine hnext.imp_right fun hle => ?_
      rw [hlonger] at hle
      rw [List.length_cons]
      omega

lemma storeAll_of_le {bound : ℕ} {admitted : List (Envelope Content)}
    (hbytes : ∀ event ∈ admitted, utf8ByteLength (wire.stringify event) ≤ bound)
    (hcount : admitted.length ≤ maxStoredEvents)
    (hsize : admitted.length * bound ≤ maxStoredEventBytes) :
    (storeAll wire admitted).replayFull = false ∧
      (storeAll wire admitted).replayBytes ≤ admitted.length * bound := by
  induction admitted using List.reverseRecOn with
  | nil => exact ⟨rfl, Nat.zero_le _⟩
  | append_singleton admitted event ih =>
    rw [List.length_append, List.length_singleton] at hcount hsize ⊢
    rw [Nat.add_mul, Nat.one_mul] at hsize ⊢
    obtain ⟨hnotFull, hstored⟩ := ih (fun e he => hbytes e (List.mem_append_left _ he)) (by omega)
      (by omega)
    have hevent := hbytes event (List.mem_append_right _ List.mem_cons_self)
    have hlength := (storeAll_spec wire admitted).1.length_le
    rw [storeAll_concat, Runtime.storeEnvelope, if_pos ⟨hnotFull, by omega, by omega⟩]
    exact ⟨hnotFull, by dsimp only; omega⟩

lemma utf8ByteLength_le (text : List Char) : utf8ByteLength text ≤ 4 * text.length := by
  induction text with
  | nil => exact Nat.le_refl 0
  | cons c text ih =>
    have hsize := Char.utf8Size_le_four c
    have hcons : utf8ByteLength (c :: text) = c.utf8Size + utf8ByteLength text := by
      rw [utf8ByteLength, utf8, List.flatMap_cons, List.length_append, String.length_utf8EncodeChar]
      rfl
    rw [hcons, List.length_cons]
    omega

lemma events_storeAll_plainSession {count : ℕ} (hcount : count < 1000) :
    (storeAll plainWire (plainSession count)).events = plainSession count := by
  have hlength : (plainSession count).length = count + 1 := by simp [plainSession]
  have hbytes : ∀ event ∈ plainSession count,
      utf8ByteLength (plainWire.stringify event) ≤ 500 := by
    intro event hevent
    have hnumber : event.sequence < 1000 := by
      rcases List.mem_append.mp hevent with hstatus | hlast
      · obtain ⟨n, hn, rfl⟩ := List.mem_map.mp hstatus
        exact (List.mem_range.mp hn).trans hcount
      · rw [List.mem_singleton.mp hlast]
        exact hcount
    have hdigits : (toString event.sequence).toList.length ≤ 3 := by
      rw [Nat.toString_eq_ofList_toDigits, String.toList_ofList]
      exact (Nat.length_toDigits_le_iff (by decide) (by decide)).mpr hnumber
    have htype : (typeField event.type).length ≤ 40 := by
      cases event.type <;> decide
    have hname : "\"sequence\":".toList.length = 11 := by decide
    have htimestamp : timestampField.length = 39 := by decide
    have hsequence : (sequenceField event.sequence).length ≤ 14 := by
      have happend : (sequenceField event.sequence).length =
          "\"sequence\":".toList.length + (toString event.sequence).toList.length := List.length_append
      omega
    have hcontent : event.content = 0 := by
      rcases List.mem_append.mp hevent with hstatus | hlast
      · obtain ⟨n, -, rfl⟩ := List.mem_map.mp hstatus
        rfl
      · rw [List.mem_singleton.mp hlast]
    have htext := length_plainText event
    have hle := utf8ByteLength_le (plainText event)
    change utf8ByteLength (plainText event) ≤ 500
    omega
  have hstored := storeAll_of_le hbytes
    (by rw [hlength, maxStoredEvents]; omega) (by rw [hlength, maxStoredEventBytes]; omega)
  exact (storeAll_spec plainWire (plainSession count)).2.1 hstored.1

lemma frames_replay_eq_nil (h : Steady output) (hfull : output.write 0 = .full) {last : Envelope Content}
    (hfront : ∀ event ∈ front, isTerminal event.type = false) (hlength : maxQueuedEvents < front.length)
    (moves : List (WriterMove Content)) :
    (Writer.run output wire (replayMoves (front ++ [last]) ++ moves) {}).frames = [] := by
  have hfilling : Filling ((({} : Writer).called .comment).waiting false) :=
    ⟨rfl, rfl, rfl, rfl, rfl, fun f hf => nomatch hf⟩
  have hfinished : Finished [] (Writer.run output wire (front.map .write)
      ((({} : Writer).called .comment).waiting false)) := by
    refine (hfilling.run_or_closed hfront (Nat.zero_le _)).resolve_right fun hle => ?_
    omega
  have hmoves : Writer.run output wire (replayMoves (front ++ [last]) ++ moves) {} =
      Writer.run output wire ([.write last, .finishReplay] ++ moves)
        (Writer.run output wire (front.map .write) (({} : Writer).start output)) := by
    rw [replayMoves, List.map_append, Writer.run, Writer.run, Writer.run]
    simp only [List.foldl_append, List.foldl_cons, List.cons_append]
    rfl
  have hstart := start_eq h
  rw [if_pos hfull] at hstart
  rw [hmoves, hstart]
  exact hfinished.run.2

/-- The history of a session with three hundred events does not get through an output that is full
from the beginning. -/
theorem replay_cut_off : ¬ ∀ (output : Output) (admitted : List (Envelope ℕ)),
    Steady output → Ended admitted →
    ∃ n, ∀ m, n ≤ m →
      (Writer.run output plainWire
        (replayMoves (storeAll plainWire admitted).events ++ List.replicate m .drain) {}).frames =
        (storeAll plainWire admitted).events.map (queuedFrame plainWire) := by
  intro hall
  obtain ⟨n, hn⟩ := hall fullOutput (plainSession 300) steady_fullOutput (ended_plainSession 300)
  have hframes := hn n le_rfl
  rw [events_storeAll_plainSession (by decide), plainSession,
    frames_replay_eq_nil steady_fullOutput rfl ?_ ?_] at hframes
  · simp at hframes
  · intro event hevent
    obtain ⟨k, -, rfl⟩ := List.mem_map.mp hevent
    rfl
  · rw [List.length_map, List.length_range]
    decide

end VacancyRadar.Sse
