import VacancyRadar.Sse.Writer

/-!
# What a writer sends

Whatever the output answers, the frames are sent in the order in which the events were written, none
of them twice and none after a terminal one or after the connection was closed, and the queue stays
within its bounds.
-/

namespace VacancyRadar.Sse

variable {Content : Type} {output : Output} {wire : Wire Content} {s : Writer}
  {passed pending : List QueuedFrame} {queued : QueuedFrame}

def Call.frame? : Call → Option QueuedFrame
  | .frame queued => some queued
  | _ => none

/-- The frames that were written to the output. -/
def Writer.frames (s : Writer) : List QueuedFrame := s.calls.filterMap Call.frame?

/-! ## The order of the frames -/

structure Ordered (passed pending : List QueuedFrame) (s : Writer) : Prop where
  calls : ∃ writes, s.calls = writes ++ (if s.closed then [.ends, .onClose] else []) ∧
    (∀ call ∈ writes, call.isWrite) ∧ ∀ call ∈ writes.dropLast, call.isTerminal = false
  frames : ∃ rest, s.frames ++ pending ++ rest = passed ∧
    (s.closed = false → s.terminalReceived = false → rest = [])
  last : ∀ queued ∈ pending.dropLast, queued.terminal = false
  received : s.terminalReceived = false → ∀ queued ∈ pending, queued.terminal = false
  closed : s.closed = true → pending = []
  terminal : (∃ call ∈ s.calls, call.isTerminal = true) → pending = [] ∧ s.terminalReceived = true

def Settled (s : Writer) : Prop :=
  (∃ call ∈ s.calls, call.isTerminal = true) →
    s.closed = true ∨ s.backpressured = true ∧ s.endAfterDrain = true

def Good (passed : List QueuedFrame) (s : Writer) : Prop := Ordered passed s.queue s ∧ Settled s

lemma closed_finish (output : Output) (s : Writer) : (s.finish output).closed = true := by
  unfold Writer.finish
  split
  · assumption
  · rfl

lemma queue_finish (h : s.closed = true → s.queue = []) : (s.finish output).queue = [] := by
  unfold Writer.finish
  split
  · next hclosed => exact h hclosed
  · rfl

lemma Ordered.finish (h : Ordered passed pending s) (hqueue : s.closed = true → s.queue = []) :
    Good passed (s.finish output) := by
  refine ⟨?_, fun _ => .inl (closed_finish output s)⟩
  by_cases hclosed : s.closed = true
  · have hsame : s.finish output = s := if_pos hclosed
    rw [hsame, hqueue hclosed, ← h.closed hclosed]
    exact h
  · have hopen : s.closed = false := Bool.eq_false_iff.mpr hclosed
    have hfinish : s.finish output =
        { s with
          closed := true
          queue := []
          queuedBytes := 0
          drainArmed := false
          listening := if s.drainArmed then s.listening && !output.off else s.listening
          calls := s.calls ++ [.ends, .onClose] } := if_neg hclosed
    obtain ⟨writes, hcalls, hwrites, hlast⟩ := h.calls
    obtain ⟨rest, hframes, -⟩ := h.frames
    rw [hopen, if_neg (by simp), List.append_nil] at hcalls
    rw [hfinish]
    refine ⟨⟨writes, ?_, hwrites, hlast⟩, ⟨pending ++ rest, ?_, ?_⟩, ?_, ?_, fun _ => rfl, ?_⟩
    · rw [hcalls]
      rfl
    · rw [List.append_nil, ← List.append_assoc, ← hframes]
      simp [Writer.frames, Call.frame?]
    · exact fun hclosed => nomatch hclosed
    · exact fun _ hmem => nomatch hmem
    · exact fun _ _ hmem => nomatch hmem
    · rintro ⟨call, hcall, hterminal⟩
      rcases List.mem_append.mp hcall with hold | hnew
      · exact ⟨rfl, (h.terminal ⟨call, hold, hterminal⟩).2⟩
      · simp only [List.mem_cons, List.not_mem_nil, or_false] at hnew
        rcases hnew with rfl | rfl <;> cases hterminal

lemma Good.armDrain (h : Good passed s) : Good passed (s.armDrain output) := by
  unfold Writer.armDrain
  split
  · exact h
  · next hnot =>
    split
    · refine Ordered.finish (?_ : Ordered _ s.queue _) fun hclosed => absurd (.inl hclosed) hnot
      exact ⟨h.1.calls, h.1.frames, h.1.last, h.1.received, h.1.closed, h.1.terminal⟩
    · exact ⟨⟨h.1.calls, h.1.frames, h.1.last, h.1.received, h.1.closed, h.1.terminal⟩, h.2⟩

lemma Ordered.isTerminal_eq_false (h : Ordered passed (queued :: pending) s) :
    ∀ call ∈ s.calls, call.isTerminal = false := by
  intro call hcall
  by_contra hterminal
  have hnil := (h.terminal ⟨call, hcall, Bool.of_not_eq_false hterminal⟩).1
  cases hnil

lemma Ordered.call (h : Ordered passed (queued :: pending) s) (hopen : s.closed = false) :
    Ordered passed pending { s with calls := s.calls ++ [.frame queued] } := by
  obtain ⟨writes, hcalls, hwrites, -⟩ := h.calls
  obtain ⟨rest, hframes, hrest⟩ := h.frames
  have hnone := h.isTerminal_eq_false
  rw [hopen, if_neg (by simp), List.append_nil] at hcalls
  refine ⟨⟨writes ++ [.frame queued], ?_, ?_, ?_⟩, ⟨rest, ?_, hrest⟩, ?_, ?_, ?_, ?_⟩
  · rw [hcalls]
    simp [hopen]
  · intro call hcall
    rcases List.mem_append.mp hcall with hold | hnew
    · exact hwrites call hold
    · rw [List.mem_singleton.mp hnew]
      rfl
  · rw [List.dropLast_concat, ← hcalls]
    exact hnone
  · rw [← hframes]
    simp [Writer.frames, Call.frame?]
  · intro f hf
    cases pending with
    | nil => cases hf
    | cons g rest' =>
      refine h.last f ?_
      rw [List.dropLast_cons_cons]
      exact List.mem_cons_of_mem _ hf
  · exact fun hreceived f hf => h.received hreceived f (List.mem_cons_of_mem _ hf)
  · intro hclosed
    rw [hopen] at hclosed
    cases hclosed
  · rintro ⟨call, hcall, hterminal⟩
    rcases List.mem_append.mp hcall with hold | hnew
    · rw [hnone call hold] at hterminal
      cases hterminal
    · rw [List.mem_singleton.mp hnew] at hterminal
      have hqueued : queued.terminal = true := hterminal
      constructor
      · cases pending with
        | nil => rfl
        | cons g rest' =>
          have := h.last queued (by rw [List.dropLast_cons_cons]; exact List.mem_cons_self)
          rw [hqueued] at this
          cases this
      · by_contra hreceived
        have := h.received (Bool.eq_false_iff.mpr hreceived) queued List.mem_cons_self
        rw [hqueued] at this
        cases this

/-- The writer after a call of `write` on the output, during which the connection may be closed. -/
lemma Ordered.answered (h : Ordered passed (queued :: s.queue) s) (hopen : s.closed = false) :
    Ordered passed (s.output output (.frame queued)).2.queue (s.output output (.frame queued)).2 ∧
      ((∃ call ∈ (s.output output (.frame queued)).2.calls, call.isTerminal = true) →
        (s.output output (.frame queued)).2.closed = true ∨ queued.terminal = true) := by
  have hcall := h.call hopen
  unfold Writer.output
  dsimp only
  split
  · have hgood : Good _ (Writer.finish output _) := hcall.finish fun hclosed => by
      rw [hopen] at hclosed
      cases hclosed
    exact ⟨hgood.1, fun _ => .inl (closed_finish ..)⟩
  · refine ⟨hcall, ?_⟩
    rintro ⟨call, hmem, hterminal⟩
    rcases List.mem_append.mp hmem with hold | hnew
    · rw [h.isTerminal_eq_false call hold] at hterminal
      cases hterminal
    · rw [List.mem_singleton.mp hnew] at hterminal
      exact .inr hterminal

lemma Ordered.handOff (h : Ordered passed (queued :: s.queue) s) (hopen : s.closed = false) :
    Good passed (s.handOff output queued) := by
  obtain ⟨hordered, hterminal⟩ := h.answered hopen
  unfold Writer.handOff
  generalize s.output output (.frame queued) = answer at *
  obtain ⟨result, t⟩ := answer
  cases result with
  | throws => exact hordered.finish hordered.closed
  | ready =>
    dsimp only
    split
    · exact hordered.finish hordered.closed
    · next hnot => exact ⟨hordered, fun hcalls => (hterminal hcalls).imp_right fun hq => absurd hq hnot⟩
  | full =>
    refine Good.armDrain ⟨⟨hordered.calls, hordered.frames, hordered.last, hordered.received,
      hordered.closed, hordered.terminal⟩, fun hcalls => ?_⟩
    exact (hterminal hcalls).imp_right fun hq => ⟨rfl, hq⟩

/-! ## The bounds of the queue -/

structure Bounded (s : Writer) : Prop where
  bytes : s.queuedBytes = (s.queue.map QueuedFrame.bytes).sum
  length : s.queue.length ≤ maxQueuedEvents
  size : s.queuedBytes ≤ maxQueuedBytes

def Keeps (s s' : Writer) : Prop :=
  s'.queue = s.queue ∧ s'.queuedBytes = s.queuedBytes ∨
    s'.closed = true ∧ s'.queue = [] ∧ s'.queuedBytes = 0

lemma Keeps.bounded {s' : Writer} (h : Keeps s s') (hs : Bounded s) : Bounded s' := by
  rcases h with ⟨hqueue, hbytes⟩ | ⟨-, hqueue, hbytes⟩
  · exact ⟨by rw [hqueue, hbytes, hs.bytes], by rw [hqueue]; exact hs.length,
      by rw [hbytes]; exact hs.size⟩
  · exact ⟨by rw [hqueue, hbytes]; rfl, by rw [hqueue]; exact Nat.zero_le _,
      by rw [hbytes]; exact Nat.zero_le _⟩

lemma Keeps.trans {s' s'' : Writer} (h : Keeps s s') (h' : Keeps s' s'')
    (hclosed : s'.closed = true → s''.closed = true) : Keeps s s'' := by
  rcases h' with ⟨hqueue, hbytes⟩ | hnone
  · rcases h with ⟨hqueue', hbytes'⟩ | ⟨hs', hqueue', hbytes'⟩
    · exact .inl ⟨hqueue.trans hqueue', hbytes.trans hbytes'⟩
    · exact .inr ⟨hclosed hs', hqueue.trans hqueue', hbytes.trans hbytes'⟩
  · exact .inr hnone

lemma keeps_finish (output : Output) (s : Writer) : Keeps s (s.finish output) := by
  unfold Writer.finish
  split
  · exact .inl ⟨rfl, rfl⟩
  · exact .inr ⟨rfl, rfl, rfl⟩

lemma keeps_armDrain (output : Output) (s : Writer) : Keeps s (s.armDrain output) := by
  unfold Writer.armDrain
  split
  · exact .inl ⟨rfl, rfl⟩
  · split
    · exact keeps_finish output { s with drainArmed := true }
    · exact .inl ⟨rfl, rfl⟩

lemma closed_armDrain (h : s.closed = true) : (s.armDrain output).closed = true := by
  unfold Writer.armDrain
  rw [if_pos (.inl h)]
  exact h

lemma keeps_output (output : Output) (s : Writer) (call : Call) :
    Keeps s (s.output output call).2 := by
  unfold Writer.output
  dsimp only
  split
  · exact keeps_finish output { s with calls := s.calls ++ [call] }
  · exact .inl ⟨rfl, rfl⟩

lemma keeps_handOff (output : Output) (queued : QueuedFrame) (s : Writer) :
    Keeps s (s.handOff output queued) := by
  have hcall := keeps_output output s (.frame queued)
  unfold Writer.handOff
  generalize s.output output (.frame queued) = answer at *
  obtain ⟨result, t⟩ := answer
  cases result with
  | throws => exact hcall.trans (keeps_finish output t) fun _ => closed_finish output t
  | ready =>
    dsimp only
    split
    · exact hcall.trans (keeps_finish output t) fun _ => closed_finish output t
    · exact hcall
  | full =>
    have harm := keeps_armDrain output
      { t with backpressured := true, endAfterDrain := queued.terminal }
    exact hcall.trans harm fun hclosed => closed_armDrain hclosed

/-! ## The steps -/

structure Sound (passed : List QueuedFrame) (s : Writer) : Prop where
  good : Good passed s
  bounded : Bounded s
  idle : s.backpressured = false → s.queue = []

lemma Sound.finish (h : Sound passed s) : Sound passed (s.finish output) where
  good := h.good.1.finish h.good.1.closed
  bounded := (keeps_finish output s).bounded h.bounded
  idle _ := queue_finish h.good.1.closed

lemma sound_handOffQueue {queue : List QueuedFrame} (hgood : Good passed s) (hbounded : Bounded s)
    (hqueue : s.closed = false → s.queue = queue) :
    Sound passed (Writer.handOffQueue output queue s) := by
  induction queue generalizing s with
  | nil =>
    refine ⟨hgood, hbounded, fun _ => ?_⟩
    by_cases hclosed : s.closed = true
    · exact hgood.1.closed hclosed
    · exact hqueue (Bool.eq_false_iff.mpr hclosed)
  | cons queued queue ih =>
    unfold Writer.handOffQueue
    split
    · next hstop =>
      refine ⟨hgood, hbounded, fun hidle => ?_⟩
      rcases hstop with hclosed | hfull
      · exact hgood.1.closed hclosed
      · rw [hidle] at hfull
        cases hfull
    · next hgo =>
      obtain ⟨hopen, hidle⟩ := not_or.mp hgo
      have hopen := Bool.eq_false_iff.mpr hopen
      have hs := hqueue hopen
      set t := { s with queue, queuedBytes := s.queuedBytes - queued.bytes } with ht
      have hordered : Ordered passed (queued :: t.queue) t := by
        have := hgood.1
        rw [hs] at this
        exact ⟨this.calls, this.frames, this.last, this.received, this.closed, this.terminal⟩
      have hsum : s.queuedBytes = queued.bytes + (queue.map QueuedFrame.bytes).sum := by
        rw [hbounded.bytes, hs]
        rfl
      have hlength := hbounded.length
      have hsize := hbounded.size
      rw [hs, List.length_cons] at hlength
      have hbounded' : Bounded t := by
        refine ⟨?_, ?_, ?_⟩
        · change s.queuedBytes - queued.bytes = (queue.map QueuedFrame.bytes).sum
          omega
        · change queue.length ≤ _
          omega
        · change s.queuedBytes - queued.bytes ≤ _
          omega
      have hkeeps := keeps_handOff output queued t
      refine ih (hordered.handOff hopen) (hkeeps.bounded hbounded') fun hopen' => ?_
      rcases hkeeps with ⟨hsame, -⟩ | ⟨hclosed, -⟩
      · exact hsame
      · rw [hopen'] at hclosed
        cases hclosed

lemma Sound.handleDrain (h : Sound passed s) : Sound passed (s.handleDrain output) := by
  unfold Writer.handleDrain
  dsimp only
  have hordered := h.good.1
  split
  · exact ⟨⟨⟨hordered.calls, hordered.frames, hordered.last, hordered.received, hordered.closed,
      hordered.terminal⟩, h.good.2⟩, ⟨h.bounded.bytes, h.bounded.length, h.bounded.size⟩, h.idle⟩
  · next hopen =>
    split
    · next hend =>
      refine ⟨Ordered.finish (?_ : Ordered _ s.queue _) hordered.closed, ?_,
        fun _ => queue_finish hordered.closed⟩
      · exact ⟨hordered.calls, hordered.frames, hordered.last, hordered.received, hordered.closed,
          hordered.terminal⟩
      · exact (keeps_finish output _).bounded ⟨h.bounded.bytes, h.bounded.length, h.bounded.size⟩
    · next hend =>
      -- No terminal frame was written, or the writer would be closed when the output has drained.
      refine sound_handOffQueue ⟨⟨hordered.calls, hordered.frames, hordered.last, hordered.received,
        hordered.closed, hordered.terminal⟩, fun hterminal => ?_⟩
        ⟨h.bounded.bytes, h.bounded.length, h.bounded.size⟩ fun _ => rfl
      rcases h.good.2 hterminal with hclosed | ⟨-, hend'⟩
      · exact absurd hclosed hopen
      · exact absurd hend' hend

lemma Sound.armDrain (h : Sound passed s) : Sound passed (s.armDrain output) := by
  refine ⟨h.good.armDrain, (keeps_armDrain output s).bounded h.bounded, ?_⟩
  unfold Writer.armDrain
  split
  · exact h.idle
  · split
    · exact fun _ => queue_finish h.good.1.closed
    · exact h.idle

lemma Sound.comment (h : Sound passed s) (hopen : s.closed = false) (hidle : s.backpressured = false) :
    Sound passed (s.output output .comment).2 := by
  have hnone : ∀ call ∈ s.calls, call.isTerminal = false := by
    intro call hcall
    by_contra hterminal
    rcases h.good.2 ⟨call, hcall, Bool.of_not_eq_false hterminal⟩ with hclosed | ⟨hfull, -⟩
    · rw [hopen] at hclosed
      cases hclosed
    · rw [hidle] at hfull
      cases hfull
  have hcalls : ∀ call ∈ s.calls ++ [.comment], call.isTerminal = false := by
    intro call hcall
    rcases List.mem_append.mp hcall with hold | hnew
    · exact hnone call hold
    · rw [List.mem_singleton.mp hnew]
      rfl
  have hnot : ¬ ∃ call ∈ s.calls ++ [.comment], call.isTerminal = true := by
    rintro ⟨call, hcall, hterminal⟩
    rw [hcalls call hcall] at hterminal
    cases hterminal
  have hcommented : Sound passed { s with calls := s.calls ++ [.comment] } := by
    obtain ⟨writes, heq, hwrites, -⟩ := h.good.1.calls
    obtain ⟨rest, hframes, hrest⟩ := h.good.1.frames
    rw [hopen, if_neg (by simp), List.append_nil] at heq
    refine ⟨⟨⟨⟨writes ++ [.comment], ?_, ?_, ?_⟩, ⟨rest, ?_, hrest⟩, h.good.1.last, h.good.1.received,
      h.good.1.closed, fun hterminal => absurd hterminal hnot⟩, fun hterminal => absurd hterminal hnot⟩,
      ⟨h.bounded.bytes, h.bounded.length, h.bounded.size⟩, h.idle⟩
    · rw [heq]
      simp [hopen]
    · intro call hcall
      rcases List.mem_append.mp hcall with hold | hnew
      · exact hwrites call hold
      · rw [List.mem_singleton.mp hnew]
        rfl
    · rw [List.dropLast_concat, ← heq]
      exact hnone
    · rw [← hframes]
      simp [Writer.frames, Call.frame?]
  unfold Writer.output
  dsimp only
  split
  · exact hcommented.finish
  · exact hcommented

lemma Sound.start (h : Sound passed s) : Sound passed (s.start output) := by
  unfold Writer.start
  split
  · exact h
  · next hgo =>
    obtain ⟨hopen, hidle⟩ := not_or.mp hgo
    have hanswer : Sound _ (s.output output .comment).2 :=
      h.comment (Bool.eq_false_iff.mpr hopen) (Bool.eq_false_iff.mpr hidle)
    generalize s.output output .comment = answer at *
    obtain ⟨result, t⟩ := answer
    cases result with
    | ready => exact hanswer
    | full =>
      have hgood := hanswer.good
      refine Sound.armDrain ⟨⟨⟨hgood.1.calls, hgood.1.frames, hgood.1.last, hgood.1.received,
        hgood.1.closed, hgood.1.terminal⟩, fun hterminal => ?_⟩,
        ⟨hanswer.bounded.bytes, hanswer.bounded.length, hanswer.bounded.size⟩, fun hidle => nomatch hidle⟩
      exact (hgood.2 hterminal).imp_right fun hend => ⟨rfl, hend.2⟩
    | throws => exact hanswer.finish

lemma Sound.write {event : Envelope Content} (h : Sound passed s) :
    Sound (passed ++ [queuedFrame wire event]) (s.write output wire event) := by
  obtain ⟨rest, hframes, hrest⟩ := h.good.1.frames
  unfold Writer.write
  split
  · next hdone =>
    refine ⟨⟨⟨h.good.1.calls, ⟨rest ++ [queuedFrame wire event], ?_, ?_⟩, h.good.1.last,
      h.good.1.received, h.good.1.closed, h.good.1.terminal⟩, h.good.2⟩, h.bounded, h.idle⟩
    · rw [← List.append_assoc, hframes]
    · intro hopen hreceived
      simp [hopen, hreceived] at hdone
  · next hgo =>
    obtain ⟨hopen, hreceived⟩ := not_or.mp hgo
    have hopen := Bool.eq_false_iff.mpr hopen
    have hreceived := Bool.eq_false_iff.mpr hreceived
    obtain rfl := hrest hopen hreceived
    rw [List.append_nil] at hframes
    generalize hqueued : queuedFrame wire event = queued
    -- No terminal frame was written or is in the queue.
    have hnone : ¬ ∃ call ∈ s.calls, call.isTerminal = true := by
      intro hterminal
      rw [(h.good.1.terminal hterminal).2] at hreceived
      cases hreceived
    have hordered : Ordered (passed ++ [queued]) (s.queue ++ [queued])
        { s with terminalReceived := queued.terminal } := by
      refine ⟨h.good.1.calls, ⟨[], ?_, fun _ _ => rfl⟩, ?_, ?_, ?_, fun hterminal => absurd hterminal hnone⟩
      · rw [List.append_nil, ← List.append_assoc, ← hframes]
        rfl
      · rw [List.dropLast_concat]
        exact h.good.1.received hreceived
      · intro hnot f hf
        rcases List.mem_append.mp hf with hold | hnew
        · exact h.good.1.received hreceived f hold
        · rw [List.mem_singleton.mp hnew]
          exact hnot
      · intro hclosed
        rw [hopen] at hclosed
        cases hclosed
    dsimp only
    split
    · next hfull =>
      split
      · -- The queue is full and the connection is ended.
        refine ⟨Ordered.finish (?_ : Ordered _ (s.queue ++ [queued]) _) fun _ => rfl,
          (keeps_finish output _).bounded ⟨rfl, Nat.zero_le _, Nat.zero_le _⟩,
          fun _ => queue_finish fun _ => rfl⟩
        exact ⟨hordered.calls, hordered.frames, hordered.last, hordered.received, hordered.closed,
          hordered.terminal⟩
      · next hroom =>
        obtain ⟨hlength, hsize⟩ := not_or.mp hroom
        refine ⟨⟨⟨hordered.calls, hordered.frames, hordered.last, hordered.received,
          hordered.closed, fun hterminal => absurd hterminal hnone⟩,
          fun hterminal => absurd hterminal hnone⟩, ⟨?_, ?_, ?_⟩, ?_⟩
        · simp [h.bounded.bytes]
        · rw [List.length_append, List.length_singleton]
          exact Nat.lt_of_not_le hlength
        · exact Nat.le_of_not_lt hsize
        · intro hidle
          exact absurd hfull (Bool.eq_false_iff.mp hidle)
    · next hidle =>
      have hqueue := h.idle (Bool.eq_false_iff.mpr hidle)
      have hpending : s.queue ++ [queued] = [queued] := by
        rw [hqueue]
        rfl
      rw [hpending] at hordered
      set t := { s with terminalReceived := queued.terminal } with ht
      have hnil : t.queue = [] := hqueue
      have hkeeps := keeps_handOff output queued t
      refine ⟨Ordered.handOff (s := t) (hnil.symm ▸ hordered) hopen,
        hkeeps.bounded ⟨h.bounded.bytes, h.bounded.length, h.bounded.size⟩, fun _ => ?_⟩
      rcases hkeeps with ⟨hsame, -⟩ | ⟨-, hsame, -⟩
      · rw [hsame, hnil]
      · exact hsame

def passedFrames (wire : Wire Content) (moves : List (WriterMove Content)) : List QueuedFrame :=
  moves.filterMap fun
    | .write event => some (queuedFrame wire event)
    | _ => none

lemma Sound.step {move : WriterMove Content} (h : Sound passed s) :
    Sound (passed ++ passedFrames wire [move]) (s.step output wire move) := by
  cases move with
  | write event => exact h.write
  | start =>
    rw [passedFrames, List.filterMap_cons_none rfl, List.filterMap_nil, List.append_nil]
    exact h.start
  | drain =>
    rw [passedFrames, List.filterMap_cons_none rfl, List.filterMap_nil, List.append_nil]
    unfold Writer.step
    dsimp only
    split
    · have hgood := h.good
      refine Sound.handleDrain ⟨⟨⟨hgood.1.calls, hgood.1.frames, hgood.1.last, hgood.1.received,
        hgood.1.closed, hgood.1.terminal⟩, hgood.2⟩,
        ⟨h.bounded.bytes, h.bounded.length, h.bounded.size⟩, h.idle⟩
    · exact h
  | close =>
    rw [passedFrames, List.filterMap_cons_none rfl, List.filterMap_nil, List.append_nil]
    exact h.finish
  | finishReplay =>
    rw [passedFrames, List.filterMap_cons_none rfl, List.filterMap_nil, List.append_nil]
    unfold Writer.step Writer.finishReplay
    dsimp only
    split
    · exact h
    · exact h.finish

variable {moves : List (WriterMove Content)}

lemma Sound.run (h : Sound passed s) :
    Sound (passed ++ passedFrames wire moves) (Writer.run output wire moves s) := by
  induction moves generalizing s passed with
  | nil =>
    rw [passedFrames, List.filterMap_nil, List.append_nil]
    exact h
  | cons move moves ih =>
    have hstep : Sound (passed ++ passedFrames wire [move]) (s.step output wire move) := h.step
    have hrest := ih hstep
    rw [List.append_assoc, passedFrames, passedFrames, ← List.filterMap_append] at hrest
    exact hrest

/-! ## All runs -/

lemma calls_step_of_closed {move : WriterMove Content} (h : s.closed = true) :
    (s.step output wire move).calls = s.calls ∧ (s.step output wire move).closed = true := by
  have hfinish : s.finish output = s := if_pos h
  cases move with
  | start =>
    have hstart : s.start output = s := if_pos (.inl h)
    exact ⟨congrArg Writer.calls hstart, (congrArg Writer.closed hstart).trans h⟩
  | write event =>
    have hwrite : s.write output wire event = s := if_pos (.inl h)
    exact ⟨congrArg Writer.calls hwrite, (congrArg Writer.closed hwrite).trans h⟩
  | drain =>
    unfold Writer.step
    dsimp only
    split
    · unfold Writer.handleDrain
      rw [if_pos h]
      exact ⟨rfl, h⟩
    · exact ⟨rfl, h⟩
  | close => exact ⟨congrArg Writer.calls hfinish, (congrArg Writer.closed hfinish).trans h⟩
  | finishReplay =>
    unfold Writer.step Writer.finishReplay
    dsimp only
    split
    · exact ⟨rfl, h⟩
    · exact ⟨congrArg Writer.calls hfinish, (congrArg Writer.closed hfinish).trans h⟩

lemma calls_run_of_closed (h : s.closed = true) :
    (Writer.run output wire moves s).calls = s.calls := by
  induction moves generalizing s with
  | nil => rfl
  | cons move moves ih =>
    obtain ⟨hcalls, hclosed⟩ := calls_step_of_closed h
    exact (ih hclosed).trans hcalls

lemma isWrite_eq_false_of_mem_after {writes tail before after : List Call} {call : Call}
    (h : before ++ call :: after = writes ++ tail) (hwrites : ∀ call ∈ writes, call.isWrite)
    (hlast : ∀ call ∈ writes.dropLast, call.isTerminal = false)
    (htail : ∀ call ∈ tail, call.isWrite = false)
    (hcall : call.isTerminal = true ∨ call = .ends ∨ call = .onClose) :
    ∀ later ∈ after, later.isWrite = false := by
  intro later hlater
  rcases List.append_eq_append_iff.mp h with ⟨middle, hmiddle, hafter⟩ | ⟨middle, -, hafter⟩
  · cases middle with
    | nil =>
      rw [List.nil_append] at hafter
      rw [← hafter] at htail
      exact htail later (List.mem_cons_of_mem _ hlater)
    | cons c middle =>
      obtain ⟨rfl, rfl⟩ := List.cons.inj hafter
      cases middle with
      | nil => exact htail later hlater
      | cons c middle =>
        -- More was written after the call.
        have hmem : call ∈ writes.dropLast := by
          rw [hmiddle, List.dropLast_append_cons, List.dropLast_cons_cons]
          exact List.mem_append_right _ List.mem_cons_self
        have hwrite := hwrites call (List.mem_of_mem_dropLast hmem)
        rcases hcall with hterminal | rfl | rfl
        · rw [hlast call hmem] at hterminal
          cases hterminal
        · cases hwrite
        · cases hwrite
  · rw [hafter] at htail
    exact htail later (List.mem_append_right _ (List.mem_cons_of_mem _ hlater))

lemma filter_isWrite_finish (output : Output) (s : Writer) :
    (s.finish output).calls.filter Call.isWrite = s.calls.filter Call.isWrite := by
  unfold Writer.finish
  split
  · rfl
  · simp [Call.isWrite]

/-- Whatever is called on a writer and whatever the output answers: the frames of the first events
are written in order; nothing is written after a terminal frame, the end or `close`; `end` and
`onClose` are called at most once; and the queue is within its bounds and its bytes are counted. -/
theorem writer_in_order (output : Output) (wire : Wire Content) (moves : List (WriterMove Content)) :
    let s := Writer.run output wire moves {}
    s.frames <+: passedFrames wire moves ∧
      (∀ before call after, s.calls = before ++ call :: after →
        call.isTerminal = true ∨ call = .ends ∨ call = .onClose →
        ∀ later ∈ after, later.isWrite = false) ∧
      s.calls.count .ends ≤ 1 ∧ s.calls.count .onClose ≤ 1 ∧
      s.queue.length ≤ maxQueuedEvents ∧ s.queuedBytes ≤ maxQueuedBytes ∧
      s.queuedBytes = (s.queue.map QueuedFrame.bytes).sum ∧
      ∀ moves', (Writer.run output wire (moves ++ .close :: moves') {}).calls.filter Call.isWrite =
        s.calls.filter Call.isWrite := by
  intro s
  have hstart : Sound [] ({} : Writer) := by
    refine ⟨⟨⟨⟨[], rfl, by simp, by simp⟩, ⟨[], rfl, fun _ _ => rfl⟩, by simp, by simp,
      by simp, by simp⟩, by simp [Settled]⟩, ⟨rfl, Nat.zero_le _, Nat.zero_le _⟩, fun _ => rfl⟩
  have hsound : Sound (passedFrames wire moves) s := hstart.run
  obtain ⟨rest, hframes, -⟩ := hsound.good.1.frames
  obtain ⟨writes, hcalls, hwrites, hlast⟩ := hsound.good.1.calls
  have htail : ∀ call ∈ (if s.closed then [Call.ends, .onClose] else []), call.isWrite = false := by
    intro call hcall
    split at hcall
    · simp only [List.mem_cons, List.not_mem_nil, or_false] at hcall
      rcases hcall with rfl | rfl <;> rfl
    · cases hcall
  have hcount : ∀ call : Call, call.isWrite = false → writes.count call = 0 := by
    intro call hcall
    refine List.count_eq_zero_of_not_mem fun hmem => ?_
    rw [hwrites call hmem] at hcall
    cases hcall
  refine ⟨⟨s.queue ++ rest, ?_⟩, ?_, ?_, ?_, hsound.bounded.length, hsound.bounded.size,
    hsound.bounded.bytes, fun moves' => ?_⟩
  · rw [← List.append_assoc]
    exact hframes
  · intro before call after heq hcall
    rw [hcalls] at heq
    exact isWrite_eq_false_of_mem_after heq.symm hwrites hlast htail hcall
  · rw [hcalls, List.count_append, hcount .ends rfl]
    split <;> simp
  · rw [hcalls, List.count_append, hcount .onClose rfl]
    split <;> simp
  · rw [Writer.run, List.foldl_append, List.foldl_cons]
    have hrest : (Writer.run output wire moves' (s.finish output)).calls = (s.finish output).calls :=
      calls_run_of_closed (closed_finish output s)
    have hall : (Writer.run output wire moves' (s.finish output)).calls.filter Call.isWrite =
        s.calls.filter Call.isWrite := by
      rw [hrest]
      exact filter_isWrite_finish output s
    exact hall

end VacancyRadar.Sse
