import Mathlib.Tactic.Common

/-!
# Channels

A bounded queue between a producer and the one consumer that reads it, after `AsyncChannel`.  The
producer may close the channel with some last values, for which the bound does not count.
-/

namespace Data

structure Channel (α : Type) where
  queue : List α := []
  handed : Option α := none
  waiting : Bool := false
  closed : Bool := false

namespace Channel

variable {α : Type}

def maxBufferedItems : Nat := 10000

/-- Everything the consumer has still to see, in order. -/
def items (channel : Channel α) : List α := channel.handed.toList ++ channel.queue

def put (channel : Channel α) (value : α) : Channel α :=
  if channel.waiting then { channel with handed := some value, waiting := false }
  else { channel with queue := channel.queue ++ [value] }

def push (channel : Channel α) (value : α) : Option (Channel α) :=
  if channel.closed ∨ maxBufferedItems ≤ channel.queue.length then none
  else some (channel.put value)

def pushAll (channel : Channel α) : List α → Channel α × Bool
  | [] => (channel, true)
  | value :: rest =>
    match channel.push value with
    | some next => next.pushAll rest
    | none => (channel, false)

def close (channel : Channel α) : Channel α := { channel with closed := true, waiting := false }

def closeWith (channel : Channel α) (values : List α) : Channel α :=
  if channel.closed then channel else (values.foldl put channel).close

def next (channel : Channel α) : Channel α × Option α :=
  match channel.handed, channel.queue with
  | some value, _ => ({ channel with handed := none }, some value)
  | none, value :: rest => ({ channel with queue := rest }, some value)
  | none, [] => ({ channel with waiting := !channel.closed }, none)

/-! ## Which values are in a channel -/

variable {channel : Channel α} {value x : α} {values : List α}

lemma mem_items_put (h : x ∈ (channel.put value).items) : x ∈ channel.items ∨ x = value := by
  unfold put at h
  split at h
  · rcases List.mem_append.mp h with hhanded | hqueue
    · exact .inr (by simpa using hhanded)
    · exact .inl (List.mem_append_right _ hqueue)
  · rw [items, ← List.append_assoc] at h
    rcases List.mem_append.mp h with hold | hnew
    · exact .inl hold
    · exact .inr (List.mem_singleton.mp hnew)

lemma mem_items_foldl_put (h : x ∈ (values.foldl put channel).items) :
    x ∈ channel.items ∨ x ∈ values := by
  induction values generalizing channel with
  | nil => exact .inl h
  | cons value rest ih =>
    rcases ih h with hput | hrest
    · rcases mem_items_put hput with hold | rfl
      · exact .inl hold
      · exact .inr List.mem_cons_self
    · exact .inr (List.mem_cons_of_mem _ hrest)

lemma mem_items_closeWith (h : x ∈ (channel.closeWith values).items) :
    x ∈ channel.items ∨ x ∈ values := by
  unfold closeWith at h
  split at h
  · exact .inl h
  · exact mem_items_foldl_put h

lemma mem_items_pushAll (h : x ∈ (channel.pushAll values).1.items) :
    x ∈ channel.items ∨ x ∈ values := by
  induction values generalizing channel with
  | nil => exact .inl h
  | cons value rest ih =>
    unfold pushAll at h
    split at h
    · rename_i next hpush
      unfold push at hpush
      split at hpush
      · cases hpush
      · cases hpush
        rcases ih h with hput | hrest
        · rcases mem_items_put hput with hold | rfl
          · exact .inl hold
          · exact .inr List.mem_cons_self
        · exact .inr (List.mem_cons_of_mem _ hrest)
    · exact .inl h

lemma mem_items_next (h : x ∈ channel.next.1.items) : x ∈ channel.items := by
  obtain ⟨queue, handed, waiting, closed⟩ := channel
  cases handed with
  | some value => exact List.mem_append_right _ h
  | none =>
    cases queue with
    | nil => exact h
    | cons value rest => exact List.mem_cons_of_mem _ h

lemma next_mem_items (h : channel.next.2 = some x) : x ∈ channel.items := by
  obtain ⟨queue, handed, waiting, closed⟩ := channel
  cases handed with
  | some value =>
    cases h
    exact List.mem_cons_self
  | none =>
    cases queue with
    | nil => cases h
    | cons value rest =>
      cases h
      exact List.mem_cons_self

/-! ## The order of the values -/

structure Ok (channel : Channel α) : Prop where
  handed : channel.waiting = true → channel.handed = none
  queue : channel.waiting = true → channel.queue = []
  closed : channel.waiting = true → channel.closed = false

lemma Ok.of_not_waiting (h : channel.waiting = false) : channel.Ok where
  handed hwaiting := by rw [h] at hwaiting; cases hwaiting
  queue hwaiting := by rw [h] at hwaiting; cases hwaiting
  closed hwaiting := by rw [h] at hwaiting; cases hwaiting

@[simp] lemma waiting_put : (channel.put value).waiting = false := by
  rw [put]
  split
  · rfl
  · next hwaiting => simpa using hwaiting

@[simp] lemma closed_put : (channel.put value).closed = channel.closed := by
  rw [put]
  split <;> rfl

lemma Ok.put : (channel.put value).Ok := .of_not_waiting waiting_put

lemma Ok.items_put (h : channel.Ok) : (channel.put value).items = channel.items ++ [value] := by
  rw [Channel.put]
  split
  · next hwaiting => simp [items, h.handed hwaiting, h.queue hwaiting]
  · simp [items]

lemma Ok.items_foldl_put (h : channel.Ok) :
    (values.foldl Channel.put channel).items = channel.items ++ values := by
  induction values generalizing channel with
  | nil => exact (List.append_nil _).symm
  | cons value rest ih =>
    rw [List.foldl_cons, ih Ok.put, h.items_put, List.append_assoc]
    rfl

lemma Ok.of_push {next : Channel α} (hpush : channel.push value = some next) : next.Ok := by
  rw [push] at hpush
  split at hpush
  · cases hpush
  · cases hpush
    exact Ok.put

lemma Ok.items_push {next : Channel α} (h : channel.Ok) (hpush : channel.push value = some next) :
    next.items = channel.items ++ [value] := by
  rw [push] at hpush
  split at hpush
  · cases hpush
  · cases hpush
    exact h.items_put

lemma closed_of_push {next : Channel α} (hpush : channel.push value = some next) :
    next.closed = false := by
  rw [push] at hpush
  split at hpush
  · cases hpush
  · next hroom =>
    cases hpush
    rw [closed_put]
    simpa using fun hclosed => hroom (.inl hclosed)

lemma Ok.pushAll (h : channel.Ok) (hopen : channel.closed = false) :
    (channel.pushAll values).1.Ok ∧ (channel.pushAll values).1.closed = false ∧
      ∃ taken, taken <+: values ∧ (channel.pushAll values).1.items = channel.items ++ taken := by
  induction values generalizing channel with
  | nil => exact ⟨h, hopen, [], List.prefix_rfl, (List.append_nil _).symm⟩
  | cons value rest ih =>
    rw [Channel.pushAll]
    split
    · next next hpush =>
      obtain ⟨hok, hclosed, taken, htaken, hitems⟩ := ih (.of_push hpush) (closed_of_push hpush)
      refine ⟨hok, hclosed, value :: taken, List.cons_prefix_cons.mpr ⟨rfl, htaken⟩, ?_⟩
      rw [hitems, h.items_push hpush, List.append_assoc]
      rfl
    · exact ⟨h, hopen, [], List.nil_prefix, (List.append_nil _).symm⟩

lemma Ok.closeWith (h : channel.Ok) : (channel.closeWith values).Ok := by
  rw [Channel.closeWith]
  split
  · exact h
  · exact .of_not_waiting rfl

@[simp] lemma closed_closeWith : (channel.closeWith values).closed = true := by
  rw [Channel.closeWith]
  split
  · next hclosed => exact hclosed
  · rfl

lemma Ok.items_closeWith (h : channel.Ok) (hopen : channel.closed = false) :
    (channel.closeWith values).items = channel.items ++ values := by
  rw [Channel.closeWith, hopen]
  exact h.items_foldl_put

lemma Ok.next (h : channel.Ok) : channel.next.1.Ok := by
  obtain ⟨queue, handed, waiting, closed⟩ := channel
  cases handed with
  | some value =>
    exact ⟨fun _ => rfl, fun hwaiting => (nomatch h.handed hwaiting),
      fun hwaiting => h.closed hwaiting⟩
  | none =>
    cases queue with
    | nil => exact ⟨fun _ => rfl, fun _ => rfl, fun hwaiting => by simpa [Channel.next] using hwaiting⟩
    | cons value rest =>
      exact ⟨fun _ => rfl, fun hwaiting => (nomatch h.queue hwaiting),
        fun hwaiting => h.closed hwaiting⟩

@[simp] lemma closed_next : channel.next.1.closed = channel.closed := by
  obtain ⟨queue, handed, waiting, closed⟩ := channel
  cases handed with
  | some value => rfl
  | none => cases queue <;> rfl

lemma items_next : channel.items = channel.next.2.toList ++ channel.next.1.items := by
  obtain ⟨queue, handed, waiting, closed⟩ := channel
  cases handed with
  | some value => rfl
  | none => cases queue <;> rfl

end Channel

end Data
