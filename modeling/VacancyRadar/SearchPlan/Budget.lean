import VacancyRadar.SearchPlan.Passes

/-!
# The budget of a search plan

Whatever the order in which calls start, go out, are cut and end, the allowances hold, and each call
is recorded as sent when it reached the network, and as refused when the plan refused it before.
-/

namespace VacancyRadar.SearchPlan

open Data

variable {event : AdmissionEvent} {ledger : Ledger} {firstContact : Bool} {s' : PlanRun}

/-! ## What is recorded -/

inductive Mark where
  | sent
  | unsent
  | followUp
deriving DecidableEq

def AdmissionEvent.mark : AdmissionEvent → Mark
  | .sentCall => .sent
  | .unsentCall _ => .unsent
  | .refusedFollowUp _ => .followUp

def RowCounters.count (counters : RowCounters) : Mark → ℕ
  | .sent => counters.sentCalls
  | .unsent => counters.refusedCalls
  | .followUp => counters.refusedFollowUps

lemma count_recordPlanAdmission (plan : RowCounters) (event : AdmissionEvent) (mark : Mark) :
    (recordPlanAdmission plan event).count mark =
      plan.count mark + if event.mark = mark then 1 else 0 := by
  cases event <;> cases mark <;> rfl

def recorded (among : Call → Prop) [DecidablePred among] (mark : Mark) (calls : Assoc ℕ Call) : ℕ :=
  Assoc.total (fun call => if among call then call.events.countP (·.mark = mark) else 0) calls

section

variable {among : Call → Prop} [DecidablePred among] {mark : Mark} {calls : Assoc ℕ Call} {id : ℕ}
  {old call : Call}

lemma recorded_set (hold : calls.get? id = some old) (hamong : among call ↔ among old)
    (hevents : call.events = old.events) :
    recorded among mark (calls.set id call) = recorded among mark calls := by
  have hset : recorded among mark (calls.set id call) +
      (if among old then old.events.countP (·.mark = mark) else 0) =
      recorded among mark calls + if among call then call.events.countP (·.mark = mark) else 0 :=
    Assoc.total_set_of_some _ hold
  simp only [hamong, hevents] at hset
  exact Nat.add_right_cancel hset

lemma recorded_new (hnew : calls.get? id = none) (hevents : call.events = []) :
    recorded among mark (calls.set id call) = recorded among mark calls := by
  have hset : recorded among mark (calls.set id call) =
      recorded among mark calls + if among call then call.events.countP (·.mark = mark) else 0 :=
    Assoc.total_set_of_none _ hnew
  simpa [hevents] using hset

lemma recorded_append (hold : calls.get? id = some old) (hamong : among call ↔ among old)
    (hevents : call.events = old.events ++ [event]) :
    recorded among mark (calls.set id call) =
      recorded among mark calls + if among old ∧ event.mark = mark then 1 else 0 := by
  have hset : recorded among mark (calls.set id call) +
      (if among old then old.events.countP (·.mark = mark) else 0) =
      recorded among mark calls + if among call then call.events.countP (·.mark = mark) else 0 :=
    Assoc.total_set_of_some _ hold
  simp only [hamong, hevents, List.countP_append, List.countP_singleton, decide_eq_true_eq] at hset
  by_cases hmember : among old
  · simp only [hmember, if_true, true_and] at hset ⊢
    omega
  · simp only [hmember, if_false, false_and] at hset ⊢
    omega

end

def Call.expected (call : Call) : List AdmissionEvent :=
  (if call.attempts = 0 then [] else [.sentCall]) ++
    match call.refused with
    | none => []
    | some kind => [if call.attempts = 0 then .unsentCall kind else .refusedFollowUp kind]

structure CallOk (call : Call) : Prop where
  events : call.events = call.expected
  hop : call.hop = ⟨0, 0⟩ ↔ call.attempts = 0
  literal : call.provider = none → call.pass = 0

namespace PlanRun

structure Booked (s : PlanRun) : Prop where
  rows : ∀ row mark, ((s.rows.get? row).getD {}).count mark =
    recorded (fun call => call.row = some row) mark s.calls
  refusedCalls : s.ledger.refusedCalls = recorded (fun _ => True) .unsent s.calls
  refusedFollowUps : s.ledger.refusedFollowUps = recorded (fun _ => True) .followUp s.calls

structure Inv (s : PlanRun) : Prop where
  attempts_le : s.ledger.attempts ≤ s.ledger.maxRequests
  attempts_eq : s.ledger.attempts = s.ledger.literalAttempts + s.ledger.variantAttempts
  passes : ∀ entry ∈ s.passes, PassOk entry.2
  literal : ∃ pass, s.passes.get? 0 = some pass ∧ pass.quotas = none
  calls : ∀ entry ∈ s.calls, CallOk entry.2
  booked : Booked s

variable {s : PlanRun} {id : ℕ} {call old : Call} {pass : Pass} {kind : Refusal}

/-! ## Calls -/

lemma Inv.callOk (h : Inv s) (hcall : s.calls.get? id = some call) : CallOk call :=
  h.calls _ (Assoc.mem_of_get? hcall)

lemma Inv.passOk {key : ℕ} (h : Inv s) (hpass : s.passes.get? key = some pass) : PassOk pass :=
  h.passes _ (Assoc.mem_of_get? hpass)

lemma calls_set (h : ∀ entry ∈ s.calls, CallOk entry.2) (hcall : CallOk call) :
    ∀ entry ∈ s.calls.set id call, CallOk entry.2 := by
  intro entry hentry
  rcases Assoc.mem_set hentry with rfl | hentry
  · exact hcall
  · exact h entry hentry

lemma Inv.setCall (h : Inv s) (hold : s.calls.get? id = some old) (hcall : CallOk call)
    (hrow : call.row = old.row) (hevents : call.events = old.events) :
    Inv { s with calls := s.calls.set id call } where
  attempts_le := h.attempts_le
  attempts_eq := h.attempts_eq
  passes := h.passes
  literal := h.literal
  calls := calls_set h.calls hcall
  booked :=
    { rows := fun row mark => (h.booked.rows row mark).trans
        (recorded_set hold (by rw [hrow]) hevents).symm
      refusedCalls := h.booked.refusedCalls.trans (recorded_set hold (by simp) hevents).symm
      refusedFollowUps := h.booked.refusedFollowUps.trans (recorded_set hold (by simp) hevents).symm }

lemma Inv.newCall (h : Inv s) (hnew : s.calls.get? id = none) (hcall : CallOk call)
    (hevents : call.events = []) : Inv { s with calls := s.calls.set id call } where
  attempts_le := h.attempts_le
  attempts_eq := h.attempts_eq
  passes := h.passes
  literal := h.literal
  calls := calls_set h.calls hcall
  booked :=
    { rows := fun row mark => (h.booked.rows row mark).trans (recorded_new hnew hevents).symm
      refusedCalls := h.booked.refusedCalls.trans (recorded_new hnew hevents).symm
      refusedFollowUps := h.booked.refusedFollowUps.trans (recorded_new hnew hevents).symm }

lemma booked_record {passes : Assoc ℕ Pass} (h : Booked s) (hold : s.calls.get? id = some old)
    (hrow : call.row = old.row) (hevents : call.events = old.events) (hcalls : ledger.refusedCalls =
      s.ledger.refusedCalls + if event.mark = .unsent then 1 else 0) (hfollowUps : ledger.refusedFollowUps =
      s.ledger.refusedFollowUps + if event.mark = .followUp then 1 else 0) :
    Booked ({ s with ledger, passes }.record id call event) := by
  have hlater : ({ call with events := call.events ++ [event] } : Call).events =
      old.events ++ [event] := by
    rw [hevents]
  have hall : ∀ mark, recorded (fun _ => True) mark
      (s.calls.set id { call with events := call.events ++ [event] }) =
      recorded (fun _ => True) mark s.calls + if event.mark = mark then 1 else 0 := fun mark => by
    rw [recorded_append hold (by simp) hlater]
    simp only [true_and]
  refine ⟨fun row mark => ?_, ?_, ?_⟩
  · show _ = recorded _ mark (s.calls.set id _)
    rw [recorded_append hold (by rw [hrow]) hlater, ← h.rows, ← hrow]
    unfold PlanRun.record
    cases hcall : call.row with
    | none => simp
    | some own =>
      by_cases heq : row = own
      · subst heq
        simp only [Assoc.get?_set_self, Option.getD_some, count_recordPlanAdmission, true_and]
      · have hne : ¬ (some own = some row) := fun h => heq (Option.some.inj h).symm
        simp only [Assoc.get?_set_of_ne heq, hne, false_and, if_false, Nat.add_zero]
  · exact hcalls.trans ((congrArg (· + _) h.refusedCalls).trans (hall .unsent).symm)
  · exact hfollowUps.trans ((congrArg (· + _) h.refusedFollowUps).trans (hall .followUp).symm)

/-! ## Refusals -/

lemma Inv.notePass (h : Inv s) (key : ℕ) (kind : Refusal) :
    Inv { s with
      passes :=
        match s.passes.get? key with
        | none => s.passes
        | some pass => s.passes.set key { pass with refused := pass.refused.or (some kind) }
      ledger := { s.ledger with firstRefusal := s.ledger.firstRefusal.or (some kind) } } where
  attempts_le := h.attempts_le
  attempts_eq := h.attempts_eq
  passes entry hentry := by
    split at hentry
    · exact h.passes entry hentry
    · next pass hpass =>
      rcases Assoc.mem_set hentry with rfl | hentry
      · have hok := h.passOk hpass
        exact ⟨hok.used_le, fun quotas hquotas =>
          ⟨(hok.split quotas hquotas).limit, (hok.split quotas hquotas).used,
            (hok.split quotas hquotas).within⟩⟩
      · exact h.passes entry hentry
  literal := by
    obtain ⟨first, hfirst, hnone⟩ := h.literal
    split
    · exact ⟨first, hfirst, hnone⟩
    · next pass hpass =>
      by_cases hkey : 0 = key
      · subst hkey
        obtain rfl : first = pass := Option.some.inj (hfirst.symm.trans hpass)
        exact ⟨_, Assoc.get?_set_self, hnone⟩
      · exact ⟨first, (Assoc.get?_set_of_ne hkey).trans hfirst, hnone⟩
  calls := h.calls
  booked := ⟨h.booked.rows, h.booked.refusedCalls, h.booked.refusedFollowUps⟩

lemma Inv.refuse (h : Inv s) (hcall : s.calls.get? id = some call) (kind : Refusal)
    (hfirst : call.attempts = 0 → firstContact = true) :
    Inv (s.refuse id call kind firstContact) := by
  have hnoted := h.notePass call.pass kind
  have hok := h.callOk hcall
  unfold PlanRun.refuse
  dsimp only
  split
  · exact hnoted
  · next hrefused =>
    rw [Option.not_isSome_iff_eq_none] at hrefused
    have hevents : call.events = if call.attempts = 0 then [] else [.sentCall] := by
      rw [hok.events, Call.expected, hrefused, List.append_nil]
    split
    · next hzero =>
      refine ⟨h.attempts_le, h.attempts_eq, hnoted.passes, hnoted.literal, ?_, ?_⟩
      · refine calls_set h.calls ⟨?_, hok.hop, hok.literal⟩
        simp [Call.expected, hevents, hzero.1]
      · exact booked_record h.booked hcall rfl rfl rfl rfl
    · next hzero =>
      have hpos : call.attempts ≠ 0 := fun heq => hzero ⟨heq, hfirst heq⟩
      refine ⟨h.attempts_le, h.attempts_eq, hnoted.passes, hnoted.literal, ?_, ?_⟩
      · refine calls_set h.calls ⟨?_, hok.hop, hok.literal⟩
        simp [Call.expected, hevents, hpos]
      · exact booked_record h.booked hcall rfl rfl rfl rfl

lemma Inv.close (h : Inv s) (id : ℕ) : Inv (s.close id) := by
  unfold PlanRun.close
  split
  · exact h
  · next call hcall =>
    have hok := h.callOk hcall
    exact h.setCall hcall ⟨hok.events, hok.hop, hok.literal⟩ rfl rfl

lemma Inv.cut (h : Inv s) (id : ℕ) : Inv (s.cut id) := by
  unfold PlanRun.cut
  split
  · exact h
  · next call hcall => exact (h.refuse hcall .time fun _ => rfl).close id

lemma Inv.abort (h : Inv s) : Inv s.abort := by
  have hmarked : Inv { s with ledger := { s.ledger with aborted := true } } :=
    { h with booked := ⟨h.booked.rows, h.booked.refusedCalls, h.booked.refusedFollowUps⟩ }
  exact List.foldlRecOn _ _ hmarked fun _ hs id _ => hs.cut id

lemma Inv.timeExhausted (h : Inv s) (now : ℕ) : Inv (s.timeExhausted now) := by
  unfold PlanRun.timeExhausted
  split
  · exact h.abort
  · exact h

def Lacking (s : PlanRun) (id : ℕ) : Prop :=
  ∃ call, s.calls.get? id = some call ∧ call.refused = some .request

structure NoneLacking (s s' : PlanRun) : Prop where
  absent : ∀ id, s.calls.get? id = none → s'.calls.get? id = none
  lacking : ∀ id, Lacking s' id → Lacking s id

lemma NoneLacking.refl (s : PlanRun) : NoneLacking s s :=
  ⟨fun _ h => h, fun _ h => h⟩

lemma NoneLacking.trans {s₁ s₂ s₃ : PlanRun} (h : NoneLacking s₁ s₂) (h' : NoneLacking s₂ s₃) :
    NoneLacking s₁ s₃ :=
  ⟨fun id hid => h'.absent id (h.absent id hid), fun id hid => h.lacking id (h'.lacking id hid)⟩

lemma calls_refuse (s : PlanRun) (id : ℕ) (call : Call) (kind : Refusal) (firstContact : Bool) :
    (s.refuse id call kind firstContact).calls = s.calls ∨
      call.refused = none ∧ ∃ events, (s.refuse id call kind firstContact).calls =
        s.calls.set id { call with refused := some kind, events } := by
  unfold PlanRun.refuse
  dsimp only
  split
  · exact .inl rfl
  · next hrefused =>
    rw [Option.not_isSome_iff_eq_none] at hrefused
    split
    · exact .inr ⟨hrefused, _, rfl⟩
    · exact .inr ⟨hrefused, _, rfl⟩

lemma lacking_set (hset : s'.calls = s.calls.set id call) {other : ℕ} (h : Lacking s' other) :
    other = id ∧ call.refused = some .request ∨ Lacking s other := by
  obtain ⟨found, hfound, hlacking⟩ := h
  rw [hset] at hfound
  by_cases heq : other = id
  · subst heq
    rw [Assoc.get?_set_self] at hfound
    cases hfound
    exact .inl ⟨rfl, hlacking⟩
  · rw [Assoc.get?_set_of_ne heq] at hfound
    exact .inr ⟨found, hfound, hlacking⟩

lemma noneLacking_set (hold : s.calls.get? id = some old) (hset : s'.calls = s.calls.set id call)
    (hrefused : call.refused = some .request → old.refused = some .request) :
    NoneLacking s s' where
  absent other hother := by
    have hne : other ≠ id := by
      rintro rfl
      rw [hold] at hother
      cases hother
    rwa [hset, Assoc.get?_set_of_ne hne]
  lacking other hother := by
    rcases lacking_set hset hother with ⟨rfl, hlacking⟩ | hbefore
    · exact ⟨old, hold, hrefused hlacking⟩
    · exact hbefore

lemma noneLacking_cut (s : PlanRun) (id : ℕ) : NoneLacking s (s.cut id) := by
  unfold PlanRun.cut
  split
  · exact .refl s
  · next call hcall =>
    have hrefuse : NoneLacking s (s.refuse id call .time true) := by
      rcases calls_refuse s id call .time true with hsame | ⟨-, events, hset⟩
      · exact noneLacking_set hcall (hsame.trans (Assoc.set_self hcall).symm) fun h => h
      · exact noneLacking_set hcall hset fun h => by cases h
    refine hrefuse.trans ?_
    unfold PlanRun.close
    split
    · exact .refl _
    · next found hfound => exact noneLacking_set hfound rfl fun h => h

lemma noneLacking_abort (s : PlanRun) : NoneLacking s s.abort := by
  have hmarked : NoneLacking s { s with ledger := { s.ledger with aborted := true } } :=
    ⟨fun _ h => h, fun _ h => h⟩
  exact List.foldlRecOn _ _ hmarked fun s' hs id _ => hs.trans (noneLacking_cut s' id)

lemma noneLacking_timeExhausted (s : PlanRun) (now : ℕ) : NoneLacking s (s.timeExhausted now) := by
  unfold PlanRun.timeExhausted
  split
  · exact noneLacking_abort s
  · exact .refl s

def OutOfRequests (s : PlanRun) (call : Call) : Prop :=
  s.ledger.maxRequests ≤ s.ledger.attempts ∨
    ∃ pass, s.passes.get? call.pass = some pass ∧ Exhausted pass call.provider

def RefusedRightly (s s' : PlanRun) : Prop :=
  ∀ id call, s'.calls.get? id = some call → call.refused = some .request →
    Lacking s id ∨ s'.OutOfRequests call

lemma NoneLacking.refusedRightly (h : NoneLacking s s') : RefusedRightly s s':=
  fun id call hcall hrefused => .inl (h.lacking id ⟨call, hcall, hrefused⟩)

lemma RefusedRightly.after {s₁ s₂ s₃ : PlanRun} (h : ∀ id, Lacking s₂ id → Lacking s₁ id)
    (h' : RefusedRightly s₂ s₃) : RefusedRightly s₁ s₃ :=
  fun id call hcall hrefused => (h' id call hcall hrefused).imp_left (h id)

lemma lacking_of_set (hset : s'.calls = s.calls.set id call) (hrefused : call.refused = none) {other : ℕ}
    (h : Lacking s' other) : Lacking s other := by
  refine (lacking_set hset h).resolve_left ?_
  rintro ⟨-, hrequest⟩
  rw [hrefused] at hrequest
  cases hrequest

lemma exhausted_noted (pass : Pass) (refused : Option Refusal) (asked : Option String) :
    Exhausted { pass with refused } asked ↔ Exhausted pass asked := by
  rfl

lemma ledger_refuse (s : PlanRun) (id : ℕ) (call : Call) (kind : Refusal) (firstContact : Bool) :
    (s.refuse id call kind firstContact).ledger.maxRequests = s.ledger.maxRequests ∧
      (s.refuse id call kind firstContact).ledger.attempts = s.ledger.attempts ∧
      (s.refuse id call kind firstContact).ledger.aborted = s.ledger.aborted := by
  unfold PlanRun.refuse
  dsimp only
  split
  · exact ⟨rfl, rfl, rfl⟩
  · split <;> exact ⟨rfl, rfl, rfl⟩

lemma outOfRequests_refuse {asking : Call} (h : s.OutOfRequests asking) :
    (s.refuse id call kind firstContact).OutOfRequests asking := by
  have hnoted : ∀ key pass, s.passes.get? key = some pass →
      ∃ refused, Assoc.get? key (match s.passes.get? call.pass with
        | none => s.passes
        | some pass => s.passes.set call.pass { pass with refused := pass.refused.or (some kind) }) =
        some { pass with refused } := by
    intro key pass hpass
    split
    · exact ⟨pass.refused, hpass⟩
    · next noted hfound =>
      by_cases heq : key = call.pass
      · subst heq
        obtain rfl : pass = noted := Option.some.inj (hpass.symm.trans hfound)
        exact ⟨_, Assoc.get?_set_self⟩
      · exact ⟨pass.refused, (Assoc.get?_set_of_ne heq).trans hpass⟩
  have hpasses : (s.refuse id call kind firstContact).passes =
      match s.passes.get? call.pass with
      | none => s.passes
      | some pass =>
        s.passes.set call.pass { pass with refused := pass.refused.or (some kind) } := by
    unfold PlanRun.refuse
    dsimp only
    split
    · rfl
    · split <;> rfl
  obtain ⟨hmaxRequests, hattempts, -⟩ := ledger_refuse s id call kind firstContact
  rcases h with hmax | ⟨pass, hpass, hexhausted⟩
  · left
    rw [hmaxRequests, hattempts]
    exact hmax
  · right
    obtain ⟨refused, hrefused⟩ := hnoted _ pass hpass
    refine ⟨_, ?_, (exhausted_noted pass refused _).mpr hexhausted⟩
    rw [hpasses]
    exact hrefused

lemma refusedRightly_refuse (hok : PassOk pass) (hcall : s.calls.get? id = some call)
    (hpass : s.passes.get? call.pass = some pass)
    (hkind : s.ledger.refusalOf pass call.provider = some kind) :
    RefusedRightly s (s.refuse id call kind firstContact) := by
  rcases calls_refuse s id call kind firstContact with hsame | ⟨-, events, hset⟩
  · intro other found hfound hrefused
    rw [hsame] at hfound
    exact .inl ⟨found, hfound, hrefused⟩
  · intro other found hfound hrefused
    rw [hset] at hfound
    by_cases heq : other = id
    · subst heq
      rw [Assoc.get?_set_self] at hfound
      cases hfound
      obtain rfl : kind = .request := Option.some.inj hrefused
      right
      have hout : s.OutOfRequests call :=
        (hok.exhausted hkind).imp_right fun hexhausted => ⟨pass, hpass, hexhausted⟩
      exact outOfRequests_refuse hout
    · rw [Assoc.get?_set_of_ne heq] at hfound
      exact .inl ⟨found, hfound, hrefused⟩

/-! ## Steps -/

def Kept (s s' : PlanRun) : Prop :=
  Inv s' ∧ RefusedRightly s s'

lemma Kept.of_noneLacking (hinv : Inv s') (h : NoneLacking s s') : Kept s s':=
  ⟨hinv, h.refusedRightly⟩

lemma kept_startCall (h : Inv s) (now : ℕ) (hnew : s.calls.get? id = none)
    (hcall : call.events = [] ∧ call.attempts = 0 ∧ call.refused = none ∧ call.hop = ⟨0, 0⟩)
    (hliteral : call.provider = none → call.pass = 0) : Kept s (s.startCall now id call) := by
  obtain ⟨hevents, hattempts, hrefused, hhop⟩ := hcall
  have hlacking := noneLacking_timeExhausted s now
  have hinv := h.timeExhausted now
  have habsent := hlacking.absent id hnew
  have hok : CallOk call := by
    refine ⟨?_, iff_of_true hhop hattempts, hliteral⟩
    rw [hevents, Call.expected, hattempts, hrefused]
    rfl
  unfold PlanRun.startCall
  dsimp only
  generalize s.timeExhausted now = s' at hlacking hinv habsent
  split
  · exact .of_noneLacking hinv hlacking
  · next pass hpass =>
    split
    · next kind hkind =>
      have hadded : Inv { s' with calls := s'.calls.set id { call with ended := true } } :=
        hinv.newCall habsent ⟨hok.events, hok.hop, hok.literal⟩ hevents
      refine ⟨hadded.refuse Assoc.get?_set_self kind fun _ => rfl, .after (fun other hother => ?_)
        (refusedRightly_refuse (hinv.passOk hpass) Assoc.get?_set_self hpass hkind)⟩
      have hopen : ({ call with ended := true } : Call).refused = none := hrefused
      exact hlacking.lacking other (lacking_of_set rfl hopen hother)
    · refine ⟨hinv.newCall habsent hok hevents, fun other found hfound hrefused' => .inl ?_⟩
      exact hlacking.lacking other (lacking_of_set rfl hrefused ⟨found, hfound, hrefused'⟩)

lemma Inv.charge (h : Inv s) (hcall : s.calls.get? id = some call)
    (hpass : s.passes.get? call.pass = some pass)
    (hadmitted : s.ledger.refusalOf pass call.provider = none) : Inv (s.charge call pass) where
  attempts_le := by
    show s.ledger.attempts + 1 ≤ s.ledger.maxRequests
    unfold Ledger.refusalOf at hadmitted
    split at hadmitted
    · cases hadmitted
    · split at hadmitted
      · cases hadmitted
      · omega
  attempts_eq := by
    have := h.attempts_eq
    show s.ledger.attempts + 1 = s.ledger.literalAttempts + _ + (s.ledger.variantAttempts + _)
    split <;> omega
  passes entry hentry := by
    rcases Assoc.mem_set hentry with rfl | hentry
    · refine (h.passOk hpass).admitted hadmitted fun hsome => ?_
      by_contra hnone
      rw [Option.not_isSome_iff_eq_none] at hnone
      obtain ⟨first, hfirst, hquotas⟩ := h.literal
      rw [(h.callOk hcall).literal hnone, hfirst] at hpass
      cases hpass
      rw [hquotas] at hsome
      cases hsome
    · exact h.passes entry hentry
  literal := by
    obtain ⟨first, hfirst, hquotas⟩ := h.literal
    by_cases hkey : 0 = call.pass
    · have hfound := hfirst
      rw [hkey, hpass] at hfound
      cases hfound
      refine ⟨(pass.draw call.provider).charge call.provider, ?_, ?_⟩
      · show Assoc.get? 0 (s.passes.set call.pass _) = _
        rw [← hkey]
        exact Assoc.get?_set_self
      · unfold Pass.charge Pass.draw
        cases call.provider <;> simp [hquotas]
    · exact ⟨first, (Assoc.get?_set_of_ne hkey).trans hfirst, hquotas⟩
  calls := h.calls
  booked := ⟨h.booked.rows, h.booked.refusedCalls, h.booked.refusedFollowUps⟩

lemma Hop.next_ne (hop : Hop) (follow : Follow) : ¬ hop.next follow = ⟨0, 0⟩ := by
  cases follow <;> simp [Hop.next]

lemma aborted_abort (s : PlanRun) : s.abort.ledger.aborted = true := by
  have hcut : ∀ (s : PlanRun) (id : ℕ), (s.cut id).ledger.aborted = s.ledger.aborted := by
    intro s id
    unfold PlanRun.cut
    split
    · rfl
    · next call hcall =>
      refine Eq.trans ?_ (ledger_refuse s id call .time true).2.2
      unfold PlanRun.close
      split <;> rfl
  refine List.foldlRecOn (motive := fun s => s.ledger.aborted = true) _ _ ?_
    fun s hs id _ => (hcut s id).trans hs
  rfl

lemma timeExhausted_eq {now : ℕ} (h : ¬ (s.timeExhausted now).ledger.aborted = true) :
    s.timeExhausted now = s := by
  unfold PlanRun.timeExhausted at h ⊢
  split
  · next hlate =>
    rw [if_pos hlate] at h
    exact absurd (aborted_abort s) h
  · rfl

lemma not_aborted {asked : Option String} (h : ledger.refusalOf pass asked = none) : ¬ ledger.aborted = true:= by
  intro haborted
  unfold Ledger.refusalOf at h
  rw [if_pos haborted] at h
  cases h

lemma kept_admitAttempt (h : Inv s) (hasked : s.calls.get? id = some call) (now : ℕ)
    (follow : Follow) : Kept s (s.admitAttempt now id call follow) := by
  unfold PlanRun.admitAttempt
  split
  · exact .of_noneLacking h (.refl s)
  next hunrefused =>
  rw [Option.not_isSome_iff_eq_none] at hunrefused
  dsimp only
  have hsame : ¬ (s.timeExhausted now).ledger.aborted = true → s.timeExhausted now = s :=
    timeExhausted_eq
  have hlacking := noneLacking_timeExhausted s now
  have hinv := h.timeExhausted now
  generalize s.timeExhausted now = s' at hlacking hinv hsame
  split
  · exact .of_noneLacking hinv hlacking
  next found hcall =>
  split
  · exact .of_noneLacking hinv hlacking
  next pass hpass =>
  have hok := hinv.callOk hcall
  split
  · next kind hkind =>
    exact ⟨hinv.refuse hcall kind fun hzero => by simpa using hok.hop.mpr hzero,
      .after hlacking.lacking (refusedRightly_refuse (hinv.passOk hpass) hcall hpass hkind)⟩
  · next hadmitted =>
    -- nothing was refused when the time was looked at
    obtain rfl := hsame (not_aborted hadmitted)
    obtain rfl : call = found := Option.some.inj (hasked.symm.trans hcall)
    have hcharged := hinv.charge hcall hpass hadmitted
    have hhop : call.hop.next follow = ⟨0, 0⟩ ↔ call.attempts + 1 = 0 :=
      iff_of_false (Hop.next_ne _ follow) (Nat.succ_ne_zero _)
    split
    · next hzero =>
      refine .of_noneLacking ?_ (noneLacking_set hcall rfl fun hrequest => hrequest)
      refine ⟨hcharged.attempts_le, hcharged.attempts_eq, hcharged.passes, hcharged.literal,
        calls_set hcharged.calls ⟨?_, hhop, hok.literal⟩,
        booked_record hinv.booked hcall rfl rfl rfl rfl⟩
      simp [Call.expected, hok.events, hzero, hunrefused]
    · next hpos =>
      refine .of_noneLacking ?_ (noneLacking_set hcall rfl fun hrequest => hrequest)
      refine hcharged.setCall hcall ⟨?_, hhop, hok.literal⟩ rfl rfl
      simp [Call.expected, hok.events, hpos]

lemma kept_setPass {key : ℕ} {next : Pass} (h : Inv s) (hnext : PassOk next)
    (hliteral : ∀ pass, s.passes.get? key = some pass → pass.quotas = none → next.quotas = none)
    (hfirst : s.passes.get? key = none → key ≠ 0) :
    Kept s { s with passes := s.passes.set key next } := by
  refine .of_noneLacking ?_ ⟨fun _ h => h, fun _ h => h⟩
  refine ⟨h.attempts_le, h.attempts_eq, fun entry hentry => ?_, ?_, h.calls,
    ⟨h.booked.rows, h.booked.refusedCalls, h.booked.refusedFollowUps⟩⟩
  · rcases Assoc.mem_set hentry with rfl | hentry
    · exact hnext
    · exact h.passes entry hentry
  · obtain ⟨first, hget, hquotas⟩ := h.literal
    by_cases hkey : 0 = key
    · subst hkey
      exact ⟨next, Assoc.get?_set_self, hliteral first hget hquotas⟩
    · exact ⟨first, (Assoc.get?_set_of_ne hkey).trans hget, hquotas⟩

lemma kept_step {move : Move} (h : Inv s) (hstep : s.step move = some s') : Kept s s':= by
  cases move with
  | literalCall now id row =>
    simp only [PlanRun.step] at hstep
    split at hstep
    · cases hstep
    · next hnew =>
      cases hstep
      rw [Option.not_isSome_iff_eq_none] at hnew
      exact kept_startCall h now hnew ⟨rfl, rfl, rfl, rfl⟩ fun _ => rfl
  | variantCall now id key provider row =>
    simp only [PlanRun.step] at hstep
    split at hstep
    · cases hstep
    · next hnew =>
      cases hstep
      simp only [not_or, Option.not_isSome_iff_eq_none] at hnew
      exact kept_startCall h now hnew.2.2 ⟨rfl, rfl, rfl, rfl⟩ (by rintro ⟨⟩)
  | attempt now id follow =>
    obtain ⟨call, hcall, rfl⟩ := Option.map_eq_some_iff.mp hstep
    exact kept_admitAttempt h hcall now follow
  | settle id =>
    simp only [PlanRun.step] at hstep
    split at hstep
    · cases hstep
      refine .of_noneLacking (h.close id) ?_
      unfold PlanRun.close
      split
      · exact .refl s
      · next call hcall => exact noneLacking_set hcall rfl fun hrequest => hrequest
    · cases hstep
  | deadline =>
    simp only [PlanRun.step] at hstep
    split at hstep
    · cases hstep
    · cases hstep
      exact .of_noneLacking h.abort (noneLacking_abort s)
  | variantPass key id limit providers =>
    simp only [PlanRun.step] at hstep
    split at hstep
    · cases hstep
    · next hnew =>
      cases hstep
      simp only [not_or, not_not, Option.not_isSome_iff_eq_none] at hnew
      refine kept_setPass h (passOk_variantPass id limit hnew.2) ?_ ?_
      · intro pass hpass
        rw [hnew.1] at hpass
        cases hpass
      · rintro - rfl
        obtain ⟨first, hfirst, -⟩ := h.literal
        rw [hnew.1] at hfirst
        cases hfirst
  | finishProvider key provider =>
    obtain ⟨pass, hpass, rfl⟩ := Option.map_eq_some_iff.mp hstep
    refine kept_setPass h ((h.passOk hpass).finishProvider provider) ?_ ?_
    · intro pass' hpass' hnone
      obtain rfl : pass = pass' := Option.some.inj (hpass.symm.trans hpass')
      have := quotas_finishProvider pass provider
      rw [hnone] at this
      exact Option.not_isSome_iff_eq_none.mp (by rw [this]; exact Bool.false_ne_true)
    · intro hnone
      rw [hpass] at hnone
      cases hnone

lemma inv_construct (maxRequests maxDurationMs startedAt : ℕ) :
    Inv (construct maxRequests maxDurationMs startedAt) where
  attempts_le := Nat.zero_le _
  attempts_eq := rfl
  passes entry hentry := by
    rw [List.mem_singleton.mp hentry]
    exact passOk_literalPass
  literal := ⟨literalPass, rfl, rfl⟩
  calls := nofun
  booked := ⟨fun _ mark => by cases mark <;> rfl, rfl, rfl⟩

/-! ## The budget -/

structure InBudget (s : PlanRun) : Prop where
  attempts_le : s.ledger.attempts ≤ s.ledger.maxRequests
  attempts_eq : s.ledger.attempts = s.ledger.literalAttempts + s.ledger.variantAttempts
  used_le : ∀ entry ∈ s.passes, ∀ limit ∈ entry.2.limit, entry.2.used ≤ limit
  conserved : ∀ entry ∈ s.passes, ∀ quotas ∈ entry.2.quotas,
    entry.2.limit = some (shared quotas + entry.2.pool)
  recorded : ∀ entry ∈ s.calls, entry.2.events = entry.2.expected
  booked : Booked s

lemma Inv.inBudget (h : Inv s) : InBudget s where
  attempts_le := h.attempts_le
  attempts_eq := h.attempts_eq
  used_le entry hentry := (h.passes entry hentry).used_le
  conserved entry hentry quotas hquotas := ((h.passes entry hentry).split quotas hquotas).limit
  recorded entry hentry := (h.calls entry hentry).events
  booked := h.booked

/-- In every state of a plan the allowances hold and every call is recorded as what became of it: sent
once when it reached the network, refused once when the plan refused it.  And each step refuses a
call for lack of requests only if none are left for it. -/
theorem plan_in_budget (maxRequests maxDurationMs startedAt : ℕ) (moves : List Move) (s : PlanRun)
    (hrun : runSteps step moves (construct maxRequests maxDurationMs startedAt) = some s) :
    InBudget s ∧ ∀ move s', s.step move = some s' → RefusedRightly s s' := by
  have hinv : Inv s := runSteps_induction (fun s s' move h hstep => (kept_step h hstep).1)
    (inv_construct maxRequests maxDurationMs startedAt) hrun
  exact ⟨hinv.inBudget, fun move s' hstep => (kept_step hinv hstep).2⟩

def sampleMoves : List Move :=
  [.literalCall 0 0 (some 0), .attempt 0 0 .redirect, .attempt 0 0 .retry, .settle 0,
    .variantPass 1 "senior" 3 ["jobicy", "dice"], .variantCall 1 1 1 "jobicy" (some 1),
    .attempt 1 1 .redirect, .settle 1, .finishProvider 1 "jobicy",
    .variantCall 2 2 1 "dice" (some 2), .attempt 2 2 .redirect, .attempt 2 2 .redirect,
    .attempt 3 2 .redirect, .variantCall 3 3 1 "dice" (some 2)]

theorem plan_in_budget_sample : ∃ s, runSteps step sampleMoves (construct 9 1000 0) = some s ∧
    InBudget s ∧ s.ledger.attempts = 5 := by
  obtain ⟨s, hs, hattempts⟩ := Option.map_eq_some_iff.mp
    (show (runSteps step sampleMoves (construct 9 1000 0)).map (·.ledger.attempts) = some 5 by
      decide)
  exact ⟨s, hs, (plan_in_budget 9 1000 0 sampleMoves s hs).1, hattempts⟩

def RecordedOnce (call : Call) : Prop :=
  call.events.countP (fun event => event.mark ≠ .followUp) = 1

instance (call : Call) : Decidable (RecordedOnce call) :=
  inferInstanceAs (Decidable (_ = _))

/-- A call that fails before it reaches the network is not recorded at all. -/
theorem failed_call_unrecorded :
    ¬ ∀ moves s, runSteps step moves (construct 9 1000 0) = some s →
      ∀ entry ∈ s.calls, entry.2.ended = true → RecordedOnce entry.2 := by
  intro h
  obtain ⟨s, hs, hcalls⟩ := Option.map_eq_some_iff.mp
    (show (runSteps step [.literalCall 0 0 none, .settle 0] (construct 9 1000 0)).map (·.calls) =
      some [(0, { pass := 0, provider := none, row := none, ended := true })] by decide)
  have := h _ s hs (0, { pass := 0, provider := none, row := none, ended := true })
    (by rw [hcalls]; exact List.mem_singleton_self _) rfl
  exact absurd this (by decide)

end PlanRun

end VacancyRadar.SearchPlan
