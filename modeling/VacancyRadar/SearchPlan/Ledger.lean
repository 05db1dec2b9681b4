import VacancyRadar.Data.Assoc
import VacancyRadar.Data.Runs

/-!
# The ledger of a search plan

`global-remote/search-plan-ledger.ts`: one allowance of network requests for a literal pass and any
number of variant passes.  A variant pass has an allowance of its own, split into a share for each of
its providers; what a provider leaves goes to a pool from which any provider draws.  A logical call
is told apart by a number, and so is a pass; the literal pass has the number 0.
-/

namespace VacancyRadar.SearchPlan

open Data

/-- `SearchPlanRefusal`. -/
inductive Refusal where
  | request
  | time
deriving DecidableEq

/-- `PlanAdmissionEvent`. -/
inductive AdmissionEvent where
  | sentCall
  | unsentCall (refusal : Refusal)
  | refusedFollowUp (refusal : Refusal)
deriving DecidableEq

structure RowCounters where
  sentCalls : ℕ := 0
  refusedCalls : ℕ := 0
  refusedFollowUps : ℕ := 0
  refusal : Option Refusal := none

def recordPlanAdmission (plan : RowCounters) : AdmissionEvent → RowCounters
  | .sentCall => { plan with sentCalls := plan.sentCalls + 1 }
  | .unsentCall refusal =>
    { plan with refusedCalls := plan.refusedCalls + 1, refusal := plan.refusal.or (some refusal) }
  | .refusedFollowUp refusal =>
    { plan with
      refusedFollowUps := plan.refusedFollowUps + 1
      refusal := plan.refusal.or (some refusal) }

structure ProviderQuota where
  limit : ℕ
  used : ℕ
  done : Bool

/-- `SearchPlanPass`.  Without a limit the pass is bounded by the whole plan only. -/
structure Pass where
  id : String
  limit : Option ℕ
  used : ℕ := 0
  refused : Option Refusal := none
  quotas : Option (Assoc String ProviderQuota)
  pool : ℕ := 0

/-- The position of a fetch in its call: `{ retryIndex, redirectIndex }`. -/
structure Hop where
  retryIndex : ℕ := 0
  redirectIndex : ℕ := 0
deriving DecidableEq

inductive Follow where
  | redirect
  | retry

/-- The next fetch of `SafeHttpClient`. -/
def Hop.next (hop : Hop) : Follow → Hop
  | .redirect => { hop with redirectIndex := hop.redirectIndex + 1 }
  | .retry => { retryIndex := hop.retryIndex + 1 }

/-- `CallState` and `PlanScope`, with the fetch that comes next, whether the promise of the call is
settled, and what was recorded of it. -/
structure Call where
  pass : ℕ
  provider : Option String
  /-- The source row that makes the call. -/
  row : Option ℕ
  attempts : ℕ := 0
  refused : Option Refusal := none
  hop : Hop := {}
  ended : Bool := false
  events : List AdmissionEvent := []
deriving DecidableEq

/-- `SearchPlanLedger`, as far as it counts requests. -/
structure Ledger where
  maxRequests : ℕ
  deadlineAt : ℕ
  aborted : Bool
  attempts : ℕ := 0
  literalAttempts : ℕ := 0
  variantAttempts : ℕ := 0
  refusedCalls : ℕ := 0
  refusedFollowUps : ℕ := 0
  firstRefusal : Option Refusal := none

def literalPass : Pass :=
  { id := "literal", limit := none, quotas := none }

def shares (limit n : ℕ) : ℕ → List String → Assoc String ProviderQuota → Assoc String ProviderQuota
  | _, [], quotas => quotas
  | index, provider :: rest, quotas =>
    let share := limit / n + if index < limit % n then 1 else 0
    shares limit n (index + 1) rest (quotas.set provider ⟨share, 0, false⟩)

def variantPass (id : String) (limit : ℕ) (providers : List String) : Pass :=
  { id
    limit := some limit
    quotas :=
      if providers = [] then none else some (shares limit providers.length 0 providers []) }

namespace Pass

def finishProvider (pass : Pass) (provider : String) : Pass :=
  match pass.quotas with
  | none => pass
  | some quotas =>
    match quotas.get? provider with
    | none => pass
    | some quota =>
      if quota.done then pass
      else
        { pass with
          pool := pass.pool + (quota.limit - quota.used)
          quotas := some (quotas.set provider { quota with done := true, limit := quota.used }) }

def UsedUp (quotas : Assoc String ProviderQuota) (provider : String) : Prop :=
  ∀ quota ∈ quotas.get? provider, quota.limit ≤ quota.used

instance (quotas : Assoc String ProviderQuota) (provider : String) :
    Decidable (UsedUp quotas provider) :=
  inferInstanceAs (Decidable (∀ quota ∈ Assoc.get? provider quotas, quota.limit ≤ quota.used))

/-- `if (consumePool)`: what a provider without a share left takes from the pool. -/
def draw (pass : Pass) (provider : Option String) : Pass :=
  match provider, pass.quotas with
  | some provider, some quotas =>
    if UsedUp quotas provider then
      { pass with
        pool := pass.pool - 1
        quotas := some (quotas.set provider
          (match quotas.get? provider with
          | none => ⟨1, 0, false⟩
          | some quota => { quota with limit := quota.limit + 1 })) }
    else pass
  | _, _ => pass

def charge (pass : Pass) (provider : Option String) : Pass :=
  { pass with
    used := pass.used + 1
    quotas :=
      match provider, pass.quotas with
      | some provider, some quotas =>
        match quotas.get? provider with
        | none => some quotas
        | some quota => some (quotas.set provider { quota with used := quota.used + 1 })
      | _, _ => pass.quotas }

end Pass

/-- `#refusalFor`, after it has looked at the time. -/
def Ledger.refusalOf (ledger : Ledger) (pass : Pass) (provider : Option String) : Option Refusal :=
  if ledger.aborted then some .time
  else if ledger.maxRequests ≤ ledger.attempts then some .request
  else if ∃ limit ∈ pass.limit, limit ≤ pass.used then some .request
  else
    match provider, pass.quotas with
    | some provider, some quotas =>
      if Pass.UsedUp quotas provider ∧ pass.pool = 0 then some .request else none
    | _, _ => none

/-- A plan while it is carried out. -/
structure PlanRun where
  ledger : Ledger
  passes : Assoc ℕ Pass := [(0, literalPass)]
  calls : Assoc ℕ Call := []
  /-- What the rows count; a row that has recorded nothing is not there. -/
  rows : Assoc ℕ RowCounters := []

namespace PlanRun

/-- The constructor. -/
def construct (maxRequests maxDurationMs startedAt : ℕ) : PlanRun :=
  { ledger :=
      { maxRequests, deadlineAt := startedAt + maxDurationMs, aborted := maxDurationMs = 0 } }

def record (s : PlanRun) (id : ℕ) (call : Call) (event : AdmissionEvent) : PlanRun :=
  { s with
    calls := s.calls.set id { call with events := call.events ++ [event] }
    rows :=
      match call.row with
      | none => s.rows
      | some row => s.rows.set row (recordPlanAdmission ((s.rows.get? row).getD {}) event) }

def refuse (s : PlanRun) (id : ℕ) (call : Call) (kind : Refusal) (firstContact : Bool) : PlanRun :=
  let s := { s with
    passes :=
      match s.passes.get? call.pass with
      | none => s.passes
      | some pass => s.passes.set call.pass { pass with refused := pass.refused.or (some kind) }
    ledger := { s.ledger with firstRefusal := s.ledger.firstRefusal.or (some kind) } }
  if call.refused.isSome then s
  else if call.attempts = 0 ∧ firstContact then
    { s with ledger := { s.ledger with refusedCalls := s.ledger.refusedCalls + 1 } }.record id
      { call with refused := some kind } (.unsentCall kind)
  else
    { s with ledger := { s.ledger with refusedFollowUps := s.ledger.refusedFollowUps + 1 } }.record
      id { call with refused := some kind } (.refusedFollowUp kind)

/-- The promise of a call is settled. -/
def close (s : PlanRun) (id : ℕ) : PlanRun :=
  match s.calls.get? id with
  | none => s
  | some call => { s with calls := s.calls.set id { call with ended := true } }

/-- `onAbort`, for a call that is listening. -/
def cut (s : PlanRun) (id : ℕ) : PlanRun :=
  match s.calls.get? id with
  | none => s
  | some call => (s.refuse id call .time true).close id

def abort (s : PlanRun) : PlanRun :=
  let listening := (s.calls.filter fun entry => !entry.2.ended).map Prod.fst
  listening.foldl cut { s with ledger := { s.ledger with aborted := true } }

def timeExhausted (s : PlanRun) (now : ℕ) : PlanRun :=
  if ¬ s.ledger.aborted ∧ s.ledger.deadlineAt ≤ now then s.abort else s

/-- `client`: a logical call starts.  One that would be refused does not reach the transport. -/
def startCall (s : PlanRun) (now id : ℕ) (call : Call) : PlanRun :=
  let s := s.timeExhausted now
  match s.passes.get? call.pass with
  | none => s
  | some pass =>
    match s.ledger.refusalOf pass call.provider with
    | some kind =>
      let call := { call with ended := true }
      ({ s with calls := s.calls.set id call }).refuse id call kind true
    | none => { s with calls := s.calls.set id call }

def charge (s : PlanRun) (call : Call) (pass : Pass) : PlanRun :=
  let isLiteral := pass.id = "literal"
  { s with
    ledger := { s.ledger with
      attempts := s.ledger.attempts + 1
      literalAttempts := s.ledger.literalAttempts + if isLiteral then 1 else 0
      variantAttempts := s.ledger.variantAttempts + if isLiteral then 0 else 1 }
    passes := s.passes.set call.pass ((pass.draw call.provider).charge call.provider) }

def admitAttempt (s : PlanRun) (now id : ℕ) (call : Call) (follow : Follow) : PlanRun :=
  if call.refused.isSome then s
  else
    let s := s.timeExhausted now
    -- the call itself may have been cut by the deadline
    match s.calls.get? id with
    | none => s
    | some call =>
      match s.passes.get? call.pass with
      | none => s
      | some pass =>
        match s.ledger.refusalOf pass call.provider with
        | some kind => s.refuse id call kind (call.hop = ⟨0, 0⟩)
        | none =>
          let s := s.charge call pass
          let next := { call with attempts := call.attempts + 1, hop := call.hop.next follow }
          if call.attempts = 0 then s.record id next .sentCall
          else { s with calls := s.calls.set id next }

/-- What happens. -/
inductive Move where
  /-- A call of the literal pass, which is for no provider. -/
  | literalCall (now id : ℕ) (row : Option ℕ)
  /-- A call of a provider in a variant pass. -/
  | variantCall (now id pass : ℕ) (provider : String) (row : Option ℕ)
  | attempt (now id : ℕ) (follow : Follow)
  /-- The transport is done with a call: it answered, or it failed. -/
  | settle (id : ℕ)
  /-- The timer of the deadline. -/
  | deadline
  | variantPass (key : ℕ) (id : String) (limit : ℕ) (providers : List String)
  | finishProvider (pass : ℕ) (provider : String)

def step (s : PlanRun) : Move → Option PlanRun
  | .literalCall now id row =>
    if (s.calls.get? id).isSome then none
    else some (s.startCall now id { pass := 0, provider := none, row })
  | .variantCall now id key provider row =>
    if key = 0 ∨ (s.passes.get? key).isNone ∨ (s.calls.get? id).isSome then none
    else some (s.startCall now id { pass := key, provider := some provider, row })
  | .attempt now id follow => (s.calls.get? id).map fun call => s.admitAttempt now id call follow
  | .settle id => if (s.calls.get? id).isSome then some (s.close id) else none
  | .deadline => if s.ledger.aborted then none else some s.abort
  | .variantPass key id limit providers =>
    if (s.passes.get? key).isSome ∨ ¬ providers.Nodup then none
    else some { s with passes := s.passes.set key (SearchPlan.variantPass id limit providers) }
  | .finishProvider key provider =>
    (s.passes.get? key).map fun pass =>
      { s with passes := s.passes.set key (pass.finishProvider provider) }

end PlanRun

end VacancyRadar.SearchPlan
