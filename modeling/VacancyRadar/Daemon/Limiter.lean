import VacancyRadar.Data.Assoc

/-!
# The limiter of active sessions

`ActiveSessionLimiter` counts the sessions that are active, all of them and those of each provider.
The counters are kept next to the map of the reservations; that they agree with it, and that a
release never finds a counter at zero, is the invariant of the class.
-/

namespace VacancyRadar.Daemon

open Data

def globalLimit : ℕ := 4

/-- `ACTIVE_SESSION_LIMITS.perProvider`. -/
def perProviderLimit : ℕ := 2

/-- `ActiveSessionLimitScope`. -/
inductive LimitScope where
  | global
  | provider

variable {π : Type} [DecidableEq π]

structure ActiveSessionLimiter (π : Type) where
  held : Assoc String π := []
  perProvider : Assoc π ℕ := []

inductive ReserveError (π : Type) where
  | alreadyHeld (sessionId : String)
  /-- `ActiveSessionLimitError`, with the sessions that were active. -/
  | limit (scope : LimitScope) (provider : π) (globalActive providerActive : ℕ)

namespace ActiveSessionLimiter

def active (limiter : ActiveSessionLimiter π) (provider : π) : ℕ :=
  (limiter.perProvider.get? provider).getD 0

def holds (limiter : ActiveSessionLimiter π) (sessionId : String) : Bool :=
  (limiter.held.get? sessionId).isSome

def reserve (limiter : ActiveSessionLimiter π) (provider : π) (sessionId : String) :
    Except (ReserveError π) (ActiveSessionLimiter π) :=
  if limiter.holds sessionId then .error (.alreadyHeld sessionId)
  else if globalLimit ≤ limiter.held.length then
    .error (.limit .global provider limiter.held.length (limiter.active provider))
  else if perProviderLimit ≤ limiter.active provider then
    .error (.limit .provider provider limiter.held.length (limiter.active provider))
  else
    .ok { held := limiter.held.set sessionId provider
          perProvider := limiter.perProvider.set provider (limiter.active provider + 1) }

def lowered (limiter : ActiveSessionLimiter π) (provider : π) : Assoc π ℕ :=
  if limiter.active provider = 1 then limiter.perProvider.erase provider
  else limiter.perProvider.set provider (limiter.active provider - 1)

/-- `release`.  The reservation is gone also when it throws on an underflow. -/
def release (limiter : ActiveSessionLimiter π) (sessionId : String) :
    ActiveSessionLimiter π × Except String Bool :=
  match limiter.held.get? sessionId with
  | none => (limiter, .ok false)
  | some provider =>
    let held := limiter.held.erase sessionId
    if limiter.active provider = 0 then
      ({ limiter with held }, .error "active-session accounting underflow")
    else ({ held, perProvider := limiter.lowered provider }, .ok true)

def heldBy (limiter : ActiveSessionLimiter π) (provider : π) : Assoc String π :=
  limiter.held.filter fun entry => entry.2 = provider

structure Wf (limiter : ActiveSessionLimiter π) : Prop where
  keys : (limiter.held.map Prod.fst).Nodup
  counts : ∀ provider, limiter.active provider = (limiter.heldBy provider).length
  global : limiter.held.length ≤ globalLimit
  perProvider : ∀ provider, limiter.active provider ≤ perProviderLimit

variable {limiter next : ActiveSessionLimiter π} {provider : π} {sessionId : String}

lemma wf_empty : Wf ({} : ActiveSessionLimiter π) :=
  ⟨List.nodup_nil, fun _ => rfl, Nat.zero_le _, fun _ => Nat.zero_le _⟩

/-- What `reserve` does when it admits a session. -/
lemma reserve_eq_ok (h : limiter.reserve provider sessionId = .ok next) :
    limiter.held.get? sessionId = none ∧ limiter.held.length < globalLimit ∧
      limiter.active provider < perProviderLimit ∧
      next = { held := limiter.held ++ [(sessionId, provider)]
               perProvider := limiter.perProvider.set provider (limiter.active provider + 1) } := by
  unfold reserve at h
  split at h
  · cases h
  · next hheld =>
    split at h
    · cases h
    · next hglobal =>
      split at h
      · cases h
      · next hprovider =>
        have hnone : limiter.held.get? sessionId = none := by simpa [holds] using hheld
        cases h
        exact ⟨hnone, Nat.lt_of_not_le hglobal, Nat.lt_of_not_le hprovider, by
          rw [Assoc.set_of_get?_eq_none hnone]⟩

lemma Wf.reserve (h : limiter.Wf) (hreserve : limiter.reserve provider sessionId = .ok next) :
    next.Wf := by
  obtain ⟨hnone, hglobal, hprovider, rfl⟩ := reserve_eq_ok hreserve
  have hactive : ∀ other, active { held := limiter.held ++ [(sessionId, provider)]
                                   perProvider := limiter.perProvider.set provider
                                     (limiter.active provider + 1) } other =
      if other = provider then limiter.active provider + 1 else limiter.active other := by
    intro other
    unfold active
    split
    · next heq => rw [heq, Assoc.get?_set_self, Option.getD_some]
    · next hne => rw [Assoc.get?_set_of_ne hne]
  refine ⟨?_, fun other => ?_, ?_, fun other => ?_⟩
  · rw [List.map_append, List.map_singleton]
    refine List.nodup_append.mpr ⟨h.keys, List.nodup_cons.mpr ⟨List.not_mem_nil, List.nodup_nil⟩, ?_⟩
    rintro key hkey other hother rfl
    rw [List.mem_singleton.mp hother] at hkey
    exact Assoc.get?_eq_none_iff.mp hnone hkey
  · rw [hactive, heldBy, List.filter_append, List.length_append]
    have hcount := h.counts other
    rw [heldBy] at hcount
    by_cases heq : other = provider
    · subst heq
      simp [hcount]
    · simp [heq, hcount, Ne.symm heq]
  · rw [List.length_append]
    exact hglobal
  · rw [hactive]
    split
    · exact hprovider
    · exact h.perProvider other

lemma active_lowered (held : Assoc String π) (other : π) :
    active { held := held, perProvider := limiter.lowered provider } other =
      if other = provider then limiter.active provider - 1 else limiter.active other := by
  unfold active lowered
  split
  · next hone =>
    split
    · next heq =>
      rw [heq, Assoc.get?_erase_self]
      exact (Nat.sub_eq_zero_of_le (Nat.le_of_eq hone)).symm
    · next hne => rw [Assoc.get?_erase_of_ne hne]
  · split
    · next heq => rw [heq, Assoc.get?_set_self, Option.getD_some, active]
    · next hne => rw [Assoc.get?_set_of_ne hne]

lemma Wf.release (h : limiter.Wf) (sessionId : String) :
    ∃ next released, limiter.release sessionId = (next, .ok released) ∧ next.Wf ∧
      next.held = limiter.held.erase sessionId := by
  unfold ActiveSessionLimiter.release
  cases hheld : limiter.held.get? sessionId with
  | none => exact ⟨limiter, false, rfl, h, (Assoc.erase_of_get?_eq_none hheld).symm⟩
  | some provider =>
    obtain ⟨before, after, heq, herase⟩ := Assoc.erase_eq h.keys hheld
    have hcount : limiter.active provider =
        (heldBy { limiter with held := before ++ after } provider).length + 1 := by
      rw [h.counts provider, heldBy, heldBy, heq]
      simp only [List.filter_append, List.filter_cons, decide_true, if_true, List.length_append,
        List.length_cons]
      omega
    have hother : ∀ other, other ≠ provider → limiter.active other =
        (heldBy { limiter with held := before ++ after } other).length := by
      intro other hne
      rw [h.counts other, heldBy, heldBy, heq]
      simp [Ne.symm hne]
    dsimp only
    rw [if_neg (by omega)]
    refine ⟨_, true, rfl, ?_, rfl⟩
    have hactive : ∀ other, active { held := before ++ after
                                     perProvider := limiter.lowered provider } other =
        (heldBy { limiter with held := before ++ after } other).length := by
      intro other
      rw [active_lowered]
      by_cases hne : other = provider
      · rw [if_pos hne, hne, hcount, Nat.add_sub_cancel]
      · rw [if_neg hne, hother other hne]
    have hle : ∀ other, active { held := before ++ after
                                 perProvider := limiter.lowered provider } other ≤
        limiter.active other := by
      intro other
      rw [active_lowered]
      split
      · next heq =>
        subst heq
        exact Nat.sub_le _ _
      · exact Nat.le_refl _
    rw [herase]
    refine ⟨?_, hactive, ?_, fun other => Nat.le_trans (hle other) (h.perProvider other)⟩
    · have hkeys := h.keys
      rw [heq, List.map_append, List.map_cons] at hkeys
      rw [List.map_append]
      exact hkeys.sublist ((List.Sublist.refl _).append (List.sublist_cons_self _ _))
    · have hglobal := h.global
      rw [heq, List.length_append, List.length_cons] at hglobal
      rw [List.length_append]
      omega

end ActiveSessionLimiter

end VacancyRadar.Daemon
