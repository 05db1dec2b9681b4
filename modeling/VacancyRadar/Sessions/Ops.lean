import VacancyRadar.Sessions.Creation

/-!
# What the manager does to a session

Most changes of a record are minor: what it says about the state of the session stays.  The other
ones are an event that is counted and written, and the end of the session.
-/

namespace VacancyRadar.Sessions

open Data

variable {Content : Type}

structure Minor (record record' : SessionRecord) : Prop where
  links : record'.links = record.links
  status : record'.status = record.status
  terminalReason : record'.terminalReason = record.terminalReason
  eventCount : record'.eventCount = record.eventCount
  eventsTruncated : record'.eventsTruncated = record.eventsTruncated
  acceptedWork : record.acceptedWork = .accepted → record'.acceptedWork = .accepted

variable {root : ℕ} {m : Session} {c f : SessionRecord → SessionRecord}

lemma session?_of_locate {store : Store} {id : ℕ} (h : store.locate id = some (root, m)) :
    store.session? root id = some m:= by
  obtain ⟨root', -, hmap⟩ := Option.bind_eq_some_iff.mp h
  obtain ⟨m', hm', heq⟩ := Option.map_eq_some_iff.mp hmap
  obtain ⟨rfl, rfl⟩ := Prod.mk.inj heq
  exact hm'

lemma modifySession_modifySession (store : Store) (root id : ℕ) {g : Session → Session}
    (g' : Session → Session)
    (hg : ∀ m, (g m).record.id = m.record.id) :
    (store.modifySession root id g).modifySession root id g' =
      store.modifySession root id (g' ∘ g) := by
  rw [Store.modifySession, Store.modifySession, Store.modifySession, modifyLineage_modifyLineage]
  · refine congrArg (store.modifyLineage root) (funext fun l => ?_)
    simp only [Function.comp_apply, List.map_map]
    refine congrArg (fun sessions => { l with sessions }) (List.map_congr_left fun m _ => ?_)
    by_cases hid : m.record.id = id
    · simp [hid, hg]
    · simp [hid]
  · exact fun _ => rfl

lemma writeRecord_set (format : Format Content) (j : Job) (root id : ℕ) (f : SessionRecord → SessionRecord)
    (hc : ∀ record : SessionRecord, (c record).id = record.id) :
    (j.set (j.store.modifySession root id fun m => { m with record := c m.record })).writeRecord
      format root id f = j.writeRecord format root id (f ∘ c) := by
  have hstore := modifySession_modifySession j.store root id
    (fun m => { m with record := f m.record })
    (fun m => hc m.record : ∀ m : Session, { m with record := c m.record }.record.id = m.record.id)
  unfold Job.writeRecord
  dsimp only [Job.set]
  rw [hstore]
  rfl

namespace SessionRecord

def final (now : ℕ) (status : SessionStatus) (reason : TerminalReason) (record : SessionRecord) :
    SessionRecord :=
  { record with status, terminalReason := some reason, completedAt := some now }

def counted (record : SessionRecord) : SessionRecord :=
  { record with eventCount := record.eventCount + 1 }

def dropped (record : SessionRecord) : SessionRecord :=
  { record with eventCount := record.eventCount + 1, eventsTruncated := true }

end SessionRecord

def Job.conclude (format : Format Content) (id : ℕ) (event : AgentEvent Content)
    (frames : List UnknownFrame) (now : ℕ) (j : Job) : Job :=
  let named := match event.providerId with
    | some providerSessionId => j.setProviderSessionId format id providerSessionId
    | none => j
  match durableTerminal event.type with
  | none => named
  | some (status, reason) =>
    let noted := if frames = [] then named else named.setUnknownFrames format id frames
    noted.finalize format now id status reason

lemma persistEvent_eq {format : Format Content} {id sequence now : ℕ} {event : AgentEvent Content}
    {frames : List UnknownFrame} {fault : Option ℕ} {j : Job} :
    j.persistEvent format id sequence event frames now fault =
      if j.store.throws id fault then j.appendEvent format id (event.record sequence) fault
      else (j.appendEvent format id (event.record sequence) fault).conclude format id event frames
        now := rfl

namespace Invariants

variable {I : Invariants Content} {d₀ : Disk} {j : Job} {id : ℕ}

def KeepsMinor (I : Invariants Content) : Prop :=
  ∀ m s record, Minor m.record record → I.R m s → I.Q s →
    I.R { m with record } { s with record } ∧ I.Q { s with record }

lemma Good.minor (h : I.Good d₀ j) (hI : I.KeepsMinor) (hm : j.store.session? root id = some m)
    (hf : Minor m.record (f m.record)) : I.Good d₀ (j.writeRecord I.format root id f):=
  h.writeRecord hm hf.links fun s hR hQ => hI m s _ hf hR hQ

lemma Good.markAcceptedWork (h : I.Good d₀ j) (hI : I.KeepsMinor) :
    I.Good d₀ (j.markAcceptedWork I.format id) := by
  unfold Job.markAcceptedWork
  split
  · exact h
  · rename_i root m hlocate
    split
    · exact h
    · exact h.minor hI (session?_of_locate hlocate) ⟨rfl, rfl, rfl, rfl, rfl, fun _ => rfl⟩

lemma Good.setProviderSessionId (h : I.Good d₀ j) (hI : I.KeepsMinor) {providerSessionId : String} :
    I.Good d₀ (j.setProviderSessionId I.format id providerSessionId) := by
  unfold Job.setProviderSessionId
  dsimp only
  split
  · exact h
  · rename_i root m hlocate
    split
    · exact h
    · exact h.minor hI (session?_of_locate hlocate) ⟨rfl, rfl, rfl, rfl, rfl, fun h' => h'⟩

lemma Good.setScope (h : I.Good d₀ j) (hI : I.KeepsMinor) {scope : LaunchScope} :
    I.Good d₀ (j.setScope I.format id scope) := by
  unfold Job.setScope Job.update
  split
  · exact h
  · rename_i root m hlocate
    exact h.minor hI (session?_of_locate hlocate) ⟨rfl, rfl, rfl, rfl, rfl, fun h' => h'⟩

lemma Good.setUnknownFrames (h : I.Good d₀ j) (hI : I.KeepsMinor) {frames : List UnknownFrame} :
    I.Good d₀ (j.setUnknownFrames I.format id frames) := by
  unfold Job.setUnknownFrames Job.update
  split
  · exact h
  · rename_i root m hlocate
    exact h.minor hI (session?_of_locate hlocate) ⟨rfl, rfl, rfl, rfl, rfl, fun h' => h'⟩

lemma Good.finalize (h : I.Good d₀ j) (now : ℕ) (status : SessionStatus) (reason : TerminalReason)
    (hf : ∀ root m s, j.store.locate id = some (root, m) → I.R m s → I.Q s →
      I.R { m with record := m.record.final now status reason }
          { s with record := m.record.final now status reason } ∧
        I.Q { s with record := m.record.final now status reason }) :
    I.Good d₀ (j.finalize I.format now id status reason) := by
  unfold Job.finalize Job.update
  split
  · exact h
  · rename_i root m hlocate
    exact h.writeRecord (session?_of_locate hlocate) rfl fun s hR hQ => hf root m s hlocate hR hQ

variable {entry : EventRecord Content}

lemma Good.appendCounted (h : I.Good d₀ j) (hm : j.store.session? root id = some m)
    (hf : ∀ s, I.R m s → I.Q s →
      I.R ⟨m.record.counted, m.lines + 1⟩ { s with log := s.log ++ I.format.code.line entry } ∧
        ∀ cut, I.Q { s with log := s.log ++ (I.format.code.line entry).take cut }) :
    I.Good d₀ ((j.set (j.store.modifySession root id fun m =>
      { m with record := m.record.counted })).appendLine I.format root id entry none) := by
  let line := I.format.code.line entry
  have heq : (j.set (j.store.modifySession root id fun m =>
      { m with record := m.record.counted })).appendLine I.format root id entry none =
      (j.emit (.append root id line)).set (j.store.modifyLineage root fun l =>
        { l with
          sessions := l.sessions.map fun m =>
            if m.record.id = id then ⟨m.record.counted, m.lines + 1⟩ else m
          bytes := l.bytes + line.length }) := by
    simp only [Job.appendLine, Job.set, Job.emit]
    rw [Store.modifySession, Store.modifySession, modifyLineage_modifyLineage,
      modifyLineage_modifyLineage]
    · refine congrArg (Job.mk · _ _) (congrArg (j.store.modifyLineage root) (funext fun l => ?_))
      simp only [Function.comp_apply, List.map_map]
      refine congrArg (Lineage.mk _ · _) (List.map_congr_left fun m _ => ?_)
      by_cases hid : m.record.id = id
      · simp [hid, SessionRecord.counted]
      · simp [hid]
    · exact fun _ => rfl
    · exact fun _ => rfl
  rw [heq]
  exact h.appendText (g := fun m => ⟨m.record.counted, m.lines + 1⟩) hm rfl (fun _ _ => rfl) hf

lemma Good.faultCounted (h : I.Good d₀ j) {n : ℕ} (hm : j.store.session? root id = some m)
    (hexact : ¬ I.exact)
    (hf : ∀ s, I.R m s → I.Q s →
      I.R { m with record := m.record.counted }
          { s with log := s.log ++ (I.format.code.encode entry).take n } ∧
        ∀ cut, I.Q { s with log := s.log ++ ((I.format.code.encode entry).take n).take cut }) :
    I.Good d₀ ((j.set (j.store.modifySession root id fun m =>
      { m with record := m.record.counted })).appendLine I.format root id entry (some n)) := by
  exact h.appendText (g := fun m => { m with record := m.record.counted }) (b := fun bytes => bytes) hm rfl
    (fun hexact' => absurd hexact' hexact) hf

structure Persists (I : Invariants Content) (m : Session) (entry : EventRecord Content)
    (fault : Option ℕ) : Prop where
  line : fault = none → m.lines < maxPersistedEventsPerSession → ∀ s, I.R m s → I.Q s →
    I.R ⟨m.record.counted, m.lines + 1⟩ { s with log := s.log ++ I.format.code.line entry } ∧
      ∀ cut, I.Q { s with log := s.log ++ (I.format.code.line entry).take cut }
  torn : ∀ n, fault = some n → m.lines < maxPersistedEventsPerSession → ¬ I.exact ∧
    ∀ s, I.R m s → I.Q s →
      I.R { m with record := m.record.counted }
          { s with log := s.log ++ (I.format.code.encode entry).take n } ∧
        ∀ cut, I.Q { s with log := s.log ++ ((I.format.code.encode entry).take n).take cut }
  full : ¬ m.lines < maxPersistedEventsPerSession → ∀ s, I.R m s → I.Q s →
    I.R { m with record := m.record.dropped } { s with record := m.record.dropped } ∧
      I.Q { s with record := m.record.dropped }

lemma Good.appendEvent (h : I.Good d₀ j) (id : ℕ) (entry : EventRecord Content)
    (fault : Option ℕ)
    (hI : ∀ root m, j.store.locate id = some (root, m) → I.Persists m entry fault) :
    I.Good d₀ (j.appendEvent I.format id entry fault) := by
  unfold Job.appendEvent
  split
  · exact h
  · rename_i root m hlocate
    have hm := session?_of_locate hlocate
    have hpersists := hI root m hlocate
    split
    · rename_i hlines
      cases fault with
      | none => exact h.appendCounted hm (hpersists.line rfl hlines)
      | some n =>
        obtain ⟨hexact, hf⟩ := hpersists.torn n rfl hlines
        exact h.faultCounted hm hexact hf
    · rename_i hlines
      have heq := writeRecord_set I.format j root id
        (fun record => { record with eventsTruncated := true })
        (fun _ => rfl : ∀ record : SessionRecord, record.counted.id = record.id)
      refine (congrArg (I.Good d₀) heq).mpr ?_
      exact h.writeRecord hm rfl (hpersists.full hlines)

lemma Good.conclude (h : I.Good d₀ j) (event : AgentEvent Content) (frames : List UnknownFrame)
    (now : ℕ) (hI : I.KeepsMinor)
    (hfinal : ∀ t, event.type.terminalType = some t → ∀ m s, m.record.id = id → I.R m s → I.Q s →
      I.R { m with record := m.record.final now t.outcome.1 t.outcome.2 }
          { s with record := m.record.final now t.outcome.1 t.outcome.2 } ∧
        I.Q { s with record := m.record.final now t.outcome.1 t.outcome.2 }) :
    I.Good d₀ (j.conclude I.format id event frames now) := by
  have hnamed : I.Good d₀ (match event.providerId with
      | some providerSessionId => j.setProviderSessionId I.format id providerSessionId
      | none => j) := by
    split
    · exact h.setProviderSessionId hI
    · exact h
  unfold Job.conclude
  generalize (match event.providerId with
    | some providerSessionId => j.setProviderSessionId I.format id providerSessionId
    | none => j) = named at hnamed ⊢
  cases hterminal : event.type.terminalType with
  | none =>
    rw [durableTerminal, hterminal]
    exact hnamed
  | some t =>
    rw [durableTerminal, hterminal]
    have hnoted : I.Good d₀ (if frames = [] then named
        else named.setUnknownFrames I.format id frames) := by
      split
      · exact hnamed
      · exact hnamed.setUnknownFrames hI
    refine hnoted.finalize _ _ _ fun root m s hlocate hR hQ => ?_
    exact hfinal t hterminal m s (hnoted.id_eq (session?_of_locate hlocate)) hR hQ

lemma Good.restart (h : I.Good d₀ j) : I.Good j.disk { store := j.store, disk := j.disk } :=
  ⟨Along.start h.sound, h.agrees, h.full, h.trash, h.index⟩

end Invariants

end VacancyRadar.Sessions
