import VacancyRadar.Coop.Contract

/-!
# Leases on a workspace

`WorkspaceExecutionLeaseManager`: one writer or any number of readers of a workspace at a time.
The second reader of a workspace waits for the check whether the tree is dirty, and it keeps the
set of leases it started with while it waits.  The set of a workspace is forgotten when its last
lease is released, so that the reader may come back to a set that is not the one of the workspace
any more.
-/

namespace VacancyRadar.Daemon.Lease

open Coop Prog

variable {l : WorkspaceLease} {p : DirtyCheck}

/-! ## The manager -/

/-- `WorkspaceLeaseMode`. -/
inductive Mode where
  | read
  | write
deriving DecidableEq

structure WorkspaceLease where
  leaseId : ℕ
  workspaceId : String
  sessionId : String
  mode : Mode
deriving DecidableEq

/-- `WorkspaceLeaseConflictReason`. -/
inductive ConflictReason where
  | writerActive
  | readerActive
  | workspaceDirty
deriving DecidableEq

inductive LeaseError where
  /-- `WorkspaceLeaseConflictError`. -/
  | conflict (reason : ConflictReason) (workspaceId : String)
  /-- What the dirty check throws. -/
  | check (message : String)
deriving DecidableEq

/-- `AcquireLeaseRequest`. -/
structure AcquireRequest where
  workspaceId : String
  sessionId : String
  mode : Mode
  canonicalPath : String
  allowDirtyRead : Bool := false
deriving DecidableEq

/-- `WorkspaceLeaseSet`.  The readers are a map in the order of their insertion. -/
structure LeaseSet where
  writer : Option WorkspaceLease := none
  readers : List WorkspaceLease := []
  pendingWriter : Option ℕ := none

namespace LeaseSet

def leases (set : LeaseSet) : List WorkspaceLease := set.writer.toList ++ set.readers

/-- What `pruneIfEmpty` asks. -/
def isEmpty (set : LeaseSet) : Bool :=
  set.writer.isNone && set.readers.isEmpty && set.pendingWriter.isNone

def add (set : LeaseSet) (lease : WorkspaceLease) : LeaseSet :=
  match lease.mode with
  | .write => { set with writer := some lease }
  | .read => { set with readers := set.readers ++ [lease] }

def remove (set : LeaseSet) (leaseId : ℕ) : LeaseSet :=
  { set with
    writer := set.writer.filter fun l => l.leaseId != leaseId
    readers := set.readers.filter fun l => l.leaseId != leaseId }

end LeaseSet

/-- The state of `WorkspaceExecutionLeaseManager`.  A set that is not stored for its workspace any
more lives on in the calls that hold it. -/
structure Manager where
  sets : ℕ → LeaseSet
  nextSet : ℕ
  byWorkspace : String → Option ℕ
  byLeaseId : List WorkspaceLease
  /-- What the next `randomUUID` returns. -/
  nextId : ℕ

namespace Manager

/-- The manager right after its construction. -/
def empty : Manager where
  sets _ := {}
  nextSet := 0
  byWorkspace _ := none
  byLeaseId := []
  nextId := 0

def modifySet (m : Manager) (set : ℕ) (f : LeaseSet → LeaseSet) : Manager :=
  { m with sets := Function.update m.sets set (f (m.sets set)) }

def openSet (m : Manager) (workspaceId : String) : Manager × ℕ :=
  match m.byWorkspace workspaceId with
  | some set => (m, set)
  | none =>
    ({ m with
        sets := Function.update m.sets m.nextSet {}
        nextSet := m.nextSet + 1
        byWorkspace := Function.update m.byWorkspace workspaceId (some m.nextSet) }, m.nextSet)

/-- `pruneIfEmpty`: it looks at the given set and forgets the stored one. -/
def pruneIfEmpty (m : Manager) (workspaceId : String) (set : ℕ) : Manager :=
  if (m.sets set).isEmpty then
    { m with byWorkspace := Function.update m.byWorkspace workspaceId none }
  else m

def mark (m : Manager) (set : ℕ) (mode : Mode) : Manager × ℕ :=
  let fresh := { m with nextId := m.nextId + 1 }
  (match mode with
    | .write => fresh.modifySet set fun s => { s with pendingWriter := some m.nextId }
    | .read => fresh, m.nextId)

def newLease (m : Manager) (request : AcquireRequest) : WorkspaceLease where
  leaseId := m.nextId
  workspaceId := request.workspaceId
  sessionId := request.sessionId
  mode := request.mode

def admitLease (m : Manager) (set : ℕ) (request : AcquireRequest) : Manager × WorkspaceLease :=
  let lease := m.newLease request
  ({ m.modifySet set fun s => s.add lease with
      byLeaseId := m.byLeaseId ++ [lease]
      nextId := m.nextId + 1 }, lease)

/-- The `finally` of `acquire`. -/
def finish (m : Manager) (set marker : ℕ) (workspaceId : String) : Manager :=
  (m.modifySet set fun s =>
    { s with
      pendingWriter := s.pendingWriter.filter fun id => id != marker }).pruneIfEmpty workspaceId set

def release (m : Manager) (leaseId : ℕ) : Manager :=
  match m.byLeaseId.find? fun l => l.leaseId = leaseId with
  | none => m
  | some lease =>
    let rest := { m with byLeaseId := m.byLeaseId.filter fun l => l.leaseId != leaseId }
    match m.byWorkspace lease.workspaceId with
    | none => rest
    | some set =>
      (rest.modifySet set fun s => s.remove leaseId).pruneIfEmpty lease.workspaceId set

end Manager

/-! ## The programs -/

/-- Everything the manager does without waiting. -/
inductive Op where
  | openSet (workspaceId : String)
  | readSet (set : ℕ)
  | mark (set : ℕ) (mode : Mode)
  | admitLease (set : ℕ) (request : AcquireRequest)
  | finish (set marker : ℕ) (workspaceId : String)
  | leases
  | release (leaseId : ℕ)

abbrev Op.Res : Op → Type
  | openSet _ | mark _ _ => ℕ
  | readSet _ => LeaseSet
  | admitLease _ _ => WorkspaceLease
  | leases => List WorkspaceLease
  | finish _ _ _ | release _ => Unit

structure DirtyCheck where
  set : ℕ
  request : AcquireRequest
deriving DecidableEq

/-- The signature of the manager. -/
abbrev sig : Sig where
  Op := Op
  Res := Op.Res
  Port := DirtyCheck
  Rep _ := Bool
  Err := LeaseError

instance : DecidableEq sig.Port := inferInstanceAs (DecidableEq DirtyCheck)

abbrev Run (α : Type) : Type := Prog sig α

/-- The meaning of the operations. -/
def Op.run : Exec sig Manager := fun o m =>
  match o with
  | .openSet workspaceId => ((m.openSet workspaceId).1, .ok (m.openSet workspaceId).2)
  | .readSet set => (m, .ok (m.sets set))
  | .mark set mode => ((m.mark set mode).1, .ok (m.mark set mode).2)
  | .admitLease set request => ((m.admitLease set request).1, .ok (m.admitLease set request).2)
  | .finish set marker workspaceId => (m.finish set marker workspaceId, .ok ())
  | .leases => (m, .ok m.byLeaseId)
  | .release leaseId => (m.release leaseId, .ok ())

/-- Execute an operation. -/
def op (o : Op) : Run o.Res := exec (S := sig) o

/-- The part of `acquire` inside its `try`. -/
def admitChecked (set : ℕ) (found : LeaseSet) (request : AcquireRequest) : Run WorkspaceLease := do
  -- Only a second reader has to show that the tree is clean.
  if request.mode = .read ∧ found.readers ≠ [] ∧ request.allowDirtyRead = false then
    let dirty ← wait (S := sig) ⟨set, request⟩
    if dirty then
      throw (LeaseError.conflict .workspaceDirty request.workspaceId)
    else
      op (.admitLease set request)
  else
    op (.admitLease set request)

def acquire (request : AcquireRequest) : Run WorkspaceLease := do
  let set ← op (.openSet request.workspaceId)
  let found ← op (.readSet set)
  if found.writer.isSome ∨ found.pendingWriter.isSome then
    throw (LeaseError.conflict .writerActive request.workspaceId)
  else if request.mode = .write ∧ found.readers ≠ [] then
    throw (LeaseError.conflict .readerActive request.workspaceId)
  else
    let marker ← op (.mark set request.mode)
    (admitChecked set found request).andFinally (op (.finish set marker request.workspaceId))

def releaseForSession (sessionId : String) : Run Unit := do
  let leases ← op .leases
  forEach (leases.filter fun l => l.sessionId = sessionId) fun l => op (.release l.leaseId)

inductive Call where
  | acquire (request : AcquireRequest)
  | release (leaseId : ℕ)
  | releaseForSession (sessionId : String)

def Call.body : Call → Run Unit
  | acquire request => do
    let _ ← Lease.acquire request
  | release leaseId => op (.release leaseId)
  | releaseForSession sessionId => Lease.releaseForSession sessionId

def manager : System sig Manager Call where
  ex := Op.run
  body := Call.body
  restart _ := .empty

def constructed : Cfg sig Manager := ⟨.empty, []⟩

/-! ## What the manager promises -/

/-- No writer is active together with another lease on its workspace. -/
def Exclusive (m : Manager) : Prop :=
  ∀ l ∈ m.byLeaseId, l.mode = .write →
    ∀ l' ∈ m.byLeaseId, l'.workspaceId = l.workspaceId → l' = l

def IndexesAgree (m : Manager) : Prop :=
  ∀ l, l ∈ m.byLeaseId ↔ ∃ set, m.byWorkspace l.workspaceId = some set ∧ l ∈ (m.sets set).leases

structure SetOk (workspaceId : String) (set : LeaseSet) : Prop where
  writer : ∀ l ∈ set.writer, l.mode = .write ∧ l.workspaceId = workspaceId
  readers : ∀ l ∈ set.readers, l.mode = .read ∧ l.workspaceId = workspaceId
  alone : set.writer ≠ none → set.readers = []
  idle : set.pendingWriter = none

/-- The invariant between the turns of the calls. -/
structure Inv (m : Manager) : Prop where
  agree : IndexesAgree m
  fresh : ∀ l ∈ m.byLeaseId, l.leaseId < m.nextId
  unique : ∀ l ∈ m.byLeaseId, ∀ l' ∈ m.byLeaseId, l.leaseId = l'.leaseId → l = l'
  stored : ∀ w a, m.byWorkspace w = some a → a < m.nextSet ∧ SetOk w (m.sets a)
  /-- A stored set is not empty, and it is stored for one workspace only. -/
  nonempty : ∀ w a, m.byWorkspace w = some a → (m.sets a).leases ≠ []

variable {set : LeaseSet} {w : String} {m : Manager}

lemma mem_leases : l ∈ set.leases ↔ set.writer = some l ∨ l ∈ set.readers:= by
  rw [LeaseSet.leases, List.mem_append, Option.mem_toList]

lemma SetOk.workspace_of_mem (h : SetOk w set) (hl : l ∈ set.leases) : l.workspaceId = w:= by
  rcases mem_leases.mp hl with hw | hr
  · exact (h.writer l hw).2
  · exact (h.readers l hr).2

lemma Inv.workspace_inj (h : Inv m) {w' : String} {a : ℕ} (hw : m.byWorkspace w = some a)
    (hw' : m.byWorkspace w' = some a) : w = w' := by
  obtain ⟨l, hl⟩ := List.exists_mem_of_ne_nil _ (h.nonempty w a hw)
  rw [← (h.stored w a hw).2.workspace_of_mem hl, (h.stored w' a hw').2.workspace_of_mem hl]

lemma Inv.exclusive (h : Inv m) : Exclusive m := by
  intro l hl hmode l' hl' hw
  obtain ⟨a, ha, hla⟩ := (h.agree l).mp hl
  obtain ⟨a', ha', hla'⟩ := (h.agree l').mp hl'
  rw [hw, ha] at ha'
  cases ha'
  have hok := (h.stored _ _ ha).2
  rcases mem_leases.mp hla with hwriter | hreader
  · rcases mem_leases.mp hla' with hwriter' | hreader'
    · rw [hwriter] at hwriter'
      exact (Option.some.inj hwriter').symm
    · rw [hok.alone (by rw [hwriter]; nofun)] at hreader'
      cases hreader'
  · rw [(hok.readers l hreader).1] at hmode
    cases hmode

lemma inv_empty : Inv .empty where
  agree _ := ⟨nofun, fun ⟨_, h, _⟩ => by cases h⟩
  fresh := nofun
  unique := nofun
  stored := nofun
  nonempty := nofun

/-! ## Calls that wait -/

structure Held (p : DirtyCheck) (m : Manager) : Prop where
  reads : p.request.mode = .read
  made : p.set < m.nextSet
  kept : (m.byWorkspace p.request.workspaceId = some p.set ∧ (m.sets p.set).readers ≠ []) ∨
    (∀ w, m.byWorkspace w ≠ some p.set) ∧ m.sets p.set = {}

structure Turn (m m' : Manager) : Prop where
  inv : Inv m'
  held : ∀ p, Held p m → Held p m'

lemma Turn.refl (h : Inv m) : Turn m m := ⟨h, fun _ hp => hp⟩

lemma Turn.trans {m' m'' : Manager} (h : Turn m m') (h' : Turn m' m'') : Turn m m'' :=
  ⟨h'.inv, fun p hp => h'.held p (h.held p hp)⟩

/-! ## Release -/

section Release

variable {m : Manager} {lease : WorkspaceLease} {a : ℕ}

lemma leases_remove (set : LeaseSet) (id : ℕ) :
    (set.remove id).leases = set.leases.filter fun l => l.leaseId != id := by
  rw [LeaseSet.leases, LeaseSet.leases, LeaseSet.remove, List.filter_append]
  congr 1
  cases set.writer with
  | none => rfl
  | some l =>
    simp only [Option.filter, Option.toList_some, List.filter_cons, List.filter_nil]
    split <;> rfl

variable {w : String} {set : LeaseSet} {b : ℕ}

lemma setOk_remove (h : SetOk w set) (id : ℕ) : SetOk w (set.remove id) where
  writer l hl := h.writer l (Option.filter_eq_some_iff.mp hl).1
  readers l hl := h.readers l (List.mem_filter.mp hl).1
  alone hne := by
    have hwriter : set.writer ≠ none := by
      intro hnone
      rw [LeaseSet.remove, hnone] at hne
      exact hne rfl
    change List.filter _ set.readers = []
    rw [h.alone hwriter, List.filter_nil]
  idle := h.idle

lemma isEmpty_iff (h : SetOk w set) : set.isEmpty = true ↔ set.leases = [] := by
  rw [LeaseSet.isEmpty, h.idle, LeaseSet.leases]
  cases set.writer <;> cases set.readers <;> simp

lemma eq_empty_of_isEmpty (h : set.isEmpty = true) : set = {} := by
  obtain ⟨writer, readers, pending⟩ := set
  cases writer <;> cases readers <;> cases pending <;>
    first | rfl | exact absurd h (by decide) | simp [LeaseSet.isEmpty] at h

def without (m : Manager) (lease : WorkspaceLease) (a : ℕ) : Manager :=
  { m with
    sets := Function.update m.sets a ((m.sets a).remove lease.leaseId)
    byWorkspace :=
      if ((m.sets a).remove lease.leaseId).isEmpty then
        Function.update m.byWorkspace lease.workspaceId none
      else m.byWorkspace
    byLeaseId := m.byLeaseId.filter fun l => l.leaseId != lease.leaseId }

lemma release_eq (h : Inv m) (hlease : lease ∈ m.byLeaseId)
    (ha : m.byWorkspace lease.workspaceId = some a) :
    m.release lease.leaseId = without m lease a := by
  have hfind : m.byLeaseId.find? (fun l => l.leaseId = lease.leaseId) = some lease := by
    cases hf : m.byLeaseId.find? fun l => l.leaseId = lease.leaseId with
    | none => exact absurd (decide_eq_true rfl) (List.find?_eq_none.mp hf lease hlease)
    | some l =>
      have hid := List.find?_some hf
      rw [h.unique l (List.mem_of_find?_eq_some hf) lease hlease (of_decide_eq_true hid)]
  unfold Manager.release
  rw [hfind]
  dsimp only
  rw [ha]
  simp only [Manager.pruneIfEmpty, Manager.modifySet, Function.update_self, without]
  split <;> rfl

lemma without_stored (h : Inv m) (ha : m.byWorkspace lease.workspaceId = some a) :
    (without m lease a).byWorkspace w = some b ↔
      m.byWorkspace w = some b ∧ (b = a → ((m.sets a).remove lease.leaseId).leases ≠ []) := by
  have hok := setOk_remove (h.stored _ _ ha).2 lease.leaseId
  simp only [without]
  split
  · rename_i hempty
    rw [isEmpty_iff hok] at hempty
    by_cases hw : w = lease.workspaceId
    · subst hw
      rw [Function.update_self, ha, hempty]
      constructor
      · exact nofun
      · rintro ⟨hb, hne⟩
        exact absurd rfl (hne (Option.some.inj hb).symm)
    · rw [Function.update_of_ne hw]
      refine ⟨fun hb => ⟨hb, fun hba => ?_⟩, fun hb => hb.1⟩
      exact absurd (h.workspace_inj (hba ▸ hb) ha) hw
  · rename_i hne
    rw [isEmpty_iff hok] at hne
    exact ⟨fun hb => ⟨hb, fun _ => hne⟩, fun hb => hb.1⟩

lemma without_leases : ((without m lease a).sets b).leases =
    if b = a then (m.sets a).leases.filter fun l => l.leaseId != lease.leaseId
    else (m.sets b).leases := by
  simp only [without]
  split
  · rename_i hb
    rw [hb, Function.update_self, leases_remove]
  · rename_i hb
    rw [Function.update_of_ne hb]

/-- **A release** keeps the invariant and what the waiting calls count on. -/
lemma turn_without (h : Inv m) (hlease : lease ∈ m.byLeaseId)
    (ha : m.byWorkspace lease.workspaceId = some a) : Turn m (without m lease a) := by
  have hmem : ∀ l, l ∈ (without m lease a).byLeaseId ↔
      l ∈ m.byLeaseId ∧ l.leaseId ≠ lease.leaseId := by
    intro l
    simp [without]
  refine ⟨⟨?_, ?_, ?_, ?_, ?_⟩, ?_⟩
  · intro l
    rw [hmem, h.agree l]
    constructor
    · rintro ⟨⟨b, hb, hl⟩, hne⟩
      have hkept : l ∈ ((without m lease a).sets b).leases := by
        rw [without_leases]
        split
        · rename_i hba
          subst hba
          exact List.mem_filter.mpr ⟨hl, bne_iff_ne.mpr hne⟩
        · exact hl
      refine ⟨b, (without_stored h ha).mpr ⟨hb, fun hba => ?_⟩, hkept⟩
      subst hba
      rw [leases_remove]
      exact List.ne_nil_of_mem (List.mem_filter.mpr ⟨hl, bne_iff_ne.mpr hne⟩)
    · rintro ⟨b, hb, hl⟩
      have hb' := ((without_stored h ha).mp hb).1
      rw [without_leases] at hl
      split at hl
      · rename_i hba
        obtain ⟨hl, hne⟩ := List.mem_filter.mp hl
        exact ⟨⟨b, hb', hba ▸ hl⟩, bne_iff_ne.mp hne⟩
      · rename_i hba
        refine ⟨⟨b, hb', hl⟩, fun hid => hba ?_⟩
        have hl' : l ∈ m.byLeaseId := (h.agree l).mpr ⟨b, hb', hl⟩
        rw [h.unique l hl' lease hlease hid, ha] at hb'
        exact (Option.some.inj hb').symm
  · intro l hl
    exact h.fresh l ((hmem l).mp hl).1
  · intro l hl l' hl'
    exact h.unique l ((hmem l).mp hl).1 l' ((hmem l').mp hl').1
  · intro w b hb
    obtain ⟨hb, -⟩ := (without_stored h ha).mp hb
    obtain ⟨hlt, hok⟩ := h.stored w b hb
    refine ⟨hlt, ?_⟩
    simp only [without]
    by_cases hba : b = a
    · subst hba
      rw [Function.update_self]
      exact setOk_remove hok _
    · rw [Function.update_of_ne hba]
      exact hok
  · intro w b hb
    obtain ⟨hb, hne⟩ := (without_stored h ha).mp hb
    rw [without_leases]
    split
    · rename_i hba
      rw [← leases_remove]
      exact hne hba
    · exact h.nonempty w b hb
  · intro p hp
    refine ⟨hp.reads, hp.made, ?_⟩
    rcases hp.kept with ⟨hstored, hreaders⟩ | ⟨hgone, hempty⟩
    · by_cases hpa : p.set = a
      · have hok := (h.stored _ _ hstored).2
        have hwriter : (m.sets p.set).writer = none := by
          by_contra hne
          exact hreaders (hok.alone hne)
        by_cases hleft : ((m.sets a).remove lease.leaseId).leases = []
        · right
          constructor
          · intro w hw
            exact ((without_stored h ha).mp hw).2 hpa hleft
          · have hok' := setOk_remove (h.stored _ _ ha).2 lease.leaseId
            rw [hpa]
            simp only [without, Function.update_self]
            exact eq_empty_of_isEmpty ((isEmpty_iff hok').mpr hleft)
        · left
          refine ⟨(without_stored h ha).mpr ⟨hstored, fun _ => hleft⟩, fun hnone => hleft ?_⟩
          rw [hpa] at hnone hwriter
          simp only [without, Function.update_self] at hnone
          rw [LeaseSet.leases, hnone, LeaseSet.remove, hwriter]
          rfl
      · left
        refine ⟨(without_stored h ha).mpr ⟨hstored, fun hba => absurd hba hpa⟩, ?_⟩
        simp only [without, Function.update_of_ne hpa]
        exact hreaders
    · right
      refine ⟨fun w hw => hgone w ((without_stored h ha).mp hw).1, ?_⟩
      have hpa : p.set ≠ a := fun hpa => hgone _ (hpa ▸ ha)
      simp only [without, Function.update_of_ne hpa]
      exact hempty

lemma turn_release (h : Inv m) (id : ℕ) : Turn m (m.release id) := by
  cases hfind : m.byLeaseId.find? fun l => l.leaseId = id with
  | none =>
    have hnone : m.release id = m := by
      unfold Manager.release
      rw [hfind]
    rw [hnone]
    exact Turn.refl h
  | some lease =>
    have hlease := List.mem_of_find?_eq_some hfind
    have hfound := List.find?_some hfind
    have hid : lease.leaseId = id := of_decide_eq_true hfound
    obtain ⟨a, ha, -⟩ := (h.agree lease).mp hlease
    rw [← hid, release_eq h hlease ha]
    exact turn_without h hlease ha

end Release

/-! ## Admission -/

def granted (m : Manager) (a : ℕ) (request : AcquireRequest) : Manager :=
  { m with
    sets := Function.update m.sets a
      { (m.sets a).add (m.newLease request) with pendingWriter := none }
    byLeaseId := m.byLeaseId ++ [m.newLease request]
    nextId := m.nextId + 1 }

structure Room (m : Manager) (a : ℕ) (request : AcquireRequest) : Prop where
  agree : IndexesAgree m
  fresh : ∀ l ∈ m.byLeaseId, l.leaseId < m.nextId
  unique : ∀ l ∈ m.byLeaseId, ∀ l' ∈ m.byLeaseId, l.leaseId = l'.leaseId → l = l'
  here : m.byWorkspace request.workspaceId = some a ∧ a < m.nextSet
  elsewhere : ∀ w b, m.byWorkspace w = some b → w ≠ request.workspaceId →
    b ≠ a ∧ b < m.nextSet ∧ SetOk w (m.sets b) ∧ (m.sets b).leases ≠ []
  writer : (m.sets a).writer = none
  readers : ∀ l ∈ (m.sets a).readers, l.mode = .read ∧ l.workspaceId = request.workspaceId
  sole : request.mode = .write → (m.sets a).readers = []

section Admission

variable {m : Manager} {a marker : ℕ} {request : AcquireRequest} {w : String}

lemma mem_leases_add {set : LeaseSet} {lease : WorkspaceLease} (h : set.writer = none) :
    l ∈ ({ set.add lease with pendingWriter := none } : LeaseSet).leases ↔
      l ∈ set.leases ∨ l = lease := by
  rw [mem_leases, mem_leases, LeaseSet.add, h]
  cases lease.mode with
  | write => simp [or_comm, eq_comm]
  | read => simp

lemma finish_admitLease (hpending : (m.sets a).pendingWriter = none ∨
    (m.sets a).pendingWriter = some marker) :
    ((m.admitLease a request).1).finish a marker w = granted m a request := by
  have hmarker : (m.sets a).pendingWriter.filter (fun id => id != marker) = none := by
    rcases hpending with h | h <;> rw [h] <;> simp
  have hadd : ((m.sets a).add (m.newLease request)).pendingWriter = (m.sets a).pendingWriter := by
    unfold LeaseSet.add
    split <;> rfl
  have hfull : ({ (m.sets a).add (m.newLease request) with
      pendingWriter := none } : LeaseSet).isEmpty = false := by
    unfold LeaseSet.add LeaseSet.isEmpty
    cases (m.newLease request).mode <;> simp
  simp only [Manager.finish, Manager.admitLease, Manager.modifySet, Manager.pruneIfEmpty,
    Function.update_self, Function.update_idem, hadd, hmarker, hfull, granted]
  rfl

lemma setOk_add (h : Room m a request) : SetOk request.workspaceId
    { (m.sets a).add (m.newLease request) with pendingWriter := none } := by
  have hnew : (m.newLease request).mode = request.mode := rfl
  unfold LeaseSet.add
  rw [hnew]
  cases hmode : request.mode with
  | write =>
    refine ⟨?_, h.readers, fun _ => h.sole hmode, rfl⟩
    rintro l ⟨⟩
    exact ⟨hmode, rfl⟩
  | read =>
    refine ⟨?_, ?_, fun hne => absurd h.writer hne, rfl⟩
    · intro l hl
      rw [Option.mem_def, h.writer] at hl
      cases hl
    · intro l hl
      rcases List.mem_append.mp hl with hl | hl
      · exact h.readers l hl
      · rw [List.mem_singleton.mp hl]
        exact ⟨hmode, rfl⟩

/-- **An admission** keeps the invariant. -/
lemma Room.inv (h : Room m a request) : Inv (granted m a request) := by
  have hset : ∀ b, b ≠ a → (granted m a request).sets b = m.sets b := fun b hb =>
    Function.update_of_ne hb _ _
  have hsame : (granted m a request).sets a =
      { (m.sets a).add (m.newLease request) with pendingWriter := none } :=
    Function.update_self _ _ _
  have hmem : ∀ l, l ∈ (granted m a request).byLeaseId ↔
      l ∈ m.byLeaseId ∨ l = m.newLease request := by
    intro l
    simp [granted]
  refine ⟨?_, ?_, ?_, ?_, ?_⟩
  · intro l
    rw [hmem, h.agree l]
    constructor
    · rintro (⟨b, hb, hl⟩ | rfl)
      · refine ⟨b, hb, ?_⟩
        by_cases hba : b = a
        · subst hba
          rw [hsame, mem_leases_add h.writer]
          exact .inl hl
        · rw [hset b hba]
          exact hl
      · refine ⟨a, h.here.1, ?_⟩
        rw [hsame, mem_leases_add h.writer]
        exact .inr rfl
    · rintro ⟨b, hb, hl⟩
      by_cases hba : b = a
      · subst hba
        rw [hsame, mem_leases_add h.writer] at hl
        exact hl.imp_left fun hl => ⟨b, hb, hl⟩
      · rw [hset b hba] at hl
        exact .inl ⟨b, hb, hl⟩
  · intro l hl
    rcases (hmem l).mp hl with hl | rfl
    · exact Nat.lt_succ_of_lt (h.fresh l hl)
    · exact Nat.lt_succ_self _
  · intro l hl l' hl' hid
    rcases (hmem l).mp hl with hl | rfl <;> rcases (hmem l').mp hl' with hl' | rfl
    · exact h.unique l hl l' hl' hid
    · exact absurd hid (Nat.ne_of_lt (h.fresh l hl))
    · exact absurd hid.symm (Nat.ne_of_lt (h.fresh l' hl'))
    · rfl
  · intro v b hb
    by_cases hv : v = request.workspaceId
    · subst hv
      have hba : a = b := Option.some.inj (h.here.1.symm.trans hb)
      rw [← hba, hsame]
      exact ⟨h.here.2, setOk_add h⟩
    · obtain ⟨hba, hlt, hok, -⟩ := h.elsewhere v b hb hv
      rw [hset b hba]
      exact ⟨hlt, hok⟩
  · intro v b hb
    by_cases hv : v = request.workspaceId
    · subst hv
      have hba : a = b := Option.some.inj (h.here.1.symm.trans hb)
      rw [← hba, hsame]
      exact List.ne_nil_of_mem ((mem_leases_add h.writer).mpr (.inr rfl))
    · obtain ⟨hba, -, -, hne⟩ := h.elsewhere v b hb hv
      rw [hset b hba]
      exact hne

lemma Room.held (h : Room m a request) (hp : Held p m) : Held p (granted m a request):= by
  refine ⟨hp.reads, hp.made, ?_⟩
  have hset : p.set ≠ a → (granted m a request).sets p.set = m.sets p.set := fun hb =>
    Function.update_of_ne hb _ _
  rcases hp.kept with ⟨hstored, hreaders⟩ | ⟨hgone, hempty⟩
  · refine .inl ⟨hstored, ?_⟩
    by_cases hpa : p.set = a
    · have hnew : (m.newLease request).mode = request.mode := rfl
      rw [hpa] at hreaders ⊢
      simp only [granted, Function.update_self, LeaseSet.add, hnew]
      cases hmode : request.mode with
      | write => exact absurd (h.sole hmode) hreaders
      | read => simp
    · rw [hset hpa]
      exact hreaders
  · refine .inr ⟨hgone, ?_⟩
    rw [hset fun hpa => hgone _ (hpa ▸ h.here.1)]
    exact hempty

lemma room_of_stored (h : Inv m) (ha : m.byWorkspace request.workspaceId = some a)
    (hreaders : (m.sets a).readers ≠ []) (hmode : request.mode = .read) : Room m a request where
  agree := h.agree
  fresh := h.fresh
  unique := h.unique
  here := ⟨ha, (h.stored _ _ ha).1⟩
  elsewhere w b hb hw := by
    refine ⟨fun hba => hw ?_, (h.stored w b hb).1, (h.stored w b hb).2, h.nonempty w b hb⟩
    exact h.workspace_inj (hba ▸ hb) ha
  writer := by
    by_contra hne
    exact hreaders ((h.stored _ _ ha).2.alone hne)
  readers := (h.stored _ _ ha).2.readers
  sole hwrite := by
    rw [hmode] at hwrite
    cases hwrite

def opened (m : Manager) (w : String) (pending : Option ℕ) : Manager :=
  { m with
    sets := Function.update m.sets m.nextSet { pendingWriter := pending }
    nextSet := m.nextSet + 1
    byWorkspace := Function.update m.byWorkspace w (some m.nextSet)
    nextId := m.nextId + 1 }

def markerOf (m : Manager) : Mode → Option ℕ
  | .write => some m.nextId
  | .read => none

lemma mark_openSet {mode : Mode} (hnone : m.byWorkspace w = none) :
    ((m.openSet w).1.mark m.nextSet mode).1 = opened m w (markerOf m mode) := by
  unfold Manager.openSet
  rw [hnone]
  cases mode with
  | write =>
    simp only [Manager.mark, Manager.modifySet, opened, markerOf, Function.update_self,
      Function.update_idem]
  | read => rfl

lemma room_of_opened (h : Inv m) (hnone : m.byWorkspace request.workspaceId = none)
    (pending : Option ℕ) :
    Room (opened m request.workspaceId pending) m.nextSet request := by
  have hset : ∀ b, b < m.nextSet →
      (opened m request.workspaceId pending).sets b = m.sets b := fun b hb =>
    Function.update_of_ne (Nat.ne_of_lt hb) _ _
  have hnew : (opened m request.workspaceId pending).sets m.nextSet =
      { pendingWriter := pending } := Function.update_self _ _ _
  have hby : ∀ w, w ≠ request.workspaceId →
      (opened m request.workspaceId pending).byWorkspace w = m.byWorkspace w := fun w hw =>
    Function.update_of_ne hw _ _
  have hhere : (opened m request.workspaceId pending).byWorkspace request.workspaceId =
      some m.nextSet := Function.update_self _ _ _
  refine ⟨?_, ?_, h.unique, ⟨hhere, Nat.lt_succ_self _⟩, ?_, ?_, ?_, ?_⟩
  · intro l
    change l ∈ m.byLeaseId ↔ _
    rw [h.agree l]
    by_cases hl : l.workspaceId = request.workspaceId
    · rw [hl, hhere, hnone]
      constructor
      · rintro ⟨b, hb, -⟩
        cases hb
      · rintro ⟨b, hb, hmem⟩
        cases hb
        rw [hnew] at hmem
        cases hmem
    · rw [hby _ hl]
      constructor
      · rintro ⟨b, hb, hmem⟩
        refine ⟨b, hb, ?_⟩
        rw [hset b (h.stored _ _ hb).1]
        exact hmem
      · rintro ⟨b, hb, hmem⟩
        rw [hset b (h.stored _ _ hb).1] at hmem
        exact ⟨b, hb, hmem⟩
  · intro l hl
    exact Nat.lt_succ_of_lt (h.fresh l hl)
  · intro w b hb hw
    rw [hby w hw] at hb
    have hlt := (h.stored w b hb).1
    rw [hset b hlt]
    exact ⟨Nat.ne_of_lt hlt, Nat.lt_succ_of_lt hlt, (h.stored w b hb).2, h.nonempty w b hb⟩
  · rw [hnew]
  · rw [hnew]
    exact nofun
  · intro _
    rw [hnew]

lemma held_opened (hnone : m.byWorkspace w = none) (pending : Option ℕ) (hp : Held p m) :
    Held p (opened m w pending):= by
  have hset : (opened m w pending).sets p.set = m.sets p.set :=
    Function.update_of_ne (Nat.ne_of_lt hp.made) _ _
  refine ⟨hp.reads, Nat.lt_succ_of_lt hp.made, ?_⟩
  rw [hset]
  rcases hp.kept with ⟨hstored, hreaders⟩ | ⟨hgone, hempty⟩
  · refine .inl ⟨?_, hreaders⟩
    have hw : p.request.workspaceId ≠ w := by
      rintro rfl
      rw [hnone] at hstored
      cases hstored
    exact (Function.update_of_ne hw _ _).trans hstored
  · refine .inr ⟨fun v hv => ?_, hempty⟩
    by_cases hvw : v = w
    · subst hvw
      have heq := (Function.update_self _ _ _ : (opened m v pending).byWorkspace v = _)
      exact absurd (Option.some.inj (heq.symm.trans hv)).symm (Nat.ne_of_lt hp.made)
    · exact hgone v ((Function.update_of_ne hvw _ _).symm.trans hv)

def drawn (m : Manager) : Manager := { m with nextId := m.nextId + 1 }

lemma turn_drawn (h : Inv m) : Turn m (drawn m) := by
  refine ⟨⟨h.agree, fun l hl => ?_, h.unique, h.stored, h.nonempty⟩, fun p hp => ?_⟩
  · exact Nat.lt_succ_of_lt (h.fresh l hl)
  · exact ⟨hp.reads, hp.made, hp.kept⟩

lemma turn_granted_opened (h : Inv m) (hnone : m.byWorkspace request.workspaceId = none)
    (pending : Option ℕ) :
    Turn m (granted (opened m request.workspaceId pending) m.nextSet request) :=
  ⟨(room_of_opened h hnone pending).inv, fun _ hp =>
    (room_of_opened h hnone pending).held (held_opened hnone pending hp)⟩

lemma turn_granted (h : Inv m) (ha : m.byWorkspace request.workspaceId = some a)
    (hreaders : (m.sets a).readers ≠ []) (hmode : request.mode = .read) :
    Turn m (granted m a request) :=
  ⟨(room_of_stored h ha hreaders hmode).inv, fun _ hp =>
    (room_of_stored h ha hreaders hmode).held hp⟩

lemma finish_eq (hpending : (m.sets a).pendingWriter = none) :
    m.finish a marker w = m.pruneIfEmpty w a := by
  have hset : ({ m.sets a with
      pendingWriter := (m.sets a).pendingWriter.filter fun id => id != marker } : LeaseSet) =
        m.sets a := by
    rw [hpending]
    cases hs : m.sets a with
    | mk writer readers pending =>
      rw [hs] at hpending
      cases hpending
      rfl
  rw [Manager.finish, Manager.modifySet, hset, Function.update_eq_self]

end Admission

/-! ## The calls -/

def Timely (m : Manager) (p : DirtyCheck) (r : Except LeaseError Bool) : Prop :=
  m.byWorkspace p.request.workspaceId = some p.set ∨
    r ≠ .ok false ∧ m.byWorkspace p.request.workspaceId = none

def leaseContract : Contract sig Manager Call where
  inv := Inv
  point := Held
  guar := fun _ m _ m' => Turn m m'
  reply := fun p r m => Timely m p r

section Calls

variable {m m₀ : Manager} {o : Call ⊕ DirtyCheck} {a marker : ℕ} {request : AcquireRequest}

lemma meets_op_bind {α : Type} {b : Op} {r : b.Res} {m' : Manager} {f : b.Res → Run α}
    {Q : Post sig Manager Call α} (hrun : Op.run b m = (m', .ok r))
    (h : (f r).Meets leaseContract Op.run Q o m₀ m') :
    (op b >>= f).Meets leaseContract Op.run Q o m₀ m := by
  refine meets_bind.mpr (meets_exec.mpr fun _ => ⟨trivial, ?_⟩)
  have hrun' : Op.run b m = (m', .ok r) := hrun
  rw [hrun']
  exact h

lemma meets_admit_finish (hpending : (m.sets a).pendingWriter = none ∨
    (m.sets a).pendingWriter = some marker) (hturn : Turn m₀ (granted m a request)) :
    (op (.admitLease a request)).Meets leaseContract Op.run
      (fun o m₀ r m => (op (.finish a marker request.workspaceId)).Meets leaseContract Op.run
        (andThen leaseContract Op.run (fun _ => Prog.ofExcept r) fun _ m₀ _ m' => Turn m₀ m') o m₀ m)
      o m₀ m := by
  refine meets_exec.mpr fun _ => ⟨trivial, ?_⟩
  refine meets_exec.mpr fun _ => ⟨trivial, ?_⟩
  change Turn m₀ (((m.admitLease a request).1).finish a marker request.workspaceId)
  rw [finish_admitLease hpending]
  exact hturn

lemma meets_acquire_new (h : Inv m) (hnone : m.byWorkspace request.workspaceId = none) :
    (acquire request).Meets leaseContract Op.run (fun _ m₀ _ m' => Turn m₀ m') o m m := by
  have hopen : Op.run (.openSet request.workspaceId) m =
      ((m.openSet request.workspaceId).1, .ok m.nextSet) := by
    simp only [Op.run, Manager.openSet, hnone]
  have hread : Op.run (.readSet m.nextSet) (m.openSet request.workspaceId).1 =
      ((m.openSet request.workspaceId).1, .ok {}) := by
    simp only [Op.run, Manager.openSet, hnone, Function.update_self]
  have hmark : Op.run (.mark m.nextSet request.mode) (m.openSet request.workspaceId).1 =
      (opened m request.workspaceId (markerOf m request.mode), .ok m.nextId) := by
    rw [← mark_openSet hnone]
    simp only [Op.run, Manager.openSet, hnone]
    rfl
  refine meets_op_bind hopen (meets_op_bind hread ?_)
  rw [if_neg (by simp), if_neg (by simp)]
  refine meets_op_bind hmark (meets_andFinally.mpr ?_)
  rw [admitChecked, if_neg (by simp)]
  refine meets_admit_finish ?_ (turn_granted_opened h hnone _)
  simp only [opened, Function.update_self]
  cases request.mode with
  | write => exact .inr rfl
  | read => exact .inl rfl

lemma finish_refused {p : DirtyCheck} (h : Inv m) (hp : Held p m)
    (htimely : m.byWorkspace p.request.workspaceId = some p.set ∨
      m.byWorkspace p.request.workspaceId = none) :
    m.finish p.set marker p.request.workspaceId = m := by
  rcases hp.kept with ⟨hstored, hreaders⟩ | ⟨hgone, hempty⟩
  · have hok := (h.stored _ _ hstored).2
    have hfull : (m.sets p.set).isEmpty = false := by
      rw [LeaseSet.isEmpty, Bool.and_eq_false_iff, Bool.and_eq_false_iff]
      exact .inl (.inr (by simpa using hreaders))
    rw [finish_eq hok.idle, Manager.pruneIfEmpty, hfull]
    rfl
  · have hnone := htimely.resolve_left (hgone _)
    rw [finish_eq (by rw [hempty]), Manager.pruneIfEmpty]
    split
    · rw [← hnone, Function.update_eq_self]
    · rfl

lemma meets_acquire_shared (h : Inv m) (ha : m.byWorkspace request.workspaceId = some a) :
    (acquire request).Meets leaseContract Op.run (fun _ m₀ _ m' => Turn m₀ m') o m m := by
  have hopen : Op.run (.openSet request.workspaceId) m = (m, .ok a) := by
    simp only [Op.run, Manager.openSet, ha]
  refine meets_op_bind hopen (meets_op_bind rfl ?_)
  refine meets_ite.mpr ⟨fun _ => Turn.refl h, fun hfree => ?_⟩
  refine meets_ite.mpr ⟨fun _ => Turn.refl h, fun hread => ?_⟩
  have hok := (h.stored _ _ ha).2
  have hwriter : (m.sets a).writer = none := by
    by_contra hne
    exact hfree (.inl (Option.isSome_iff_ne_none.mpr hne))
  -- A stored set without a writer has readers, which leaves only readers to be admitted.
  have hreaders : (m.sets a).readers ≠ [] := by
    intro hnil
    refine h.nonempty _ _ ha ?_
    rw [LeaseSet.leases, hwriter, hnil]
    rfl
  have hmode : request.mode = .read := by
    cases hm : request.mode with
    | read => rfl
    | write => exact absurd ⟨hm, hreaders⟩ hread
  have hmark : Op.run (.mark a request.mode) m = (drawn m, .ok m.nextId) := by
    rw [hmode]
    rfl
  refine meets_op_bind hmark (meets_andFinally.mpr ?_)
  have hdrawn := turn_drawn h
  refine meets_ite.mpr ⟨fun _ => ?_, fun _ => ?_⟩
  · have hheld : Held ⟨a, request⟩ (drawn m) :=
      ⟨hmode, (h.stored _ _ ha).1, .inl ⟨ha, hreaders⟩⟩
    refine meets_bind.mpr (meets_wait.mpr ⟨hdrawn, hheld, fun r m' _ h' hheld' htimely => ?_⟩)
    have hrefused : r ≠ .ok false → (op (.finish a m.nextId request.workspaceId)).Meets
        leaseContract Op.run (fun _ m₀ _ m' => Turn m₀ m') (.inr ⟨a, request⟩) m' m' := by
      intro _
      refine meets_exec.mpr fun _ => ⟨trivial, ?_⟩
      have hfinish := @finish_refused m' m.nextId _ h' hheld' (htimely.imp_right And.right)
      change Turn m' (m'.finish a m.nextId request.workspaceId)
      rw [show m'.finish a m.nextId request.workspaceId = m' from hfinish]
      exact Turn.refl h'
    have hthrow : ∀ e : LeaseError, r ≠ .ok false →
        (op (.finish a m.nextId request.workspaceId)).Meets leaseContract Op.run
          (andThen leaseContract Op.run
            (fun _ => (Prog.ofExcept (.error e) : Run WorkspaceLease))
            fun _ m₀ _ m' => Turn m₀ m') (.inr ⟨a, request⟩) m' m' := by
      intro e hr
      refine (hrefused hr).mono fun o m₀ r m hturn => ?_
      cases r <;> exact hturn
    cases r with
    | error e => exact hthrow e nofun
    | ok dirty =>
      cases dirty with
      | true => exact hthrow _ nofun
      | false =>
        have hstored := htimely.resolve_right fun hnot => hnot.1 rfl
        have hstill := hheld'.kept.resolve_right fun hgone => hgone.1 _ hstored
        refine meets_admit_finish (.inl (h'.stored _ _ hstored).2.idle) ?_
        exact turn_granted h' hstored hstill.2 hmode
  · refine meets_admit_finish (.inl hok.idle) ?_
    exact hdrawn.trans (turn_granted hdrawn.inv ha hreaders hmode)

lemma meets_releaseForSession (h : Inv m) (sessionId : String) :
    (releaseForSession sessionId).Meets leaseContract Op.run (fun _ m₀ _ m' => Turn m₀ m') o m m := by
  refine meets_op_bind rfl ?_
  refine meets_forEach (J := fun _ _ m₀ m' => Turn m₀ m') ?_ ?_ (Turn.refl h)
  · intro l rest o m₀ m hturn
    refine meets_exec.mpr fun _ => ⟨trivial, ?_⟩
    exact hturn.trans (turn_release hturn.inv _)
  · exact fun _ _ _ hturn => hturn

lemma leaseContract_sound : leaseContract.Sound manager fun _ _ => True where
  rely_refl _ := trivial
  rely_trans _ _ := trivial
  rely_of_guar _ _ := trivial
  inv_of_guar _ h := h.inv
  point_of_guar _ hp _ h := h.held _ hp
  compat_symm _ := trivial
  compat_of_guar _ _ _ _ := trivial
  body x m h _ := by
    cases x with
    | acquire request =>
      refine meets_bind.mpr ?_
      have hmeets : (acquire request).Meets leaseContract Op.run (fun _ m₀ _ m' => Turn m₀ m')
          (.inl (.acquire request)) m m := by
        cases hby : m.byWorkspace request.workspaceId with
        | none => exact meets_acquire_new h hby
        | some a => exact meets_acquire_shared h hby
      refine hmeets.mono fun o m₀ r m' hturn => ?_
      cases r <;> exact hturn
    | release leaseId =>
      refine meets_exec.mpr fun _ => ⟨trivial, ?_⟩
      exact turn_release h leaseId
    | releaseForSession sessionId => exact meets_releaseForSession h sessionId
  restart _ _ := inv_empty

end Calls

/-! ## Runs -/

instance (m : Manager) (p : DirtyCheck) (r : Except LeaseError Bool) : Decidable (Timely m p r) :=
  inferInstanceAs (Decidable (_ ∨ _))

/-- Every answer to a dirty check comes in time. -/
def ResumesInTime (c : Cfg sig Manager) : Event sig Call → Prop
  | .reply _ p r => Timely c.shared p r
  | _ => True

instance (c : Cfg sig Manager) (e : Event sig Call) : Decidable (ResumesInTime c e) := by
  cases e <;> unfold ResumesInTime <;> infer_instance

/-- **A writer is alone, and the indexes agree, as long as no dirty check is answered too late.**
In every run of calls by any number of sessions in which a waiting reader comes back to the set of
its workspace, or comes back without a lease to a workspace that has no set, both promises hold in
every state. -/
theorem leases_exclusive {c : Cfg sig Manager}
    (hreach : manager.Reach ResumesInTime constructed c) :
    Exclusive c.shared ∧ IndexesAgree c.shared := by
  have hallowed : ∀ c e, ResumesInTime c e → leaseContract.Allowed manager c e := by
    intro c e he
    refine ⟨fun _ _ => trivial, ?_⟩
    cases e with
    | call x => exact ⟨trivial, fun _ _ _ _ => trivial⟩
    | reply i p r => exact ⟨he, fun _ _ _ _ _ => trivial⟩
    | crash => trivial
  have hgood := Contract.good_of_reach leaseContract_sound (Contract.Good.start inv_empty)
    (hreach.mono hallowed)
  exact ⟨hgood.inv.exclusive, hgood.inv.agree⟩

def sampleRequest (sessionId : String) (mode : Mode) : AcquireRequest where
  workspaceId := "w"
  sessionId := sessionId
  mode := mode
  canonicalPath := "/w"

def sharedRead : List (Event sig Call) :=
  [.call (.acquire (sampleRequest "a" .read)),
    .call (.acquire (sampleRequest "b" .read)),
    .reply 1 ⟨0, sampleRequest "b" .read⟩ (.ok false)]

theorem leases_exclusive_shared :
    ∃ c, manager.Reach ResumesInTime constructed c ∧ c.shared.byLeaseId.length = 2 ∧
      Exclusive c.shared ∧ IndexesAgree c.shared := by
  have hrun : (manager.runWhere ResumesInTime constructed sharedRead).map
      (fun c => c.shared.byLeaseId.length) = some 2 := by
    decide
  obtain ⟨c, hc, hlength⟩ := Option.map_eq_some_iff.mp hrun
  have hreach := System.Reach.of_runWhere hc
  exact ⟨c, hreach, hlength, leases_exclusive hreach⟩

def lateRead : List (Event sig Call) :=
  [.call (.acquire (sampleRequest "a" .read)),
    .call (.acquire (sampleRequest "b" .read)),
    .call (.releaseForSession "a"),
    .call (.acquire (sampleRequest "c" .write)),
    .reply 1 ⟨0, sampleRequest "b" .read⟩ (.ok false)]

/-- The second reader is then active together with the writer, in a set that is not stored. -/
theorem leases_overlap :
    ∃ c, manager.run constructed lateRead = some c ∧
      ¬Exclusive c.shared ∧ ¬IndexesAgree c.shared := by
  have hrun : (manager.run constructed lateRead).map (fun c =>
      (c.shared.byLeaseId, c.shared.byWorkspace "w", (c.shared.sets 1).leases)) =
      some ([⟨4, "w", "c", .write⟩, ⟨5, "w", "b", .read⟩], some 1, [⟨4, "w", "c", .write⟩]) := by
    decide
  obtain ⟨c, hc, hstate⟩ := Option.map_eq_some_iff.mp hrun
  simp only [Prod.mk.injEq] at hstate
  obtain ⟨hleases, hstored, hset⟩ := hstate
  refine ⟨c, hc, fun hexclusive => ?_, fun hagree => ?_⟩
  · have heq := hexclusive ⟨4, "w", "c", .write⟩ (by rw [hleases]; decide) rfl
      ⟨5, "w", "b", .read⟩ (by rw [hleases]; decide) rfl
    cases heq
  · obtain ⟨a, ha, hmem⟩ := (hagree ⟨5, "w", "b", .read⟩).mp (by rw [hleases]; decide)
    change c.shared.byWorkspace "w" = some a at ha
    rw [hstored] at ha
    cases ha
    rw [hset] at hmem
    exact absurd hmem (by decide)

end VacancyRadar.Daemon.Lease
