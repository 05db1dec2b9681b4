import VacancyRadar.Daemon.Admission

/-!
# A revocation wins

Once a workspace is blocked, no request creates a session in it and no grant opens it, however the
requests are interleaved at their awaits.  Two things carry this.  A grant looks at the blocked
workspaces and at the epoch on the same turn on which it opens the workspace, and `create` looks at
both itself, without an await before the session is in the index.
-/

namespace VacancyRadar.Daemon.Admission

open Coop Prog

/-! ## What the programs are made of -/

def PlainOp : Op → Prop
  | .blockWorkspace _ | .allowWorkspace _ | .change _ | .persist => False
  | .answer (.trusted _ _ _) => False
  | _ => True

def PlainPort : Port → Prop
  | .writeQueue _ _ | .settled _ _ | .isDirty _ => False
  | _ => True

def LowersOp (w : String) : Op → Prop
  | .blockWorkspace v => v = w
  | .change edit => edit.workspaceId = w ∧ ∀ identity provider, edit ≠ .setTrusted identity provider
  | .persist => True
  | o => PlainOp o

def LowersPort (w : String) : Port → Prop
  | .writeQueue edit _ | .settled edit _ =>
    edit.workspaceId = w ∧ ∀ identity provider, edit ≠ .setTrusted identity provider
  | p => PlainPort p

variable {w : String} {p : Port} {K : Contract sig State Call} {Q : Post sig State Call (Option Changed)}
  {input : CreateInput}

lemma LowersOp.of_plain {o : Op} (h : PlainOp o) : LowersOp w o:= by
  cases o <;> first | exact h | exact False.elim h

lemma LowersPort.of_plain (h : PlainPort p) : LowersPort w p:= by
  cases p <;> first | exact h | exact False.elim h

section Uses

variable {α : Type} {P : Op → Prop} {V : Port → Prop}

/-- The program neither changes the admission to a workspace nor the trust in it. -/
abbrev Plain (x : Run α) : Prop := Uses (S := sig) PlainOp PlainPort x

/-- The program does no more than to lower the trust in the workspace `w`. -/
abbrev Lowers (w : String) (x : Run α) : Prop := Uses (S := sig) (LowersOp w) (LowersPort w) x

lemma Plain.lowers {x : Run α} (h : Plain x) : Lowers w x:=
  h.mono (fun _ => LowersOp.of_plain) fun _ => LowersPort.of_plain

lemma uses_op {o : Op} (h : P o) : Uses (S := sig) P V (op o) := Uses.exec h

lemma uses_awaits (h : V p) : Uses (S := sig) P V (awaits p):= Uses.wait h

lemma plain_refuse (refusal : Refusal) : Plain (refuse refusal) := uses_op trivial

lemma plain_appendAudit (entry : AuditEntry) (decided : Option ℕ) :
    Plain (appendAudit entry decided) := by
  refine (uses_awaits trivial).attempt.bind fun r => ?_
  cases r with
  | ok _ => exact Uses.pure _
  | error e => exact Uses.pure _

lemma plain_writeAudit (entry : AuditEntry) (decided : Option ℕ) :
    Plain (writeAudit entry decided) := by
  refine (plain_appendAudit entry decided).bind fun failure => ?_
  cases failure with
  | none => exact (uses_awaits trivial).bind fun _ => Uses.pure _
  | some failure =>
    exact (plain_refuse _).bind fun _ => (uses_awaits trivial).bind fun _ => Uses.pure _

lemma plain_replyForIdentityError (e : DaemonError) : Plain (replyForIdentityError e) := by
  cases e with
  | uncWorkspacePath => exact plain_refuse _
  | invalidWorkspacePath message => exact plain_refuse _
  | _ => exact Uses.throw _

lemma plain_changedSince (w : String) (epoch : ℕ) : Plain (changedSince w epoch) := by
  refine (uses_op trivial).bind fun blocked => Uses.ite (Uses.pure _) ?_
  exact (uses_op trivial).bind fun epoch => Uses.ite (Uses.pure _) (Uses.pure _)

lemma plain_denyGrant (request : GrantRequest) (identity : WorkspaceIdentity) (refusal : Refusal) :
    Plain (denyGrant request identity refusal) :=
  (plain_writeAudit _ _).bind fun _ => Uses.ite (plain_refuse _) (Uses.pure _)

/-- A change of the trust store that lowers the trust in `w`. -/
lemma lowers_setTrust (edit : TrustChange) (hw : edit.workspaceId = w)
    (hnot : ∀ identity provider, edit ≠ .setTrusted identity provider) (decided : Option ℕ) :
    Lowers w (setTrust edit decided) := by
  have hmutate : Lowers w (mutate edit decided) := by
    refine (uses_awaits (p := .writeQueue edit decided) ⟨hw, hnot⟩).bind fun writable => ?_
    refine (uses_op (o := .change edit) ⟨hw, hnot⟩).bind fun _ => ?_
    exact Uses.ite (uses_op trivial) (Uses.throw _)
  refine Uses.call ?_ ⟨hw, hnot⟩
  cases edit with
  | setTrusted identity provider => exact absurd rfl (hnot identity provider)
  | beginRevocation w => exact hmutate
  | setUntrusted w => exact hmutate

lemma lowers_blockWorkspace (w : String) : Lowers w (op (.blockWorkspace w)) :=
  uses_op (P := LowersOp w) (o := .blockWorkspace w) rfl

lemma lowers_rollBack (w : String) : Lowers w (rollBack w) := by
  have hchange : Lowers w (setTrust (.setUntrusted w)) := lowers_setTrust (.setUntrusted w) rfl nofun none
  exact (lowers_blockWorkspace w).bind fun _ => hchange.attempt.bind fun _ => Uses.pure _

lemma lowers_revokeWorkspace (w : String) : Lowers w (revokeWorkspace w) := by
  refine (lowers_blockWorkspace w).bind fun _ => (uses_op trivial).bind fun sessionIds => ?_
  refine Uses.bind ?_ fun _ => Uses.pure _
  exact Uses.forEach fun id _ => uses_op trivial

lemma lowers_updateTrust (w : String) (state : Lowered) : Lowers w (updateTrust w state) := by
  refine (uses_op trivial).bind fun existing => ?_
  cases existing with
  | none => exact (plain_refuse _).lowers
  | some record =>
    refine (lowers_blockWorkspace w).bind fun _ => ?_
    refine (plain_appendAudit _ _).lowers.bind fun failure => ?_
    refine (lowers_revokeWorkspace w).bind fun sessionIds => ?_
    have hchange : Lowers w (setTrust (state.change w)) := by
      cases state with
      | untrusted => exact lowers_setTrust (.setUntrusted w) rfl nofun none
      | revoking => exact lowers_setTrust (.beginRevocation w) rfl nofun none
    refine hchange.attempt.bind fun _ => (uses_awaits trivial).attempt.bind fun _ => ?_
    cases failure with
    | some failure => exact (plain_refuse _).lowers
    | none =>
      have haudited : Plain (auditRevoked w record state) :=
        Uses.ite (plain_writeAudit _ _) (Uses.pure _)
      refine haudited.lowers.bind fun audited => ?_
      exact Uses.ite (uses_op trivial) (Uses.pure _)

lemma plain_deny (request : SessionRequest) (w incarnation : String) (refusal : Refusal)
    (sessionId : Option ℕ) : Plain (deny request w incarnation refusal sessionId) :=
  (plain_appendAudit _ _).bind fun _ => plain_refuse _

lemma plain_workspaceIsTrusted (identity : WorkspaceIdentity) (epoch : ℕ) :
    Plain (workspaceIsTrusted identity epoch) := by
  refine (plain_changedSince _ _).bind fun changed => Uses.ite (Uses.pure _) ?_
  refine (uses_awaits trivial).bind fun same => (uses_op trivial).bind fun epoch => ?_
  refine Uses.ite (Uses.pure _) ((uses_op trivial).bind fun inspection => ?_)
  refine (uses_awaits trivial).bind fun _ => (plain_changedSince _ _).bind fun changed => ?_
  exact Uses.pure _

lemma plain_negotiate (request : SessionRequest) (identity : WorkspaceIdentity) :
    Plain (negotiate request identity) := by
  refine (uses_awaits trivial).bind fun status => ?_
  have hcatalog : Plain (modelCatalog request identity.canonicalPath status.availableModels) := by
    refine Uses.ite (Uses.pure _) ((uses_awaits trivial).attempt.bind fun r => ?_)
    cases r with
    | ok models => exact Uses.pure _
    | error e => exact Uses.pure _
  split
  · exact Uses.pure _
  · have hport : PlainPort .catalog := trivial
    exact Uses.ite (Uses.pure _) ((Uses.call hcatalog hport).bind fun catalog => Uses.pure _)

lemma plain_startSession (request : SessionRequest) (identity : WorkspaceIdentity) (epoch : ℕ)
    (negotiated : Negotiated) : Plain (startSession request identity epoch negotiated) := by
  refine (uses_op trivial).bind fun sessionId => (plain_writeAudit _ _).bind fun allowed => ?_
  refine Uses.ite ((plain_changedSince _ _).bind fun changed => ?_) (Uses.pure _)
  cases changed with
  | some changed => exact plain_deny _ _ _ _ _
  | none =>
    refine (uses_awaits trivial).attempt.bind fun lease => ?_
    cases lease with
    | error e =>
      cases e with
      | leaseConflict => exact plain_deny _ _ _ _ _
      | _ => exact Uses.throw _
    | ok _ =>
      refine (uses_op trivial).attempt.bind fun created => ?_
      cases created with
      | ok _ => exact uses_op trivial
      | error e =>
        cases e with
        | revokedWorkspace _ | staleWorkspaceGrant _ | activeSessionLimit | storageFull =>
          exact plain_deny _ _ _ _ _
        | _ => exact Uses.throw _

lemma plain_admitSession (request : SessionRequest) (identity : WorkspaceIdentity) (epoch : ℕ) :
    Plain (admitSession request identity epoch) := by
  refine Uses.ite (plain_deny _ _ _ _ _) (Uses.ite (plain_deny _ _ _ _ _) ?_)
  have hchecked : PlainPort (.checked identity.workspaceId) := trivial
  refine (Uses.call (plain_workspaceIsTrusted _ _) hchecked).bind fun trusted => ?_
  refine Uses.ite ((plain_negotiate request identity).bind fun negotiated => ?_) ?_
  · cases negotiated with
    | error refusal => exact plain_deny _ _ _ _ _
    | ok negotiated => exact plain_startSession _ _ _ _
  · exact plain_deny _ _ _ _ _

lemma plain_createSession (request : SessionRequest) : Plain (createSession request) := by
  refine (uses_op trivial).bind fun known => Uses.ite (plain_refuse _) ?_
  refine (uses_op trivial).bind fun blocked => Uses.ite (plain_deny _ _ _ _ _) ?_
  refine (uses_op trivial).bind fun epoch => (uses_awaits trivial).attempt.bind fun r => ?_
  cases r with
  | error e => exact plain_replyForIdentityError e
  | ok identity => exact plain_admitSession _ _ _

end Uses

/-! ## A workspace is opened only while it is not blocked -/

def openContract : Contract sig State Call where
  inv _ := True
  guar _ _ _ _ := True
  pre o s := ∀ w, o = .allowWorkspace w → s.blockedWorkspaces w = false

section Open

variable {α : Type} {world : World}

lemma safe_of_lowers {x : Run α} (h : Lowers w x) : Safe openContract (Op.run world) x:=
  h.safe (fun a s ha _ v hv => by subst hv; exact False.elim ha) (fun _ _ _ => trivial)
    fun _ _ _ _ _ => trivial

lemma safe_of_plain {x : Run α} (h : Plain x) : Safe openContract (Op.run world) x :=
  safe_of_lowers (w := "") h.lowers

/-- What `changedSince` has seen when it reports no change. -/
lemma meets_changedSince {o : Call ⊕ sig.Port} {s₀ s : State} {epoch : ℕ}
    (hpre : ∀ a s, PlainOp a → K.pre a s)
    (hsame : s.blockedWorkspaces w = false → s.workspaceRevocationEpochs w = epoch →
      Q o s₀ (.ok none) s)
    (hchanged : ∀ changed, (s.blockedWorkspaces w = true ∨ s.workspaceRevocationEpochs w ≠ epoch) →
      Q o s₀ (.ok (some changed)) s) : (changedSince w epoch).Meets K (Op.run world) Q o s₀ s:= by
  refine meets_bind.mpr (meets_exec.mpr fun _ => ⟨hpre _ _ trivial, ?_⟩)
  refine meets_ite.mpr ⟨fun hblocked => hchanged .blocked (.inl hblocked), fun hopen => ?_⟩
  refine meets_bind.mpr (meets_exec.mpr fun _ => ⟨hpre _ _ trivial, ?_⟩)
  refine meets_ite.mpr ⟨fun hmoved => hchanged .epochMoved (.inr hmoved), fun hstill => ?_⟩
  exact hsame (Bool.eq_false_iff.mpr hopen) (not_not.mp hstill)

lemma safe_openWorkspace (request : GrantRequest) (identity : WorkspaceIdentity) (epoch : ℕ) :
    Safe openContract (Op.run world) (openWorkspace request identity epoch) := by
  intro o s₀ s
  refine meets_bind.mpr (meets_changedSince ?_ (fun hopen _ => ?_) fun changed _ => ?_)
  · rintro a s ha w rfl
    exact False.elim ha
  · refine meets_bind.mpr (meets_exec.mpr fun _ => ⟨?_, ?_⟩)
    · rintro w ⟨⟩
      exact hopen
    · refine meets_bind.mpr (meets_wait.mpr ⟨trivial, trivial, fun r s' _ _ _ _ => ?_⟩)
      cases r with
      | error e => trivial
      | ok dirty => exact meets_exec.mpr fun _ => ⟨nofun, trivial⟩
  · refine Safe.bind (safe_of_lowers (lowers_rollBack _)) (fun _ => ?_) o s₀ s
    exact safe_of_plain (plain_denyGrant _ _ _)

lemma safe_persistGrant (request : GrantRequest) (identity : WorkspaceIdentity) (epoch : ℕ) :
    Safe openContract (Op.run world) (persistGrant request identity epoch) := by
  refine Safe.bind (safe_of_plain (plain_changedSince _ _)) fun changed => ?_
  cases changed with
  | some changed => exact safe_of_plain (plain_denyGrant _ _ _)
  | none =>
    have hwrite : Uses (S := sig) (fun o => ∀ w, o ≠ .allowWorkspace w) (fun _ => True)
        (setTrust (.setTrusted identity request.provider) (some epoch)) := by
      refine Uses.call (Uses.ite ?_ (Uses.throw _)) trivial
      refine (uses_awaits trivial).bind fun writable => (uses_op nofun).bind fun _ => ?_
      exact Uses.ite (uses_op nofun) (Uses.throw _)
    refine Safe.bind (Safe.attempt (hwrite.safe ?_ ?_ ?_)) fun written => ?_
    · exact fun a s ha _ w hw => absurd hw (ha w)
    · exact fun _ _ _ => trivial
    · exact fun _ _ _ _ _ => trivial
    · cases written with
      | ok _ => exact safe_openWorkspace _ _ _
      | error e =>
        cases e with
        | nonReusableWorkspace => exact safe_of_plain (plain_refuse _)
        | _ =>
          refine Safe.bind (safe_of_lowers (lowers_rollBack _)) fun _ => ?_
          exact safe_of_plain (plain_refuse _)

lemma safe_consumeGrant (request : GrantRequest) :
    Safe openContract (Op.run world) (consumeGrant request) := by
  refine Safe.bind (Safe.attempt (safe_of_plain (uses_awaits trivial))) fun r => ?_
  cases r with
  | error e => exact safe_of_plain (plain_replyForIdentityError e)
  | ok identity =>
    refine Safe.bind (safe_of_plain (uses_op trivial)) fun blocked => ?_
    refine Safe.bind (safe_of_plain (uses_op trivial)) fun epoch => ?_
    refine Safe.ite (safe_of_plain (plain_denyGrant _ _ _)) ?_
    refine Safe.ite (safe_of_plain (plain_denyGrant _ _ _)) ?_
    refine Safe.ite (safe_of_plain (plain_denyGrant _ _ _)) ?_
    refine Safe.bind (safe_of_plain (plain_writeAudit _ _)) fun consumed => Safe.ite ?_ (Safe.pure _)
    refine Safe.bind (safe_of_plain (plain_writeAudit _ _)) fun granted => Safe.ite ?_ (Safe.pure _)
    exact safe_persistGrant _ _ _

lemma openContract_sound : openContract.Sound (daemon world) fun _ _ => True where
  rely_refl _ := trivial
  rely_trans _ _ := trivial
  rely_of_guar _ _ := trivial
  inv_of_guar _ _ := trivial
  point_of_guar _ _ _ _ := trivial
  compat_symm _ := trivial
  compat_of_guar _ _ _ _ := trivial
  body x s _ _ := by
    cases x with
    | createSession request => exact safe_of_plain (plain_createSession request) _ _ _
    | consumeGrant request => exact safe_consumeGrant request _ _ _
    | updateTrust w state => exact safe_of_lowers (lowers_updateTrust w state) _ _ _
    | streamEnds id =>
      have hplain : Plain (op (.finishSession id)) := uses_op trivial
      exact safe_of_plain hplain _ _ _
  restart _ _ := trivial

end Open

/-! ## The invariant -/

/-- After a block of a workspace, nothing opens it or makes use of its being open. -/
def BlocksLast (history : List Happened) : Prop :=
  history.Pairwise fun x y => ∀ w, x = .blocked w → ¬y.Opens w

def Indexed (s : State) : Prop :=
  ∀ session ∈ s.live, ∀ w, session.workspaceId = some w → session.id ∈ s.sessionsByWorkspace w

structure Revoked (s : State) : Prop where
  last : BlocksLast s.history
  blocked : ∀ w, .blocked w ∈ s.history → s.blockedWorkspaces w = true
  indexed : Indexed s

lemma BlocksLast.snoc {history : List Happened} {x : Happened} (h : BlocksLast history)
    (hx : ∀ w, .blocked w ∈ history → ¬x.Opens w) : BlocksLast (history ++ [x]) := by
  refine List.pairwise_append.mpr ⟨h, List.pairwise_singleton _ _, fun y hy z hz w hw => ?_⟩
  obtain rfl := List.mem_singleton.mp hz
  exact hx w (hw ▸ hy)

section Invariant

variable {s : State} {world : World}

lemma revoked_blockWorkspace (h : Revoked s) (w : String) : Revoked (s.blockWorkspace w) where
  last := h.last.snoc fun _ _ => id
  blocked v hv := by
    change Function.update s.blockedWorkspaces w true v = true
    rcases List.mem_append.mp hv with hold | hnew
    · by_cases hvw : v = w
      · rw [hvw, Function.update_self]
      · rw [Function.update_of_ne hvw]
        exact h.blocked v hold
    · cases List.mem_singleton.mp hnew
      exact Function.update_self _ _ _
  indexed := h.indexed

lemma revoked_allowWorkspace (h : Revoked s) (hopen : s.blockedWorkspaces w = false) :
    Revoked (s.allowWorkspace w) := by
  have hnever : Happened.blocked w ∉ s.history := fun hmem => by
    rw [h.blocked w hmem] at hopen
    cases hopen
  refine ⟨h.last.snoc ?_, fun v hv => ?_, h.indexed⟩
  · rintro v hv rfl
    exact hnever hv
  · change Function.update s.blockedWorkspaces w false v = true
    rcases List.mem_append.mp hv with hold | hnew
    · have hvw : v ≠ w := by
        rintro rfl
        exact hnever hold
      rw [Function.update_of_ne hvw]
      exact h.blocked v hold
    · cases List.mem_singleton.mp hnew

lemma revoked_finishSession (h : Revoked s) (id : ℕ) : Revoked (s.finishSession id) := by
  unfold State.finishSession
  split
  · unfold State.unindexWorkspaceSession
    split
    · exact ⟨h.last, h.blocked, fun x hx => h.indexed x (List.mem_filter.mp hx).1⟩
    · rename_i v _
      refine ⟨h.last, h.blocked, fun x hx w hw => ?_⟩
      obtain ⟨hlive, hid⟩ := List.mem_filter.mp hx
      have hmem := h.indexed x hlive w hw
      change x.id ∈ Function.update s.sessionsByWorkspace v _ w
      by_cases hwv : w = v
      · subst hwv
        rw [Function.update_self]
        exact List.mem_filter.mpr ⟨hmem, hid⟩
      · rw [Function.update_of_ne hwv]
        exact hmem
  · exact h

lemma revoked_cancelSession (h : Revoked s) (id : ℕ) : Revoked (s.cancelSession id) := by
  refine ⟨h.last, h.blocked, fun x hx w hw => ?_⟩
  obtain ⟨y, hy, rfl⟩ := List.mem_map.mp hx
  have hsame : (if y.id = id then { y with cancelled := true } else y).id = y.id := by
    split <;> rfl
  have hworkspace : (if y.id = id then { y with cancelled := true } else y).workspaceId =
      y.workspaceId := by
    split <;> rfl
  rw [hworkspace] at hw
  rw [hsame]
  exact h.indexed y hy w hw

lemma revoked_addSession (h : Revoked s)
    (hopen : ∀ w, input.workspaceId = some w → s.blockedWorkspaces w = false) :
    Revoked (s.addSession input) := by
  unfold State.addSession
  split
  · rename_i hnone
    refine ⟨h.last, h.blocked, fun x hx w hw => ?_⟩
    rcases List.mem_append.mp hx with hold | hnew
    · exact h.indexed x hold w hw
    · cases List.mem_singleton.mp hnew
      cases hnone.symm.trans hw
  · rename_i v hv
    refine ⟨h.last.snoc ?_, fun w hw => ?_, fun x hx w hw => ?_⟩
    · rintro w hw rfl
      have hblocked := h.blocked _ hw
      rw [hopen _ hv] at hblocked
      cases hblocked
    · rcases List.mem_append.mp hw with hold | hnew
      · exact h.blocked w hold
      · cases List.mem_singleton.mp hnew
    · change x.id ∈ Function.update s.sessionsByWorkspace v
        (s.sessionsByWorkspace v ++ [input.sessionId]) w
      rcases List.mem_append.mp hx with hold | hnew
      · by_cases hwv : w = v
        · subst hwv
          rw [Function.update_self]
          exact List.mem_append_left _ (h.indexed x hold w hw)
        · rw [Function.update_of_ne hwv]
          exact h.indexed x hold w hw
      · cases List.mem_singleton.mp hnew
        cases hv.symm.trans hw
        rw [Function.update_self]
        exact List.mem_append_right _ (List.mem_singleton.mpr rfl)

/-- A session that `create` admits is not in a blocked workspace. -/
lemma open_of_admissionError (h : admissionError world s input = none) (hw : input.workspaceId = some w) :
    s.blockedWorkspaces w = false:= by
  unfold admissionError at h
  split at h
  · cases h
  · rw [hw] at h
    dsimp only at h
    split at h
    · cases h
    · rename_i hopen
      exact Bool.eq_false_iff.mpr hopen

lemma revoked_create (h : Revoked s) (input : CreateInput) :
    Revoked (create world s input).1 := by
  unfold create
  split
  · exact h
  · rename_i hadmitted
    split
    · exact h
    · rename_i held _
      split
      · exact h
      · exact h
      · exact h
      · have hheld : Revoked { s with held } := ⟨h.last, h.blocked, h.indexed⟩
        exact revoked_addSession hheld fun w => open_of_admissionError hadmitted

lemma revoked_restart (s : State) : Revoked s.restart :=
  ⟨List.Pairwise.nil, nofun, nofun⟩

lemma revoked_run (h : Revoked s) (o : Op)
    (hopen : ∀ w, o = .allowWorkspace w → s.blockedWorkspaces w = false) :
    Revoked (Op.run world o s).1 := by
  cases o with
  | blockWorkspace w => exact revoked_blockWorkspace h w
  | allowWorkspace w => exact revoked_allowWorkspace h (hopen w rfl)
  | cancelSession id => exact revoked_cancelSession h id
  | create input => exact revoked_create h input
  | finishSession id => exact revoked_finishSession h id
  | isWorkspaceBlocked w => exact h
  | workspaceEpoch w => exact h
  | sessionsInWorkspace w => exact h
  | registered provider => exact h
  | inspect w => exact h
  | randomId => exact ⟨h.last, h.blocked, h.indexed⟩
  | change edit => exact ⟨h.last, h.blocked, h.indexed⟩
  | persist => exact ⟨h.last, h.blocked, h.indexed⟩
  | answer a => exact ⟨h.last, h.blocked, h.indexed⟩

end Invariant

/-! ## Every interleaving -/

section Runs

variable {world : World} {file : Records} {c : Cfg sig State}

lemma revoked_acts (hreach : (daemon world).Reach (fun _ _ => True) (started file) c)
    (e : Event sig Call) :
    ∀ a ∈ (daemon world).acts c e, Revoked a.2 → Revoked (Op.run world a.1 a.2).1 := by
  have hallowed : ∀ c e, True → openContract.Allowed (daemon world) c e := by
    intro c e _
    refine ⟨fun _ _ => trivial, ?_⟩
    cases e with
    | call x => exact ⟨trivial, fun _ _ _ _ => trivial⟩
    | reply i p r => exact ⟨trivial, fun _ _ _ _ _ => trivial⟩
    | crash => trivial
  have hgood := Contract.good_of_reach openContract_sound (Contract.Good.start trivial)
    (hreach.mono hallowed)
  intro a ha h
  exact revoked_run h a.1 (hgood.pre_step openContract_sound (hallowed c e trivial) a ha)

/-- **A revocation wins.**  In every interleaving, once a workspace is blocked no request creates a
session in it or opens it again, and whenever a workspace is blocked all its live sessions are in
the index from which they are cancelled. -/
theorem revocation_wins (hreach : (daemon world).Reach (fun _ _ => True) (started file) c)
    (e : Event sig Call) :
    BlocksLast c.shared.history ∧
      ∀ a ∈ (daemon world).acts c e, ∀ w, a.1 = .blockWorkspace w →
        ∀ session ∈ a.2.live, session.workspaceId = some w →
          session.id ∈ a.2.sessionsByWorkspace w := by
  have hstart : Revoked (started file).shared := ⟨List.Pairwise.nil, nofun, nofun⟩
  have hrestart : ∀ s, Revoked s → Revoked ((daemon world).restart s) :=
    fun s _ => revoked_restart s
  have hacts : ∀ c e, (daemon world).Reach (fun _ _ => True) (started file) c → True →
      ∀ a ∈ (daemon world).acts c e, Revoked a.2 → Revoked ((daemon world).ex a.1 a.2).1 :=
    fun c e hc _ => revoked_acts hc e
  refine ⟨(hreach.inv_of_acts hstart hrestart hacts).last, fun a ha w _ session hlive hw => ?_⟩
  exact (hreach.inv_at_acts trivial hstart hrestart hacts a ha).indexed session hlive w hw

end Runs

def grantedSession : List (System.Move sig Call) :=
  [.event (.call (.consumeGrant sampleGrant)), .serve 0 8,
    .event (.call (.createSession sampleSession)), .serve 1 9]

theorem revocation_wins_granted :
    ∃ c, (daemon sampleWorld).Reach (fun _ _ => True) (started fun _ => none) c ∧
      c.shared.history = [.allowed "w", .created 0 "w"] ∧ c.shared.live.map (·.id) = [0] ∧
      BlocksLast c.shared.history ∧
        ∀ a ∈ (daemon sampleWorld).acts c (.call (.updateTrust "w" .untrusted)), ∀ w,
          a.1 = .blockWorkspace w → ∀ session ∈ a.2.live, session.workspaceId = some w →
            session.id ∈ a.2.sessionsByWorkspace w := by
  have hrun : ((daemon sampleWorld).play (fun _ _ => True) sampleReply (started fun _ => none)
      grantedSession).map (fun c : Cfg sig State => (c.shared.history, c.shared.live.map (·.id))) =
      some ([.allowed "w", .created 0 "w"], [0]) := by
    decide
  obtain ⟨c, hc, hstate⟩ := Option.map_eq_some_iff.mp hrun
  simp only [Prod.mk.injEq] at hstate
  have hreach := System.Reach.of_play hc
  exact ⟨c, hreach, hstate.1, hstate.2, revocation_wins hreach _⟩

end VacancyRadar.Daemon.Admission
