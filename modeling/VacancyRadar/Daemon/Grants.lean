import VacancyRadar.Daemon.Revocation

/-!
# Grants that meet

A grant that finds the epoch moved after it wrote its trust takes the write for one that a
revocation overtook: it blocks the workspace and takes the trust back.  But a grant that opens the
workspace moves the epoch as well, so the slower one of two grants for the same workspace undoes the
faster one.
-/

namespace VacancyRadar.Daemon.Admission

open Coop Prog

variable {x : Run Unit} {d : Option Port} {p : Port} {epoch : ℕ}

/-! ## Programs that are about other workspaces -/

def AboutOp (v : String) : Op → Prop
  | .blockWorkspace u | .allowWorkspace u => u = v
  | .change edit => edit.workspaceId = v
  | .answer (.trusted u _ _) => u = v
  | _ => True

def AboutPort (v : String) : Port → Prop
  | .writeQueue edit _ | .settled edit _ => edit.workspaceId = v
  | .isDirty identity => identity.workspaceId = v
  | _ => True

section About

variable {α : Type} {v : String}

abbrev About (v : String) (x : Run α) : Prop := Uses (S := sig) (AboutOp v) (AboutPort v) x

lemma Lowers.about {x : Run α} (h : Lowers v x) : About v x := by
  refine h.mono (fun o ho => ?_) fun p hp => ?_
  · cases o with
    | blockWorkspace u => exact ho
    | change edit => exact ho.1
    | allowWorkspace u => exact False.elim ho
    | answer a =>
      cases a with
      | trusted u i d => exact False.elim ho
      | _ => trivial
    | _ => trivial
  · cases p with
    | writeQueue edit decided => exact hp.1
    | settled edit decided => exact hp.1
    | isDirty identity => exact False.elim hp
    | _ => trivial

lemma Plain.about {x : Run α} (h : Plain x) : About v x := (h.lowers (w := v)).about

lemma about_setTrust (edit : TrustChange) (hv : edit.workspaceId = v) (decided : Option ℕ) :
    About v (setTrust edit decided) := by
  have hmutate : About v (mutate edit decided) := by
    refine (uses_awaits (p := .writeQueue edit decided) hv).bind fun writable => ?_
    refine (uses_op (o := .change edit) hv).bind fun _ => ?_
    exact Uses.ite (uses_op trivial) (Uses.throw _)
  have hport : AboutPort v (.settled edit decided) := hv
  refine Uses.call ?_ hport
  cases edit with
  | setTrusted identity provider => exact Uses.ite hmutate (Uses.throw _)
  | beginRevocation w => exact hmutate
  | setUntrusted w => exact hmutate

lemma about_openWorkspace (request : GrantRequest) (identity : WorkspaceIdentity) (epoch : ℕ) :
    About identity.workspaceId (openWorkspace request identity epoch) := by
  refine (plain_changedSince _ _).about.bind fun changed => ?_
  cases changed with
  | some changed =>
    exact (lowers_rollBack _).about.bind fun _ => (plain_denyGrant _ _ _).about
  | none =>
    have hopen : About identity.workspaceId (op (.allowWorkspace identity.workspaceId)) :=
      uses_op (P := AboutOp identity.workspaceId) (o := .allowWorkspace _) rfl
    have hdirty : About identity.workspaceId (awaits (.isDirty identity)) :=
      uses_awaits (V := AboutPort identity.workspaceId) (p := .isDirty identity) rfl
    exact hopen.bind fun _ => hdirty.bind fun dirty => uses_op rfl

lemma about_persistGrant (request : GrantRequest) (identity : WorkspaceIdentity) (epoch : ℕ) :
    About identity.workspaceId (persistGrant request identity epoch) := by
  refine (plain_changedSince _ _).about.bind fun changed => ?_
  cases changed with
  | some changed => exact (plain_denyGrant _ _ _).about
  | none =>
    have hwrite := about_setTrust (.setTrusted identity request.provider) rfl (some epoch)
    refine hwrite.attempt.bind fun written => ?_
    cases written with
    | ok _ => exact about_openWorkspace _ _ _
    | error e =>
      cases e with
      | nonReusableWorkspace => exact (plain_refuse _).about
      | _ => exact (lowers_rollBack _).about.bind fun _ => (plain_refuse _).about

lemma about_decideGrant (request : GrantRequest) (identity : WorkspaceIdentity) :
    About identity.workspaceId (decideGrant request identity) := by
  refine (uses_op trivial).bind fun blocked => (uses_op trivial).bind fun epoch => ?_
  refine Uses.ite (plain_denyGrant _ _ _).about (Uses.ite (plain_denyGrant _ _ _).about ?_)
  refine Uses.ite (plain_denyGrant _ _ _).about ?_
  refine (plain_writeAudit _ _).about.bind fun consumed => Uses.ite ?_ (Uses.pure _)
  refine (plain_writeAudit _ _).about.bind fun granted => Uses.ite ?_ (Uses.pure _)
  exact about_persistGrant _ _ _

end About

/-! ## What a turn leaves of a grant -/

/-- The workspace is trusted in the store, in memory and on disk. -/
def Trusted (w : String) (s : State) : Prop :=
  (s.records w).map (·.state) = some .trusted ∧ (s.file w).map (·.state) = some .trusted

structure Standing (w : String) (s : State) : Prop where
  isOpen : s.blockedWorkspaces w = false
  kept : ∀ i dirty, .trusted w i dirty ∈ s.answers → Trusted w s

def Granting (w : String) : Port → Prop
  | .writeQueue (.setTrusted identity _) (some _) => identity.workspaceId = w
  | .settled (.setTrusted identity _) (some _) => identity.workspaceId = w
  | _ => False

def StartsWrite (w : String) (s : State) : Port → Prop
  | .audited entry (some epoch) true =>
    entry.event = .trustGranted ∧ entry.workspaceId = w ∧
      s.blockedWorkspaces w = false ∧ s.workspaceRevocationEpochs w = epoch
  | _ => False

structure GrantTurn (w : String) (o : Call ⊕ Port) (s : State) (d : Option Port) (t : State) :
    Prop where
  standing : Standing w t
  trusted : Trusted w s → Trusted w t
  epoch : t.workspaceRevocationEpochs w = s.workspaceRevocationEpochs w ∨
    ∃ p, o = .inr p ∧ Granting w p
  port : ∀ q ∈ d, Granting w q → ∃ p, o = .inr p ∧ (Granting w p ∨ StartsWrite w s p)

def GrantPoint (w : String) : Port → State → Prop
  | .writeQueue (.setTrusted identity _) (some epoch), s =>
    identity.workspaceId = w → s.workspaceRevocationEpochs w = epoch
  | .settled (.setTrusted identity _) (some epoch), s =>
    identity.workspaceId = w → s.workspaceRevocationEpochs w = epoch ∧ Trusted w s
  | .isDirty identity, s => identity.workspaceId = w → Trusted w s
  | _, _ => True

def Writes (w : String) : (p : Port) → Except DaemonError p.Rep → Prop
  | .writeQueue edit _, r => edit.workspaceId = w → r = .ok true
  | _, _ => True

/-- What all requests keep to if the grants for `w` do not meet. -/
def grantContract (w : String) : Contract sig State Call where
  inv := Standing w
  rely s t := Trusted w s → Trusted w t
  point := GrantPoint w
  guar o s d t := Standing w s → GrantTurn w o s d t
  reply p r _ := Writes w p r
  enter x _ := ∀ state, x ≠ .updateTrust w state
  meet o p s := ∀ q, o = .inr q → StartsWrite w s q → ¬Granting w p

/-! ## Turns that are about other workspaces -/

/-- Nothing happens to the workspace `w`, except that its record may be written once more. -/
structure Quiet (w : String) (s t : State) : Prop where
  blocked : t.blockedWorkspaces w = s.blockedWorkspaces w
  epoch : t.workspaceRevocationEpochs w = s.workspaceRevocationEpochs w
  record : t.records w = s.records w
  file : t.file w = s.file w ∨ t.file w = s.records w
  answers : ∀ i dirty, .trusted w i dirty ∈ t.answers → .trusted w i dirty ∈ s.answers

section Quiet

variable {w v : String} {s t u : State} {world : World}

lemma Quiet.refl (s : State) : Quiet w s s := ⟨rfl, rfl, rfl, .inl rfl, fun _ _ => id⟩

lemma Quiet.trans (h : Quiet w s t) (h' : Quiet w t u) : Quiet w s u where
  blocked := h'.blocked.trans h.blocked
  epoch := h'.epoch.trans h.epoch
  record := h'.record.trans h.record
  file := by
    rcases h'.file with hfile | hfile
    · rw [hfile]
      exact h.file
    · exact .inr (hfile.trans h.record)
  answers i dirty hmem := h.answers i dirty (h'.answers i dirty hmem)

lemma Quiet.trusted (h : Quiet w s t) (htrusted : Trusted w s) : Trusted w t := by
  refine ⟨by rw [h.record]; exact htrusted.1, ?_⟩
  rcases h.file with hfile | hfile
  · rw [hfile]
    exact htrusted.2
  · rw [hfile]
    exact htrusted.1

lemma Quiet.standing (h : Quiet w s t) (hs : Standing w s) : Standing w t :=
  ⟨h.blocked.trans hs.isOpen, fun i dirty hmem => h.trusted (hs.kept i dirty (h.answers i dirty hmem))⟩

lemma Quiet.turn (h : Quiet w s t) (hs : Standing w s) {o : Call ⊕ Port} (hd : ∀ q ∈ d, ¬Granting w q) :
    GrantTurn w o s d t:=
  ⟨h.standing hs, h.trusted, .inl h.epoch, fun q hq hgranting => absurd hgranting (hd q hq)⟩

lemma Quiet.ends (h : Quiet w s t) (hs : Standing w s) (o : Call ⊕ Port) : GrantTurn w o s none t :=
  h.turn hs fun q hq => absurd hq (Option.not_mem_none q)

lemma quiet_create (input : CreateInput) : Quiet w s (create world s input).1 := by
  unfold create
  split
  · exact Quiet.refl s
  · split
    · exact Quiet.refl s
    · split
      · exact Quiet.refl s
      · exact Quiet.refl s
      · exact Quiet.refl s
      · unfold State.addSession
        split
        · exact ⟨rfl, rfl, rfl, .inl rfl, fun _ _ => id⟩
        · exact ⟨rfl, rfl, rfl, .inl rfl, fun _ _ => id⟩

lemma quiet_finishSession (id : ℕ) : Quiet w s (s.finishSession id) := by
  unfold State.finishSession
  split
  · unfold State.unindexWorkspaceSession
    split
    · exact ⟨rfl, rfl, rfl, .inl rfl, fun _ _ h => h⟩
    · exact ⟨rfl, rfl, rfl, .inl rfl, fun _ _ h => h⟩
  · exact Quiet.refl s

lemma quiet_run {o : Op} (ho : AboutOp v o) (hvw : v ≠ w) : Quiet w s (Op.run world o s).1 := by
  cases o with
  | blockWorkspace u =>
    obtain rfl : u = v := ho
    exact ⟨Function.update_of_ne hvw.symm _ _, Function.update_of_ne hvw.symm _ _, rfl, .inl rfl,
      fun _ _ => id⟩
  | allowWorkspace u =>
    obtain rfl : u = v := ho
    exact ⟨Function.update_of_ne hvw.symm _ _, Function.update_of_ne hvw.symm _ _, rfl, .inl rfl,
      fun _ _ => id⟩
  | change edit =>
    have hne : w ≠ edit.workspaceId := fun h => hvw ((h.trans ho).symm)
    exact ⟨rfl, rfl, Function.update_of_ne hne _ _, .inl rfl, fun _ _ => id⟩
  | persist => exact ⟨rfl, rfl, rfl, .inr rfl, fun _ _ => id⟩
  | answer a =>
    refine ⟨rfl, rfl, rfl, .inl rfl, fun i dirty hmem => ?_⟩
    rcases List.mem_append.mp hmem with hold | hnew
    · exact hold
    · cases List.mem_singleton.mp hnew
      exact absurd (Eq.symm ho) hvw
  | create input => exact quiet_create input
  | finishSession id => exact quiet_finishSession id
  | cancelSession id => exact ⟨rfl, rfl, rfl, .inl rfl, fun _ _ h => h⟩
  | randomId => exact ⟨rfl, rfl, rfl, .inl rfl, fun _ _ => id⟩
  | isWorkspaceBlocked u => exact Quiet.refl s
  | workspaceEpoch u => exact Quiet.refl s
  | sessionsInWorkspace u => exact Quiet.refl s
  | registered provider => exact Quiet.refl s
  | inspect u => exact Quiet.refl s

lemma not_granting_of_about (hp : AboutPort v p) (hvw : v ≠ w) : ¬Granting w p:= by
  intro h
  unfold Granting at h
  split at h
  · exact hvw (hp.symm.trans h)
  · exact hvw (hp.symm.trans h)
  · exact h

lemma point_of_about (hp : AboutPort v p) (hvw : v ≠ w) : GrantPoint w p s:= by
  match p with
  | .writeQueue (.setTrusted identity _) (some _) => exact fun h => absurd (hp.symm.trans h) hvw
  | .settled (.setTrusted identity _) (some _) => exact fun h => absurd (hp.symm.trans h) hvw
  | .isDirty identity => exact fun h => absurd (hp.symm.trans h) hvw
  | .writeQueue (.setTrusted _ _) none | .writeQueue (.beginRevocation _) _
  | .writeQueue (.setUntrusted _) _ | .settled (.setTrusted _ _) none
  | .settled (.beginRevocation _) _ | .settled (.setUntrusted _) _ | .resolveIdentity _
  | .revalidate _ | .audit _ _ | .audited _ _ _ | .inspected _ | .checked _ | .catalog | .detect _
  | .fetchModelCatalog _ | .lease _ _ | .cancelled _ => trivial

variable {o : Call ⊕ sig.Port} {s₀ : State}

lemma meets_of_about (hx : About v x) (hvw : v ≠ w) (h : Quiet w s₀ s) :
    x.Meets (grantContract w) (Op.run world)
      (fun o s₀ _ t => Standing w s₀ → GrantTurn w o s₀ none t) o s₀ s := by
  have hquiet : x.Meets (grantContract w) (Op.run world) (fun _ s₀ _ t => Quiet w s₀ t) o s₀ s := by
    refine hx.meets_rel Quiet.refl Quiet.trans (fun a s ha _ => ⟨trivial, quiet_run ha hvw⟩) ?_ ?_ h
    · exact fun p s hp => point_of_about hp hvw
    · intro o s₀ p s hp hquiet hs
      refine hquiet.turn hs fun q hq => ?_
      cases hq
      exact not_granting_of_about hp hvw
  exact hquiet.mono fun o s₀ r t hquiet hs => hquiet.ends hs o

lemma meets_of_plain (hx : Plain x) (h : Quiet w s₀ s) : x.Meets (grantContract w) (Op.run world)
      (fun o s₀ _ t => Standing w s₀ → GrantTurn w o s₀ none t) o s₀ s := by
  obtain ⟨v, hvw⟩ : ∃ v, v ≠ w := by
    by_cases hw : w = ""
    · exact ⟨"v", by rw [hw]; decide⟩
    · exact ⟨"", Ne.symm hw⟩
  exact meets_of_about (hx.about (v := v)) hvw h

end Quiet

/-! ## A grant for the workspace -/

section Grant

variable {w : String} {world : World} {s₀ s : State} {o : Call ⊕ sig.Port}

abbrev Ends (w : String) : Post sig State Call Unit :=
  fun o s₀ _ t => Standing w s₀ → GrantTurn w o s₀ none t

lemma turn_refl (hs : Standing w s) (o : Call ⊕ Port) (hd : ∀ q ∈ d, ¬Granting w q) : GrantTurn w o s d s:=
  (Quiet.refl s).turn hs hd

lemma meets_read {α : Type} {a : Op} {r : a.Res} {f : a.Res → Run α} {Q : Post sig State Call α}
    (hrun : Op.run world a s = (s, .ok r))
    (h : (f r).Meets (grantContract w) (Op.run world) Q o s₀ s) :
    (op a >>= f).Meets (grantContract w) (Op.run world) Q o s₀ s := by
  refine meets_bind.mpr (meets_exec.mpr fun _ => ⟨trivial, ?_⟩)
  have hrun' : Op.run world a s = (s, .ok r) := hrun
  rw [hrun']
  exact h

lemma meets_writeAudit {entry : AuditEntry} {decided : Option ℕ} {f : Bool → Run Unit}
    (h : Quiet w s₀ s)
    (hf : ∀ written t, Standing w t → (f written).Meets (grantContract w) (Op.run world) (Ends w)
      (.inr (.audited entry decided written)) t t) :
    (writeAudit entry decided >>= f).Meets (grantContract w) (Op.run world) (Ends w) o s₀ s := by
  have hback : ∀ written (o : Call ⊕ sig.Port) s₀ s, Quiet w s₀ s →
      (awaits (.audited entry decided written) >>= fun _ => f written).Meets (grantContract w)
        (Op.run world) (Ends w) o s₀ s := by
    intro written o s₀ s h
    refine meets_bind.mpr (meets_wait.mpr ⟨fun hs => h.turn hs ?_, trivial, fun r t _ ht _ _ => ?_⟩)
    · rintro q ⟨⟩
      exact id
    · cases r with
      | ok _ => exact hf written t ht
      | error e => exact fun hs => (Quiet.refl t).ends hs _
  refine meets_bind.mpr (meets_bind.mpr (meets_bind.mpr (meets_attempt.mpr (meets_wait.mpr ?_))))
  refine ⟨fun hs => h.turn hs ?_, trivial, fun r t _ _ _ _ => ?_⟩
  · rintro q ⟨⟩
    exact id
  cases r with
  | ok _ =>
    have hmeets := hback true (.inr (.audit entry decided)) t t (Quiet.refl t)
    refine meets_bind.mpr ((meets_bind.mp hmeets).mono fun o s₀ r t hr => ?_)
    cases r <;> exact hr
  | error e =>
    refine meets_bind.mpr (meets_exec.mpr fun _ => ⟨trivial, ?_⟩)
    have hquiet : Quiet w t (Op.run world
        (.answer (.refused (AuditFailure.ofError e).refusal.status
          (AuditFailure.ofError e).refusal.code)) t).1 := by
      refine ⟨rfl, rfl, rfl, .inl rfl, fun i dirty hmem => ?_⟩
      rcases List.mem_append.mp hmem with hold | hnew
      · exact hold
      · cases List.mem_singleton.mp hnew
    have hmeets := hback false (.inr (.audit entry decided)) t _ hquiet
    refine meets_bind.mpr ((meets_bind.mp hmeets).mono fun o s₀ r t hr => ?_)
    cases r <;> exact hr

variable {identity : WorkspaceIdentity} {request : GrantRequest}

lemma meets_openWorkspace {provider : ProviderId} (hw : identity.workspaceId = w)
    (hs : Standing w s) (hepoch : s.workspaceRevocationEpochs w = epoch) (htrusted : Trusted w s) :
    (openWorkspace request identity epoch).Meets (grantContract w) (Op.run world) (Ends w)
      (.inr (.settled (.setTrusted identity provider) (some epoch))) s s := by
  subst hw
  refine meets_bind.mpr (meets_changedSince (fun _ _ _ => trivial) (fun _ _ => ?_) ?_)
  · refine meets_bind.mpr (meets_exec.mpr fun _ => ⟨trivial, ?_⟩)
    have hopened : Standing identity.workspaceId (s.allowWorkspace identity.workspaceId) :=
      ⟨Function.update_self _ _ _, hs.kept⟩
    refine meets_bind.mpr (meets_wait.mpr ⟨fun _ => ?_, fun _ => htrusted, ?_⟩)
    · refine ⟨hopened, id, .inr ⟨_, rfl, rfl⟩, ?_⟩
      rintro q ⟨⟩ hgranting
      exact False.elim hgranting
    · intro r t _ ht hpoint _
      cases r with
      | error e => exact fun hs => (Quiet.refl t).ends hs _
      | ok dirty =>
        refine meets_exec.mpr fun _ => ⟨trivial, fun _ => ?_⟩
        refine ⟨⟨ht.isOpen, fun _ _ _ => hpoint rfl⟩, id, .inl rfl, fun q hq => ?_⟩
        exact absurd hq (Option.not_mem_none q)
  · intro changed hchanged
    rcases hchanged with hblocked | hmoved
    · rw [hs.isOpen] at hblocked
      cases hblocked
    · exact absurd hepoch hmoved

def written (s : State) (identity : WorkspaceIdentity) (provider : ProviderId) : State :=
  let records := (TrustChange.setTrusted identity provider).apply s.records
  { s with records, file := records }

lemma trusted_written (s : State) (identity : WorkspaceIdentity) (provider : ProviderId) :
    Trusted identity.workspaceId (written s identity provider) := by
  have hrecord : (TrustChange.setTrusted identity provider).apply s.records identity.workspaceId =
      some ⟨identity.incarnation, .trusted, provider⟩ := Function.update_self _ _ _
  have hstate : ((TrustChange.setTrusted identity provider).apply s.records
      identity.workspaceId).map (·.state) = some .trusted := by
    rw [hrecord]
    rfl
  exact ⟨hstate, hstate⟩

lemma meets_persistGrant (hw : identity.workspaceId = w) (hreusable : identity.reusable = true)
    (hs : Standing w s) :
    (persistGrant request identity epoch).Meets (grantContract w) (Op.run world) (Ends w)
      (.inr (.audited (request.entry identity .trustGranted .user) (some epoch) true)) s s := by
  refine meets_bind.mpr (meets_changedSince (fun _ _ _ => trivial) (fun hopen hepoch => ?_) ?_)
  · refine meets_bind.mpr (meets_attempt.mpr (meets_call.mpr ?_))
    dsimp only
    rw [if_pos hreusable]
    subst hw
    refine meets_bind.mpr (meets_wait.mpr ⟨fun _ => ?_, fun _ => hepoch, ?_⟩)
    · refine ⟨hs, id, .inl rfl, ?_⟩
      rintro q ⟨⟩ _
      exact ⟨_, rfl, .inr ⟨rfl, rfl, hopen, hepoch⟩⟩
    intro r t _ ht hpoint hwrites
    -- The write succeeds, so that the change and the file are written on one turn.
    obtain rfl : r = .ok true := hwrites rfl
    refine meets_bind.mpr (meets_exec.mpr fun _ => ⟨trivial, ?_⟩)
    refine meets_ite.mpr ⟨fun _ => meets_exec.mpr fun _ => ⟨trivial, ?_⟩, fun hno => absurd rfl hno⟩
    have htrusted := trusted_written t identity request.provider
    refine ⟨fun _ => ⟨⟨ht.isOpen, fun _ _ _ => htrusted⟩, fun _ => htrusted, .inl rfl, ?_⟩, ?_, ?_⟩
    · rintro q ⟨⟩ _
      exact ⟨_, rfl, .inl rfl⟩
    · exact fun _ => ⟨hpoint rfl, htrusted⟩
    · intro _ u _ hu hpoint' _
      exact meets_openWorkspace rfl hu (hpoint' rfl).1 (hpoint' rfl).2
  · intro changed _
    exact meets_of_plain (plain_denyGrant _ _ _) (Quiet.refl s)

lemma meets_decideGrant (hw : identity.workspaceId = w) (h : Quiet w s₀ s) :
    (decideGrant request identity).Meets (grantContract w) (Op.run world) (Ends w) o s₀ s := by
  refine meets_read rfl (meets_read rfl ?_)
  refine meets_ite.mpr ⟨fun _ => meets_of_plain (plain_denyGrant _ _ _) h, fun _ => ?_⟩
  refine meets_ite.mpr ⟨fun _ => meets_of_plain (plain_denyGrant _ _ _) h, fun hreusable => ?_⟩
  refine meets_ite.mpr ⟨fun _ => meets_of_plain (plain_denyGrant _ _ _) h, fun _ => ?_⟩
  refine meets_writeAudit h fun consumed t ht => ?_
  refine meets_ite.mpr ⟨fun _ => ?_, fun _ hs => (Quiet.refl _).ends hs _⟩
  refine meets_writeAudit (Quiet.refl t) fun granted u hu => ?_
  refine meets_ite.mpr ⟨fun hgranted => ?_, fun _ hs => (Quiet.refl _).ends hs _⟩
  subst hgranted
  exact meets_persistGrant hw (Bool.not_eq_false _ ▸ hreusable) hu

lemma meets_consumeGrant (request : GrantRequest) (hs : Standing w s) :
    (consumeGrant request).Meets (grantContract w) (Op.run world) (Ends w) o s s := by
  refine meets_bind.mpr (meets_attempt.mpr (meets_wait.mpr ⟨fun _ => ?_, trivial, ?_⟩))
  · refine turn_refl hs _ ?_
    rintro q ⟨⟩
    exact id
  · intro r t _ ht _ _
    cases r with
    | error e => exact meets_of_plain (plain_replyForIdentityError e) (Quiet.refl t)
    | ok identity =>
      by_cases hw : identity.workspaceId = w
      · exact meets_decideGrant hw (Quiet.refl t)
      · exact meets_of_about (about_decideGrant request identity) hw (Quiet.refl t)

end Grant

/-! ## Runs -/

section Runs

variable {w : String} {world : World} {file : Records} {c : Cfg sig State}

lemma standing_restart {s : State} (hs : Standing w s) : Standing w s.restart := by
  refine ⟨rfl, fun i dirty hmem => ?_⟩
  obtain ⟨-, hfile⟩ := hs.kept i dirty hmem
  refine ⟨?_, hfile⟩
  obtain ⟨record, hrecord, hstate⟩ := Option.map_eq_some_iff.mp hfile
  have hload : loadRecords s.file w = some record := by
    rw [loadRecords, hrecord, Option.map_some, if_neg]
    rw [hstate]
    decide
  change (loadRecords s.file w).map (·.state) = some .trusted
  rw [hload, Option.map_some, hstate]

lemma grantContract_sound :
    (grantContract w).Sound (daemon world) fun p q => ¬(Granting w p ∧ Granting w q) where
  rely_refl _ := id
  rely_trans h h' := h' ∘ h
  rely_of_guar hs h := (h hs).trusted
  inv_of_guar hs h := (h hs).standing
  point_of_guar {o s d t p} hs hp hbeside h := by
    have hturn := h hs
    -- The epoch is moved only by a grant that is writing, and then no other one is.
    have hepoch : Granting w p →
        t.workspaceRevocationEpochs w = s.workspaceRevocationEpochs w := by
      intro hgranting
      rcases hturn.epoch with hsame | ⟨q, rfl, hq⟩
      · exact hsame
      · exact absurd ⟨hgranting, hq⟩ hbeside.2.2
    match p, hp, hepoch with
    | .writeQueue (.setTrusted identity _) (some _), hp, hepoch =>
      exact fun hw => (hepoch hw).trans (hp hw)
    | .settled (.setTrusted identity _) (some _), hp, hepoch =>
      exact fun hw => ⟨(hepoch hw).trans (hp hw).1, hturn.trusted (hp hw).2⟩
    | .isDirty identity, hp, _ => exact fun hw => hturn.trusted (hp hw)
    | .writeQueue (.setTrusted _ _) none, _, _ | .writeQueue (.beginRevocation _) _, _, _
    | .writeQueue (.setUntrusted _) _, _, _ | .settled (.setTrusted _ _) none, _, _
    | .settled (.beginRevocation _) _, _, _ | .settled (.setUntrusted _) _, _, _
    | .resolveIdentity _, _, _ | .revalidate _, _, _ | .audit _ _, _, _ | .audited _ _ _, _, _
    | .inspected _, _, _ | .checked _, _, _ | .catalog, _, _ | .detect _, _, _
    | .fetchModelCatalog _, _, _ | .lease _ _, _, _ | .cancelled _, _, _ => trivial
  compat_symm h h' := h ⟨h'.2, h'.1⟩
  compat_of_guar {o s d t p} hs _ hbeside h hboth := by
    obtain ⟨q, rfl, hq⟩ := (h hs).port d rfl hboth.2
    rcases hq with hgranting | hstarts
    · exact hbeside.2.2 ⟨hboth.1, hgranting⟩
    · exact hbeside.1 q rfl hstarts hboth.1
  body x s hs henter := by
    cases x with
    | createSession request => exact meets_of_plain (plain_createSession request) (Quiet.refl s)
    | consumeGrant request => exact meets_consumeGrant request hs
    | updateTrust v state =>
      have hvw : v ≠ w := fun h => henter state (h ▸ rfl)
      exact meets_of_about (lowers_updateTrust v state).about hvw (Quiet.refl s)
    | streamEnds id =>
      have hplain : Plain (op (.finishSession id)) := uses_op trivial
      exact meets_of_plain hplain (Quiet.refl s)
  restart _ hs := standing_restart hs

def GrantsApart (w : String) (c : Cfg sig State) : Event sig Call → Prop
  | .call (.updateTrust v _) => v ≠ w
  | .call _ => True
  | .reply i p r => Writes w p r ∧
      (StartsWrite w c.shared p → ∀ j < c.procs.length, i ≠ j →
        ∀ q ∈ c.procs[j]?.bind Prog.port?, ¬Granting w q)
  | .crash => True

instance (p : Port) : Decidable (Granting w p) := by
  unfold Granting
  split <;> infer_instance

instance (s : State) (p : Port) : Decidable (StartsWrite w s p) := by
  unfold StartsWrite
  split <;> infer_instance

instance (p : Port) (r : Except DaemonError p.Rep) : Decidable (Writes w p r) := by
  unfold Writes
  split <;> infer_instance

instance (c : Cfg sig State) (e : Event sig Call) : Decidable (GrantsApart w c e) := by
  unfold GrantsApart
  split <;> infer_instance

/-- **Grants that do not meet stand.**  In every run without a revocation of the trust in `w` in
which the writes succeed and no grant for `w` starts to write while another one is at it, a
workspace that was reported as trusted is trusted in the store and not blocked. -/
theorem grants_stand (hreach : (daemon world).Reach (GrantsApart w) (started file) c) {i : String}
    {dirty : Bool} (h : .trusted w i dirty ∈ c.shared.answers) :
    Trusted w c.shared ∧ c.shared.blockedWorkspaces w = false := by
  have hallowed : ∀ c e, GrantsApart w c e → (grantContract w).Allowed (daemon world) c e := by
    intro c e he
    refine ⟨fun _ _ => trivial, ?_⟩
    cases e with
    | call x =>
      refine ⟨fun state hx => ?_, fun _ _ _ _ _ h => by cases h⟩
      subst hx
      exact he rfl
    | reply i p r =>
      refine ⟨he.1, fun j q k hij hj p' hp' hstarts => ?_⟩
      cases hp'
      have hlt := (List.getElem?_eq_some_iff.mp hj).1
      exact he.2 hstarts j hlt hij q (by rw [hj]; rfl)
    | crash => trivial
  have hstart : Standing w (started file).shared := ⟨rfl, fun _ _ h => absurd h List.not_mem_nil⟩
  have hgood := Contract.good_of_reach grantContract_sound (Contract.Good.start hstart)
    (hreach.mono hallowed)
  exact ⟨hgood.inv.kept i dirty h, hgood.inv.isOpen⟩

end Runs

def oneByOne : List (System.Move sig Call) :=
  [.event (.call (.consumeGrant sampleGrant)), .serve 0 8,
    .event (.call (.consumeGrant sampleGrant)), .serve 1 8]

theorem grants_stand_oneByOne :
    ∃ c, (daemon sampleWorld).Reach (GrantsApart "w") (started fun _ => none) c ∧
      c.shared.answers = [.trusted "w" "i" false, .trusted "w" "i" false] ∧
      Trusted "w" c.shared ∧ c.shared.blockedWorkspaces "w" = false := by
  have hrun : ((daemon sampleWorld).play (GrantsApart "w") sampleReply (started fun _ => none)
      oneByOne).map (fun c : Cfg sig State => c.shared.answers) =
      some [.trusted "w" "i" false, .trusted "w" "i" false] := by
    decide
  obtain ⟨c, hc, hanswers⟩ := Option.map_eq_some_iff.mp hrun
  have hreach := System.Reach.of_play hc
  have hmem : Answer.trusted "w" "i" false ∈ c.shared.answers := by
    rw [hanswers]
    decide
  exact ⟨c, hreach, hanswers, grants_stand hreach hmem⟩

def bothAtOnce : List (System.Move sig Call) :=
  [.event (.call (.consumeGrant sampleGrant)), .event (.call (.consumeGrant sampleGrant)),
    .serve 0 5, .serve 1 5, .serve 0 3, .serve 1 6]

def OnlyGrants (w : String) : Event sig Call → Prop
  | .call (.consumeGrant request) => request.workspaceId = w
  | .call _ => False
  | .reply _ p r => Writes w p r
  | .crash => False

instance (w : String) (e : Event sig Call) : Decidable (OnlyGrants w e) := by
  unfold OnlyGrants
  split <;> infer_instance

/-- The slower one of the two blocks the folder and takes the trust back, after the faster one was
answered that it is trusted. -/
theorem grants_undo_each_other :
    ∃ c, (daemon sampleWorld).Reach (fun _ => OnlyGrants "w") (started fun _ => none) c ∧
      c.procs.map Prog.port? = [none, none] ∧
      .trusted "w" "i" false ∈ c.shared.answers ∧ ¬Trusted "w" c.shared ∧
      c.shared.blockedWorkspaces "w" = true := by
  have hrun : ((daemon sampleWorld).play (fun _ => OnlyGrants "w") sampleReply
      (started fun _ => none) bothAtOnce).map (fun c : Cfg sig State =>
        (c.procs.map Prog.port?, c.shared.answers, (c.shared.records "w").map (·.state),
          c.shared.blockedWorkspaces "w")) =
      some ([none, none], [.trusted "w" "i" false, .refused 409 "workspace_grant_stale"],
        some .untrusted, true) := by
    decide
  obtain ⟨c, hc, hstate⟩ := Option.map_eq_some_iff.mp hrun
  simp only [Prod.mk.injEq] at hstate
  obtain ⟨hports, hanswers, hrecord, hblocked⟩ := hstate
  refine ⟨c, System.Reach.of_play hc, hports, ?_, fun htrusted => ?_, hblocked⟩
  · rw [hanswers]
    decide
  · rw [Trusted, hrecord] at htrusted
    exact absurd htrusted.1 (by decide)

end VacancyRadar.Daemon.Admission
