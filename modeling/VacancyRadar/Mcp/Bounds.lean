import VacancyRadar.Mcp.Server

/-!
# What bounds clients

Coverage only grows, so that a case that was covered when a request was let in is covered when its tools run.
A request does not see that its grant is revoked after it was let in.  As long as none is in flight when its
grant is revoked, every call is bounded by its grant.
-/

namespace VacancyRadar.Mcp

open Data Cv

/-! ## What bounds a client -/

def WorkspaceDb.Covers (db : WorkspaceDb) (grantId caseId : String) : Prop :=
  ∃ grant, db.grant? grantId = some grant ∧ mcpGrantCoversCase grant caseId = true

structure CallRecord.Bounded (record : CallRecord) : Prop where
  /-- The case that is read or changed is covered. -/
  covered : ∀ result, record.result = .ok result → record.after.Covers record.grantId result.caseId
  /-- Nothing is changed but that case, and the change is committed with one entry of success. -/
  committed : ∀ result, record.result = .ok result →
    Effect record.grantId record.call.toolName result.caseId record.before record.after
  /-- A call that fails commits only that it was denied. -/
  denied : ∀ thrown, record.result = .error thrown → ∃ caseId, record.after =
    appendMcpAuditLogEntry record.grantId record.call.toolName caseId .denied "" record.before
  /-- A call for a grant that was revoked before it ran reads nothing and writes nothing. -/
  unrevoked : ∀ result, record.result = .ok result →
    ∀ grant, record.before.grant? record.grantId = some grant → grant.revokedAt = none

structure World.Bounds (w : World) : Prop where
  calls : ∀ record ∈ w.calls, record.Bounded
  own : ∀ grant ∈ w.db.mcpClientGrants, grant.scopeType = .sourceCv →
    ∀ caseId ∈ grant.caseIds, (grant.id, caseId) ∈ w.started

def RevokedAtRest (w : World) : Move → Prop
  | .revokeGrant id _ => ∀ request ∈ w.inFlight, request.grant.id ≠ id
  | _ => True

instance (w : World) : (move : Move) → Decidable (RevokedAtRest w move)
  | .revokeGrant id _ => inferInstanceAs (Decidable (∀ request ∈ w.inFlight, request.grant.id ≠ id))
  | .request .. | .body .. | .callTool .. | .respond _ | .createGrant .. | .work .. =>
    inferInstanceAs (Decidable True)

/-! ## The invariant -/

structure Stands (grant : McpClientGrant) (db : WorkspaceDb) : Prop where
  stored : ∃ stored, db.grant? grant.id = some stored ∧ stored.scopeType = grant.scopeType ∧
    stored.revokedAt = none ∧ grant.caseIds ⊆ stored.caseIds

structure World.Inv (w : World) : Prop where
  ids : (w.db.mcpClientGrants.map McpClientGrant.id).Nodup
  stands : ∀ request ∈ w.inFlight, Stands request.grant w.db
  bounds : w.Bounds

variable {p : Platform} {w w' : World} {db db' : WorkspaceDb}

variable {grant : McpClientGrant} {headers : Headers} {minted : Minted}

lemma Stands.of_grants (h : Stands grant db) (hsame : db'.mcpClientGrants = db.mcpClientGrants) :
    Stands grant db':= by
  obtain ⟨stored, hstored, hrest⟩ := h.stored
  refine ⟨stored, ?_, hrest⟩
  rw [WorkspaceDb.grant?, hsame]
  exact hstored

lemma World.Inv.of_grants (h : w.Inv) (hsame : w'.db.mcpClientGrants = w.db.mcpClientGrants)
    (hflight : ∀ request ∈ w'.inFlight, Stands request.grant w.db)
    (hcalls : w'.calls = w.calls) (hstarted : w'.started = w.started) : w'.Inv where
  ids := by
    rw [hsame]
    exact h.ids
  stands request hmem := (hflight request hmem).of_grants hsame
  bounds := by
    refine ⟨?_, ?_⟩
    · rw [hcalls]
      exact h.bounds.calls
    · rw [hsame, hstarted]
      exact h.bounds.own

lemma inv_start : World.start.Inv where
  ids := List.nodup_nil
  stands _ h := absurd h List.not_mem_nil
  bounds := ⟨fun _ h => absurd h List.not_mem_nil, fun _ h => absurd h List.not_mem_nil⟩

/-! ## Requests -/

variable {caseId grantId id now : String} {call : ToolCall} {result : ToolResult}

lemma stands_of_gate (hids : (db.mcpClientGrants.map McpClientGrant.id).Nodup)
    (h : gate p headers now db = (.ok grant, db')) : Stands grant db ∧ db' = db:= by
  unfold gate at h
  split at h
  · exact absurd (congrArg Prod.fst h) nofun
  · split at h
    · exact absurd (congrArg Prod.fst h) nofun
    · split at h
      · exact absurd (congrArg Prod.fst h) nofun
      · next found hfound =>
        dsimp only at h
        split at h
        · exact absurd (congrArg Prod.fst h) nofun
        · next hblockers =>
          obtain ⟨hgrant, rfl⟩ := Prod.mk.inj h
          obtain rfl := Except.ok.inj hgrant
          obtain ⟨credential, -, hfind⟩ := Option.bind_eq_some_iff.mp hfound
          have hmem : found ∈ db.mcpClientGrants := List.mem_reverse.mp (List.mem_of_find?_eq_some hfind)
          have hactive : found.revokedAt = none := by
            by_contra hrevoked
            refine hblockers ?_
            rw [describeMcpGrantBlockers, if_pos hrevoked]
            exact List.cons_ne_nil _ _
          exact ⟨⟨found, grant?_of_mem hids hmem, rfl, hactive, List.Subset.refl _⟩, rfl⟩

lemma grants_of_gate {refusal : Refusal} (h : gate p headers now db = (.error refusal, db')) :
    db'.mcpClientGrants = db.mcpClientGrants:= by
  unfold gate at h
  split at h
  · obtain ⟨-, rfl⟩ := Prod.mk.inj h
    rfl
  · split at h
    · obtain ⟨-, rfl⟩ := Prod.mk.inj h
      rfl
    · split at h
      · obtain ⟨-, rfl⟩ := Prod.mk.inj h
        rfl
      · dsimp only at h
        split at h
        · obtain ⟨-, rfl⟩ := Prod.mk.inj h
          rfl
        · exact absurd (congrArg Prod.fst h) nofun

/-! ## Calls -/

lemma Stands.covers (h : Stands grant db) (hcovers : mcpGrantCoversCase grant caseId = true) :
    db.Covers grant.id caseId:= by
  obtain ⟨stored, hstored, -, -, hsubset⟩ := h.stored
  exact ⟨stored, hstored, decide_eq_true (hsubset (of_decide_eq_true hcovers))⟩

lemma Stands.unrevoked {stored : McpClientGrant} (h : Stands grant db)
    (hstored : db.grant? grant.id = some stored) : stored.revokedAt = none := by
  obtain ⟨other, hother, -, hactive, -⟩ := h.stored
  cases hstored.symm.trans hother
  exact hactive

lemma overlayFor_eq_none_of_fresh {cvId : String} (h : minted.Fresh db) :
    db.overlayFor cvId ("manual:" ++ minted.key) = none := by
  unfold WorkspaceDb.overlayFor
  rw [Option.map_eq_none_iff, List.find?_eq_none]
  intro row hrow hsame
  have hsame : row.cvId = cvId ∧ row.vacancyKey = "manual:" ++ minted.key := of_decide_eq_true hsame
  exact h row hrow hsame.2

lemma Granted.covers (h : Granted grantId caseId db db') : db'.Covers grantId caseId := by
  obtain ⟨existing, hexisting, ⟨hmem, hsame⟩ | ⟨-, hmore⟩⟩ := h.lookup
  · exact ⟨existing, (hsame grantId).trans hexisting, decide_eq_true hmem⟩
  · refine ⟨existing.withCase caseId, (hmore grantId).trans (if_pos rfl), ?_⟩
    exact decide_eq_true (List.mem_append_right _ List.mem_cons_self)

lemma Stands.of_granted (h : Stands grant db) (hgranted : Granted grantId caseId db db') :
    Stands grant db':= by
  obtain ⟨stored, hstored, hscope, hactive, hsubset⟩ := h.stored
  obtain ⟨existing, hexisting, ⟨-, hsame⟩ | ⟨-, hmore⟩⟩ := hgranted.lookup
  · exact ⟨stored, (hsame grant.id).trans hstored, hscope, hactive, hsubset⟩
  · by_cases hid : grant.id = grantId
    · subst hid
      cases hstored.symm.trans hexisting
      refine ⟨stored.withCase caseId, (hmore grant.id).trans (if_pos rfl), hscope, hactive, ?_⟩
      exact List.Subset.trans hsubset (List.subset_append_left _ _)
    · exact ⟨stored, ((hmore grant.id).trans (if_neg hid)).trans hstored, hscope, hactive, hsubset⟩

lemma startedCase_of_started
    (hcall : ∃ vacancy manualJd, call = .startTailoringCase vacancy manualJd)
    (hnew : ∀ old ∈ db.cvEvidenceOverlays, old.id ≠ result.caseId) :
    startedCase ⟨grant.id, call, db, .ok result, db'⟩ = some (grant.id, result.caseId) := by
  obtain ⟨vacancy, manualJd, rfl⟩ := hcall
  refine if_neg fun hany => ?_
  obtain ⟨old, hold, hid⟩ := List.any_eq_true.mp hany
  exact hnew old hold (of_decide_eq_true hid)

lemma own_of_started {started : List (String × String)}
    (hids : (db.mcpClientGrants.map McpClientGrant.id).Nodup) (hstands : Stands grant db)
    (hown : ∀ stored ∈ db.mcpClientGrants, stored.scopeType = .sourceCv →
      ∀ caseId ∈ stored.caseIds, (stored.id, caseId) ∈ started)
    (hcall : ∃ vacancy manualJd, call = .startTailoringCase vacancy manualJd)
    (h : Started grant result.caseId db db') :
    ∀ stored ∈ db'.mcpClientGrants, stored.scopeType = .sourceCv → ∀ caseId ∈ stored.caseIds,
      (stored.id, caseId) ∈ started ++ (startedCase ⟨grant.id, call, db, .ok result, db'⟩).toList := by
  intro stored hmem hscope caseId hcase
  have hstored : db'.grant? stored.id = some stored := grant?_of_mem (h.ids ▸ hids) hmem
  have hold : ∀ {old : McpClientGrant}, db.grant? stored.id = some old → old.scopeType = .sourceCv →
      caseId ∈ old.caseIds → (stored.id, caseId) ∈ started := by
    intro old hlookup hsource hmem
    have hthis := hown old (mem_of_grant? hlookup) hsource caseId hmem
    rwa [id_of_grant? hlookup] at hthis
  obtain ⟨existing, hexisting, ⟨-, hsame⟩ | ⟨hnot, hmore⟩⟩ := h.lookup
  · rw [hsame] at hstored
    exact List.mem_append_left _ (hold hstored hscope hcase)
  · rw [hmore] at hstored
    split at hstored
    · next hid =>
      cases hstored
      rw [hid] at hold ⊢
      rcases List.mem_append.mp hcase with hcase | hcase
      · exact List.mem_append_left _ (hold hexisting hscope hcase)
      · -- the grant did not cover the case, so that this call created it
        rw [List.mem_singleton.mp hcase]
        rcases h.own with hcovers | hnew
        · obtain ⟨other, hother, hothercovers⟩ := hstands.covers hcovers
          cases hother.symm.trans hexisting
          exact absurd (of_decide_eq_true hothercovers) hnot
        · rw [startedCase_of_started hcall hnew]
          exact List.mem_append_right _ List.mem_cons_self
    · exact List.mem_append_left _ (hold hstored hscope hcase)

lemma bounded_of_toolBody (hstands : Stands grant db) (hfresh : minted.Fresh db)
    (h : toolBody p grant minted call db = .ok (result, db')) :
    CallRecord.Bounded ⟨grant.id, call, db, .ok result, db'⟩ where
  covered other hother := by
    obtain rfl := Except.ok.inj hother
    rcases of_toolBody (overlayFor_eq_none_of_fresh hfresh) h with hserved | ⟨-, hstarted⟩
    · obtain ⟨stored, hstored, hcovers⟩ := hstands.covers hserved.covered
      refine ⟨stored, ?_, hcovers⟩
      show db'.mcpClientGrants.find? _ = some stored
      rw [hserved.grants]
      exact hstored
    · exact hstarted.toGranted.covers
  committed other hother := by
    obtain rfl := Except.ok.inj hother
    rcases of_toolBody (overlayFor_eq_none_of_fresh hfresh) h with hserved | ⟨⟨vacancy, manualJd, rfl⟩, hstarted⟩
    · exact hserved.toEffect
    · exact hstarted.toEffect
  denied _ h := absurd h nofun
  unrevoked _ _ _ hstored := hstands.unrevoked hstored

lemma inv_called {request : InFlight} (h : w.Inv) (hmem : request ∈ w.inFlight)
    (hfresh : minted.Fresh w.db) :
    (w.called ⟨request.grant.id, call, w.db, (callTool p request.grant call minted w.db).1,
      (callTool p request.grant call minted w.db).2⟩).Inv := by
  have hstands := h.stands request hmem
  have hrecords : ∀ {record : CallRecord}, record.Bounded → ∀ other ∈ w.calls ++ [record], other.Bounded := by
    intro record hrecord other hother
    rcases List.mem_append.mp hother with hother | hother
    · exact h.bounds.calls other hother
    · rwa [List.mem_singleton.mp hother]
  rcases callTool_cases p request.grant call minted w.db with
    ⟨result, db', hanswer, hbody⟩ | ⟨thrown, caseId, hanswer⟩
  · rw [hanswer]
    have hbounded := bounded_of_toolBody hstands hfresh hbody
    rcases of_toolBody (overlayFor_eq_none_of_fresh hfresh) hbody with hserved | ⟨hcall, hstarted⟩
    · refine ⟨?_, fun other hother => (h.stands other hother).of_grants hserved.grants, hrecords hbounded, ?_⟩
      · show (db'.mcpClientGrants.map _).Nodup
        rw [hserved.grants]
        exact h.ids
      · intro grant hgrant hscope caseId hcase
        have hgrant : grant ∈ w.db.mcpClientGrants := hserved.grants ▸ hgrant
        exact List.mem_append_left _ (h.bounds.own grant hgrant hscope caseId hcase)
    · refine ⟨?_, fun other hother => (h.stands other hother).of_granted hstarted.toGranted, hrecords hbounded, ?_⟩
      · show (db'.mcpClientGrants.map _).Nodup
        rw [hstarted.ids]
        exact h.ids
      · exact own_of_started h.ids hstands h.bounds.own hcall hstarted
  · rw [hanswer]
    have hbounded : CallRecord.Bounded ⟨request.grant.id, call, w.db, .error thrown,
        appendMcpAuditLogEntry request.grant.id call.toolName caseId .denied "" w.db⟩ :=
      ⟨fun _ h => absurd h nofun, fun _ h => absurd h nofun, fun _ _ => ⟨caseId, rfl⟩, fun _ h => absurd h nofun⟩
    refine ⟨h.ids, fun other hother => (h.stands other hother).of_grants rfl, hrecords hbounded, ?_⟩
    intro grant hgrant hscope caseId hcase
    exact List.mem_append_left _ (h.bounds.own grant hgrant hscope caseId hcase)

/-! ## Grants -/

lemma inv_createGrant {input : McpClientGrantInput} {credentialVerifierHash : String} (h : w.Inv)
    (hcreate : createMcpClientGrant input id credentialVerifierHash now w.db = .ok db) :
    World.Inv { w with db } := by
  unfold createMcpClientGrant at hcreate
  split at hcreate
  · exact absurd hcreate nofun
  · split at hcreate
    · exact absurd hcreate nofun
    · next hnew =>
      obtain rfl := Except.ok.inj hcreate
      have hnone : w.db.grant? id = none := not_not.mp hnew
      refine ⟨?_, fun request hmem => ?_, h.bounds.calls, ?_⟩
      · show ((w.db.mcpClientGrants ++ [_]).map McpClientGrant.id).Nodup
        rw [List.map_append, List.nodup_append]
        refine ⟨h.ids, List.nodup_singleton _, fun a ha b hb => ?_⟩
        obtain ⟨grant, hgrant, rfl⟩ := List.mem_map.mp ha
        obtain rfl := List.mem_singleton.mp hb
        intro hid
        exact List.find?_eq_none.mp hnone grant hgrant (decide_eq_true hid)
      · obtain ⟨stored, hstored, hrest⟩ := (h.stands request hmem).stored
        refine ⟨stored, ?_, hrest⟩
        show (w.db.mcpClientGrants ++ [_]).find? _ = some stored
        rw [List.find?_append]
        have hfind : w.db.mcpClientGrants.find? (fun grant => grant.id = request.grant.id) = some stored := hstored
        rw [hfind]
        rfl
      · -- a grant for a CV begins without cases
        intro grant hgrant hscope caseId hcase
        rcases List.mem_append.mp hgrant with hgrant | hgrant
        · exact h.bounds.own grant hgrant hscope caseId hcase
        · obtain rfl := List.mem_singleton.mp hgrant
          have hscope : input.scopeType = .sourceCv := hscope
          simp [hscope] at hcase

lemma inv_revokeGrant (h : w.Inv) (hrest : ∀ request ∈ w.inFlight, request.grant.id ≠ id)
    (hrevoke : revokeMcpClientGrant id now w.db = .ok db) : World.Inv { w with db } := by
  unfold revokeMcpClientGrant at hrevoke
  split at hrevoke
  · exact absurd hrevoke nofun
  · split at hrevoke
    · obtain rfl := Except.ok.inj hrevoke
      exact h
    · obtain rfl := Except.ok.inj hrevoke
      have hid : ∀ grant : McpClientGrant, ({ grant with revokedAt := some now } : McpClientGrant).id = grant.id :=
        fun _ => rfl
      refine ⟨?_, fun request hmem => ?_, h.bounds.calls, ?_⟩
      · show ((w.db.updateGrant id _).mcpClientGrants.map _).Nodup
        rw [map_id_updateGrant hid]
        exact h.ids
      · obtain ⟨stored, hstored, hrest'⟩ := (h.stands request hmem).stored
        refine ⟨stored, ?_, hrest'⟩
        refine (grant?_updateGrant hid).trans ?_
        rw [hstored, Option.map_some, if_neg (hrest request hmem)]
      · intro grant hgrant hscope caseId hcase
        obtain ⟨old, hold, rfl⟩ := List.mem_map.mp hgrant
        by_cases hsame : old.id = id
        · rw [if_pos hsame] at hscope hcase ⊢
          exact h.bounds.own old hold hscope caseId hcase
        · rw [if_neg hsame] at hscope hcase ⊢
          exact h.bounds.own old hold hscope caseId hcase

/-! ## Runs -/

lemma inv_step {move : Move} (h : w.Inv) (hrest : RevokedAtRest w move) (hstep : step p w move = some w') :
    w'.Inv := by
  cases move with
  | request headers isPost now =>
    simp only [step] at hstep
    rcases hgate : gate p headers now w.db with ⟨refusal | grant, db⟩
    · rw [hgate] at hstep
      obtain rfl := Option.some.inj hstep
      exact h.of_grants (grants_of_gate hgate) h.stands rfl rfl
    · rw [hgate] at hstep
      obtain rfl := Option.some.inj hstep
      obtain ⟨hstands, rfl⟩ := stands_of_gate h.ids hgate
      refine h.of_grants rfl (fun request hmem => ?_) rfl rfl
      rcases List.mem_append.mp hmem with hmem | hmem
      · exact h.stands request hmem
      · rw [List.mem_singleton.mp hmem]
        exact hstands
  | body place outcome =>
    obtain ⟨request, hrequest, hstep⟩ := Option.bind_eq_some_iff.mp hstep
    have hmem : request ∈ w.inFlight := List.mem_of_getElem? hrequest
    split at hstep
    · exact absurd hstep nofun
    · split at hstep
      · obtain rfl := Option.some.inj hstep
        refine h.of_grants rfl (fun other hother => ?_) rfl rfl
        rcases List.mem_or_eq_of_mem_set hother with hother | rfl
        · exact h.stands other hother
        · exact h.stands request hmem
      · obtain rfl := Option.some.inj hstep
        exact h.of_grants rfl (fun other hother => h.stands other (List.mem_of_mem_eraseIdx hother)) rfl rfl
  | callTool place call minted =>
    obtain ⟨request, hrequest, hstep⟩ := Option.bind_eq_some_iff.mp hstep
    split at hstep
    · next hcalls =>
      obtain rfl := Option.some.inj hstep
      exact inv_called h (List.mem_of_getElem? hrequest) hcalls.2
    · exact absurd hstep nofun
  | respond place =>
    obtain ⟨request, hrequest, hstep⟩ := Option.bind_eq_some_iff.mp hstep
    split at hstep
    · obtain rfl := Option.some.inj hstep
      exact h.of_grants rfl (fun other hother => h.stands other (List.mem_of_mem_eraseIdx hother)) rfl rfl
    · exact absurd hstep nofun
  | createGrant input id credentialVerifierHash now =>
    simp only [step] at hstep
    cases hcreate : createMcpClientGrant input id credentialVerifierHash now w.db with
    | ok db =>
      rw [hcreate] at hstep
      obtain rfl := Option.some.inj hstep
      exact inv_createGrant h hcreate
    | error thrown =>
      rw [hcreate] at hstep
      obtain rfl := Option.some.inj hstep
      exact h
  | revokeGrant id now =>
    simp only [step] at hstep
    cases hrevoke : revokeMcpClientGrant id now w.db with
    | ok db =>
      rw [hrevoke] at hstep
      obtain rfl := Option.some.inj hstep
      exact inv_revokeGrant h hrest hrevoke
    | error thrown =>
      rw [hrevoke] at hstep
      obtain rfl := Option.some.inj hstep
      exact h
  | work cvDocuments cvEvidenceOverlays cvTailoringProposals =>
    obtain rfl := Option.some.inj hstep
    exact h.of_grants rfl h.stands rfl rfl

/-- **Grants bound clients**, in every run in which no grant is revoked while a request of it is in flight. -/
theorem grants_bound_clients (p : Platform) (moves : List Move) (w : World)
    (hrest : AlongRun (step p) RevokedAtRest moves World.start)
    (hrun : runSteps (step p) moves World.start = some w) : w.Bounds :=
  (runSteps_induction_of_along (fun _ _ _ h hrest hstep => inv_step h hrest hstep) inv_start hrest hrun).bounds

/-! ## Runs on a case -/

def secretHash : String := "2bb80d537b1da3e38bd30361aa855686bde0eacd7162fef6a25fe97bf527a25b"

def plainPlatform : Platform where
  unicode := ⟨String.toLower, Char.isAlphanum, Char.toLower⟩
  sha256Hex text := if text = "secret" then secretHash else ""
  computeSourceCvContentHash _ := ""
  computeCaseInputsDigest _ := ""
  resumeDigest _ := ""
  assessJdCompleteness _ := ([], [])

def readingMoves (between : List Move) : List Move :=
  [.work [("cv", {})] [⟨"case", "cv", "url:u", false, { sourceCvContentHash := "h" }⟩] [],
    .createGrant ⟨"client", .caseIds, none, some ["case"], none, "2"⟩ "grant" secretHash "0",
    .request ⟨none, some "localhost:80", some "Bearer secret"⟩ true "1",
    .body 0 .parsed] ++ between ++
  [.callTool 0 (.getTailoringCase "case" 0) ⟨"id", "key", "revision", "1", 1, toString, toString⟩]

def readsCase (moves : List Move) (grant : McpClientGrant → Bool) : Bool :=
  (runSteps (step plainPlatform) moves World.start).any fun w =>
    w.calls.any fun record =>
      record.result.isOk && (record.before.grant? record.grantId).any grant

/-- The grant is revoked while its request is in flight, and the case is read all the same. -/
theorem not_bounds_revoked_in_flight :
    ¬ ∀ (moves : List Move) (w : World), runSteps (step plainPlatform) moves World.start = some w → w.Bounds := by
  intro h
  have hreads : readsCase (readingMoves [.revokeGrant "grant" "1"]) (fun grant => grant.revokedAt.isSome) = true := by
    decide +kernel
  obtain ⟨w, hw, hcalls⟩ := (Option.any_eq_true _ _).mp hreads
  obtain ⟨record, hrecord, hread⟩ := List.any_eq_true.mp hcalls
  obtain ⟨hok, hrevoked⟩ := Bool.and_eq_true_iff.mp hread
  obtain ⟨grant, hgrant, hsome⟩ := (Option.any_eq_true _ _).mp hrevoked
  cases hresult : record.result with
  | error thrown => simp [hresult, Except.isOk, Except.toBool] at hok
  | ok result =>
    have hactive := ((h _ w hw).calls record hrecord).unrevoked result hresult grant hgrant
    rw [hactive] at hsome
    exact absurd hsome (by decide)

/-- The same call, when the grant is not revoked. -/
theorem grants_bound_clients_reading :
    ∃ w, runSteps (step plainPlatform) (readingMoves []) World.start = some w ∧ w.calls ≠ [] ∧ w.Bounds := by
  have hruns : (runSteps (step plainPlatform) (readingMoves []) World.start).any
      (fun w => !w.calls.isEmpty) = true := by decide +kernel
  obtain ⟨w, hw, hcalls⟩ := (Option.any_eq_true _ _).mp hruns
  have hrest : AlongRun (step plainPlatform) RevokedAtRest (readingMoves []) World.start := by decide +kernel
  refine ⟨w, hw, ?_, grants_bound_clients plainPlatform _ w hrest hw⟩
  intro hnil
  rw [hnil] at hcalls
  exact absurd hcalls (by decide)

end VacancyRadar.Mcp
