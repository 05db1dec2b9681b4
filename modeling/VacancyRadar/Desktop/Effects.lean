import VacancyRadar.Desktop.System

/-!
# What an operation does to the attempts

One inversion for all operations: a row stays as it is, or it is rewritten by one of the few
functions that write attempts, and a new row comes from `createApplicationAttempt`.
-/

namespace VacancyRadar.Desktop

open Coop Data Workspace Database

variable {input : AttemptInput} {t : Table Attempt} {f : Attempt → Attempt} {patch : AttemptPatch}

def State.attempt? (s : State) (x : ℕ) : Option Attempt := s.db.attempts.get? x

abbrev settlePatch (checkpoint : Checkpoint) (detail : String) : AttemptPatch :=
  { checkpoint := some checkpoint, checkpointDetail := some detail }

inductive Rewrites : Op → ℕ → Attempt → Attempt → Prop
  | update {x : ℕ} {a : Attempt} {patch : AttemptPatch} (h : unexplained patch a = none) :
      Rewrites (.updateAttempt x patch) x a (patchAttempt patch a)
  | settle {x : ℕ} {a : Attempt} {checkpoint : Checkpoint} {detail : String}
      (h : unexplained (settlePatch checkpoint detail) a = none) :
      Rewrites (.settle x checkpoint detail) x a (patchAttempt (settlePatch checkpoint detail) a)
  | restart {x : ℕ} {a : Attempt} {tailoringMode : TailoringMode}
      (h : a.checkpoint = .needsUser ∨ a.checkpoint = .failed) :
      Rewrites (.restartTailoring x tailoringMode) x a
        { a with tailoringMode, checkpoint := .queued, checkpointDetail := "", preparedFields := none }
  | prepared {x : ℕ} {a : Attempt} {preparedFields : Option PreparedFields} :
      Rewrites (.recordPrepared x preparedFields) x a { a with preparedFields }
  | fetched {x : ℕ} {a : Attempt} {jdSnapshot jdSnapshotHash : String} {jdComplete : Bool}
      (h : a.checkpoint = .readingJd) :
      Rewrites (.recordFetched x jdSnapshot jdSnapshotHash jdComplete) x a
        { a with jdSnapshot, jdSnapshotHash, jdComplete }

variable {db : Database}

lemma attempts_registerArtifact {x : ℕ} {kind : ArtifactKind} {fileName : String}
    {rendered : Rendered} {storagePath : String} :
    (registerArtifact db x kind fileName rendered storagePath).1.attempts = db.attempts := by
  have hfold : ∀ (l : List Artifact) (d : Database),
      (l.foldl (fun d a => d.deleteApplicationArtifact a.id) d).attempts = d.attempts := by
    intro l
    induction l with
    | nil => exact fun d => rfl
    | cons a l ih => exact fun d => ih _
  have hcreate : ∀ d : Database, (d.createApplicationArtifact x kind fileName rendered.byteSize
      rendered.contentHash storagePath).1.attempts = d.attempts := by
    intro d
    unfold createApplicationArtifact
    dsimp only
    split_ifs <;> rfl
  unfold registerArtifact
  rw [hcreate, hfold]

lemma attempts_createReceipt {input : ReceiptInput} :
    (db.createApplicationSubmissionReceipt input).1.attempts = db.attempts := by
  unfold createApplicationSubmissionReceipt
  split_ifs <;> rfl

lemma attempts_recordPreparedDraft {input : DraftInput} :
    (db.recordPreparedDraft input).attempts = db.attempts := by
  unfold recordPreparedDraft
  dsimp only
  split
  · split
    · split <;> rfl
    · rfl
  · rfl

lemma attempts_recordEvidenceUses {x : ℕ} {facts : List EvidenceFact} {now : ℤ} :
    (db.recordEvidenceUses x facts now).attempts = db.attempts := by
  unfold recordEvidenceUses
  split <;> rfl

lemma attempts_recordPostingVerification {x : ℕ} {allowed : List Checkpoint}
    {rows : List PostingRow} :
    (db.recordPostingVerification x allowed rows).1.attempts = db.attempts := by
  unfold recordPostingVerification
  split <;> rfl

section Rows

variable {db : Database} {x y : ℕ} {a : Attempt}

/-- An update of the row under `x`, seen from the row under `y`. -/
lemma row_update {hf : ∀ r : Attempt, Keyed.key (f r) = Keyed.key r} (h : t.get? y = some a) :
    (t.update x f hf).get? y = if x = y then some (f a) else some a := by
  rw [Table.get?_update, h]
  rfl

lemma row_updateApplicationAttempt {patch : AttemptPatch} (h : db.attempts.get? y = some a) :
    (db.updateApplicationAttempt x patch).1.attempts.get? y = some a ∨
      x = y ∧ unexplained patch a = none ∧
        (db.updateApplicationAttempt x patch).1.attempts.get? y = some (patchAttempt patch a) := by
  by_cases hxy : x = y
  · subst hxy
    simp only [updateApplicationAttempt, h]
    cases hex : unexplained patch a with
    | some next => exact .inl h
    | none =>
      refine .inr ⟨trivial, rfl, ?_⟩
      rw [row_update h, if_pos rfl]
  · refine .inl ?_
    unfold updateApplicationAttempt
    split
    · exact h
    · split
      · exact h
      · dsimp only
        rw [row_update h, if_neg hxy]

lemma row_restartApplicationTailoring {mode : TailoringMode} (h : db.attempts.get? y = some a) :
    (db.restartApplicationTailoring x mode).1.attempts.get? y = some a ∨
      x = y ∧ (a.checkpoint = .needsUser ∨ a.checkpoint = .failed) ∧
        (db.restartApplicationTailoring x mode).1.attempts.get? y = some
          { a with
            tailoringMode := mode, checkpoint := .queued, checkpointDetail := ""
            preparedFields := none } := by
  by_cases hxy : x = y
  · subst hxy
    simp only [Database.restartApplicationTailoring, h]
    split
    · rename_i hcp
      refine .inr ⟨trivial, hcp, ?_⟩
      rw [row_update h, if_pos rfl]
    · exact .inl h
  · refine .inl ?_
    unfold Database.restartApplicationTailoring
    split
    · exact h
    · split
      · dsimp only
        rw [row_update h, if_neg hxy]
      · exact h

lemma row_recordPreparedApplicationFields {prepared : Option PreparedFields}
    (h : db.attempts.get? y = some a) :
    (db.recordPreparedApplicationFields x prepared).1.attempts.get? y =
      if x = y then some { a with preparedFields := prepared } else some a := by
  unfold recordPreparedApplicationFields
  split
  · rename_i hx
    rw [if_neg, h]
    rintro rfl
    rw [h] at hx
    cases hx
  · dsimp only
    rw [row_update h]

lemma row_recordFetchedJobDescription {text hash : String} {complete : Bool}
    (h : db.attempts.get? y = some a) :
    (db.recordFetchedJobDescription x text hash complete).1.attempts.get? y = some a ∨
      x = y ∧ a.checkpoint = .readingJd ∧
        (db.recordFetchedJobDescription x text hash complete).1.attempts.get? y = some
          { a with jdSnapshot := text, jdSnapshotHash := hash, jdComplete := complete } := by
  by_cases hxy : x = y
  · subst hxy
    simp only [recordFetchedJobDescription, h]
    split
    · rename_i hcp
      refine .inr ⟨trivial, hcp, ?_⟩
      rw [row_update h, if_pos rfl]
    · exact .inl h
  · refine .inl ?_
    unfold recordFetchedJobDescription
    split
    · exact h
    · split
      · dsimp only
        rw [row_update h, if_neg hxy]
      · exact h

lemma row_createApplicationAttempt {identity : ApplicationIdentity} (h : db.attempts.get? y = some a) :
    (db.createApplicationAttempt input identity).1.attempts.get? y = some a := by
  unfold Database.createApplicationAttempt
  dsimp only
  repeat' split
  all_goals first
    | exact h
    | dsimp only
      rw [Table.get?_insert_of_some h]

end Rows

variable {o : Op} {s : State} {x : ℕ} {a b : Attempt}

/-- **The rows that are there**: an operation leaves a row alone or rewrites it. -/
theorem row_of_run (h : s.attempt? x = some a) :
    (Op.run o s).1.attempt? x = some a ∨
      ∃ b, Rewrites o x a b ∧ (Op.run o s).1.attempt? x = some b := by
  cases o with
  | createAttempt input identity => exact .inl (row_createApplicationAttempt h)
  | updateAttempt z patch =>
    obtain h' | ⟨hz, hex, h'⟩ := @row_updateApplicationAttempt s.db z x a patch h
    · exact .inl h'
    · exact .inr ⟨_, hz ▸ .update hex, h'⟩
  | settle z checkpoint detail =>
    obtain h' | ⟨hz, hex, h'⟩ :=
      @row_updateApplicationAttempt s.db z x a (settlePatch checkpoint detail) h
    · exact .inl h'
    · exact .inr ⟨_, hz ▸ .settle hex, h'⟩
  | restartTailoring z mode =>
    obtain h' | ⟨hz, hcp, h'⟩ := @row_restartApplicationTailoring s.db z x a mode h
    · exact .inl h'
    · exact .inr ⟨_, hz ▸ .restart hcp, h'⟩
  | recordPrepared z prepared =>
    have h' := @row_recordPreparedApplicationFields s.db z x a prepared h
    by_cases hz : z = x
    · exact .inr ⟨_, hz ▸ .prepared, h'.trans (if_pos hz)⟩
    · exact .inl (h'.trans (if_neg hz))
  | recordFetched z text hash complete =>
    obtain h' | ⟨hz, hcp, h'⟩ := @row_recordFetchedJobDescription s.db z x a text hash complete h
    · exact .inl h'
    · exact .inr ⟨_, hz ▸ .fetched hcp, h'⟩
  | recordPosting z rows =>
    exact .inl ((congrArg (Table.get? · x) attempts_recordPostingVerification).trans h)
  | createReceipt input =>
    exact .inl ((congrArg (Table.get? · x) attempts_createReceipt).trans h)
  | registerArtifact z kind fileName rendered path =>
    exact .inl ((congrArg (Table.get? · x) attempts_registerArtifact).trans h)
  | recordDraft input =>
    exact .inl ((congrArg (Table.get? · x) attempts_recordPreparedDraft).trans h)
  | recordEvidence z facts =>
    exact .inl ((congrArg (Table.get? · x) attempts_recordEvidenceUses).trans h)
  | unregisterReview z review =>
    refine .inl ?_
    simp only [Op.run]
    split <;> exact h
  | closeReview z =>
    refine .inl ?_
    simp only [Op.run]
    split <;> exact h
  | endFence z g =>
    refine .inl ?_
    simp only [Op.run]
    split <;> exact h
  | _ => exact .inl h

lemma Rewrites.identity (h : Rewrites o x a b) :
    b.toApplicationIdentity = a.toApplicationIdentity := by
  cases h <;> rfl

/-- A checkpoint that is rewritten was written by an update, by `settle` or by a restart. -/
lemma Rewrites.checkpoint (h : Rewrites o x a b) : b.checkpoint = a.checkpoint ∨
    (∃ patch, o = .updateAttempt x patch ∧ patch.checkpoint = some b.checkpoint ∧
      unexplained patch a = none) ∨
    (∃ detail, o = .settle x b.checkpoint detail ∧
      unexplained (settlePatch b.checkpoint detail) a = none) ∨
    (∃ mode, o = .restartTailoring x mode ∧ b.checkpoint = .queued ∧
      (a.checkpoint = .needsUser ∨ a.checkpoint = .failed)) := by
  cases h with
  | @update _ _ patch hex =>
    cases hcp : patch.checkpoint with
    | none => exact .inl (by simp [patchAttempt, hcp])
    | some c => exact .inr (.inl ⟨patch, rfl, by simp [patchAttempt, hcp], hex⟩)
  | @settle _ _ checkpoint detail hex => exact .inr (.inr (.inl ⟨detail, rfl, hex⟩))
  | @restart _ _ mode hcp => exact .inr (.inr (.inr ⟨mode, rfl, rfl, hcp⟩))
  | prepared => exact .inl rfl
  | fetched hcp => exact .inl rfl

lemma row_of_update_ok (h : (db.updateApplicationAttempt x patch).2 = .ok a) :
    ∃ b, db.attempts.get? x = some b ∧
      (db.updateApplicationAttempt x patch).1.attempts.get? x = some (patchAttempt patch b) := by
  unfold updateApplicationAttempt at h ⊢
  cases hrow : db.attempts.get? x with
  | none =>
    rw [hrow] at h
    cases h
  | some b =>
    refine ⟨b, rfl, ?_⟩
    rw [hrow] at h
    dsimp only at h ⊢
    cases hex : unexplained patch b with
    | some next =>
      rw [hex] at h
      cases h
    | none =>
      rw [row_update hrow, if_pos rfl]

lemma attempt?_of_update (h : (Op.run (.updateAttempt x patch) s).2 = .ok a) :
    ∃ b, s.attempt? x = some b ∧
      (Op.run (.updateAttempt x patch) s).1.attempt? x = some (patchAttempt patch b) := by
  change (s.db.updateApplicationAttempt x patch).2.mapError DesktopError.workspace = _ at h
  cases hok : (s.db.updateApplicationAttempt x patch).2 with
  | error e =>
    rw [hok] at h
    cases h
  | ok b => exact row_of_update_ok hok

/-! ## New rows -/

/-- What `createApplicationAttempt` has checked when it inserts a row. -/
structure Creates (db : Database) (input : AttemptInput) (identity : ApplicationIdentity) :
    Prop where
  notInProgress : input.force = false →
    identityMatches (db.attempts.rows.filter fun r => r.checkpoint ∈ Checkpoint.nonTerminal)
      identity input.vacancyKey = []
  notCompleted : input.reapply = none →
    identityMatches
      (db.listApplicationAttempts.filter fun r => r.checkpoint ∈ Checkpoint.completed)
      identity input.vacancyKey = []

lemma row_update_none {y : ℕ} {hf : ∀ r : Attempt, Keyed.key (f r) = Keyed.key r} (h : t.get? y = none) :
    (t.update x f hf).get? y = none := by
  rw [Table.get?_update, h]
  split <;> rfl

lemma new_createApplicationAttempt {identity : ApplicationIdentity} (h : db.attempts.get? x = none)
    (hb : (db.createApplicationAttempt input identity).1.attempts.get? x = some b) :
    x = db.attempts.next ∧ ∃ reapply, b = newAttempt input identity reapply x ∧
      Creates db input identity := by
  simp only [Database.createApplicationAttempt] at hb
  split at hb
  · rw [h] at hb
    cases hb
  · rename_i hprogress
    split at hb
    · rw [h] at hb
      cases hb
    · rename_i reapply hreapply
      split at hb
      · rw [h] at hb
        cases hb
      · rename_i hcompleted
        rw [Table.get?_insert, h] at hb
        split at hb
        · rename_i hx
          have hrow := (Option.some.inj hb).symm
          rw [← hx] at hrow
          refine ⟨hx, _, hrow, ?_, ?_⟩
          · intro hforce
            rw [hforce] at hprogress
            exact List.head?_eq_none_iff.mp hprogress
          · intro hnone
            rw [resolveReapply, hnone] at hreapply
            cases hreapply
            refine List.head?_eq_none_iff.mp (Option.eq_none_iff_forall_ne_some.mpr ?_)
            exact fun entry hentry => hcompleted entry hentry rfl
        · cases hb

def SameRows (t t' : Table Attempt) : Prop :=
  t' = t ∨ ∃ x f hf, t' = t.update x f hf

lemma SameRows.get?_none {t' : Table Attempt} (h : SameRows t t') (hx : t.get? x = none) :
    t'.get? x = none := by
  rcases h with rfl | ⟨y, f, hf, rfl⟩
  · exact hx
  · exact row_update_none hx

lemma sameRows_updateApplicationAttempt :
    SameRows db.attempts (db.updateApplicationAttempt x patch).1.attempts := by
  unfold updateApplicationAttempt
  repeat' split
  all_goals first
    | exact .inl rfl
    | refine .inr ⟨_, _, ?_, rfl⟩
      exact fun _ => rfl

/-- Only `createApplicationAttempt` adds rows. -/
lemma sameRows_of_run (ho : ∀ input identity, o ≠ .createAttempt input identity) :
    SameRows s.db.attempts (Op.run o s).1.db.attempts := by
  cases o with
  | createAttempt input identity => exact absurd rfl (ho input identity)
  | updateAttempt z patch => exact sameRows_updateApplicationAttempt
  | settle z checkpoint detail => exact sameRows_updateApplicationAttempt
  | restartTailoring z mode =>
    change SameRows _ (s.db.restartApplicationTailoring z mode).1.attempts
    unfold Database.restartApplicationTailoring
    repeat' split
    all_goals first
      | exact .inl rfl
      | refine .inr ⟨_, _, ?_, rfl⟩
        exact fun _ => rfl
  | recordPrepared z prepared =>
    change SameRows _ (s.db.recordPreparedApplicationFields z prepared).1.attempts
    unfold recordPreparedApplicationFields
    repeat' split
    all_goals first
      | exact .inl rfl
      | refine .inr ⟨_, _, ?_, rfl⟩
        exact fun _ => rfl
  | recordFetched z text hash complete =>
    change SameRows _ (s.db.recordFetchedJobDescription z text hash complete).1.attempts
    unfold recordFetchedJobDescription
    repeat' split
    all_goals first
      | exact .inl rfl
      | refine .inr ⟨_, _, ?_, rfl⟩
        exact fun _ => rfl
  | recordPosting z rows => exact .inl attempts_recordPostingVerification
  | createReceipt input => exact .inl attempts_createReceipt
  | registerArtifact z kind fileName rendered path => exact .inl attempts_registerArtifact
  | recordDraft input => exact .inl attempts_recordPreparedDraft
  | recordEvidence z facts => exact .inl attempts_recordEvidenceUses
  | unregisterReview z review =>
    refine .inl ?_
    simp only [Op.run]
    split <;> rfl
  | closeReview z =>
    refine .inl ?_
    simp only [Op.run]
    split <;> rfl
  | endFence z g =>
    refine .inl ?_
    simp only [Op.run]
    split <;> rfl
  | _ => exact .inl rfl

/-- **The rows that are new** come from `createApplicationAttempt`. -/
theorem new_of_run (h : s.attempt? x = none) (hb : (Op.run o s).1.attempt? x = some b) :
    ∃ input identity reapply, o = .createAttempt input identity ∧ x = s.db.attempts.next ∧
      b = newAttempt input identity reapply x ∧ Creates s.db input identity := by
  by_cases ho : ∀ input identity, o ≠ .createAttempt input identity
  · have hnone := (sameRows_of_run (s := s) ho).get?_none h
    rw [State.attempt?, hnone] at hb
    cases hb
  · push Not at ho
    obtain ⟨input, identity, rfl⟩ := ho
    obtain ⟨hx, reapply, hrow, hcreates⟩ := new_createApplicationAttempt h hb
    exact ⟨input, identity, reapply, rfl, hx, hrow, hcreates⟩

lemma state_of_update_error {e : DesktopError} (h : (Op.run (.updateAttempt x patch) s).2 = .error e) :
    (Op.run (.updateAttempt x patch) s).1 = s := by
  simp only [Op.run, State.onDb, updateApplicationAttempt] at h ⊢
  cases hrow : s.db.attempts.get? x with
  | none => rfl
  | some a =>
    rw [hrow] at h
    dsimp only at h ⊢
    cases hex : unexplained patch a with
    | some next => rfl
    | none =>
      rw [hex] at h
      cases h

lemma attempt?_update_other {patch : AttemptPatch} {y : ℕ} (hne : y ≠ x) :
    (Op.run (.updateAttempt x patch) s).1.attempt? y = s.attempt? y := by
  cases ha : s.attempt? y with
  | none =>
    cases hb : (Op.run (.updateAttempt x patch) s).1.attempt? y with
    | none => rfl
    | some b =>
      obtain ⟨input, identity, reapply, hop, -⟩ := new_of_run ha hb
      cases hop
  | some a =>
    obtain hrow | ⟨b, hrw, -⟩ := @row_of_run (.updateAttempt x patch) s y a ha
    · exact hrow
    · cases hrw
      exact absurd rfl hne

lemma run_update_of_explained (h : s.attempt? x = some a) (hex : unexplained patch a = none) :
    (Op.run (.updateAttempt x patch) s).2 = .ok (patchAttempt patch a) ∧
      (Op.run (.updateAttempt x patch) s).1.attempt? x = some (patchAttempt patch a) := by
  unfold State.attempt? at *
  simp only [Op.run, State.onDb, updateApplicationAttempt, h, hex]
  refine ⟨rfl, ?_⟩
  rw [row_update h, if_pos rfl]

end VacancyRadar.Desktop
