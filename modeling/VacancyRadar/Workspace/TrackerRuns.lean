import VacancyRadar.Workspace.Tracker

/-!
# Runs of the tracker

All that a sequence of attempts does to a row is one change, and to make it twice is to make it once.  After a
reconcile every attempt that it read is linked to its row, so that the next one makes the same changes again.
-/

namespace VacancyRadar.Workspace.Tracker

open Data

variable {calendar : Calendar} {attempt : AttemptRow} {row : ApplicationRow}

/-! ## Sentences -/

lemma startsWith_append (start rest : String) : startsWith (start ++ rest) start = true := by
  simp [startsWith, String.toList_append, List.isPrefixOf_iff_prefix]

lemma isAutomaticNextStep_nextStep : isAutomaticNextStep (deriveApplicationState calendar attempt).nextStep = true := by
  have hprefix : ∀ start ∈ autoNextSteps, ∀ rest : String, isAutomaticNextStep (start ++ rest) = true := by
    intro start hstart rest
    rw [isAutomaticNextStep, Bool.or_eq_true, List.any_eq_true]
    exact .inr ⟨start, hstart, startsWith_append start rest⟩
  cases hcheckpoint : attempt.checkpoint with
  | submitted =>
    simp only [deriveApplicationState, hcheckpoint, String.append_assoc]
    exact hprefix "Sent " (by decide) _
  | userReported =>
    simp only [deriveApplicationState, hcheckpoint, String.append_assoc]
    exact hprefix "You said you applied on " (by decide) _
  | _ =>
    simp only [deriveApplicationState, hcheckpoint, inPreparation]
    decide

/-! ## What attempts do to a row -/

/-- A sentence of the module. -/
abbrev AutoText : Type := { text : String // isAutomaticNextStep text = true }

structure RowChange where
  cvId : Option String
  /-- Whether a row in preparation is archived, and its sentence. -/
  preparing : Option (Bool × AutoText)
  /-- When the application was sent, and the sentence. -/
  applied : Option (Option ℤ × AutoText)

namespace RowChange

def put (text : String) (other : Option AutoText) : String :=
  match other with
  | some sentence => if isAutomaticNextStep text then sentence.1 else text
  | none => text

@[simp] lemma put_none (text : String) : put text none = text := rfl

def apply (change : RowChange) (row : ApplicationRow) : ApplicationRow :=
  let row := { row with cvId := row.cvId.or change.cvId }
  match row.status, change.applied, change.preparing with
  | .preparing, some (date, text), _ =>
    { row with
      status := .applied
      appliedAt := row.appliedAt.or date
      archived := false
      nextStep := put row.nextStep (some text) }
  | .preparing, none, some (archived, text) => { row with archived, nextStep := put row.nextStep (some text) }
  | .applied, applied, _ => { row with nextStep := put row.nextStep (applied.map Prod.snd) }
  | _, _, _ => row

def followedBy (first second : RowChange) : RowChange where
  cvId := first.cvId.or second.cvId
  preparing := second.preparing.or first.preparing
  applied :=
    match first.applied with
    | some (date, text) => some (date, ((second.applied.map Prod.snd).getD text))
    | none => second.applied

def nothing : RowChange := ⟨none, none, none⟩

@[simp] lemma apply_nothing : nothing.apply row = row := by
  obtain ⟨id, job, role, company, location, verification, status, at', step, cvId, archived⟩ := row
  cases status <;> simp [apply, nothing]

/-- A sentence that is replaced by another one. -/
@[simp] lemma put_put (text : String) (first : AutoText) (second : Option AutoText) :
    put (put text (some first)) second = put text (some (second.getD first)) := by
  cases second with
  | none => rfl
  | some second =>
    by_cases hauto : isAutomaticNextStep text
    · simp only [put, hauto, if_true, first.2, Option.getD_some]
    · simp only [put, hauto, if_false, Option.getD_some, Bool.false_eq_true]

lemma or_or_self (first second : Option String) : (first.or second).or second = first.or second := by
  cases first with
  | none => cases second <;> rfl
  | some a => rfl

lemma apply_followedBy (first second : RowChange) (row : ApplicationRow) :
    (first.followedBy second).apply row = second.apply (first.apply row) := by
  obtain ⟨id, job, role, company, location, verification, status, at', step, cvId, archived⟩ := row
  obtain ⟨cv, preparing, applied⟩ := first
  obtain ⟨cv', preparing', applied'⟩ := second
  cases status <;> rcases preparing with _ | ⟨_, _⟩ <;> rcases applied with _ | ⟨_, _⟩ <;>
    rcases preparing' with _ | ⟨_, _⟩ <;> rcases applied' with _ | ⟨_, _⟩ <;>
    simp [apply, followedBy, Option.or_assoc]

@[simp] lemma id_apply (change : RowChange) (row : ApplicationRow) : (change.apply row).id = row.id := by
  obtain ⟨id, job, role, company, location, verification, status, at', step, cvId, archived⟩ := row
  obtain ⟨cv, preparing, applied⟩ := change
  cases status <;> rcases preparing with _ | ⟨_, _⟩ <;> rcases applied with _ | ⟨_, _⟩ <;> rfl

lemma apply_apply (change : RowChange) (row : ApplicationRow) : change.apply (change.apply row) = change.apply row := by
  obtain ⟨id, job, role, company, location, verification, status, at', step, cvId, archived⟩ := row
  obtain ⟨cv, preparing, applied⟩ := change
  cases status <;> rcases preparing with _ | ⟨_, _⟩ <;> rcases applied with _ | ⟨_, _⟩ <;>
    simp [apply, or_or_self]

def ofAttempt (calendar : Calendar) (attempt : AttemptRow) : RowChange :=
  let derived := deriveApplicationState calendar attempt
  let sentence : AutoText := ⟨derived.nextStep, isAutomaticNextStep_nextStep⟩
  { cvId := attempt.sourceCvId.filter (· ≠ "")
    preparing := if derived.status = .applied then none else some (derived.archived, sentence)
    applied := if derived.status = .applied then some (derived.appliedAt, sentence) else none }

def ofAttempts (calendar : Calendar) : List AttemptRow → RowChange
  | [] => nothing
  | attempt :: rest => (ofAttempt calendar attempt).followedBy (ofAttempts calendar rest)

end RowChange

lemma deriveApplicationState_status (calendar : Calendar) (attempt : AttemptRow) :
    ((deriveApplicationState calendar attempt).status = .applied ∧
        (deriveApplicationState calendar attempt).archived = false) ∨
      (deriveApplicationState calendar attempt).status = .preparing := by
  cases hcheckpoint : attempt.checkpoint <;> simp [deriveApplicationState, hcheckpoint, inPreparation]

lemma syncedRow_eq : syncedRow calendar attempt row = (RowChange.ofAttempt calendar attempt).apply row := by
  obtain ⟨id, job, role, company, location, verification, status, at', step, cvId, archived⟩ := row
  rcases deriveApplicationState_status calendar attempt with ⟨happlied, harchived⟩ | hpreparing
  · cases status <;> simp [syncedRow, RowChange.ofAttempt, RowChange.apply, RowChange.put, happlied, harchived]
  · cases status <;> simp [syncedRow, RowChange.ofAttempt, RowChange.apply, RowChange.put, hpreparing]

lemma foldl_syncedRow (attempts : List AttemptRow) (row : ApplicationRow) :
    attempts.foldl (fun row attempt => syncedRow calendar attempt row) row =
      (RowChange.ofAttempts calendar attempts).apply row := by
  induction attempts generalizing row with
  | nil => simp [RowChange.ofAttempts]
  | cons attempt rest ih =>
    rw [List.foldl_cons, ih, syncedRow_eq, RowChange.ofAttempts, RowChange.apply_followedBy]

lemma foldl_syncedRow_foldl (attempts : List AttemptRow) (row : ApplicationRow) :
    attempts.foldl (fun row attempt => syncedRow calendar attempt row)
        (attempts.foldl (fun row attempt => syncedRow calendar attempt row) row) =
      attempts.foldl (fun row attempt => syncedRow calendar attempt row) row := by
  rw [foldl_syncedRow, foldl_syncedRow, RowChange.apply_apply]

/-! ## What attempts do to a job -/

namespace JobChange

def apply (change : Option SavedJobStatus) (status : SavedJobStatus) : SavedJobStatus :=
  match change with
  | none => status
  | some .applied => .applied
  | some other => if status = .applied then .applied else other

def followedBy (first second : Option SavedJobStatus) : Option SavedJobStatus :=
  if first = some .applied then first else second.or first

def ofDerived (live : Bool) : Option SavedJobStatus → Option SavedJobStatus
  | some .considering => if live then none else some .considering
  | change => change

lemma apply_followedBy (first second : Option SavedJobStatus) (status : SavedJobStatus) :
    apply (followedBy first second) status = apply second (apply first status) := by
  rcases first with _ | _ | _ | _ <;> rcases second with _ | _ | _ | _ <;> cases status <;> rfl

lemma apply_apply (change : Option SavedJobStatus) (status : SavedJobStatus) :
    apply change (apply change status) = apply change status := by
  rcases change with _ | _ | _ | _ <;> cases status <;> rfl

lemma nextJobStatus_eq (live : Bool) (derived : Option SavedJobStatus) (status : SavedJobStatus) :
    nextJobStatus live derived status = apply (ofDerived live derived) status := by
  rcases derived with _ | _ | _ | _ <;> cases live <;> cases status <;> rfl

end JobChange

def jobStep (calendar : Calendar) (attempts : Table AttemptRow) (status : SavedJobStatus) (attempt : AttemptRow) :
    SavedJobStatus :=
  nextJobStatus (stillLive attempts attempt.vacancyKey) (deriveApplicationState calendar attempt).savedJobStatus status

lemma foldl_jobStep_foldl (table : Table AttemptRow) (attempts : List AttemptRow) (status : SavedJobStatus) :
    attempts.foldl (jobStep calendar table) (attempts.foldl (jobStep calendar table) status) =
      attempts.foldl (jobStep calendar table) status := by
  have hchange : ∃ change, ∀ status, attempts.foldl (jobStep calendar table) status = JobChange.apply change status := by
    induction attempts with
    | nil => exact ⟨none, fun _ => rfl⟩
    | cons attempt rest ih =>
      obtain ⟨change, hchange⟩ := ih
      refine ⟨JobChange.followedBy (JobChange.ofDerived (stillLive table attempt.vacancyKey)
        (deriveApplicationState calendar attempt).savedJobStatus) change, fun status => ?_⟩
      rw [List.foldl_cons, hchange, jobStep, JobChange.nextJobStatus_eq, JobChange.apply_followedBy]
  obtain ⟨change, hchange⟩ := hchange
  rw [hchange, hchange, JobChange.apply_apply]

/-! ## One call -/

variable {tables : Tables} {id : ℕ}

lemma resolveApplicationRow_spec (tables : Tables) (attempt : AttemptRow) :
    (tables.applications.get? (resolveApplicationRow tables attempt).1.id =
        some (resolveApplicationRow tables attempt).1 ∧
      (resolveApplicationRow tables attempt).2 = tables.applications) ∨
    (tables.applications.get? (resolveApplicationRow tables attempt).1.id = none ∧
      ∀ i, (resolveApplicationRow tables attempt).2.get? i =
        if i = (resolveApplicationRow tables attempt).1.id then some (resolveApplicationRow tables attempt).1
        else tables.applications.get? i) := by
  unfold resolveApplicationRow
  have hkey : ∀ {i row}, tables.applications.get? i = some row → tables.applications.get? row.id = some row :=
    fun h => Table.get?_key (Table.mem_of_get? h)
  split
  · next linked hlinked =>
    obtain ⟨i, -, hget⟩ := Option.bind_eq_some_iff.mp hlinked
    exact .inl ⟨hkey hget, rfl⟩
  · split
    · next row hsibling =>
      obtain ⟨sibling, -, hrow⟩ := List.exists_of_findSome?_eq_some hsibling
      obtain ⟨hbind, -⟩ := Option.filter_eq_some_iff.mp hrow
      obtain ⟨i, -, hget⟩ := Option.bind_eq_some_iff.mp hbind
      exact .inl ⟨hkey hget, rfl⟩
    · refine .inr ⟨Table.get?_next, fun i => ?_⟩
      rw [Table.get?_insert]
      rfl

lemma get?_sync (h : tables.applications.get? id = some row) (attemptId : ℕ) :
    (syncApplicationForAttempt calendar tables attemptId).applications.get? id = some row ∨
      ∃ attempt, (syncApplicationForAttempt calendar tables attemptId).applications.get? id =
        some (syncedRow calendar attempt row) := by
  unfold syncApplicationForAttempt
  split
  · exact .inl h
  · next attempt hattempt =>
    simp only [Table.get?_update]
    rcases resolveApplicationRow_spec tables attempt with ⟨hrow, htable⟩ | ⟨hnone, hnew⟩
    · rw [htable, h]
      split
      · next heq => exact .inr ⟨attempt, rfl⟩
      · exact .inl rfl
    · have hne : ¬ id = (resolveApplicationRow tables attempt).1.id := by
        rintro rfl
        rw [h] at hnone
        simp at hnone
      rw [if_neg (Ne.symm hne), hnew, if_neg hne]
      exact .inl h

def Follows (calendar : Calendar) : ApplicationRow → ApplicationRow → Prop :=
  Relation.ReflTransGen fun row row' => ∃ attempt, row' = syncedRow calendar attempt row

lemma exists_follows_sync (h : tables.applications.get? id = some row) (attemptId : ℕ) :
    ∃ row', (syncApplicationForAttempt calendar tables attemptId).applications.get? id = some row' ∧
      Follows calendar row row' := by
  rcases get?_sync h attemptId with hsame | ⟨attempt, hsynced⟩
  · exact ⟨row, hsame, .refl⟩
  · exact ⟨_, hsynced, .single ⟨attempt, rfl⟩⟩

lemma exists_follows_syncs (ids : List ℕ) (h : tables.applications.get? id = some row) :
    ∃ row', (ids.foldl (syncApplicationForAttempt calendar) tables).applications.get? id = some row' ∧
      Follows calendar row row' := by
  induction ids generalizing tables row with
  | nil => exact ⟨row, h, .refl⟩
  | cons attemptId rest ih =>
    obtain ⟨between, hbetween, hfollows⟩ := exists_follows_sync h attemptId
    obtain ⟨row', hrow', hrest⟩ := ih hbetween
    exact ⟨row', hrow', hfollows.trans hrest⟩

lemma exists_follows_run (calls : List Call) (h : tables.applications.get? id = some row) :
    ∃ row', (run calendar calls tables).applications.get? id = some row' ∧ Follows calendar row row' := by
  induction calls generalizing tables row with
  | nil => exact ⟨row, h, .refl⟩
  | cons call rest ih =>
    obtain ⟨between, hbetween, hfollows⟩ : ∃ between,
        (step calendar tables call).applications.get? id = some between ∧ Follows calendar row between := by
      cases call with
      | sync attemptId => exact exists_follows_sync h attemptId
      | reconcile => exact exists_follows_syncs _ h
      | elsewhere attempts savedJobs => exact ⟨row, h, .refl⟩
    obtain ⟨row', hrow', hrest⟩ := ih hbetween
    exact ⟨row', hrow', hfollows.trans hrest⟩

variable {row' : ApplicationRow} {k : ℕ} {attempts : Table AttemptRow}

lemma Follows.nextStep_eq (h : Follows calendar row row')
    (hauto : isAutomaticNextStep row.nextStep = false) : row'.nextStep = row.nextStep := by
  induction h with
  | refl => rfl
  | tail _ hstep ih =>
    obtain ⟨attempt, rfl⟩ := hstep
    simp [syncedRow, ih, hauto]

lemma Follows.status_eq (h : Follows calendar row row') (hstatus : row.status ≠ .preparing) :
    row'.status = row.status := by
  induction h with
  | refl => rfl
  | tail _ hstep ih =>
    obtain ⟨attempt, rfl⟩ := hstep
    simp [syncedRow, ih, hstatus]

/-! ## What a call leaves alone -/

lemma stillLive_update (attempts : Table AttemptRow) (id applicationId : ℕ) (vacancyKey : Option String) :
    stillLive (attempts.update id (setLink applicationId) (key_setLink _)) vacancyKey =
      stillLive attempts vacancyKey := by
  unfold stillLive
  congr 1
  simp only [Table.update, Table.updateWhere, List.any_map]
  refine congrArg (List.any attempts.rows ·) (funext fun other => ?_)
  simp only [Function.comp]
  split <;> rfl

lemma findSavedJob_update (savedJobs : Table SavedJob) (id : ℕ) (f : SavedJobStatus → SavedJobStatus)
    (vacancyKey : Option String) :
    (findSavedJob (savedJobs.update id (setStatus f) (key_setStatus _)) vacancyKey).map SavedJob.id =
      (findSavedJob savedJobs vacancyKey).map SavedJob.id := by
  unfold findSavedJob
  cases vacancyKey.filter (· ≠ "") with
  | none => rfl
  | some key =>
    simp only [Option.bind_some, Table.update, Table.updateWhere, List.find?_map, Option.map_map]
    have hfound : ((fun job => decide (job.vacancyKey = some key)) ∘ fun job : SavedJob =>
        if Keyed.key job == id then setStatus f job else job) = fun job => decide (job.vacancyKey = some key) := by
      funext job
      simp only [Function.comp]
      split <;> rfl
    rw [hfound]
    refine congrArg (Option.map · _) (funext fun job => ?_)
    simp only [Function.comp]
    split <;> rfl

def SameJobs (savedJobs savedJobs' : Table SavedJob) : Prop :=
  ∀ attempt linked, (followedJob savedJobs' attempt linked).map SavedJob.id =
    (followedJob savedJobs attempt linked).map SavedJob.id

lemma sameJobs_syncSavedJobStatus (tables : Tables) (attempt : AttemptRow) (linked : Option ℕ) :
    SameJobs tables.savedJobs (syncSavedJobStatus calendar tables attempt linked) := by
  unfold syncSavedJobStatus
  split
  · exact fun _ _ => rfl
  · next job hjob =>
    intro other link
    cases link with
    | none => exact findSavedJob_update _ _ _ _
    | some j =>
      simp only [followedJob, Table.get?_update]
      split
      · cases tables.savedJobs.get? j <;> rfl
      · rfl

structure Synced (calendar : Calendar) (tables tables' : Tables) (attempt : AttemptRow) (row : ApplicationRow) :
    Prop where
  attempts : ∀ k, tables'.attempts.get? k =
    if k = attempt.id then some (setLink row.id attempt) else tables.attempts.get? k
  live : stillLive tables'.attempts = stillLive tables.attempts
  applications : ∀ i, tables'.applications.get? i =
    if i = row.id then some (syncedRow calendar attempt row) else tables.applications.get? i
  found : tables.applications.get? row.id = some row ∨ tables.applications.get? row.id = none
  sameJobs : SameJobs tables.savedJobs tables'.savedJobs
  savedJobs : ∀ j, tables'.savedJobs.get? j =
    if (followedJob tables.savedJobs attempt row.savedJobId).map SavedJob.id = some j then
      (tables.savedJobs.get? j).map (setStatus fun status => jobStep calendar tables.attempts status attempt)
    else tables.savedJobs.get? j

lemma synced (calendar : Calendar) (hattempt : tables.attempts.get? id = some attempt)
    (hdetached : attempt.applicationDetached = false) :
    Synced calendar tables (syncApplicationForAttempt calendar tables id) attempt
      (resolveApplicationRow tables attempt).1 := by
  have hid : attempt.id = id := Table.key_of_get? hattempt
  have hsync : (tables.attempts.get? id).filter (fun attempt => !attempt.applicationDetached) = some attempt := by
    simp [hattempt, Option.filter, hdetached]
  simp only [syncApplicationForAttempt, hsync]
  set row := (resolveApplicationRow tables attempt).1 with hrow
  have hspec := resolveApplicationRow_spec tables attempt
  rw [← hrow] at hspec
  have hlive : stillLive (if attempt.applicationId = some row.id then tables.attempts
      else tables.attempts.update id (setLink row.id) (key_setLink _)) = stillLive tables.attempts := by
    funext vacancyKey
    split
    · rfl
    · exact stillLive_update _ _ _ _
  refine ⟨fun k => ?_, hlive, fun i => ?_, ?_, ?_, fun j => ?_⟩
  · rw [hid]
    by_cases hlink : attempt.applicationId = some row.id
    · have hself : setLink row.id attempt = attempt := by
        simp [setLink, ← hlink]
      simp only [hlink, if_true, hself]
      split
      · next heq => rw [heq, hattempt]
      · rfl
    · simp only [hlink, if_false, Table.get?_update]
      split
      · next heq => rw [if_pos heq.symm, ← heq, hattempt]; rfl
      · next hne => rw [if_neg (Ne.symm hne)]
  · rw [Table.get?_update]
    rcases hspec with ⟨hfound, htable⟩ | ⟨-, hnew⟩
    · rw [htable]
      split
      · next heq => rw [if_pos heq.symm, ← heq, hfound]; rfl
      · next hne => rw [if_neg (Ne.symm hne)]
    · rw [hnew]
      split
      · next heq => rw [if_pos heq.symm, if_pos heq.symm]; rfl
      · next hne => rw [if_neg (Ne.symm hne), if_neg (Ne.symm hne)]
  · rcases hspec with ⟨hfound, -⟩ | ⟨hnone, -⟩
    · exact .inl hfound
    · exact .inr hnone
  · exact sameJobs_syncSavedJobStatus { tables with attempts := _ } attempt row.savedJobId
  · unfold syncSavedJobStatus
    simp only [hlive]
    cases hjob : followedJob tables.savedJobs attempt row.savedJobId with
    | none => simp
    | some job =>
      simp only [Table.get?_update, Option.map_some, Option.some.injEq]
      rfl

/-! ## A pass over attempts -/

def attemptsOf (tables : Tables) (ids : List ℕ) : List AttemptRow := ids.filterMap tables.attempts.get?

def jobOf (tables : Tables) (attempt : AttemptRow) : Option ℕ :=
  (attempt.applicationId.bind tables.applications.get?).bind fun row =>
    (followedJob tables.savedJobs attempt row.savedJobId).map SavedJob.id

structure Settled (tables : Tables) (attempt : AttemptRow) (row : ApplicationRow) : Prop where
  stored : tables.attempts.get? attempt.id = some attempt
  attached : attempt.applicationDetached = false
  link : attempt.applicationId = some row.id
  target : tables.applications.get? row.id = some row

structure Followed (calendar : Calendar) (Start : ApplicationRow → Prop) (JobStart : SavedJob → Prop) (ids : List ℕ)
    (tables : Tables) : Prop where
  settled : ∀ id ∈ ids, ∃ attempt row, attempt.id = id ∧ Settled tables attempt row
  rows : ∀ i row, tables.applications.get? i = some row → ∃ first, Start first ∧
    row = ((attemptsOf tables ids).filter fun attempt => attempt.applicationId = some i).foldl
      (fun row attempt => syncedRow calendar attempt row) first
  jobs : ∀ j job, tables.savedJobs.get? j = some job → ∃ first, JobStart first ∧
    job = setStatus (fun status => ((attemptsOf tables ids).filter fun attempt => jobOf tables attempt = some j).foldl
      (jobStep calendar tables.attempts) status) first

variable {Start : ApplicationRow → Prop} {JobStart : SavedJob → Prop} {ids : List ℕ} {tables' : Tables}

lemma jobStep_congr (h : stillLive tables'.attempts = stillLive tables.attempts) :
    jobStep calendar tables'.attempts = jobStep calendar tables.attempts := by
  funext status attempt
  rw [jobStep, jobStep, h]

lemma Settled.synced {other : AttemptRow} {linked : ApplicationRow} (h : Settled tables other linked)
    (hsynced : Synced calendar tables tables' attempt row) (hne : other.id ≠ attempt.id) :
    (∃ linked', Settled tables' other linked' ∧ linked'.savedJobId = linked.savedJobId) ∧
      jobOf tables' other = jobOf tables other := by
  have hattempt : tables'.attempts.get? other.id = some other := by
    rw [hsynced.attempts, if_neg hne, h.stored]
  obtain ⟨linked', hrow', hid, hjob⟩ : ∃ linked', tables'.applications.get? linked.id = some linked' ∧
      linked'.id = linked.id ∧ linked'.savedJobId = linked.savedJobId := by
    rw [hsynced.applications]
    split
    · next heq =>
      rcases hsynced.found with hfound | hnone
      · obtain rfl : linked = row := Option.some.inj (h.target.symm.trans (heq ▸ hfound))
        exact ⟨_, rfl, rfl, rfl⟩
      · rw [← heq, h.target] at hnone
        simp at hnone
    · exact ⟨linked, h.target, rfl, rfl⟩
  refine ⟨⟨linked', ⟨hattempt, h.attached, by rw [h.link, hid], by rw [hid, hrow']⟩, hjob⟩, ?_⟩
  simp only [jobOf, h.link, Option.bind_some, hrow', h.target, hjob]
  exact hsynced.sameJobs other linked.savedJobId

lemma Followed.sync (h : Followed calendar Start JobStart ids tables) (hattempt : tables.attempts.get? id = some attempt)
    (hdetached : attempt.applicationDetached = false) (hnew : id ∉ ids)
    (hstart : tables.applications.get? (resolveApplicationRow tables attempt).1.id = none →
      Start (resolveApplicationRow tables attempt).1) :
    Followed calendar Start JobStart (ids ++ [id]) (syncApplicationForAttempt calendar tables id) := by
  have hid : attempt.id = id := Table.key_of_get? hattempt
  have hsynced := synced calendar hattempt hdetached
  set row := (resolveApplicationRow tables attempt).1 with hrow
  set tables' := syncApplicationForAttempt calendar tables id with htables'
  have hsettled : ∀ k ∈ ids, ∃ other linked, other.id = k ∧ Settled tables other linked ∧ other.id ≠ attempt.id := by
    intro k hk
    obtain ⟨other, linked, rfl, hlinked⟩ := h.settled k hk
    exact ⟨other, linked, rfl, hlinked, fun heq => hnew (hid ▸ heq ▸ hk)⟩
  have hself : Settled tables' (setLink row.id attempt) (syncedRow calendar attempt row) := by
    refine ⟨?_, hdetached, rfl, ?_⟩
    · rw [show (setLink row.id attempt).id = attempt.id from rfl, hsynced.attempts, if_pos rfl]
    · rw [show (syncedRow calendar attempt row).id = row.id from rfl, hsynced.applications, if_pos rfl]
  have hlist : attemptsOf tables' (ids ++ [id]) = attemptsOf tables ids ++ [setLink row.id attempt] := by
    rw [attemptsOf, List.filterMap_append, attemptsOf]
    congr 1
    · refine List.filterMap_congr fun k hk => ?_
      have hne : k ≠ attempt.id := fun heq => hnew (hid ▸ heq ▸ hk)
      rw [hsynced.attempts, if_neg hne]
    · simp [hsynced.attempts, hid]
  have hmem : ∀ other ∈ attemptsOf tables ids, ∃ linked, Settled tables other linked ∧ other.id ≠ attempt.id := by
    intro other hother
    obtain ⟨k, hk, hget⟩ := List.mem_filterMap.mp hother
    obtain ⟨other', linked, rfl, hlinked, hne⟩ := hsettled k hk
    obtain rfl := Option.some.inj (hget.symm.trans hlinked.stored)
    exact ⟨linked, hlinked, hne⟩
  refine ⟨?_, ?_, ?_⟩
  · intro k hk
    rcases List.mem_append.mp hk with hk | hk
    · obtain ⟨other, linked, rfl, hlinked, hne⟩ := hsettled k hk
      obtain ⟨⟨linked', hlinked', -⟩, -⟩ := hlinked.synced hsynced hne
      exact ⟨other, linked', rfl, hlinked'⟩
    · obtain rfl := List.mem_singleton.mp hk
      exact ⟨setLink row.id attempt, _, hid, hself⟩
  · intro i changed hchanged
    rw [hlist, List.filter_append]
    rw [hsynced.applications] at hchanged
    split at hchanged
    · -- the row of the attempt
      next heq =>
      subst heq
      obtain rfl := Option.some.inj hchanged
      rcases hsynced.found with hfound | hnone
      · obtain ⟨first, hfirst, hfold⟩ := h.rows _ _ hfound
        refine ⟨first, hfirst, ?_⟩
        have hlast : ([setLink row.id attempt].filter fun attempt => attempt.applicationId = some row.id) =
            [setLink row.id attempt] := by simp [setLink]
        rw [hlast, List.foldl_append, ← hfold]
        rfl
      · refine ⟨row, hstart hnone, ?_⟩
        have hnone' : (attemptsOf tables ids).filter (fun other => other.applicationId = some row.id) = [] := by
          refine List.filter_eq_nil_iff.mpr fun other hother hlink => ?_
          obtain ⟨linked, hlinked, -⟩ := hmem other hother
          have hsame : linked.id = row.id :=
            Option.some.inj (hlinked.link.symm.trans (of_decide_eq_true hlink))
          have hthere := hlinked.target
          rw [hsame, hnone] at hthere
          simp at hthere
        rw [hnone']
        simp [setLink]
        rfl
    · -- another row
      next hne =>
      obtain ⟨first, hfirst, hfold⟩ := h.rows i changed hchanged
      refine ⟨first, hfirst, ?_⟩
      have hlast : ([setLink row.id attempt].filter fun attempt => attempt.applicationId = some i) = [] := by
        simp [setLink, Ne.symm hne]
      rw [hlast, List.append_nil, ← hfold]
  · intro j changed hchanged
    have hjobs : ∀ other ∈ attemptsOf tables ids, jobOf tables' other = jobOf tables other := by
      intro other hother
      obtain ⟨linked, hlinked, hne⟩ := hmem other hother
      exact (hlinked.synced hsynced hne).2
    have hjob : jobOf tables' (setLink row.id attempt) =
        (followedJob tables.savedJobs attempt row.savedJobId).map SavedJob.id := by
      simp only [jobOf, hself.link, Option.bind_some, hself.target]
      exact hsynced.sameJobs attempt row.savedJobId
    rw [hlist, List.filter_append, jobStep_congr hsynced.live, List.filter_congr fun other hother => by
      rw [hjobs other hother]]
    rw [hsynced.savedJobs] at hchanged
    split at hchanged
    · next hfollowed =>
      obtain ⟨job, hget, rfl⟩ := Option.map_eq_some_iff.mp hchanged
      obtain ⟨first, hfirst, hfold⟩ := h.jobs j job hget
      refine ⟨first, hfirst, ?_⟩
      have hlast : ([setLink row.id attempt].filter fun attempt => jobOf tables' attempt = some j) =
          [setLink row.id attempt] := by simp [hjob, hfollowed]
      rw [hlast]
      simp only [List.foldl_append]
      rw [hfold]
      rfl
    · next hfollowed =>
      obtain ⟨first, hfirst, hfold⟩ := h.jobs j changed hchanged
      refine ⟨first, hfirst, ?_⟩
      have hlast : ([setLink row.id attempt].filter fun attempt => jobOf tables' attempt = some j) = [] := by
        simp [hjob, hfollowed]
      rw [hlast, List.append_nil, ← hfold]

lemma resolveApplicationRow_of_settled (h : Settled tables attempt row) :
    resolveApplicationRow tables attempt = (row, tables.applications) := by
  simp [resolveApplicationRow, h.link, h.target]

lemma get?_attempts_sync (tables : Tables) (hne : k ≠ id) :
    (syncApplicationForAttempt calendar tables id).attempts.get? k = tables.attempts.get? k := by
  unfold syncApplicationForAttempt
  split
  · rfl
  · dsimp only
    split
    · rfl
    · rw [Table.get?_update, if_neg (Ne.symm hne)]

lemma Followed.foldl (rest : List ℕ) (h : Followed calendar Start JobStart ids tables)
    (hrest : ∀ id ∈ rest, ∃ attempt, tables.attempts.get? id = some attempt ∧ attempt.applicationDetached = false ∧
      ((∀ row, Start row) ∨ ∃ row, Settled tables attempt row))
    (hnodup : (ids ++ rest).Nodup) :
    Followed calendar Start JobStart (ids ++ rest) (rest.foldl (syncApplicationForAttempt calendar) tables) := by
  induction rest generalizing ids tables with
  | nil => simpa using h
  | cons id rest ih =>
    obtain ⟨attempt, hattempt, hdetached, hstart⟩ := hrest id List.mem_cons_self
    have hid : attempt.id = id := Table.key_of_get? hattempt
    have hnew : id ∉ ids ∧ id ∉ rest := by
      rw [List.nodup_append] at hnodup
      refine ⟨fun hmem => hnodup.2.2 id hmem id List.mem_cons_self rfl, ?_⟩
      exact (List.nodup_cons.mp hnodup.2.1).1
    have hnext := h.sync hattempt hdetached hnew.1 (by
      rcases hstart with hall | ⟨row, hsettled⟩
      · exact fun _ => hall _
      · intro hnone
        rw [resolveApplicationRow_of_settled hsettled, hsettled.target] at hnone
        simp at hnone)
    rw [List.foldl_cons, ← List.singleton_append, ← List.append_assoc]
    refine ih hnext (fun k hk => ?_) (by simpa using hnodup)
    have hne : k ≠ id := fun heq => hnew.2 (heq ▸ hk)
    obtain ⟨other, hother, hattached, hsettled⟩ := hrest k (List.mem_cons_of_mem _ hk)
    have hk' : other.id = k := Table.key_of_get? hother
    refine ⟨other, by rw [get?_attempts_sync tables hne, hother], hattached, hsettled.imp_right fun hlinked => ?_⟩
    obtain ⟨row, hrow⟩ := hlinked
    have hsynced := synced calendar hattempt hdetached
    obtain ⟨⟨linked, hlinked, -⟩, -⟩ := hrow.synced hsynced (by rw [hk', hid]; exact hne)
    exact ⟨linked, hlinked⟩

/-! ## Which attempts are read -/

def unlinked (attempt : AttemptRow) : AttemptRow := { attempt with applicationId := none }

lemma map_unlinked_sync (tables : Tables) (id : ℕ) :
    (syncApplicationForAttempt calendar tables id).attempts.rows.map unlinked = tables.attempts.rows.map unlinked := by
  unfold syncApplicationForAttempt
  split
  · rfl
  · dsimp only
    split
    · rfl
    · rw [Table.update, Table.updateWhere, List.map_map]
      refine List.map_congr_left fun attempt _ => ?_
      simp only [Function.comp]
      split <;> rfl

lemma map_unlinked_foldl (rest : List ℕ) (tables : Tables) :
    (rest.foldl (syncApplicationForAttempt calendar) tables).attempts.rows.map unlinked =
      tables.attempts.rows.map unlinked := by
  induction rest generalizing tables with
  | nil => rfl
  | cons id rest ih => rw [List.foldl_cons, ih, map_unlinked_sync]

lemma get?_attempts_foldl (rest : List ℕ) (tables : Tables) (h : k ∉ rest) :
    (rest.foldl (syncApplicationForAttempt calendar) tables).attempts.get? k = tables.attempts.get? k := by
  induction rest generalizing tables with
  | nil => rfl
  | cons id rest ih =>
    obtain ⟨hne, hrest⟩ : k ≠ id ∧ k ∉ rest := by simpa using h
    rw [List.foldl_cons, ih _ hrest, get?_attempts_sync tables hne]

def readIds (attempts : Table AttemptRow) : List ℕ := (reconciledAttempts attempts).map AttemptRow.id

def worthIds (attempts : Table AttemptRow) : List ℕ :=
  ((reconciledAttempts attempts).filter worthARow).map AttemptRow.id

lemma mem_reconciledAttempts :
    attempt ∈ reconciledAttempts attempts ↔ attempt ∈ attempts.rows ∧ attempt.applicationDetached = false := by
  simp [reconciledAttempts, List.mem_mergeSort]

lemma worthIds_eq (attempts : Table AttemptRow) :
    worthIds attempts = (readIds attempts).filter fun id => (attempts.get? id).any worthARow := by
  rw [worthIds, readIds, List.filter_map]
  refine congrArg _ (List.filter_congr fun attempt hattempt => ?_)
  have hget : attempts.get? attempt.id = some attempt := Table.get?_key (mem_reconciledAttempts.mp hattempt).1
  simp [hget]

lemma readIds_congr {attempts' : Table AttemptRow}
    (h : attempts'.rows.map unlinked = attempts.rows.map unlinked) :
    readIds attempts' = readIds attempts := by
  have hread : ∀ attempts : Table AttemptRow, readIds attempts =
      (((attempts.rows.map unlinked).filter fun attempt => !attempt.applicationDetached).mergeSort
        fun a b => a.createdAt ≤ b.createdAt).map AttemptRow.id := by
    intro attempts
    have hfilter : (attempts.rows.map unlinked).filter (fun attempt => !attempt.applicationDetached) =
        (attempts.rows.filter fun attempt => !attempt.applicationDetached).map unlinked := by
      rw [List.filter_map]
      rfl
    rw [hfilter, ← List.map_mergeSort (r := fun a b => a.createdAt ≤ b.createdAt), List.map_map, readIds,
      reconciledAttempts]
    · rfl
    · exact fun _ _ _ _ => rfl
  rw [hread, hread, h]

lemma nodup_worthIds (attempts : Table AttemptRow) : (worthIds attempts).Nodup := by
  have hsub : (worthIds attempts).Sublist (readIds attempts) := List.filter_sublist.map _
  refine hsub.nodup ?_
  have hperm : (readIds attempts).Perm ((attempts.rows.filter fun attempt => !attempt.applicationDetached).map
      AttemptRow.id) := (List.mergeSort_perm _ _).map _
  exact hperm.nodup_iff.mpr ((List.filter_sublist.map _).nodup attempts.nodup)

/-! ## A second pass -/

lemma Followed.start (hstart : ∀ i row, tables.applications.get? i = some row → Start row)
    (hjobs : ∀ j job, tables.savedJobs.get? j = some job → JobStart job) :
    Followed calendar Start JobStart [] tables where
  settled := by simp
  rows i row hrow := ⟨row, hstart i row hrow, rfl⟩
  jobs j job hjob := ⟨job, hjobs j job hjob, rfl⟩

structure Kept (tables tables' : Tables) : Prop where
  attempts : tables'.attempts = tables.attempts
  applicationKeys : tables'.applications.rows.map Keyed.key = tables.applications.rows.map Keyed.key
  applicationNext : tables'.applications.next = tables.applications.next
  jobKeys : tables'.savedJobs.rows.map Keyed.key = tables.savedJobs.rows.map Keyed.key
  jobNext : tables'.savedJobs.next = tables.savedJobs.next
  sameJobs : SameJobs tables.savedJobs tables'.savedJobs

lemma kept_sync (calendar : Calendar) (h : Settled tables attempt row) :
    Kept tables (syncApplicationForAttempt calendar tables attempt.id) := by
  have hsync : (tables.attempts.get? attempt.id).filter (fun attempt => !attempt.applicationDetached) =
      some attempt := by
    simp [h.stored, Option.filter, h.attached]
  simp only [syncApplicationForAttempt, hsync, resolveApplicationRow_of_settled h, if_pos h.link]
  refine ⟨rfl, by rw [Table.map_key_update], rfl, ?_, ?_,
    sameJobs_syncSavedJobStatus tables attempt row.savedJobId⟩
  · unfold syncSavedJobStatus
    split
    · rfl
    · rw [Table.map_key_update]
  · unfold syncSavedJobStatus
    split <;> rfl

lemma kept_foldl (calendar : Calendar) (rest : List ℕ)
    (hrest : ∀ id ∈ rest, ∃ attempt row, attempt.id = id ∧ Settled tables attempt row) :
    Kept tables (rest.foldl (syncApplicationForAttempt calendar) tables) := by
  induction rest generalizing tables with
  | nil => exact ⟨rfl, rfl, rfl, rfl, rfl, fun _ _ => rfl⟩
  | cons id rest ih =>
    obtain ⟨attempt, row, rfl, hsettled⟩ := hrest id List.mem_cons_self
    have hfirst := kept_sync calendar hsettled
    have hsynced := synced calendar hsettled.stored hsettled.attached
    rw [resolveApplicationRow_of_settled hsettled] at hsynced
    have hothers : Kept (syncApplicationForAttempt calendar tables attempt.id)
        (rest.foldl (syncApplicationForAttempt calendar) (syncApplicationForAttempt calendar tables attempt.id)) := by
      refine ih fun k hk => ?_
      obtain ⟨other, linked, rfl, hlinked⟩ := hrest k (List.mem_cons_of_mem _ hk)
      by_cases hne : other.id = attempt.id
      · -- the same attempt once more
        obtain rfl : other = attempt := Option.some.inj (hlinked.stored.symm.trans (hne ▸ hsettled.stored))
        refine ⟨other, syncedRow calendar other row, rfl, ?_, hsettled.attached, hsettled.link, ?_⟩
        · rw [hfirst.attempts, hsettled.stored]
        · have hsame := hsynced.applications row.id
          rwa [if_pos rfl] at hsame
      · obtain ⟨⟨linked', hlinked', -⟩, -⟩ := hlinked.synced hsynced hne
        exact ⟨other, linked', rfl, hlinked'⟩
    exact ⟨hothers.attempts.trans hfirst.attempts, hothers.applicationKeys.trans hfirst.applicationKeys,
      hothers.applicationNext.trans hfirst.applicationNext, hothers.jobKeys.trans hfirst.jobKeys,
      hothers.jobNext.trans hfirst.jobNext,
      fun other linked => (hothers.sameJobs other linked).trans (hfirst.sameJobs other linked)⟩

lemma exists_get?_of_keys {ρ : Type} [Keyed ρ] {t t' : Table ρ}
    (h : t'.rows.map Keyed.key = t.rows.map Keyed.key) {i : ℕ} {r' : ρ} (hr' : t'.get? i = some r') :
    ∃ r, t.get? i = some r := by
  obtain ⟨hmem, rfl⟩ := Table.get?_eq_some.mp hr'
  have hkey : Keyed.key r' ∈ t.rows.map Keyed.key := h ▸ List.mem_map_of_mem hmem
  obtain ⟨r, hr, heq⟩ := List.mem_map.mp hkey
  exact ⟨r, Table.get?_eq_some.mpr ⟨hr, heq⟩⟩

lemma eq_of_get?_imp {ρ : Type} [Keyed ρ] {t t' : Table ρ} (hkeys : t'.rows.map Keyed.key = t.rows.map Keyed.key)
    (hnext : t'.next = t.next) (h : ∀ i r', t'.get? i = some r' → t.get? i = some r') : t' = t := by
  refine Table.eq_of_get?_eq hkeys hnext fun i => ?_
  cases hr' : t'.get? i with
  | some r' => exact (h i r' hr').symm
  | none =>
    cases hr : t.get? i with
    | none => rfl
    | some r =>
      obtain ⟨r', hthere⟩ := exists_get?_of_keys hkeys.symm hr
      rw [hr'] at hthere
      simp at hthere

lemma foldl_eq_self (hfollowed : Followed calendar (fun _ => True) (fun _ => True) ids tables) (hnodup : ids.Nodup) :
    ids.foldl (syncApplicationForAttempt calendar) tables = tables := by
  have hkept := kept_foldl calendar ids hfollowed.settled
  have hagain : Followed calendar (fun row => tables.applications.get? row.id = some row)
      (fun job => tables.savedJobs.get? job.id = some job) ids
      (ids.foldl (syncApplicationForAttempt calendar) tables) := by
    have hempty : Followed calendar (fun row => tables.applications.get? row.id = some row)
        (fun job => tables.savedJobs.get? job.id = some job) [] tables :=
      .start (fun i row hrow => Table.get?_key (Table.mem_of_get? hrow))
        fun j job hjob => Table.get?_key (Table.mem_of_get? hjob)
    refine hempty.foldl ids (fun id hid => ?_) hnodup
    obtain ⟨attempt, row, rfl, hsettled⟩ := hfollowed.settled id hid
    exact ⟨attempt, hsettled.stored, hsettled.attached, .inr ⟨row, hsettled⟩⟩
  set tables' := ids.foldl (syncApplicationForAttempt calendar) tables with htables'
  have hattempts : attemptsOf tables' ids = attemptsOf tables ids := by rw [attemptsOf, hkept.attempts, attemptsOf]
  -- a row after the second pass is what the attempts make of what they made of it
  have hrows : ∀ i row', tables'.applications.get? i = some row' → tables.applications.get? i = some row' := by
    intro i row' hrow'
    obtain ⟨row, hrow⟩ := exists_get?_of_keys hkept.applicationKeys hrow'
    obtain ⟨first, hfirst, hfold⟩ := hfollowed.rows i row hrow
    obtain ⟨again, hagain', hfold'⟩ := hagain.rows i row' hrow'
    have hid : again.id = i := by
      have hkey : row'.id = i := Table.key_of_get? hrow'
      rw [hfold', foldl_syncedRow] at hkey
      rw [← hkey, RowChange.id_apply]
    obtain rfl : again = row := Option.some.inj (hagain'.symm.trans (hid ▸ hrow))
    rw [hattempts, hfold, foldl_syncedRow_foldl, ← hfold] at hfold'
    rw [hfold', hrow]
  have happlications : tables'.applications = tables.applications :=
    eq_of_get?_imp hkept.applicationKeys hkept.applicationNext hrows
  have hjobOf : ∀ attempt, jobOf tables' attempt = jobOf tables attempt := by
    intro attempt
    simp only [jobOf, happlications]
    refine congrArg (Option.bind _) (funext fun row => ?_)
    exact hkept.sameJobs attempt row.savedJobId
  have hjobs : ∀ j job', tables'.savedJobs.get? j = some job' → tables.savedJobs.get? j = some job' := by
    intro j job' hjob'
    obtain ⟨job, hjob⟩ := exists_get?_of_keys hkept.jobKeys hjob'
    obtain ⟨first, hfirst, hfold⟩ := hfollowed.jobs j job hjob
    obtain ⟨again, hagain', hfold'⟩ := hagain.jobs j job' hjob'
    have hid : again.id = j := by
      have hkey : job'.id = j := Table.key_of_get? hjob'
      rw [← hkey, hfold']
      rfl
    obtain rfl : again = job := Option.some.inj (hagain'.symm.trans (hid ▸ hjob))
    simp only [hattempts, hkept.attempts, hjobOf] at hfold'
    have hsame : job' = again := by
      rw [hfold', hfold]
      simp only [setStatus, foldl_jobStep_foldl]
    rw [hsame, hjob]
  have hsavedJobs : tables'.savedJobs = tables.savedJobs := eq_of_get?_imp hkept.jobKeys hkept.jobNext hjobs
  exact Tables.ext hkept.attempts happlications hsavedJobs

lemma mem_worthIds :
    id ∈ worthIds attempts ↔ ∃ attempt, attempts.get? id = some attempt ∧ attempt.applicationDetached = false ∧
      worthARow attempt = true := by
  rw [worthIds, List.mem_map]
  constructor
  · rintro ⟨attempt, hattempt, rfl⟩
    obtain ⟨hread, hworth⟩ := List.mem_filter.mp hattempt
    obtain ⟨hmem, hdetached⟩ := mem_reconciledAttempts.mp hread
    exact ⟨attempt, Table.get?_key hmem, hdetached, hworth⟩
  · rintro ⟨attempt, hget, hdetached, hworth⟩
    obtain ⟨hmem, hid⟩ := Table.get?_eq_some.mp hget
    exact ⟨attempt, List.mem_filter.mpr ⟨mem_reconciledAttempts.mpr ⟨hmem, hdetached⟩, hworth⟩, hid⟩

lemma followed_reconcile (calendar : Calendar) (tables : Tables) :
    Followed calendar (fun _ => True) (fun _ => True) (worthIds tables.attempts)
      (reconcileApplicationRows calendar tables) := by
  have hempty : Followed calendar (fun _ => True) (fun _ => True) [] tables :=
    .start (fun _ _ _ => trivial) fun _ _ _ => trivial
  refine hempty.foldl (worthIds tables.attempts) (fun id hid => ?_) (nodup_worthIds tables.attempts)
  obtain ⟨attempt, hget, hdetached, -⟩ := mem_worthIds.mp hid
  exact ⟨attempt, hget, hdetached, .inl fun _ => trivial⟩

lemma worthIds_reconcile (calendar : Calendar) (tables : Tables) :
    worthIds (reconcileApplicationRows calendar tables).attempts = worthIds tables.attempts := by
  have hread : readIds (reconcileApplicationRows calendar tables).attempts = readIds tables.attempts :=
    readIds_congr (map_unlinked_foldl _ tables)
  rw [worthIds_eq, hread, worthIds_eq tables.attempts]
  refine List.filter_congr fun id hid => ?_
  by_cases hworth : id ∈ worthIds tables.attempts
  · -- it had a row or was more than history, and has a row now
    obtain ⟨attempt, row, rfl, hsettled⟩ := (followed_reconcile calendar tables).settled id hworth
    obtain ⟨before, hget, -, hbefore⟩ := mem_worthIds.mp hworth
    have hnow : worthARow attempt = true := by simp [worthARow, hsettled.link]
    simp [hget, hbefore, hsettled.stored, hnow]
  · rw [show (reconcileApplicationRows calendar tables).attempts.get? id = tables.attempts.get? id from
      get?_attempts_foldl _ tables hworth]

lemma reconcile_reconcile (tables : Tables) :
    reconcileApplicationRows calendar (reconcileApplicationRows calendar tables) =
      reconcileApplicationRows calendar tables := by
  have hsame := foldl_eq_self (followed_reconcile calendar tables) (nodup_worthIds tables.attempts)
  rwa [← worthIds_reconcile calendar tables] at hsame

/-! ## The law -/

def queuedAttempt (id : ℕ) : AttemptRow where
  id := id
  applicationId := some 0
  applicationDetached := false
  vacancyKey := none
  canonicalUrlKey := ""
  company := "Acme"
  role := "Engineer"
  sourceCvId := none
  checkpoint := .queued
  submittedAt := none
  createdAt := 0
  updatedAt := 0

def rowWith (nextStep : String) (id : ℕ) : ApplicationRow where
  id := id
  savedJobId := none
  role := "Engineer"
  company := "Acme"
  location := ""
  verification := none
  status := .preparing
  nextStep := nextStep
  cvId := none

def oneApplication (nextStep : String) : Tables where
  attempts := (∅ : Table AttemptRow).insert queuedAttempt fun _ => rfl
  applications := (∅ : Table ApplicationRow).insert (rowWith nextStep) fun _ => rfl
  savedJobs := ∅

lemma settled_oneApplication (nextStep : String) :
    Settled (oneApplication nextStep) (queuedAttempt 0) (rowWith nextStep 0) := ⟨rfl, rfl, rfl, rfl⟩

lemma get?_run_oneApplication (nextStep : String) :
    (run calendar [.sync 0] (oneApplication nextStep)).applications.get? 0 =
      some (syncedRow calendar (queuedAttempt 0) (rowWith nextStep 0)) := by
  have hsettled := settled_oneApplication nextStep
  have hsynced := synced calendar hsettled.stored hsettled.attached
  rw [resolveApplicationRow_of_settled hsettled] at hsynced
  exact hsynced.applications 0

lemma not_syncKeeps {text : String} (htyped : Typed calendar text) (hauto : isAutomaticNextStep text = true) :
    ¬ SyncKeeps calendar text := by
  intro h
  obtain ⟨row', hrow', htext⟩ := h.text (oneApplication text) [.sync 0] 0 (rowWith text 0) rfl rfl htyped
  rw [get?_run_oneApplication] at hrow'
  obtain rfl := Option.some.inj hrow'
  have hstep : (syncedRow calendar (queuedAttempt 0) (rowWith text 0)).nextStep =
      (deriveApplicationState calendar (queuedAttempt 0)).nextStep := by
    simp [syncedRow, rowWith, queuedAttempt, deriveApplicationState, inPreparation, hauto]
  exact htyped.notDerived (queuedAttempt 0) (hstep.symm.trans htext)

lemma length_filter_linked (table : Table ApplicationRow) (attempt : AttemptRow) :
    (table.rows.filter fun row => attempt.applicationId = some row.id).length ≤ 1 := by
  have hnodup : (table.rows.filter fun row => attempt.applicationId = some row.id).Nodup :=
    List.filter_sublist.nodup (List.Nodup.of_map _ table.nodup)
  have hmem : ∀ row ∈ table.rows.filter fun row => attempt.applicationId = some row.id,
      row ∈ table.rows ∧ attempt.applicationId = some row.id := by
    intro row hrow
    obtain ⟨hthere, hlink⟩ := List.mem_filter.mp hrow
    exact ⟨hthere, of_decide_eq_true hlink⟩
  generalize table.rows.filter (fun row => attempt.applicationId = some row.id) = linked at hnodup hmem
  rcases linked with _ | ⟨row, _ | ⟨row', rest⟩⟩
  · simp
  · simp
  · exfalso
    obtain ⟨hthere, hlink⟩ := hmem row List.mem_cons_self
    obtain ⟨hthere', hlink'⟩ := hmem row' (List.mem_cons_of_mem _ List.mem_cons_self)
    have hsame : row = row' := Table.eq_of_key_eq hthere hthere' (Option.some.inj (hlink.symm.trans hlink'))
    simp [hsame] at hnodup

/-- **Syncing keeps what is the person's**, just if a text that was typed is not taken for a sentence of the module by
its beginning. -/
theorem syncKeeps_iff (calendar : Calendar) (text : String) :
    SyncKeeps calendar text ↔ (Typed calendar text → isAutomaticNextStep text = false) := by
  constructor
  · intro h htyped
    by_contra hauto
    exact not_syncKeeps htyped (by simpa using hauto) h
  · intro h
    refine ⟨?_, ?_, ?_, ?_⟩
    · rintro tables calls id row hrow rfl htyped
      obtain ⟨row', hrow', hfollows⟩ := exists_follows_run calls hrow
      exact ⟨row', hrow', hfollows.nextStep_eq (h htyped)⟩
    · intro tables calls id row hrow hpreparing _
      obtain ⟨row', hrow', hfollows⟩ := exists_follows_run calls hrow
      exact ⟨row', hrow', hfollows.status_eq hpreparing⟩
    · exact fun tables calls attempt _ => length_filter_linked _ attempt
    · exact fun tables calls => reconcile_reconcile _

def oneDay : Calendar where
  toISOString := fun _ => "2026-05-04T09:00:00.000Z"
  toLocaleDateString := fun _ => "4 May 2026"

lemma typed_portfolio : Typed oneDay "Sent my portfolio, call them on Monday" where
  notBlank := by decide
  notListed := by decide
  notDerived := by
    intro attempt
    have hsent : "Sent " ++ sliceUnits "2026-05-04T09:00:00.000Z" 10 ++ ": the employer page confirmed it." ≠
        "Sent my portfolio, call them on Monday" := by decide
    cases hcheckpoint : attempt.checkpoint <;>
      simp [deriveApplicationState, hcheckpoint, inPreparation, isoDay, displayDay, oneDay, hsent]

/-- What the person writes about a portfolio is taken for a sentence of the module. -/
theorem not_syncKeeps_portfolio : ¬ ∀ (calendar : Calendar) (text : String), SyncKeeps calendar text := fun hall =>
  not_syncKeeps typed_portfolio (by decide) (hall oneDay "Sent my portfolio, call them on Monday")

end VacancyRadar.Workspace.Tracker
