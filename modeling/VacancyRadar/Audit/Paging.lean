import VacancyRadar.Audit.Invariants
import VacancyRadar.Data.Pages

/-!
# Reading the audit log page by page

A reader follows the cursors of the pages while entries are appended.  The cursor is the number of an
entry, and numbers start again in a new file.  As long as the file is not rotated while the reader has
a cursor no entry is passed over.
-/

namespace VacancyRadar.Audit

open Data

variable {Input : Type} {policy : AuditPolicy} {format : AuditFormat Input}

/-! ## Pages -/

/-- The page has all entries up to its end that were not returned before.  The end of a page that has
no cursor is the end of the log. -/
def NoSkip (entries returned : List (AuditEntry Input)) (page : AuditPage Input) : Prop :=
  ∀ entry ∈ entries, entry ∉ returned →
    (∀ next, page.nextCursor = some next → entry.sequence ≤ next) → entry ∈ page.entries

section Pages

variable {entries : List (AuditEntry Input)} {limit start : ℕ}

variable {entry : AuditEntry Input}

lemma getElem?_sequence (h : entries.map AuditEntry.sequence = List.range entries.length)
    (hentry : entry ∈ entries) : entries[entry.sequence]? = some entry := by
  obtain ⟨i, hi, rfl⟩ := List.mem_iff_getElem.mp hentry
  have hsequence : entries[i].sequence = i := by
    have hget := congrArg (fun l => l[i]?) h
    simpa [hi] using hget
  rw [hsequence, List.getElem?_eq_getElem hi]

lemma sequence_lt (h : entries.map AuditEntry.sequence = List.range entries.length)
    (hentry : entry ∈ entries) : entry.sequence < entries.length :=
  (List.getElem?_eq_some_iff.mp (getElem?_sequence h hentry)).1

lemma nextCursor_pageFrom (h : entries.map AuditEntry.sequence = List.range entries.length)
    (hlimit : 0 < limit) :
    (pageFrom entries limit start).nextCursor =
      if start + limit < entries.length then some (start + limit - 1) else none := by
  unfold pageFrom
  dsimp only
  rw [List.length_take, List.length_drop]
  by_cases hmore : start + limit < entries.length
  · have hmin : min limit (entries.length - start) = limit := by omega
    have hget : entries[start + limit - 1]? = some (entries.get ⟨start + limit - 1, by omega⟩) :=
      List.getElem?_eq_getElem (by omega)
    have hlast : ((entries.drop start).take limit).getLast? =
        some (entries.get ⟨start + limit - 1, by omega⟩) := by
      rw [List.getLast?_eq_getElem?, List.length_take, List.length_drop, hmin, List.getElem?_take,
        if_pos (by omega), List.getElem?_drop, ← hget]
      congr 1
      omega
    have hsequence := congrArg (fun l => l[start + limit - 1]?) h
    rw [List.getElem?_map, hget, Option.map_some, List.getElem?_range (by omega)] at hsequence
    rw [hmin, if_pos hmore, if_pos hmore, hlast, Option.map_some, hsequence]
  · rw [if_neg hmore, if_neg (by omega)]

lemma mem_pageFrom (h : entries.map AuditEntry.sequence = List.range entries.length)
    (hentry : entry ∈ entries) (hstart : start ≤ entry.sequence)
    (hend : entry.sequence < start + limit) : entry ∈ (pageFrom entries limit start).entries := by
  refine List.mem_of_getElem? (i := entry.sequence - start) ?_
  dsimp only [pageFrom]
  rw [List.getElem?_take, if_pos (by omega), List.getElem?_drop, Nat.add_sub_cancel' hstart]
  exact getElem?_sequence h hentry

lemma findIdx?_after (h : entries.map AuditEntry.sequence = List.range entries.length) (after : ℕ) :
    (entries.findIdx? fun entry => after < entry.sequence) =
      if after + 1 < entries.length then some (after + 1) else none := by
  have hplace : ∀ i (hi : i < entries.length), (entries.get ⟨i, hi⟩).sequence = i := by
    intro i hi
    have hget := congrArg (fun l => l[i]?) h
    simpa [hi] using hget
  by_cases hmore : after + 1 < entries.length
  · rw [if_pos hmore]
    refine List.findIdx?_eq_some_iff_getElem.mpr ⟨hmore, ?_, fun k hk => ?_⟩
    · have := hplace (after + 1) hmore
      simp only [List.get_eq_getElem] at this
      simp [this]
    · have := hplace k (by omega)
      simp only [List.get_eq_getElem] at this
      simp [this]
      omega
  · rw [if_neg hmore, List.findIdx?_eq_none_iff]
    intro entry hentry
    have := sequence_lt h hentry
    simp
    omega

lemma noSkip_pageFrom {returned : List (AuditEntry Input)}
    (h : entries.map AuditEntry.sequence = List.range entries.length) (hlimit : 0 < limit)
    (hreturned : ∀ entry ∈ entries, entry.sequence < start → entry ∈ returned) :
    NoSkip entries returned (pageFrom entries limit start) := by
  intro entry hentry hnew hend
  have hstart : start ≤ entry.sequence := by
    by_contra hlt
    exact hnew (hreturned entry hentry (by omega))
  refine mem_pageFrom h hentry hstart ?_
  rw [nextCursor_pageFrom h hlimit] at hend
  by_cases hmore : start + limit < entries.length
  · have := hend _ (if_pos hmore)
    omega
  · have := sequence_lt h hentry
    omega

end Pages

/-! ## A reader -/

/-- What can happen: an entry is appended, or the reader gets a page. -/
inductive Event (Input : Type) where
  | call (input : Input)
  | turn (attempts : ℕ → Attempt)
  | read (limit : ℕ) (limit_pos : 0 < limit)

/-- The store and a reader: the cursor it has to follow, and what the pages before it returned. -/
structure Watched (Input : Type) where
  sys : Sys Input
  cursor : Option ℕ := none
  returned : List (AuditEntry Input) := []

def Watched.page (w : Watched Input) (limit : ℕ) : AuditPage Input :=
  w.sys.state.store.list (w.cursor.map Cursor.after) limit

/-- One step.  A reader that has come to the end starts again. -/
def Watched.step (policy : AuditPolicy) (format : AuditFormat Input) (w : Watched Input) :
    Event Input → Option (Watched Input)
  | .call input => (w.sys.step policy format (.call input)).map fun sys => { w with sys }
  | .turn attempts => (w.sys.step policy format (.turn attempts)).map fun sys => { w with sys }
  | .read limit _ =>
    match (w.page limit).nextCursor with
    | none => some { sys := w.sys }
    | some next =>
      some { sys := w.sys, cursor := some next, returned := w.returned ++ (w.page limit).entries }

def Watched.run (policy : AuditPolicy) (format : AuditFormat Input) :
    List (Event Input) → Watched Input → Option (Watched Input)
  | [], w => some w
  | event :: events, w => (w.step policy format event).bind (Watched.run policy format events)

def Stays (policy : AuditPolicy) (format : AuditFormat Input) (w : Watched Input) :
    Event Input → Prop
  | .turn attempts => w.cursor ≠ none → ∀ input waiting, w.sys.waiting = input :: waiting →
    w.sys.state.store.unhealthy = none → format.accepts input = true →
    w.sys.state.store.bytes + format.lineBytes (w.sys.state.entry input (attempts 0)) ≤
      policy.maxBytes
  | _ => True

/-- All steps of a run meet the condition. -/
def StaysAlong (policy : AuditPolicy) (format : AuditFormat Input) :
    List (Event Input) → Watched Input → Prop
  | [], _ => True
  | event :: events, w =>
    Stays policy format w event ∧
      ∀ w', w.step policy format event = some w' → StaysAlong policy format events w'

structure Follows (policy : AuditPolicy) (format : AuditFormat Input) (w : Watched Input) : Prop where
  sound : Sound policy format w.sys.state
  cursor : ∀ next, w.cursor = some next → next < w.sys.state.store.entries.length ∧
    ∀ entry ∈ w.sys.state.store.entries, entry.sequence ≤ next → entry ∈ w.returned

variable {w w' : Watched Input} {limit : ℕ} {attempts : ℕ → Attempt} {events : List (Event Input)}

lemma Follows.page_eq (h : Follows policy format w) (limit : ℕ) :
    ∃ start, (∀ entry ∈ w.sys.state.store.entries, entry.sequence < start → entry ∈ w.returned) ∧
      (w.page limit = pageFrom w.sys.state.store.entries limit start ∨
        w.page limit = {} ∧ w.sys.state.store.entries.length ≤ start) := by
  cases hcursor : w.cursor with
  | none =>
    refine ⟨0, fun _ _ hlt => absurd hlt (Nat.not_lt_zero _), .inl ?_⟩
    rw [Watched.page, hcursor]
    rfl
  | some next =>
    obtain ⟨-, hreturned⟩ := h.cursor next hcursor
    refine ⟨next + 1, fun entry hentry hlt => hreturned entry hentry (by omega), ?_⟩
    rw [Watched.page, hcursor, Option.map_some, Store.list, findIdx?_after h.sound.sequences]
    by_cases hmore : next + 1 < w.sys.state.store.entries.length
    · rw [if_pos hmore]
      exact .inl rfl
    · rw [if_neg hmore]
      exact .inr ⟨rfl, by omega⟩

lemma Follows.noSkip (h : Follows policy format w) (hlimit : 0 < limit) :
    NoSkip w.sys.state.store.entries w.returned (w.page limit) := by
  obtain ⟨start, hreturned, hpage | ⟨-, hall⟩⟩ := h.page_eq limit
  · rw [hpage]
    exact noSkip_pageFrom h.sound.sequences hlimit hreturned
  · intro entry hentry hnew
    have := sequence_lt h.sound.sequences hentry
    exact absurd (hreturned entry hentry (by omega)) hnew

lemma entries_of_room {input : Input} {s s' : State Input}
    {answer : Except AppendError (AuditEntry Input)}
    (houtcome : Outcome policy format input attempts s answer s')
    (hroom : s.store.unhealthy = none → format.accepts input = true →
      s.store.bytes + format.lineBytes (s.entry input (attempts 0)) ≤ policy.maxBytes) :
    ∃ added, s'.store.entries = s.store.entries ++ added ∧
      ∀ entry ∈ added, entry.sequence = s.store.nextSequence := by
  have hnot : s.store.unhealthy = none → format.accepts input = true →
      ¬ policy.maxBytes < s.store.bytes + format.lineBytes (s.entry input (attempts 0)) :=
    fun hlatch hinput => Nat.not_lt.mpr (hroom hlatch hinput)
  cases houtcome with
  | refused _ => exact ⟨[], by simp, by simp⟩
  | invalid _ _ => exact ⟨[], by simp, by simp⟩
  | written _ _ _ =>
    obtain ⟨part, -, -, -, hentries, hanswer⟩ :=
      write_cases (s.entry input (attempts 0)) (attempts 0).writeFails s
    refine ⟨_, hentries, fun entry hentry => ?_⟩
    rcases hanswer with ⟨hok, -⟩ | ⟨cause, herror, -⟩
    · rw [hok, accepted, List.mem_singleton] at hentry
      rw [hentry]
      rfl
    · rw [herror] at hentry
      cases hentry
  | full hlatch hinput hfull _ => exact absurd hfull (hnot hlatch hinput)
  | unrotated hlatch hinput hfull _ _ => exact absurd hfull (hnot hlatch hinput)
  | tooLarge hlatch hinput hfull _ _ _ => exact absurd hfull (hnot hlatch hinput)
  | rewritten hlatch hinput hfull _ _ _ => exact absurd hfull (hnot hlatch hinput)

lemma Follows.turn (h : Follows policy format w) (hstays : Stays policy format w (.turn attempts))
    (hstep : w.step policy format (.turn attempts) = some w') : Follows policy format w' := by
  obtain ⟨sys, hsys, rfl⟩ := Option.map_eq_some_iff.mp hstep
  refine ⟨h.sound.step hsys, fun next hnext => ?_⟩
  obtain ⟨hlt, hreturned⟩ := h.cursor next hnext
  unfold Sys.step at hsys
  dsimp only at hsys
  split at hsys
  · cases hsys
    exact ⟨hlt, hreturned⟩
  · next input waiting hwaiting =>
    obtain ⟨r, hr, rfl⟩ := Option.map_eq_some_iff.mp hsys
    obtain ⟨added, hentries, hadded⟩ := entries_of_room (outcome_of_appendNow hr)
      (hstays (by rw [hnext]; exact Option.some_ne_none _) input waiting hwaiting)
    rw [hentries, List.length_append]
    refine ⟨by omega, fun entry hentry hle => ?_⟩
    rcases List.mem_append.mp hentry with hold | hnew
    · exact hreturned entry hold hle
    · have := hadded entry hnew
      have := h.sound.next
      omega

lemma Follows.read (h : Follows policy format w) (hlimit : 0 < limit)
    (hstep : w.step policy format (.read limit hlimit) = some w') : Follows policy format w' := by
  unfold Watched.step at hstep
  dsimp only at hstep
  split at hstep
  · cases hstep
    exact ⟨h.sound, fun next hnext => nomatch hnext⟩
  · next next hnext =>
    cases hstep
    refine ⟨h.sound, fun next' hnext' => ?_⟩
    cases hnext'
    obtain ⟨start, hreturned, hpage | ⟨hpage, -⟩⟩ := h.page_eq limit
    · rw [hpage, nextCursor_pageFrom h.sound.sequences hlimit] at hnext
      split at hnext
      · cases hnext
        dsimp only
        refine ⟨by omega, fun entry hentry hle => List.mem_append.mpr ?_⟩
        by_cases hbefore : entry.sequence < start
        · exact .inl (hreturned entry hentry hbefore)
        · rw [hpage]
          exact .inr (mem_pageFrom h.sound.sequences hentry (by omega) (by omega))
      · cases hnext
    · rw [hpage] at hnext
      cases hnext

lemma Follows.step {w w' : Watched Input} {event : Event Input} (h : Follows policy format w)
    (hstays : Stays policy format w event) (hstep : w.step policy format event = some w') :
    Follows policy format w' := by
  cases event with
  | call input =>
    cases hstep
    exact ⟨h.sound, h.cursor⟩
  | turn attempts => exact h.turn hstays hstep
  | read limit hlimit => exact h.read hlimit hstep

lemma Follows.run (h : Follows policy format w) (hstays : StaysAlong policy format events w)
    (hrun : Watched.run policy format events w = some w') : Follows policy format w' := by
  induction events generalizing w with
  | nil =>
    cases hrun
    exact h
  | cons event events ih =>
    obtain ⟨t, ht, hrest⟩ := Option.bind_eq_some_iff.mp hrun
    obtain ⟨hevent, hevents⟩ := hstays
    exact ih (h.step hevent ht) (hevents t ht) hrest

/-- A reader that has a cursor only while every append finds room in the active file never misses an
entry. -/
theorem noSkip_of_stays (policy : AuditPolicy) (format : AuditFormat Input) (load : Load)
    {disk : Disk} (hdisk : disk.text.length ≤ policy.maxBytes) {events : List (Event Input)}
    {w : Watched Input}
    (hstays : StaysAlong policy format events { sys := { state := construct policy format load disk } })
    (hrun : Watched.run policy format events
      { sys := { state := construct policy format load disk } } = some w)
    {limit : ℕ} (hlimit : 0 < limit) :
    NoSkip w.sys.state.store.entries w.returned (w.page limit) := by
  have hstart : Follows policy format
      { sys := { state := construct policy format load disk } } :=
    ⟨sound_construct load hdisk, fun next hnext => nomatch hnext⟩
  exact (hstart.run hstays hrun).noSkip hlimit

def readEvents : List (Event Unit) :=
  [.call (), .turn (sampleAttempts 1 none), .call (), .turn (sampleAttempts 2 none), .call (),
    .turn (sampleAttempts 3 none), .read 2 (by decide)]

def Event.isRead : Event Input → Bool
  | .read _ _ => true
  | _ => false

lemma staysAlong_of_cursor_eq_none (hcursor : w.cursor = none)
    (hreads : ∀ event ∈ events.dropLast, event.isRead = false) :
    StaysAlong policy format events w := by
  induction events generalizing w with
  | nil => trivial
  | cons event events ih =>
    refine ⟨?_, fun w' hstep => ?_⟩
    · cases event with
      | turn attempts => exact fun hne => absurd hcursor hne
      | call input => trivial
      | read limit hlimit => trivial
    · cases events with
      | nil => trivial
      | cons next rest =>
        refine ih ?_ fun event hevent => hreads event (List.mem_cons_of_mem _ hevent)
        have hevent := hreads event List.mem_cons_self
        cases event with
        | turn attempts =>
          obtain ⟨sys, -, rfl⟩ := Option.map_eq_some_iff.mp hstep
          exact hcursor
        | call input =>
          cases hstep
          exact hcursor
        | read limit hlimit => cases hevent

theorem noSkip_of_stays_sample : ∃ w,
    Watched.run samplePolicy entryFormat readEvents
      { sys := { state := construct samplePolicy entryFormat {} {} } } = some w ∧
    w.cursor = some 1 ∧ NoSkip w.sys.state.store.entries w.returned (w.page 2) := by
  have hcursor : (Watched.run samplePolicy entryFormat readEvents
      { sys := { state := construct samplePolicy entryFormat {} {} } }).map Watched.cursor =
      some (some 1) := by
    decide
  obtain ⟨w, hrun, hw⟩ := Option.map_eq_some_iff.mp hcursor
  have hstays : StaysAlong samplePolicy entryFormat readEvents
      { sys := { state := construct samplePolicy entryFormat {} {} } } :=
    staysAlong_of_cursor_eq_none rfl (by decide)
  exact ⟨w, hrun, hw, noSkip_of_stays samplePolicy entryFormat {} (by decide) hstays hrun (by decide)⟩

def rotatedEvents : List (Event Unit) :=
  readEvents ++ [.call (), .turn (sampleAttempts 4 none), .call (), .turn (sampleAttempts 5 none),
    .call (), .turn (sampleAttempts 6 none)]

/-- A reader that follows its cursor into a new file misses the first entries of it. -/
theorem skipped_after_rotation : ¬ ∀ (events : List (Event Unit)) (w : Watched Unit) (limit : ℕ),
    0 < limit →
    Watched.run samplePolicy entryFormat events
      { sys := { state := construct samplePolicy entryFormat {} {} } } = some w →
    NoSkip w.sys.state.store.entries w.returned (w.page limit) := by
  intro hall
  have hfacts : (Watched.run samplePolicy entryFormat rotatedEvents
      { sys := { state := construct samplePolicy entryFormat {} {} } }).map (fun w =>
        w.sys.state.store.entries.any fun entry =>
          entry ∉ w.returned ∧ entry ∉ (w.page 2).entries ∧ (w.page 2).nextCursor = none ∧
            (w.page 2).entries.map AuditEntry.sequence = [2]) = some true := by
    decide
  obtain ⟨w, hrun, hany⟩ := Option.map_eq_some_iff.mp hfacts
  obtain ⟨entry, hentry, hmissed⟩ := List.any_eq_true.mp hany
  obtain ⟨hnew, hpage, hcursor, -⟩ := of_decide_eq_true hmissed
  refine hpage (hall rotatedEvents w 2 (by decide) hrun entry hentry hnew ?_)
  intro next hnext
  rw [hcursor] at hnext
  cases hnext

/-! ## A reader that is not overtaken -/

def Store.pageAt (store : Store Input) (limit : ℕ) (cursor : Option ℕ) :
    Option (Page (AuditEntry Input) ℕ) :=
  let page := store.list (cursor.map Cursor.after) limit
  some ⟨page.entries, page.nextCursor⟩

lemma cursorAfter_sequence {entries : List (AuditEntry Input)} {n : ℕ}
    (h : entries.map AuditEntry.sequence = List.range entries.length) (hn : n < entries.length) :
    Page.cursorAfter AuditEntry.sequence entries (n + 1) = some n := by
  rw [Page.cursorAfter, ← List.getElem?_map, h, List.getElem?_range hn]

lemma serves_pageAt {store : Store Input} {limit : ℕ} (hlimit : 0 < limit)
    (h : store.entries.map AuditEntry.sequence = List.range store.entries.length) :
    Page.Serves (store.pageAt limit) (fun entry => [entry]) AuditEntry.sequence store.entries := by
  intro start hstart
  refine ⟨limit, ?_, fun _ => hlimit⟩
  have hlist : store.list ((Page.cursorAfter AuditEntry.sequence store.entries start).map .after)
      limit = pageFrom store.entries limit start := by
    cases start with
    | zero => rfl
    | succ n =>
      have hn : n + 1 < store.entries.length := by omega
      simp [cursorAfter_sequence h (Nat.lt_of_succ_lt hn), Store.list, findIdx?_after h, hn]
  simp only [Store.pageAt, hlist, nextCursor_pageFrom h hlimit, Page.between, List.flatMap_singleton']
  congr 2
  split
  · rename_i hmore
    have hcursor := cursorAfter_sequence (n := start + limit - 1) h (by omega)
    rw [← hcursor, Nat.sub_add_cancel (by omega)]
  · rfl

end VacancyRadar.Audit
