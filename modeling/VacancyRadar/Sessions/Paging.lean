import VacancyRadar.Data.Base64url
import VacancyRadar.Data.Pages
import VacancyRadar.Sessions.Excerpt
import VacancyRadar.Sessions.Numbers

/-!
# Reading the store page by page

`listSessions`, `listEvents` and `searchEvents` return pages.  The cursor of a page is made of the id
of a session or of the number of an event, and the next page begins after the one that is found with
it.  A search ends a page only after a whole session.
-/

namespace VacancyRadar.Sessions

open Data Data.CodePoints Data.Base64url

variable {Content : Type}

/-! ## Sessions -/

structure CursorTexts where
  idText : ℕ → String
  idText_injective : Function.Injective idText
  /-- `String` of a number. -/
  numeral : ℕ → String
  /-- `Number` of a text, if it is a natural number. -/
  number : String → Option ℕ
  number_numeral : ∀ n, number (numeral n) = some n

/-- The number of elements of a page, if no other one is asked for. -/
def defaultPageLimit : ℕ := 50

def Store.records (store : Store) : List SessionRecord :=
  (store.lineages.flatMap Lineage.sessions).map Session.record

/-- The order of the listing: newest first, and by id at the same time.  Ids are numbered as
`localeCompare` orders them. -/
def SessionRecord.NewestFirst (a b : SessionRecord) : Prop :=
  b.startedAt < a.startedAt ∨ a.startedAt = b.startedAt ∧ a.id ≤ b.id

instance decidableNewestFirst : DecidableRel SessionRecord.NewestFirst := fun a b =>
  inferInstanceAs (Decidable (b.startedAt < a.startedAt ∨ a.startedAt = b.startedAt ∧ a.id ≤ b.id))

def Store.allRecordsNewestFirst (store : Store) : List SessionRecord :=
  store.records.insertionSort SessionRecord.NewestFirst

section Reading

variable (texts : CursorTexts)

def sessionCursor (record : SessionRecord) : String := encodeCursor (texts.idText record.id)

def isSessionOf (cursor : String) (record : SessionRecord) : Bool :=
  texts.idText record.id == decodeCursor cursor

/-- `listSessions`; none if the cursor is refused. -/
def listSessions (store : Store) (cursor : Option String) (limit : Option ℕ) :
    Option (Page SessionRecord String) :=
  let all := store.allRecordsNewestFirst
  (Page.startAt (isSessionOf texts) all cursor).map
    (Page.slice (sessionCursor texts) all (limit.getD defaultPageLimit))

/-! ## Events -/

variable (format : Format Content)

def readEventLog (disk : Disk) (rootId sessionId : ℕ) : List (EventRecord Content) :=
  ((disk.files? rootId sessionId).map fun s => format.code.read s.log).getD []

def eventCursor (event : EventRecord Content) : String := encodeCursor (texts.numeral event.sequence)

def isEventOf (cursor : String) (event : EventRecord Content) : Bool :=
  texts.number (decodeCursor cursor) == some event.sequence

def listEvents (store : Store) (disk : Disk) (sessionId : ℕ) (cursor : Option String)
    (limit : Option ℕ) : Option (Page (EventRecord Content) String) :=
  match store.locate sessionId with
  | none => some { items := [], nextCursor := none }
  | some (rootId, _) =>
    let events := readEventLog format disk rootId sessionId
    (Page.startAt (isEventOf texts) events cursor).map
      (Page.slice (eventCursor texts) events (limit.getD defaultPageLimit))

/-! ## Search -/

structure Plaintext where
  status : List ℕ
  toolName : Option (List ℕ)
  code : Option (List ℕ)
  limitId : Option (List ℕ)
  limitName : Option (List ℕ)

/-- `SessionSearchMatch`; the event that recovery appends has no other type. -/
structure SessionSearchMatch where
  sessionId : ℕ
  sequence : ℕ
  eventType : Option AgentEventType
  field : String
  excerpt : List ℕ

def maxSearchMatches : ℕ := 50

def maxSessionsScannedPerSearch : ℕ := 200

def EventBody.agentType : EventBody Content → Option AgentEventType
  | agent type _ => some type
  | interrupted => none

variable (plaintext : Content → Plaintext) (casing : Casing)

def searchableFields (event : EventRecord Content) : List (String × List ℕ) :=
  match event.body with
  | .interrupted => []
  | .agent type content =>
    let fields := plaintext content
    match type with
    | .status => [("status", fields.status)]
    | .toolStarted | .toolCompleted => (fields.toolName.map fun text => ("toolName", text)).toList
    | .error => (fields.code.map fun text => ("code", text)).toList
    | .usageRateLimits =>
      (fields.limitId.map fun text => ("limitId", text)).toList ++
        (fields.limitName.map fun text => ("limitName", text)).toList
    | _ => []

def matchOf (needle : List ℕ) (sessionId : ℕ) (event : EventRecord Content) :
    Option SessionSearchMatch :=
  ((searchableFields plaintext event).find? fun f => needle <:+: casing.lower f.2).map fun f =>
    { sessionId, sequence := event.sequence, eventType := event.body.agentType, field := f.1
      excerpt := buildExcerpt casing f.2 needle }

def matchesOf (disk : Disk) (needle : List ℕ) (record : SessionRecord) : List SessionSearchMatch :=
  (readEventLog format disk record.rootSessionId record.id).filterMap
    (matchOf plaintext casing needle record.id)

/-- The loop of the search: what was found, and after how many elements there was enough. -/
def scanUntil {α β : Type} (limit : ℕ) (f : β → List α) : ℕ → List α → List β → List α × Option ℕ
  | _, found, [] => (found, none)
  | n, found, b :: rest =>
    if limit ≤ (found ++ f b).length then (found ++ f b, some (n + 1))
    else scanUntil limit f (n + 1) (found ++ f b) rest

def searchEvents (store : Store) (disk : Disk) (query : List ℕ) (cursor : Option String)
    (limit : Option ℕ) : Option (Page SessionSearchMatch String) :=
  let all := store.allRecordsNewestFirst
  (Page.startAt (isSessionOf texts) all cursor).map fun start =>
    let stop := min all.length (start + maxSessionsScannedPerSearch)
    let scanned := scanUntil (min (limit.getD maxSearchMatches) maxSearchMatches)
      (matchesOf format plaintext casing disk (casing.lower query)) 0 [] ((all.take stop).drop start)
    let last := (scanned.2.map fun n => start + n).getD stop
    { items := scanned.1
      nextCursor := if last < all.length then all[last - 1]?.map (sessionCursor texts) else none }

end Reading

/-! ## The order of the listing -/

instance totalNewestFirst : Std.Total SessionRecord.NewestFirst :=
  ⟨fun a b => by unfold SessionRecord.NewestFirst; omega⟩

instance transNewestFirst : IsTrans SessionRecord SessionRecord.NewestFirst :=
  ⟨fun a b c => by unfold SessionRecord.NewestFirst; omega⟩

lemma perm_allRecordsNewestFirst (store : Store) : store.allRecordsNewestFirst.Perm store.records :=
  List.perm_insertionSort _ _

lemma pairwise_allRecordsNewestFirst (store : Store) :
    store.allRecordsNewestFirst.Pairwise SessionRecord.NewestFirst := List.pairwise_insertionSort _ _

lemma Distinct.nodup_ids {store : Store} (h : Distinct store) :
    (store.allRecordsNewestFirst.map SessionRecord.id).Nodup := by
  refine ((perm_allRecordsNewestFirst store).map _).nodup_iff.mpr ?_
  rw [Store.records, List.map_map, List.map_flatMap]
  exact h.ids

/-! ## Places of cursors -/

section Places

variable (texts : CursorTexts)

lemma isSessionOf_sessionCursor (a b : SessionRecord) :
    isSessionOf texts (sessionCursor texts a) b = true ↔ b.id = a.id := by
  rw [isSessionOf, sessionCursor, decodeCursor_encodeCursor, beq_iff_eq]
  exact texts.idText_injective.eq_iff

lemma isEventOf_eventCursor (a b : EventRecord Content) :
    isEventOf texts (eventCursor texts a) b = true ↔ b.sequence = a.sequence := by
  rw [isEventOf, eventCursor, decodeCursor_encodeCursor, texts.number_numeral, beq_iff_eq,
    Option.some.injEq, eq_comm]

lemma located_sessions {store : Store} (h : Distinct store) :
    Page.Located (isSessionOf texts) (sessionCursor texts) store.allRecordsNewestFirst := by
  refine Page.located_of_nodup ?_ (isSessionOf_sessionCursor texts)
  exact h.nodup_ids.sublist ((List.dropLast_sublist _).map _)

lemma located_events {events : List (EventRecord Content)}
    (h : (events.dropLast.map EventRecord.sequence).Nodup) :
    Page.Located (isEventOf texts) (eventCursor texts) events :=
  Page.located_of_nodup h (isEventOf_eventCursor texts)

end Places

/-! ## The pages of a search -/

lemma scanUntil_spec {α β : Type} (limit : ℕ) (f : β → List α) (n : ℕ) (found : List α) (l : List β) :
    ∃ k ≤ l.length, (scanUntil limit f n found l).1 = found ++ (l.take k).flatMap f ∧
      ((scanUntil limit f n found l).2 = some (n + k) ∧ 0 < k ∨
        (scanUntil limit f n found l).2 = none ∧ k = l.length) := by
  induction l generalizing n found with
  | nil => exact ⟨0, Nat.le_refl _, by simp [scanUntil], .inr ⟨rfl, rfl⟩⟩
  | cons b rest ih =>
    rw [scanUntil]
    split
    · exact ⟨1, Nat.succ_le_succ (Nat.zero_le _), by simp, .inl ⟨rfl, Nat.one_pos⟩⟩
    · obtain ⟨k, hk, hfound, hend⟩ := ih (n + 1) (found ++ f b)
      refine ⟨k + 1, Nat.succ_le_succ hk, ?_, ?_⟩
      · rw [hfound, List.take_succ_cons, List.flatMap_cons, List.append_assoc]
      · rcases hend with ⟨hsome, -⟩ | ⟨hnone, hall⟩
        · exact .inl ⟨by rw [hsome]; congr 1; omega, Nat.succ_pos k⟩
        · exact .inr ⟨hnone, congrArg (· + 1) hall⟩

section Search

variable {texts : CursorTexts} {format : Format Content} {plaintext : Content → Plaintext}
  {casing : Casing} {store : Store} {disk : Disk}

lemma serves_searchEvents (h : Distinct store) (query : List ℕ) (limit : Option ℕ) :
    Page.Serves
      (fun cursor => searchEvents texts format plaintext casing store disk query cursor limit)
      (matchesOf format plaintext casing disk (casing.lower query)) (sessionCursor texts)
      store.allRecordsNewestFirst := by
  intro start hstart
  dsimp only [searchEvents]
  rw [(located_sessions texts h).startAt hstart, Option.map_some]
  generalize store.allRecordsNewestFirst = all at hstart
  generalize matchesOf format plaintext casing disk (casing.lower query) = f
  generalize hstop : min all.length (start + maxSessionsScannedPerSearch) = stop
  obtain ⟨k, hk, hfound, hend⟩ := scanUntil_spec (min (limit.getD maxSearchMatches) maxSearchMatches) f
    0 [] ((all.take stop).drop start)
  generalize scanUntil _ f 0 [] _ = scanned at hfound hend
  have hlength : ((all.take stop).drop start).length = stop - start := by
    rw [List.length_drop, List.length_take]
    omega
  have hbound : maxSessionsScannedPerSearch = 200 := rfl
  have hlast : (scanned.2.map fun n => start + n).getD stop = start + k := by
    rcases hend with ⟨hsome, -⟩ | ⟨hnone, hall⟩
    · rw [hsome, Option.map_some, Option.getD_some, Nat.zero_add]
    · rw [hnone, Option.map_none, Option.getD_none]
      omega
  have hprogress : start + k < all.length → 0 < k := by
    rcases hend with ⟨-, hpos⟩ | ⟨-, hall⟩
    · exact fun _ => hpos
    · omega
  refine ⟨k, ?_, hprogress⟩
  have hitems : scanned.1 = ((all.drop start).take k).flatMap f := by
    rw [hfound, List.nil_append, List.drop_take, List.take_take, Nat.min_eq_left (hlength ▸ hk)]
  rw [hlast, hitems, Page.between]
  refine congrArg (fun next => some (Page.mk _ next)) ?_
  by_cases hmore : start + k < all.length
  · obtain ⟨n, hn⟩ : ∃ n, start + k = n + 1 := ⟨start + k - 1, by have := hprogress hmore; omega⟩
    rw [if_pos hmore, if_pos hmore, hn, Page.cursorAfter, Nat.add_sub_cancel]
  · rw [if_neg hmore, if_neg hmore]

end Search

/-! ## Complete readings -/

def storedEvents (format : Format Content) (store : Store) (disk : Disk) (sessionId : ℕ) :
    List (EventRecord Content) :=
  match store.locate sessionId with
  | none => []
  | some (rootId, _) => readEventLog format disk rootId sessionId

structure ReadsAll (texts : CursorTexts) (format : Format Content) (store : Store) (disk : Disk)
    (limit : Option ℕ) : Prop where
  records : store.allRecordsNewestFirst.Perm store.records
  order : store.allRecordsNewestFirst.Pairwise SessionRecord.NewestFirst
  once : (store.allRecordsNewestFirst.map SessionRecord.id).Nodup
  sessions : Page.Complete (fun cursor => listSessions texts store cursor limit)
    store.allRecordsNewestFirst
  events : ∀ sessionId, Page.Complete
    (fun cursor => listEvents texts format store disk sessionId cursor limit)
    (storedEvents format store disk sessionId)
  search : ∀ (plaintext : Content → Plaintext) (casing : Casing) (query : List ℕ), Page.Complete
    (fun cursor => searchEvents texts format plaintext casing store disk query cursor limit)
    (store.allRecordsNewestFirst.flatMap
      (matchesOf format plaintext casing disk (casing.lower query)))

lemma nodup_readEventLog {format : Format Content} {used : List ℕ} {live : List (ℕ × ℕ)} {d₀ : Disk}
    {j : Job} (h : (orderInvariants format used live).Good d₀ j) {root id : ℕ} {m : Session}
    (hlocate : j.store.locate id = some (root, m)) :
    ((readEventLog format j.disk root id).dropLast.map EventRecord.sequence).Nodup := by
  obtain ⟨dir, hdir, rfl, s, hs, rfl⟩ := h.exists_files (session?_of_locate hlocate)
  rw [readEventLog, h.files?_eq hdir hs]
  exact LogOrdered.read (h.sound.files dir hdir s hs)

/-- **Paging loses and repeats nothing**, in every state that the daemon reaches. -/
theorem readsAll_run {format : Format Content} {policy : RetentionPolicy} (texts : CursorTexts)
    (moves : List (Move Content)) {up : Up} (h : (Daemon.run format policy moves).up = some up)
    {limit : Option ℕ} (hlimit : 0 < limit.getD defaultPageLimit) :
    ReadsAll texts format up.store (Daemon.run format policy moves).disk limit := by
  have hinv := orderInv_run format policy moves
  unfold OrderInv at hinv
  rw [h] at hinv
  obtain ⟨-, hgood⟩ := hinv
  generalize (Daemon.run format policy moves).disk = disk at hgood
  constructor
  · exact perm_allRecordsNewestFirst up.store
  · exact pairwise_allRecordsNewestFirst up.store
  · exact hgood.distinct.nodup_ids
  · have hserves := (located_sessions texts hgood.distinct).serves hlimit
    have hcomplete := hserves.complete
    rwa [List.flatMap_singleton'] at hcomplete
  · intro id
    unfold listEvents storedEvents
    cases hlocate : up.store.locate id with
    | none => exact ⟨1, [[]], rfl, rfl⟩
    | some found =>
      obtain ⟨root, m⟩ := found
      have hlocated := located_events texts (nodup_readEventLog hgood hlocate)
      have hcomplete := (hlocated.serves hlimit).complete
      rwa [List.flatMap_singleton'] at hcomplete
  · intro plaintext casing query
    exact (serves_searchEvents hgood.distinct query limit).complete

lemma ofList_toDigits_injective : Function.Injective fun n => String.ofList (Nat.toDigits 10 n) := by
  intro n n' h
  have hdigits : Nat.toDigits 10 n = Nat.toDigits 10 n' := String.ofList_injective h
  have hnumber := congrArg (fun l => Nat.ofDigitChars 10 l 0) hdigits
  simpa using hnumber

lemma number_ofList_toDigits (n : ℕ) :
    (if String.ofList (Nat.toDigits 10 n) ≠ "" ∧
        (String.ofList (Nat.toDigits 10 n)).toList.all Char.isDigit then
      some (Nat.ofDigitChars 10 (String.ofList (Nat.toDigits 10 n)).toList 0) else none) = some n := by
  rw [String.toList_ofList, if_pos, Nat.ofDigitChars_ten_toDigits]
  refine ⟨fun hempty => ?_, List.all_eq_true.mpr fun c hc => ?_⟩
  · have hlist := congrArg String.toList hempty
    rw [String.toList_ofList] at hlist
    exact absurd (congrArg List.length hlist) (Nat.ne_of_gt Nat.length_toDigits_pos)
  · exact Nat.isDigit_of_mem_toDigits (by decide) (by decide) hc

def decimalTexts : CursorTexts where
  idText n := .ofList (Nat.toDigits 10 n)
  idText_injective := ofList_toDigits_injective
  numeral n := .ofList (Nat.toDigits 10 n)
  number text :=
    if text ≠ "" ∧ text.toList.all Char.isDigit then some (Nat.ofDigitChars 10 text.toList 0) else none
  number_numeral := number_ofList_toDigits

theorem readsAll_run_sample : ∃ up, (Daemon.run textFormat {} sampleMoves).up = some up ∧
    ReadsAll decimalTexts textFormat up.store (Daemon.run textFormat {} sampleMoves).disk (some 1) := by
  have hrun : (Daemon.run textFormat {} sampleMoves).up.isSome = true := by decide +kernel
  obtain ⟨up, hup⟩ := Option.isSome_iff_exists.mp hrun
  exact ⟨up, hup, readsAll_run decimalTexts sampleMoves hup (by decide)⟩

end VacancyRadar.Sessions
