import Mathlib.Algebra.Order.Ring.Rat
import VacancyRadar.Data.Json
import VacancyRadar.Sessions.Disk

/-!
# The schema preflight

Before the constructor of the store touches the directory, it looks for a version that it does not
know, in the documents and at the beginning of the event logs.  What it lets through is read, repaired
and quarantined by the steps after it.
-/

namespace VacancyRadar.Sessions

open Data

/-! ## The state directory -/

inductive Node where
  | file (text : List UInt8)
  | dir (entries : List (String × Node))

def Node.text? : Node → Option (List UInt8)
  | file text => some text
  | dir _ => none

/-- The directory of the store as it is found. -/
structure StateDir where
  manifest : Option Node := none
  lineages : Option Node := none
  tombstones : Option Node := none
  trash : Option Node := none
  /-- The other entries. -/
  others : List (String × Node) := []

def endsWith (name ending : String) : Bool := ending.toList <:+ name.toList

def preflightLogProbeBytes : ℕ := 64 * 1024

def preflightLogProbeLines : ℕ := 256

/-- The `v` of a line in `persistedEventRecordV1Schema`. -/
def logLineVersion : ℕ := 1

def preflightMaxDepth : ℕ := 8

def textLines (text : List UInt8) : List (List UInt8) := text.splitOn 10

def tryReadLeadingLines (text : List UInt8) : List (List UInt8) :=
  let read := text.take preflightLogProbeBytes
  let lines := textLines read
  (if read.length = preflightLogProbeBytes then lines.dropLast else lines).take
    preflightLogProbeLines

/-! ## Collecting candidates -/

/-- A file that is looked at: one JSON document, or lines of JSON. -/
inductive Candidate where
  | object (path : List String) (node : Node)
  | log (path : List String) (text : List UInt8)

def isLogFile (dir name : String) : Bool :=
  endsWith name ".jsonl" || dir == "events" && endsWith name ".tmp"

def isDocumentFile (name : String) : Bool := endsWith name ".json" || endsWith name ".tmp"

def classify (path : List String) (dir name : String) (text : List UInt8) : List Candidate :=
  if isLogFile dir name then [.log path text]
  else if isDocumentFile name then [.object path (.file text)]
  else []

/-- `collect`: so many levels of directories are walked. -/
def collect : ℕ → List String → String → List (String × Node) → List Candidate
  | 0, _, _, _ => []
  | left + 1, path, dir, entries => entries.flatMap fun entry =>
    match entry.2 with
    | .dir inner => collect left (path ++ [entry.1]) entry.1 inner
    | .file text => classify (path ++ [entry.1]) dir entry.1 text

inductive StoreError where
  /-- `UnsupportedStateSchemaVersionError`. -/
  | unsupportedStateSchemaVersion (foundVersion : ℚ) (path : List String)
  /-- `ENOTDIR`. -/
  | notADirectory (path : List String)
  | other (message : String)

def safeReaddir (path : List String) : Option Node → Except StoreError (List (String × Node))
  | none => .ok []
  | some (.dir entries) => .ok entries
  | some (.file _) => .error (.notADirectory path)

/-- The lineages in a directory are walked. -/
def collectEach (parent : String) : List (String × Node) → Except StoreError (List Candidate)
  | [] => .ok []
  | entry :: rest => do
    let inner ← safeReaddir [parent, entry.1] (some entry.2)
    let more ← collectEach parent rest
    return collect preflightMaxDepth [parent, entry.1] entry.1 inner ++ more

def namedIn (path : List String) (p : String → Bool) (entries : List (String × Node)) :
    List Candidate :=
  (entries.filter fun entry => p entry.1).map fun entry => .object (path ++ [entry.1]) entry.2

def candidates (s : StateDir) : Except StoreError (List Candidate) := do
  let lineages ← safeReaddir ["lineages"] s.lineages
  let live ← collectEach "lineages" lineages
  let tombstones ← safeReaddir ["tombstones"] s.tombstones
  let trash ← safeReaddir [".trash"] s.trash
  let trashed ← collectEach ".trash" trash
  return (s.manifest.map fun node => Candidate.object ["manifest.json"] node).toList ++
    namedIn [] (endsWith · ".tmp") s.others ++ live ++
    namedIn ["tombstones"] isDocumentFile tombstones ++ trashed

/-! ## Versions -/

section

-- `JSON.parse` of the text that some bytes stand for
variable (parse : List UInt8 → Option Json)

def declared (key : String) (text : List UInt8) : Option ℚ :=
  match Json.num? (Json.property key (parse text)) with
  | some (.finite version) => some version
  | _ => none

def above (bound : ℚ) (version : Option ℚ) : Option ℚ := version.filter (bound < ·)

def newerObject : Candidate → Option (ℚ × List String)
  | .object path node =>
    (above persistedSchemaVersion (node.text?.bind (declared parse "schemaVersion"))).map (·, path)
  | .log _ _ => none

def newerLine : Candidate → Option (ℚ × List String)
  | .object _ _ => none
  | .log path text =>
    ((tryReadLeadingLines text).findSome? fun line =>
      above persistedSchemaVersion (declared parse "v" line)).map (·, path)

def preflightSchemaVersions (s : StateDir) : Except StoreError Unit := do
  let found ← candidates s
  match (found.findSome? (newerObject parse)).or (found.findSome? (newerLine parse)) with
  | some (version, path) => throw (.unsupportedStateSchemaVersion version path)
  | none => return ()

def constructStore (rest : StateDir → Except String Unit × StateDir) (s : StateDir) :
    Except StoreError Unit × StateDir :=
  match preflightSchemaVersions parse s with
  | .error e => (.error e, s)
  | .ok () => ((rest s).1.mapError .other, (rest s).2)

end

/-! ## What the directory holds -/

/-- A file, and the directory in which it stands: the one that is given, or one that lies within it,
as deep as the preflight goes. -/
inductive Holds : ℕ → String → List (String × Node) → String → String → List UInt8 → Prop
  | here {left : ℕ} {dir : String} {entries : List (String × Node)} {name : String}
      {text : List UInt8} : (name, .file text) ∈ entries → Holds (left + 1) dir entries dir name text
  | within {left : ℕ} {dir name : String} {entries inner : List (String × Node)}
      {dir' name' : String} {text : List UInt8} : (name, .dir inner) ∈ entries →
      Holds left name inner dir' name' text → Holds (left + 1) dir entries dir' name' text

def StateDir.HasLineage (s : StateDir) (name : String) (inner : List (String × Node)) : Prop :=
  ∃ entries, (s.lineages = some (.dir entries) ∨ s.trash = some (.dir entries)) ∧
    (name, .dir inner) ∈ entries

inductive StateDir.Document (s : StateDir) : List UInt8 → Prop
  | manifest {text : List UInt8} : s.manifest = some (.file text) → s.Document text
  | temp {name : String} {text : List UInt8} : (name, .file text) ∈ s.others →
      endsWith name ".tmp" = true → s.Document text
  | tombstone {entries : List (String × Node)} {name : String} {text : List UInt8} :
      s.tombstones = some (.dir entries) → (name, .file text) ∈ entries →
      isDocumentFile name = true → s.Document text
  | lineage {root : String} {inner : List (String × Node)} {dir name : String} {text : List UInt8} :
      s.HasLineage root inner → Holds preflightMaxDepth root inner dir name text →
      isLogFile dir name = false → isDocumentFile name = true → s.Document text

def StateDir.Log (s : StateDir) (text : List UInt8) : Prop :=
  ∃ root inner dir name, s.HasLineage root inner ∧
    Holds preflightMaxDepth root inner dir name text ∧ isLogFile dir name = true

def StateDir.Newer (parse : List UInt8 → Option Json) (lineVersion : ℚ) (s : StateDir) : Prop :=
  (∃ text version, s.Document text ∧ declared parse "schemaVersion" text = some version ∧
    persistedSchemaVersion < version) ∨
  ∃ text line version, s.Log text ∧ line ∈ tryReadLeadingLines text ∧
    declared parse "v" line = some version ∧ lineVersion < version

/-- Everything that should be a directory is one. -/
structure StateDir.Walkable (s : StateDir) : Prop where
  lineages : ∀ text, s.lineages ≠ some (.file text)
  tombstones : ∀ text, s.tombstones ≠ some (.file text)
  trash : ∀ text, s.trash ≠ some (.file text)
  entries : ∀ entries, s.lineages = some (.dir entries) ∨ s.trash = some (.dir entries) →
    ∀ name text, (name, .file text) ∉ entries

/-! ## The walk -/

variable {path : List String} {dir : String} {c : Candidate} {node : Option Node} {s : StateDir}
  {found : List Candidate}

variable {left : ℕ} {entries : List (String × Node)} {name : String} {text : List UInt8}

lemma mem_collect : c ∈ collect left path dir entries →
      ∃ dir' name text path', Holds left dir entries dir' name text ∧
        c ∈ classify path' dir' name text := by
  induction left generalizing path dir entries with
  | zero => exact fun h => absurd h List.not_mem_nil
  | succ left ih =>
    intro h
    obtain ⟨⟨name, node⟩, hentry, hc⟩ := List.mem_flatMap.mp h
    cases node with
    | file text => exact ⟨dir, name, text, _, .here hentry, hc⟩
    | dir inner =>
      obtain ⟨dir', name', text, path', hholds, hc'⟩ := ih hc
      exact ⟨dir', name', text, path', .within hentry hholds, hc'⟩

lemma exists_mem_collect {dir' : String} (h : Holds left dir entries dir' name text)
    (path : List String) :
    ∃ path', ∀ c ∈ classify path' dir' name text, c ∈ collect left path dir entries := by
  induction h generalizing path with
  | here hentry => exact ⟨_, fun c hc => List.mem_flatMap.mpr ⟨_, hentry, hc⟩⟩
  | within hentry _ ih =>
    obtain ⟨path', hall⟩ := ih _
    exact ⟨path', fun c hc => List.mem_flatMap.mpr ⟨_, hentry, hall c hc⟩⟩

lemma mem_classify : c ∈ classify path dir name text ↔
      isLogFile dir name = true ∧ c = .log path text ∨
        isLogFile dir name = false ∧ isDocumentFile name = true ∧ c = .object path (.file text) := by
  unfold classify
  cases isLogFile dir name with
  | true => simp
  | false =>
    cases isDocumentFile name with
    | true => simp
    | false => simp

def entriesOf : Option Node → List (String × Node)
  | some (.dir entries) => entries
  | _ => []

lemma mem_entriesOf {entry : String × Node} :
    entry ∈ entriesOf node ↔ ∃ entries, node = some (.dir entries) ∧ entry ∈ entries := by
  cases node with
  | none => simp [entriesOf]
  | some node => cases node <;> simp [entriesOf]

lemma safeReaddir_eq_ok (h : ∀ text, node ≠ some (.file text)) : safeReaddir path node = .ok (entriesOf node):= by
  cases node with
  | none => rfl
  | some node =>
    cases node with
    | file text => exact absurd rfl (h text)
    | dir entries => rfl

lemma exists_collectEach (parent : String) (h : ∀ name text, (name, .file text) ∉ entries) :
    ∃ found, collectEach parent entries = .ok found ∧ ∀ c, c ∈ found ↔ ∃ name inner,
      (name, .dir inner) ∈ entries ∧ c ∈ collect preflightMaxDepth [parent, name] name inner := by
  induction entries with
  | nil => exact ⟨[], rfl, by simp⟩
  | cons entry rest ih =>
    obtain ⟨more, hmore, hmem⟩ := ih fun name text hin => h name text (List.mem_cons_of_mem _ hin)
    obtain ⟨name, node⟩ := entry
    cases node with
    | file text => exact absurd List.mem_cons_self (h name text)
    | dir inner =>
      refine ⟨_, by rw [collectEach, safeReaddir, hmore]; rfl, fun c => ?_⟩
      rw [List.mem_append, hmem]
      constructor
      · rintro (hc | ⟨name', inner', hin, hc⟩)
        · exact ⟨name, inner, List.mem_cons_self, hc⟩
        · exact ⟨name', inner', List.mem_cons_of_mem _ hin, hc⟩
      · rintro ⟨name', inner', hin, hc⟩
        rcases List.mem_cons.mp hin with heq | hrest
        · obtain ⟨rfl, hnode⟩ := Prod.mk.inj heq
          obtain rfl := Node.dir.inj hnode
          exact .inl hc
        · exact .inr ⟨name', inner', hrest, hc⟩

lemma safeReaddir_cases (path : List String) (node : Option Node) :
    (∃ text, node = some (.file text) ∧ safeReaddir path node = .error (.notADirectory path)) ∨
      (∀ text, node ≠ some (.file text)) ∧ safeReaddir path node = .ok (entriesOf node) := by
  rcases node with _ | (text | entries)
  · exact .inr ⟨fun text h => Option.some_ne_none _ h.symm, rfl⟩
  · exact .inl ⟨text, rfl, rfl⟩
  · exact .inr ⟨fun text h => Node.noConfusion (Option.some.inj h), rfl⟩

lemma collectEach_cases (parent : String) (entries : List (String × Node)) :
    (∃ name text path, (name, .file text) ∈ entries ∧
        collectEach parent entries = .error (.notADirectory path)) ∨
      (∀ name text, (name, .file text) ∉ entries) ∧
        ∃ found, collectEach parent entries = .ok found := by
  by_cases h : ∀ name text, (name, Node.file text) ∉ entries
  · obtain ⟨found, hfound, -⟩ := exists_collectEach parent h
    exact .inr ⟨h, found, hfound⟩
  · push Not at h
    obtain ⟨name, text, hin⟩ := h
    refine .inl ⟨name, text, ?_⟩
    induction entries with
    | nil => cases hin
    | cons entry rest ih =>
      obtain ⟨name', node⟩ := entry
      cases node with
      | file text' => exact ⟨[parent, name'], hin, rfl⟩
      | dir inner =>
        rcases List.mem_cons.mp hin with heq | hrest
        · cases (Prod.mk.inj heq).2
        · obtain ⟨path, -, hpath⟩ := ih hrest
          refine ⟨path, hin, ?_⟩
          rw [collectEach, safeReaddir, hpath]
          rfl

lemma exists_candidates (h : s.Walkable) : ∃ live trashed,
    candidates s = .ok ((s.manifest.map fun node => Candidate.object ["manifest.json"] node).toList ++
      namedIn [] (endsWith · ".tmp") s.others ++ live ++
      namedIn ["tombstones"] isDocumentFile (entriesOf s.tombstones) ++ trashed) ∧
    (∀ c, c ∈ live ↔ ∃ name inner, (name, .dir inner) ∈ entriesOf s.lineages ∧
      c ∈ collect preflightMaxDepth ["lineages", name] name inner) ∧
    ∀ c, c ∈ trashed ↔ ∃ name inner, (name, .dir inner) ∈ entriesOf s.trash ∧
      c ∈ collect preflightMaxDepth [".trash", name] name inner := by
  have hfiles : ∀ node, s.lineages = node ∨ s.trash = node →
      ∀ name text, (name, .file text) ∉ entriesOf node := by
    rintro node hnode name text hin
    obtain ⟨entries, rfl, hentry⟩ := mem_entriesOf.mp hin
    exact h.entries entries hnode name text hentry
  obtain ⟨live, hlive, hmemLive⟩ := exists_collectEach "lineages" (hfiles _ (.inl rfl))
  obtain ⟨trashed, htrashed, hmemTrashed⟩ := exists_collectEach ".trash" (hfiles _ (.inr rfl))
  refine ⟨live, trashed, ?_, hmemLive, hmemTrashed⟩
  rw [candidates, safeReaddir_eq_ok h.lineages, safeReaddir_eq_ok h.tombstones,
    safeReaddir_eq_ok h.trash]
  simp only [bind, Except.bind, hlive, htrashed]
  rfl

lemma mem_namedIn {p : String → Bool} : c ∈ namedIn path p entries ↔
      ∃ name node, (name, node) ∈ entries ∧ p name = true ∧ c = .object (path ++ [name]) node := by
  simp only [namedIn, List.mem_map, List.mem_filter, Prod.exists, and_assoc, eq_comm]

structure Covers (s : StateDir) (found : List Candidate) : Prop where
  documents : ∀ text, s.Document text ↔ ∃ path, .object path (.file text) ∈ found
  logs : ∀ text, s.Log text ↔ ∃ path, .log path text ∈ found

lemma hasLineage_iff {inner : List (String × Node)} : s.HasLineage name inner ↔
      (name, .dir inner) ∈ entriesOf s.lineages ∨ (name, .dir inner) ∈ entriesOf s.trash := by
  simp only [StateDir.HasLineage, mem_entriesOf, or_and_right, exists_or]

lemma exists_object_mem_collect :
    (∃ path', .object path' (.file text) ∈ collect left path dir entries) ↔
      ∃ dir' name, Holds left dir entries dir' name text ∧ isLogFile dir' name = false ∧
        isDocumentFile name = true := by
  constructor
  · rintro ⟨path', h⟩
    obtain ⟨dir', name, text', path'', hholds, hc⟩ := mem_collect h
    rcases mem_classify.mp hc with ⟨-, heq⟩ | ⟨hlog, hdoc, heq⟩
    · cases heq
    · obtain ⟨-, heq⟩ := Candidate.object.inj heq
      obtain rfl := Node.file.inj heq
      exact ⟨dir', name, hholds, hlog, hdoc⟩
  · rintro ⟨dir', name, hholds, hlog, hdoc⟩
    obtain ⟨path', hall⟩ := exists_mem_collect hholds path
    exact ⟨path', hall _ (mem_classify.mpr (.inr ⟨hlog, hdoc, rfl⟩))⟩

lemma exists_log_mem_collect : (∃ path', .log path' text ∈ collect left path dir entries) ↔
      ∃ dir' name, Holds left dir entries dir' name text ∧ isLogFile dir' name = true := by
  constructor
  · rintro ⟨path', h⟩
    obtain ⟨dir', name, text', path'', hholds, hc⟩ := mem_collect h
    rcases mem_classify.mp hc with ⟨hlog, heq⟩ | ⟨-, -, heq⟩
    · obtain ⟨-, rfl⟩ := Candidate.log.inj heq
      exact ⟨dir', name, hholds, hlog⟩
    · cases heq
  · rintro ⟨dir', name, hholds, hlog⟩
    obtain ⟨path', hall⟩ := exists_mem_collect hholds path
    exact ⟨path', hall _ (mem_classify.mpr (.inl ⟨hlog, rfl⟩))⟩

/-- If all directories can be read, the preflight looks at every document and every log. -/
theorem exists_covers (h : s.Walkable) : ∃ found, candidates s = .ok found ∧ Covers s found:= by
  obtain ⟨live, trashed, hfound, hlive, htrashed⟩ := exists_candidates h
  refine ⟨_, hfound, fun text => ⟨fun hdoc => ?_, ?_⟩, fun text => ⟨fun hlog => ?_, ?_⟩⟩
  · cases hdoc with
    | manifest hman =>
      exact ⟨["manifest.json"], by simp [hman]⟩
    | temp hin hname =>
      exact ⟨_, by simp only [List.mem_append, mem_namedIn]; exact .inl (.inl (.inl (.inr
        ⟨_, _, hin, hname, rfl⟩)))⟩
    | tombstone hdir hin hname =>
      exact ⟨_, by simp only [List.mem_append, mem_namedIn]; exact .inl (.inr
        ⟨_, _, mem_entriesOf.mpr ⟨_, hdir, hin⟩, hname, rfl⟩)⟩
    | lineage hroot hholds hlog hname =>
      rcases hasLineage_iff.mp hroot with hin | hin
      · obtain ⟨path, hmem⟩ := exists_object_mem_collect.mpr ⟨_, _, hholds, hlog, hname⟩
        exact ⟨path, by simp only [List.mem_append]; exact .inl (.inl (.inr
          ((hlive _).mpr ⟨_, _, hin, hmem⟩)))⟩
      · obtain ⟨path, hmem⟩ := exists_object_mem_collect.mpr ⟨_, _, hholds, hlog, hname⟩
        exact ⟨path, by simp only [List.mem_append]; exact .inr ((htrashed _).mpr ⟨_, _, hin, hmem⟩)⟩
  · rintro ⟨path, hmem⟩
    simp only [List.mem_append, mem_namedIn, hlive, htrashed, Option.mem_toList,
      Option.map_eq_some_iff] at hmem
    rcases hmem with (((⟨node, hman, heq⟩ | ⟨name, node, hin, hname, heq⟩) | ⟨name, inner, hin, hc⟩) |
      ⟨name, node, hin, hname, heq⟩) | ⟨name, inner, hin, hc⟩
    · obtain ⟨-, rfl⟩ := Candidate.object.inj heq
      exact .manifest hman
    · obtain ⟨-, rfl⟩ := Candidate.object.inj heq
      exact .temp hin hname
    · obtain ⟨dir', name', hholds, hlog, hdoc⟩ := exists_object_mem_collect.mp ⟨_, hc⟩
      exact .lineage (hasLineage_iff.mpr (.inl hin)) hholds hlog hdoc
    · obtain ⟨-, rfl⟩ := Candidate.object.inj heq
      obtain ⟨entries, hdir, hin'⟩ := mem_entriesOf.mp hin
      exact .tombstone hdir hin' hname
    · obtain ⟨dir', name', hholds, hlog, hdoc⟩ := exists_object_mem_collect.mp ⟨_, hc⟩
      exact .lineage (hasLineage_iff.mpr (.inr hin)) hholds hlog hdoc
  · obtain ⟨root, inner, dir, name, hroot, hholds, hname⟩ := hlog
    rcases hasLineage_iff.mp hroot with hin | hin
    · obtain ⟨path, hmem⟩ := exists_log_mem_collect.mpr ⟨_, _, hholds, hname⟩
      exact ⟨path, by simp only [List.mem_append]; exact .inl (.inl (.inr
        ((hlive _).mpr ⟨_, _, hin, hmem⟩)))⟩
    · obtain ⟨path, hmem⟩ := exists_log_mem_collect.mpr ⟨_, _, hholds, hname⟩
      exact ⟨path, by simp only [List.mem_append]; exact .inr ((htrashed _).mpr ⟨_, _, hin, hmem⟩)⟩
  · rintro ⟨path, hmem⟩
    simp only [List.mem_append, mem_namedIn, hlive, htrashed, Option.mem_toList,
      Option.map_eq_some_iff, reduceCtorEq, and_false, exists_false, false_or, or_false] at hmem
    rcases hmem with ⟨name, inner, hin, hc⟩ | ⟨name, inner, hin, hc⟩
    · obtain ⟨dir', name', hholds, hlog⟩ := exists_log_mem_collect.mp ⟨_, hc⟩
      exact ⟨name, inner, dir', name', hasLineage_iff.mpr (.inl hin), hholds, hlog⟩
    · obtain ⟨dir', name', hholds, hlog⟩ := exists_log_mem_collect.mp ⟨_, hc⟩
      exact ⟨name, inner, dir', name', hasLineage_iff.mpr (.inr hin), hholds, hlog⟩

/-- If something that should be a directory is none, the preflight throws what the listing throws. -/
theorem candidates_eq_error (h : ¬s.Walkable) :
    ∃ path, candidates s = .error (.notADirectory path) := by
  rcases safeReaddir_cases ["lineages"] s.lineages with ⟨-, -, hlin⟩ | ⟨hno, hlin⟩
  · exact ⟨_, by rw [candidates, hlin]; rfl⟩
  rcases collectEach_cases "lineages" (entriesOf s.lineages) with
    ⟨-, -, path, -, hlive⟩ | ⟨hnoLive, live, hlive⟩
  · exact ⟨path, by rw [candidates, hlin]; simp only [bind, Except.bind, hlive]⟩
  rcases safeReaddir_cases ["tombstones"] s.tombstones with ⟨-, -, htomb⟩ | ⟨hnoTomb, htomb⟩
  · exact ⟨["tombstones"], by rw [candidates, hlin, htomb]; simp only [bind, Except.bind, hlive]⟩
  rcases safeReaddir_cases [".trash"] s.trash with ⟨-, -, htrash⟩ | ⟨hnoTrash, htrash⟩
  · exact ⟨[".trash"], by rw [candidates, hlin, htomb, htrash]; simp only [bind, Except.bind, hlive]⟩
  rcases collectEach_cases ".trash" (entriesOf s.trash) with
    ⟨-, -, path, -, htrashed⟩ | ⟨hnoTrashed, -⟩
  · exact ⟨path, by
      rw [candidates, hlin, htomb, htrash]; simp only [bind, Except.bind, hlive, htrashed]⟩
  · refine absurd ⟨hno, hnoTomb, hnoTrash, ?_⟩ h
    rintro entries (hdir | hdir) name text hin
    · exact hnoLive name text (mem_entriesOf.mpr ⟨entries, hdir, hin⟩)
    · exact hnoTrashed name text (mem_entriesOf.mpr ⟨entries, hdir, hin⟩)

/-! ## What is found -/

section

variable {parse : List UInt8 → Option Json}

lemma above_eq_some {bound : ℚ} {version : Option ℚ} {v : ℚ} :
    above bound version = some v ↔ version = some v ∧ bound < v := by
  simp [above, Option.filter_eq_some_iff]

lemma isSome_findSome_newerObject (h : Covers s found) :
    (found.findSome? (newerObject parse)).isSome = true ↔ ∃ text version, s.Document text ∧
      declared parse "schemaVersion" text = some version ∧ (persistedSchemaVersion : ℚ) < version := by
  rw [List.findSome?_isSome_iff]
  constructor
  · rintro ⟨c, hc, hsome⟩
    rcases c with ⟨path, text | entries⟩ | ⟨path, text⟩
    · obtain ⟨r, hr⟩ := Option.isSome_iff_exists.mp hsome
      obtain ⟨version, habove, -⟩ := Option.map_eq_some_iff.mp hr
      exact ⟨text, version, (h.documents text).mpr ⟨path, hc⟩, above_eq_some.mp habove⟩
    · cases hsome
    · cases hsome
  · rintro ⟨text, version, hdoc, hversion⟩
    obtain ⟨path, hc⟩ := (h.documents text).mp hdoc
    refine ⟨_, hc, Option.isSome_iff_exists.mpr ⟨(version, path), ?_⟩⟩
    exact Option.map_eq_some_iff.mpr ⟨version, above_eq_some.mpr hversion, rfl⟩

lemma isSome_findSome_newerLine (h : Covers s found) :
    (found.findSome? (newerLine parse)).isSome = true ↔ ∃ text line version, s.Log text ∧
      line ∈ tryReadLeadingLines text ∧ declared parse "v" line = some version ∧
      (persistedSchemaVersion : ℚ) < version := by
  rw [List.findSome?_isSome_iff]
  constructor
  · rintro ⟨c, hc, hsome⟩
    rcases c with ⟨path, node⟩ | ⟨path, text⟩
    · cases hsome
    · rw [newerLine, Option.isSome_map, List.findSome?_isSome_iff] at hsome
      obtain ⟨line, hline, hnewer⟩ := hsome
      obtain ⟨version, habove⟩ := Option.isSome_iff_exists.mp hnewer
      exact ⟨text, line, version, (h.logs text).mpr ⟨path, hc⟩, hline, above_eq_some.mp habove⟩
  · rintro ⟨text, line, version, hlog, hline, hversion⟩
    obtain ⟨path, hc⟩ := (h.logs text).mp hlog
    refine ⟨_, hc, ?_⟩
    rw [newerLine, Option.isSome_map, List.findSome?_isSome_iff]
    exact ⟨line, hline, Option.isSome_iff_exists.mpr ⟨version, above_eq_some.mpr hversion⟩⟩

variable (parse) in
/-- **The preflight** refuses a directory exactly if a document, or a line that it probes, declares a
version above the schema version of the documents. -/
theorem preflightSchemaVersions_spec (h : s.Walkable) :
    (s.Newer parse persistedSchemaVersion ∧ ∃ version path,
      preflightSchemaVersions parse s = .error (.unsupportedStateSchemaVersion version path)) ∨
    ¬s.Newer parse persistedSchemaVersion ∧ preflightSchemaVersions parse s = .ok () := by
  obtain ⟨found, hfound, hcovers⟩ := exists_covers h
  have hnewer : ((found.findSome? (newerObject parse)).or (found.findSome? (newerLine parse))).isSome
      = true ↔ s.Newer parse persistedSchemaVersion := by
    rw [Option.isSome_or, Bool.or_eq_true, isSome_findSome_newerObject hcovers,
      isSome_findSome_newerLine hcovers]
    rfl
  rw [preflightSchemaVersions, hfound]
  cases hor : (found.findSome? (newerObject parse)).or (found.findSome? (newerLine parse)) with
  | some r =>
    refine .inl ⟨hnewer.mp (by rw [hor]; rfl), r.1, r.2, ?_⟩
    simp only [bind, Except.bind, hor]
    rfl
  | none =>
    refine .inr ⟨fun hn => ?_, ?_⟩
    · have hsome := hnewer.mpr hn
      rw [hor] at hsome
      cases hsome
    · simp only [bind, Except.bind, hor]
      rfl

/-! ## The protection -/

/-- What declares something newer is refused, and nothing is changed. -/
def Protects (parse : List UInt8 → Option Json) (rest : StateDir → Except String Unit × StateDir)
    (s : StateDir) : Prop :=
  s.Newer parse logLineVersion → ∃ version path,
    constructStore parse rest s = (.error (.unsupportedStateSchemaVersion version path), s)

/-- **The store protects what a newer version has written** exactly if, where something newer is
declared, all directories are directories and not only a version between those of the lines and the
documents is. -/
theorem protects_iff {rest : StateDir → Except String Unit × StateDir} {s : StateDir} :
    Protects parse rest s ↔
      (s.Newer parse logLineVersion → s.Walkable ∧ s.Newer parse persistedSchemaVersion) := by
  refine imp_congr_right fun _ => ⟨?_, ?_⟩
  · rintro ⟨version, path, heq⟩
    by_cases hwalk : s.Walkable
    · refine ⟨hwalk, ?_⟩
      rcases preflightSchemaVersions_spec parse hwalk with ⟨hnewer, -⟩ | ⟨-, hok⟩
      · exact hnewer
      · rw [constructStore, hok] at heq
        cases hrest : (rest s).1 with
        | error message =>
          simp only [hrest, Except.mapError, Prod.mk.injEq, Except.error.injEq, reduceCtorEq,
            false_and] at heq
        | ok result =>
          simp only [hrest, Except.mapError, Prod.mk.injEq, reduceCtorEq, false_and] at heq
    · obtain ⟨path', herror⟩ := candidates_eq_error hwalk
      rw [constructStore, preflightSchemaVersions, herror] at heq
      cases (Prod.mk.inj heq).1
  · rintro ⟨hwalk, hnewer⟩
    rcases preflightSchemaVersions_spec parse hwalk with ⟨-, version, path, herror⟩ | ⟨hno, -⟩
    · exact ⟨version, path, by rw [constructStore, herror]⟩
    · exact absurd hnewer hno

end

/-! ## What the protection misses -/

/-- `{"schemaVersion":2}`. -/
def currentText : List UInt8 :=
  [123, 34, 115, 99, 104, 101, 109, 97, 86, 101, 114, 115, 105, 111, 110, 34, 58, 50, 125]

/-- `{"v":2}`. -/
def newerLineText : List UInt8 := [123, 34, 118, 34, 58, 50, 125]

def parseTexts (text : List UInt8) : Option Json :=
  if text = currentText then some (.obj [("schemaVersion", .num (.finite 2))])
  else if text = newerLineText then some (.obj [("v", .num (.finite 2))])
  else none

def newerLineDir : StateDir where
  manifest := some (.file currentText)
  lineages := some (.dir [("r", .dir [("records", .dir [("r.json", .file currentText)]),
    ("events", .dir [("r.jsonl", .file (newerLineText ++ [10]))])])])
  tombstones := some (.dir [])
  trash := some (.dir [])
  others := [("quarantine", .dir [])]

/-- The version of the line is above the only one that is read, but it is that of the documents, so
that the preflight lets it through. -/
theorem not_protects_newerLineDir :
    ¬∃ rest : StateDir → Except String Unit × StateDir, Protects parseTexts rest newerLineDir := by
  rintro ⟨rest, hprotects⟩
  have hnewer : newerLineDir.Newer parseTexts logLineVersion := by
    refine .inr ⟨newerLineText ++ [10], newerLineText, 2, ?_, by decide, by decide, by decide⟩
    refine ⟨"r", _, "events", "r.jsonl", ⟨_, .inl rfl, List.mem_cons_self⟩, ?_, by decide⟩
    exact .within (List.mem_cons_of_mem _ List.mem_cons_self) (.here List.mem_cons_self)
  obtain ⟨version, path, heq⟩ := hprotects hnewer
  have hok : preflightSchemaVersions parseTexts newerLineDir = .ok () := rfl
  rw [constructStore, hok] at heq
  cases hrest : (rest newerLineDir).1 with
  | error message => simp [hrest, Except.mapError] at heq
  | ok result => simp [hrest, Except.mapError] at heq

end VacancyRadar.Sessions
