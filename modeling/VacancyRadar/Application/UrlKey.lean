import VacancyRadar.Data.Cuts
import VacancyRadar.Data.Text

/-!
# Keys of apply URLs

`workspace/application-identity.ts`: an apply URL is reduced to what identifies the posting.  Its segments and
parameters are decoded and then joined, with separators that may also stand inside them.
-/

namespace VacancyRadar.Application

open Data

/-! ## URLs -/

/-- A `URL`, with the components that are read here. -/
structure Url where
  /-- With the colon. -/
  protocol : String
  username : String := ""
  password : String := ""
  hostname : String
  /-- Empty where it is the default one of the protocol. -/
  port : String := ""
  pathname : String := "/"
  /-- The names and values of the query, decoded, in its order. -/
  searchParams : List (String × String) := []
  /-- The parser lets neither of them into a host. -/
  hostname_plain : '/' ∉ hostname.toList ∧ '?' ∉ hostname.toList

/-- `new URL(input)`, which takes nothing for no URL. -/
structure UrlParser where
  parse : String → Option Url
  parse_empty : parse "" = none

/-- The platform. -/
structure Locale where
  toLowerCase : String → String
  localeCompare : String → String → Ordering
  /-- `normalize('NFKD')`. -/
  decompose : String → String
  /-- `\p{Diacritic}`. -/
  isDiacritic : Char → Bool

def parseHttpUrl (parser : UrlParser) (value : String) : Option Url :=
  (parser.parse value).filter fun url => url.protocol = "http:" ∨ url.protocol = "https:"

def hostKey (url : Url) : String :=
  let host := url.hostname.toList.map Char.toLower
  String.ofList (if "www.".toList.isPrefixOf host then host.drop 4 else host)

def pathSegments (url : Url) : List String :=
  ((url.pathname.toList.splitOn '/').filter fun segment => segment ≠ []).map String.ofList

/-! ## `decodeURIComponent` -/

def hexDigit (c : Char) : Option ℕ :=
  if '0' ≤ c ∧ c ≤ '9' then some (c.toNat - '0'.toNat)
  else if 'a' ≤ c ∧ c ≤ 'f' then some (c.toNat - 'a'.toNat + 10)
  else if 'A' ≤ c ∧ c ≤ 'F' then some (c.toNat - 'A'.toNat + 10)
  else none

/-- What an encoded text is made of. -/
inductive Coded where
  | char (c : Char)
  | byte (b : ℕ)

def coded : List Char → Option (List Coded)
  | [] => some []
  | '%' :: high :: low :: rest => do
    let high ← hexDigit high
    let low ← hexDigit low
    let rest ← coded rest
    return .byte (16 * high + low) :: rest
  | c :: rest => if c = '%' then none else (coded rest).map (.char c :: ·)

/-- The bits that a byte adds to a character that began before. -/
def continuation (b : ℕ) : Option ℕ := if 0x80 ≤ b ∧ b < 0xc0 then some (b - 0x80) else none

def charFrom (least code : ℕ) : Option Char :=
  if least ≤ code ∧ code.isValidChar then some (Char.ofNat code) else none

def decoded : List Coded → Option (List Char)
  | [] => some []
  | .char c :: rest => (decoded rest).map (c :: ·)
  | .byte b :: rest =>
    if b < 0x80 then (decoded rest).map (Char.ofNat b :: ·)
    else if 0xc0 ≤ b ∧ b < 0xe0 then
      match rest with
      | .byte b₁ :: rest => do
        let low ← continuation b₁
        let c ← charFrom 0x80 (0x40 * (b - 0xc0) + low)
        let rest ← decoded rest
        return c :: rest
      | _ => none
    else if 0xe0 ≤ b ∧ b < 0xf0 then
      match rest with
      | .byte b₁ :: .byte b₂ :: rest => do
        let middle ← continuation b₁
        let low ← continuation b₂
        let c ← charFrom 0x800 (0x1000 * (b - 0xe0) + 0x40 * middle + low)
        let rest ← decoded rest
        return c :: rest
      | _ => none
    else if 0xf0 ≤ b ∧ b < 0xf8 then
      match rest with
      | .byte b₁ :: .byte b₂ :: .byte b₃ :: rest => do
        let high ← continuation b₁
        let middle ← continuation b₂
        let low ← continuation b₃
        let c ← charFrom 0x10000 (0x40000 * (b - 0xf0) + 0x1000 * high + 0x40 * middle + low)
        let rest ← decoded rest
        return c :: rest
      | _ => none
    else none

/-- `decodeURIComponent`.  `none` stands for the error that it throws. -/
def decodeURIComponent (text : String) : Option String :=
  ((coded text.toList).bind decoded).map String.ofList

def decodeSegment (segment : String) : String := (decodeURIComponent segment).getD segment

/-! ## The key -/

section

variable (locale : Locale) (parser : UrlParser)

def trackingParams : List String :=
  ["fbclid", "gclid", "gh_src", "mc_cid", "mc_eid", "msclkid", "ref", "referrer", "source", "src", "trk", "trackingid"]

def isTrackingParam (name : String) : Bool :=
  let lower := locale.toLowerCase name
  "utm_".toList.isPrefixOf lower.toList || lower ∈ trackingParams

def keptParams (url : Url) : List (String × String) :=
  (url.searchParams.filter fun param => !isTrackingParam locale param.1).map fun param =>
    (locale.toLowerCase param.1, param.2)

def paramOrder (a b : String × String) : Bool :=
  (if a.1 = b.1 then locale.localeCompare a.2 b.2 else locale.localeCompare a.1 b.1) ≠ .gt

def normalizeCanonicalUrlKey (value : String) : String :=
  let trimmed := trim value
  if trimmed = "" then ""
  else
    match parseHttpUrl parser trimmed with
    | none => locale.toLowerCase trimmed
    | some url =>
      let path := "/".intercalate ((pathSegments url).map decodeSegment)
      let params := "&".intercalate
        (((keptParams locale url).mergeSort (paramOrder locale)).map fun param => param.1 ++ "=" ++ param.2)
      let base := if path = "" then hostKey url else hostKey url ++ "/" ++ path
      if params = "" then base else base ++ "?" ++ params

end

/-! ## Postings -/

def segmentsOf (url : Url) : List String := (pathSegments url).map decodeSegment

structure SamePosting (locale : Locale) (url url' : Url) : Prop where
  host : hostKey url = hostKey url'
  path : segmentsOf url = segmentsOf url'
  params : (keptParams locale url).Perm (keptParams locale url')

/-! ## Parts of a key -/

/-- What a key is joined from, after the host. -/
structure Parts where
  segments : List (List Char)
  params : List (List Char × List Char)

def paramText (param : List Char × List Char) : List Char := param.1 ++ '=' :: param.2

def pathText (segments : List (List Char)) : List Char := segments.flatMap fun segment => '/' :: segment

def queryText : List (List Char × List Char) → List Char
  | [] => []
  | param :: rest => '?' :: (paramText param ++ rest.flatMap fun param => '&' :: paramText param)

/-- What follows the host in a key. -/
def Parts.text (parts : Parts) : List Char := pathText parts.segments ++ queryText parts.params

inductive Recut : Parts → Parts → Prop
  /-- A slash between two segments, or inside a segment. -/
  | segment (before after : List (List Char)) (a b : List Char) (params : List (List Char × List Char)) :
    Recut ⟨before ++ a :: b :: after, params⟩ ⟨before ++ (a ++ '/' :: b) :: after, params⟩
  /-- An ampersand between two parameters, or inside a value. -/
  | param (segments : List (List Char)) (before after : List (List Char × List Char)) (n v n' v' : List Char) :
    Recut ⟨segments, before ++ (n, v) :: (n', v') :: after⟩
      ⟨segments, before ++ (n, v ++ '&' :: paramText (n', v')) :: after⟩
  /-- An equals sign after the name, or inside it. -/
  | name (segments : List (List Char)) (before after : List (List Char × List Char)) (n m v : List Char) :
    Recut ⟨segments, before ++ (n ++ '=' :: m, v) :: after⟩ ⟨segments, before ++ (n, m ++ '=' :: v) :: after⟩
  /-- A question mark before the query, or inside the last segment. -/
  | query (before : List (List Char)) (a n v : List Char) :
    Recut ⟨before ++ [a], [(n, v)]⟩ ⟨before ++ [a ++ '?' :: paramText (n, v)], []⟩

def Recuts : Parts → Parts → Prop := Relation.EqvGen Recut

def partsOf (locale : Locale) (url : Url) : Parts where
  segments := (segmentsOf url).map String.toList
  params := ((keptParams locale url).mergeSort (paramOrder locale)).map fun param =>
    (param.1.toList, param.2.toList)

/-- Where the key is told from the posting: URLs of different postings have no parts that come out of each other, and
for URLs of the same posting the parameters that are held for equal come in the same order, or in one that comes
out of it. -/
structure ToldApart (locale : Locale) (url url' : Url) : Prop where
  different : ¬ SamePosting locale url url' → hostKey url = hostKey url' →
    ¬ Recuts (partsOf locale url) (partsOf locale url')
  same : SamePosting locale url url' → Recuts (partsOf locale url) (partsOf locale url')

/-! ## Recutting -/

variable {parts parts' : Parts} {segments : List (List Char)} {params : List (List Char × List Char)}

lemma queryText_append_cons (before after : List (List Char × List Char)) (param : List Char × List Char) :
    queryText (before ++ param :: after) =
      queryText before ++ (if before = [] then '?' else '&') ::
        (paramText param ++ after.flatMap fun param => '&' :: paramText param) := by
  cases before with
  | nil => rfl
  | cons first before => simp [queryText]

lemma Recut.text_eq (h : Recut parts parts') : parts.text = parts'.text := by
  cases h with
  | segment before after a b params => simp [Parts.text, pathText]
  | param segments before after n v n' v' => simp [Parts.text, queryText_append_cons, paramText]
  | name segments before after n m v => simp [Parts.text, queryText_append_cons, paramText]
  | query before a n v => simp [Parts.text, pathText, queryText, paramText]

/-- All the separators are inside, but the first one, and the first equals sign if there is no path. -/
def Normal (parts : Parts) : Prop :=
  (∃ segment, parts = ⟨[segment], []⟩) ∨ (∃ n v, '=' ∉ n ∧ parts = ⟨[], [(n, v)]⟩) ∨ parts = ⟨[], []⟩

lemma Normal.eq_of_text_eq (h : Normal parts) (h' : Normal parts') (htext : parts.text = parts'.text) :
    parts = parts' := by
  rcases h with ⟨segment, rfl⟩ | ⟨n, v, hn, rfl⟩ | rfl <;>
    rcases h' with ⟨segment', rfl⟩ | ⟨n', v', hn', rfl⟩ | rfl <;>
    simp [Parts.text, pathText, queryText, paramText] at htext
  · rw [htext]
  · obtain ⟨rfl, rfl⟩ := append_cons_inj hn hn' htext
    rfl
  · rfl

lemma recuts_one_param (segments : List (List Char)) (param : List Char × List Char) (after : List (List Char × List Char)) :
    ∃ merged, Recuts ⟨segments, param :: after⟩ ⟨segments, [merged]⟩ := by
  induction after generalizing param with
  | nil => exact ⟨param, .refl _⟩
  | cons next after ih =>
    obtain ⟨n, v⟩ := param
    obtain ⟨n', v'⟩ := next
    obtain ⟨merged, hmerged⟩ := ih (n, v ++ '&' :: paramText (n', v'))
    exact ⟨merged, .trans _ _ _ (.rel _ _ (.param segments [] after n v n' v')) hmerged⟩

lemma recuts_one_segment (params : List (List Char × List Char)) (first : List Char) (after : List (List Char)) :
    ∃ merged, Recuts ⟨first :: after, params⟩ ⟨[merged], params⟩ := by
  induction after generalizing first with
  | nil => exact ⟨first, .refl _⟩
  | cons next after ih =>
    obtain ⟨merged, hmerged⟩ := ih (first ++ '/' :: next)
    exact ⟨merged, .trans _ _ _ (.rel _ _ (.segment [] after first next params)) hmerged⟩

lemma recuts_first_equals (segments : List (List Char)) (n v : List Char) :
    ∃ n' v', '=' ∉ n' ∧ Recuts ⟨segments, [(n, v)]⟩ ⟨segments, [(n', v')]⟩ := by
  by_cases hn : '=' ∈ n
  · obtain ⟨front, rest, rfl, hfront⟩ := List.eq_append_cons_of_mem hn
    exact ⟨front, rest ++ '=' :: v, hfront, .rel _ _ (.name segments [] [] front rest v)⟩
  · exact ⟨n, v, hn, .refl _⟩

lemma exists_normal (parts : Parts) : ∃ normal, Recuts parts normal ∧ Normal normal := by
  obtain ⟨segments, params⟩ := parts
  obtain ⟨params', hparams, hshort⟩ : ∃ params', Recuts ⟨segments, params⟩ ⟨segments, params'⟩ ∧
      (params' = [] ∨ ∃ n v, '=' ∉ n ∧ params' = [(n, v)]) := by
    cases params with
    | nil => exact ⟨[], .refl _, .inl rfl⟩
    | cons param after =>
      obtain ⟨⟨n, v⟩, hmerged⟩ := recuts_one_param segments param after
      obtain ⟨n', v', hn', hfirst⟩ := recuts_first_equals segments n v
      exact ⟨[(n', v')], hmerged.trans _ _ _ hfirst, .inr ⟨n', v', hn', rfl⟩⟩
  cases segments with
  | nil =>
    rcases hshort with rfl | ⟨n, v, hn, rfl⟩
    · exact ⟨_, hparams, .inr (.inr rfl)⟩
    · exact ⟨_, hparams, .inr (.inl ⟨n, v, hn, rfl⟩)⟩
  | cons first after =>
    obtain ⟨merged, hmerged⟩ := recuts_one_segment params' first after
    rcases hshort with rfl | ⟨n, v, -, rfl⟩
    · exact ⟨_, hparams.trans _ _ _ hmerged, .inl ⟨merged, rfl⟩⟩
    · have hquery : Recuts ⟨[merged], [(n, v)]⟩ ⟨[merged ++ '?' :: paramText (n, v)], []⟩ :=
        .rel _ _ (.query [] merged n v)
      exact ⟨_, (hparams.trans _ _ _ hmerged).trans _ _ _ hquery, .inl ⟨_, rfl⟩⟩

lemma recuts_iff (parts parts' : Parts) : Recuts parts parts' ↔ parts.text = parts'.text :=
  eqvGen_iff_of_normal Parts.text (fun _ _ h => h.text_eq) exists_normal
    (fun _ _ h h' htext => h.eq_of_text_eq h' htext) parts parts'

/-! ## What a key says -/

variable {url url' : Url} {locale : Locale} {parser : UrlParser}

lemma coded_ne_nil {l : List Char} (hl : l ≠ []) : coded l ≠ some [] := by
  intro h
  unfold coded at h
  split at h
  · exact hl rfl
  · simp [Option.bind_eq_some_iff] at h
  · split at h <;> simp at h

lemma decoded_ne_nil {code : List Coded} (hcode : code ≠ []) : decoded code ≠ some [] := by
  intro h
  unfold decoded at h
  split at h
  · exact hcode rfl
  · simp at h
  · -- a byte begins a character, or is an error
    split at h
    · simp at h
    split at h
    · split at h <;> simp [Option.bind_eq_some_iff] at h
    split at h
    · split at h <;> simp [Option.bind_eq_some_iff] at h
    split at h
    · split at h <;> simp [Option.bind_eq_some_iff] at h
    · simp at h

variable {segment separator : String} {c : Char}

lemma decodeSegment_ne_empty (h : segment ≠ "") : decodeSegment segment ≠ "":= by
  have hlist : segment.toList ≠ [] := mt String.toList_eq_nil_iff.mp h
  unfold decodeSegment decodeURIComponent
  cases hcoded : coded segment.toList with
  | none => simpa using h
  | some code =>
    have hcode : code ≠ [] := by
      rintro rfl
      exact coded_ne_nil hlist hcoded
    cases hdecoded : decoded code with
    | none => simpa [hdecoded] using h
    | some text =>
      have htext : text ≠ [] := by
        rintro rfl
        exact decoded_ne_nil hcode hdecoded
      simpa [hdecoded, String.ofList_eq_empty_iff] using htext

example : decodeSegment "a%2Fb" = "a/b" := by decide +kernel
example : decodeSegment "caf%C3%A9%" = "caf%C3%A9%" := by decide +kernel

lemma ne_empty_of_mem_segmentsOf (h : segment ∈ segmentsOf url) : segment ≠ "":= by
  obtain ⟨coded, hcoded, rfl⟩ := List.mem_map.mp h
  obtain ⟨piece, hpiece, rfl⟩ := List.mem_map.mp hcoded
  have hne : piece ≠ [] := by simpa using (List.mem_filter.mp hpiece).2
  exact decodeSegment_ne_empty (by simpa [String.ofList_eq_empty_iff] using hne)

lemma toList_intercalate_cons (hc : separator.toList = [c]) (text : String) (rest : List String) :
    (separator.intercalate (text :: rest)).toList =
      text.toList ++ (rest.map String.toList).flatMap fun other => c :: other := by
  induction rest generalizing text with
  | nil => simp
  | cons next rest ih =>
    rw [String.intercalate_cons_cons, String.toList_append, String.toList_append, ih, hc]
    simp

def separated (c d : Char) : List String → List Char
  | [] => []
  | text :: rest => c :: (text.toList ++ (rest.map String.toList).flatMap fun other => d :: other)

lemma toList_separated {separator joiner base : String} {c d : Char} (hc : separator.toList = [c])
    (hd : joiner.toList = [d]) {texts : List String} (htexts : ∀ text ∈ texts, text ≠ "") :
    (if joiner.intercalate texts = "" then base else base ++ separator ++ joiner.intercalate texts).toList =
      base.toList ++ separated c d texts := by
  cases texts with
  | nil => simp [separated]
  | cons text rest =>
    have htext : text.toList ≠ [] := mt String.toList_eq_nil_iff.mp (htexts text List.mem_cons_self)
    have hjoined := toList_intercalate_cons hd text rest
    have hne : joiner.intercalate (text :: rest) ≠ "" := by
      intro hempty
      rw [hempty] at hjoined
      simp [htext] at hjoined
    rw [if_neg hne, String.toList_append, String.toList_append, hjoined, hc]
    simp [separated]

lemma toList_normalizeCanonicalUrlKey {value : String} (h : parseHttpUrl parser (trim value) = some url) :
    (normalizeCanonicalUrlKey locale parser value).toList =
      (hostKey url).toList ++ (partsOf locale url).text := by
  have htrim : trim value ≠ "" := by
    intro hempty
    rw [hempty, parseHttpUrl, parser.parse_empty] at h
    exact absurd h (by simp)
  have hpath : separated '/' '/' (segmentsOf url) = pathText ((segmentsOf url).map String.toList) := by
    cases segmentsOf url with
    | nil => rfl
    | cons first rest => simp [separated, pathText]
  have hquery : ∀ params : List (String × String),
      separated '?' '&' (params.map fun param => param.1 ++ "=" ++ param.2) =
        queryText (params.map fun param => (param.1.toList, param.2.toList)) := by
    intro params
    cases params with
    | nil => rfl
    | cons first rest => simp [separated, queryText, paramText, List.flatMap_map]
  have hparam : ∀ params : List (String × String),
      ∀ text ∈ params.map fun param => param.1 ++ "=" ++ param.2, text ≠ "" := by
    intro params text htext hempty
    obtain ⟨param, -, rfl⟩ := List.mem_map.mp htext
    simpa using congrArg String.toList hempty
  simp only [normalizeCanonicalUrlKey, htrim, if_false, h]
  rw [toList_separated (c := '?') (d := '&') rfl rfl (hparam _), hquery, ← segmentsOf,
    toList_separated (c := '/') (d := '/') rfl rfl fun _ => ne_empty_of_mem_segmentsOf, hpath, List.append_assoc]
  rfl

/-! ## Hosts -/

def isPlain (c : Char) : Bool := c ≠ '/' && c ≠ '?'

lemma isPlain_toLower (h : isPlain c) : isPlain c.toLower:= by
  unfold Char.toLower
  split
  · next hupper =>
    have hlow : 65 ≤ c.val.toNat := UInt32.le_iff_toNat_le.mp hupper.1
    have hhigh : c.val.toNat ≤ 90 := UInt32.le_iff_toNat_le.mp hupper.2
    have hval : (c.val + ('a'.val - 'A'.val)).toNat = c.val.toNat + 32 := by
      rw [UInt32.toNat_add]
      have hshift : ('a'.val - 'A'.val).toNat = 32 := by decide
      omega
    have hne : ∀ d : Char, d.val.toNat < 97 → ∀ hvalid, (⟨c.val + ('a'.val - 'A'.val), hvalid⟩ : Char) ≠ d := by
      rintro d hd hvalid rfl
      simp only at hd
      omega
    rw [isPlain, Bool.and_eq_true]
    exact ⟨decide_eq_true (hne '/' (by decide) _), decide_eq_true (hne '?' (by decide) _)⟩
  · exact h

lemma isPlain_of_mem_hostKey (h : c ∈ (hostKey url).toList) : isPlain c:= by
  have hmem : c ∈ url.hostname.toList.map Char.toLower := by
    rw [hostKey, String.toList_ofList] at h
    split at h
    · exact List.mem_of_mem_drop h
    · exact h
  obtain ⟨d, hd, rfl⟩ := List.mem_map.mp hmem
  refine isPlain_toLower ?_
  have hslash : d ≠ '/' := fun heq => url.hostname_plain.1 (heq ▸ hd)
  have hquestion : d ≠ '?' := fun heq => url.hostname_plain.2 (heq ▸ hd)
  simp [isPlain, hslash, hquestion]

lemma takeWhile_host_append {host : List Char} (hhost : ∀ c ∈ host, isPlain c) (parts : Parts) :
    (host ++ parts.text).takeWhile isPlain = host := by
  have hrest : parts.text.takeWhile isPlain = [] := by
    obtain ⟨segments, params⟩ := parts
    cases segments with
    | cons first rest => simp [Parts.text, pathText, isPlain]
    | nil =>
      cases params with
      | nil => rfl
      | cons first rest => simp [Parts.text, pathText, queryText, isPlain]
  rw [List.takeWhile_append_of_pos hhost, hrest, List.append_nil]

lemma normalizeCanonicalUrlKey_eq_iff {value value' : String} (h : parseHttpUrl parser (trim value) = some url)
    (h' : parseHttpUrl parser (trim value') = some url') :
    normalizeCanonicalUrlKey locale parser value = normalizeCanonicalUrlKey locale parser value' ↔
      hostKey url = hostKey url' ∧ Recuts (partsOf locale url) (partsOf locale url') := by
  rw [← String.toList_inj, toList_normalizeCanonicalUrlKey h, toList_normalizeCanonicalUrlKey h', recuts_iff]
  constructor
  · intro heq
    have hhost := congrArg (List.takeWhile isPlain) heq
    rw [takeWhile_host_append fun _ => isPlain_of_mem_hostKey,
      takeWhile_host_append fun _ => isPlain_of_mem_hostKey] at hhost
    rw [hhost] at heq
    exact ⟨String.toList_inj.mp hhost, List.append_cancel_left heq⟩
  · rintro ⟨hhost, htext⟩
    rw [hhost, htext]

/-! ## The law -/

/-- **Keys tell postings apart, up to the separators inside them.**  Two URLs have the same key exactly if they are
of the same posting, if and only if the postings are told apart by where the separators stand. -/
theorem normalizeCanonicalUrlKey_eq_iff_samePosting (locale : Locale) (parser : UrlParser) (value value' : String)
    (url url' : Url) (h : parseHttpUrl parser (trim value) = some url)
    (h' : parseHttpUrl parser (trim value') = some url') :
    (normalizeCanonicalUrlKey locale parser value = normalizeCanonicalUrlKey locale parser value' ↔
        SamePosting locale url url') ↔
      ToldApart locale url url' := by
  rw [normalizeCanonicalUrlKey_eq_iff h h']
  constructor
  · rintro ⟨hsame, hkey⟩
    exact ⟨fun hnot hhost hrecut => hnot (hsame ⟨hhost, hrecut⟩), fun hposting => (hkey hposting).2⟩
  · rintro ⟨hdifferent, hsame⟩
    refine ⟨fun hkey => ?_, fun hposting => ⟨hposting.host, hsame hposting⟩⟩
    by_contra hnot
    exact hdifferent hnot hkey.1 hkey.2

/-! ## Two postings with one key -/

def asciiLocale : Locale where
  toLowerCase := fun text => String.ofList (text.toList.map Char.toLower)
  localeCompare := compare
  decompose := id
  isDiacritic := fun c => c = '^' || c = Char.ofNat 0x60

def oneSegment : Url where
  protocol := "https:"
  hostname := "jobs.example.com"
  pathname := "/a%2Fb"
  hostname_plain := by decide

def twoSegments : Url where
  protocol := "https:"
  hostname := "jobs.example.com"
  pathname := "/a/b"
  hostname_plain := by decide

def twoUrls : UrlParser where
  parse := fun input =>
    if input = "https://jobs.example.com/a%2Fb" then some oneSegment
    else if input = "https://jobs.example.com/a/b" then some twoSegments
    else none
  parse_empty := by decide

lemma parse_oneSegment : parseHttpUrl twoUrls (trim "https://jobs.example.com/a%2Fb") = some oneSegment := by rfl

lemma parse_twoSegments : parseHttpUrl twoUrls (trim "https://jobs.example.com/a/b") = some twoSegments := by rfl

lemma not_samePosting : ¬ SamePosting asciiLocale oneSegment twoSegments := by
  intro h
  have hpath : segmentsOf oneSegment ≠ segmentsOf twoSegments := by decide +kernel
  exact hpath h.path

lemma one_key :
    normalizeCanonicalUrlKey asciiLocale twoUrls "https://jobs.example.com/a%2Fb" =
      normalizeCanonicalUrlKey asciiLocale twoUrls "https://jobs.example.com/a/b" := by
  rw [normalizeCanonicalUrlKey_eq_iff parse_oneSegment parse_twoSegments, recuts_iff]
  have hone : segmentsOf oneSegment = ["a/b"] := by decide +kernel
  have htwo : segmentsOf twoSegments = ["a", "b"] := by decide +kernel
  have hnone : keptParams asciiLocale oneSegment = [] := rfl
  have hnone' : keptParams asciiLocale twoSegments = [] := rfl
  refine ⟨rfl, ?_⟩
  simp [Parts.text, partsOf, hone, htwo, hnone, hnone', pathText]

/-- The two postings are not told apart. -/
theorem not_toldApart_segments : ¬ ToldApart asciiLocale oneSegment twoSegments := fun htold =>
  not_samePosting (((normalizeCanonicalUrlKey_eq_iff_samePosting asciiLocale twoUrls _ _ oneSegment twoSegments
    parse_oneSegment parse_twoSegments).mpr htold).mp one_key)

/-- An escaped slash inside a segment is taken for one between two segments. -/
theorem not_key_eq_iff_samePosting :
    ¬ ∀ (locale : Locale) (parser : UrlParser) (value value' : String) (url url' : Url),
      parseHttpUrl parser (trim value) = some url → parseHttpUrl parser (trim value') = some url' →
        (normalizeCanonicalUrlKey locale parser value = normalizeCanonicalUrlKey locale parser value' ↔
          SamePosting locale url url') := fun hall =>
  not_samePosting ((hall asciiLocale twoUrls _ _ oneSegment twoSegments parse_oneSegment parse_twoSegments).mp
    one_key)

end VacancyRadar.Application
