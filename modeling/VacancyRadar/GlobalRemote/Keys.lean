import VacancyRadar.Data.Cuts
import VacancyRadar.GlobalRemote.Unique

/-!
# Keys of identities

What the key of `vacancyIdentityFor` is made of, and when it can be told from the key.
-/

namespace VacancyRadar.GlobalRemote

open Data

/-! ## What an identity is made of -/

inductive Named where
  | snapshot (id : String)
  | requisition (provider : AtsTenantProvider) (tenant id : String)
  | link (url : String)
  | words (company title location : String)
deriving DecidableEq

def wordSeparator : List Char := [' ', ':', ':', ' ']

def snapshotMark : List Char := ['m', 'p', 's', 'v', '_', 'c', 'z', ':']

def Named.kind : Named → VacancyIdentityKind
  | .snapshot _ => .requisition
  | .requisition .. => .requisition
  | .link _ => .canonicalUrl
  | .words .. => .semantic

def Named.key : Named → List Char
  | .snapshot id => snapshotMark ++ id.toList
  | .requisition provider tenant id => provider.name.toList ++ ([':'] ++ (tenant.toList ++ ([':'] ++ id.toList)))
  | .link url => url.toList
  | .words company title location =>
    company.toList ++ (wordSeparator ++ (title.toList ++ (wordSeparator ++ location.toList)))

variable (platform : Platform)

def named (input : IdentityInput) : Named :=
  match if input.provider = some "mpsv_cz" then portalId (input.key.getD "") else none with
  | some id => .snapshot id
  | none =>
    match atsRequisitionFor platform input.url with
    | some (provider, found) =>
      .requisition provider (String.ofList (found.tenant.toList.map Char.toLower)) found.requisitionId
    | none =>
      match if isGenericListingUrl platform input.url then none else canonicalizeVacancyUrl platform input.url with
      | some url => .link url
      | none => .words (normalizeVacancyText platform input.company) (normalizeVacancyText platform input.title)
          (normalizeVacancyText platform input.location)

lemma named_kind (input : IdentityInput) : (vacancyIdentityFor platform input).kind = (named platform input).kind ∧
    (vacancyIdentityFor platform input).key.toList = (named platform input).key := by
  unfold vacancyIdentityFor named linkIdentityFor
  generalize (if input.provider = some "mpsv_cz" then portalId (input.key.getD "") else none) = snapshot
  cases snapshot with
  | some id =>
    refine ⟨rfl, ?_⟩
    rw [String.toList_append, Named.key]
    rfl
  | none =>
    cases atsRequisitionFor platform input.url with
    | some found => simp [Named.kind, Named.key, String.toList_append]
    | none =>
      generalize (if isGenericListingUrl platform input.url = true then none
        else canonicalizeVacancyUrl platform input.url) = canonical
      cases canonical with
      | some url => exact ⟨rfl, rfl⟩
      | none =>
        refine ⟨rfl, ?_⟩
        rw [semanticIdentityKey, String.toList_intercalate, Named.key]
        have hseparator : " :: ".toList = wordSeparator := by decide
        simp only [List.map_cons, List.map_nil, List.intercalate_cons_cons, List.intercalate_singleton,
          List.append_assoc, hseparator]

/-! ## What is told by the key -/

def Named.Agree : Named → Named → Prop
  | .snapshot id, .snapshot id' => id = id'
  | .requisition provider tenant id, .requisition provider' tenant' id' =>
    provider = provider' ∧ tenant = tenant' ∧ id = id'
  | .link _, .link _ => True
  | .words company title location, .words company' title' location' =>
    company = company' ∧ title = title' ∧ location = location'
  | _, _ => False

inductive Named.Confused : Named → Named → Prop
  | tenant {provider : AtsTenantProvider} {tenant id tenant' id' : String}
      (h : Moved [':'] tenant.toList id.toList tenant'.toList id'.toList) :
      Confused (.requisition provider tenant id) (.requisition provider tenant' id')
  | company {company title location company' title' location' : String}
      (h : Moved wordSeparator company.toList (title.toList ++ (wordSeparator ++ location.toList)) company'.toList
        (title'.toList ++ (wordSeparator ++ location'.toList))) :
      Confused (.words company title location) (.words company' title' location')
  | title {company title location title' location' : String}
      (h : Moved wordSeparator title.toList location.toList title'.toList location'.toList) :
      Confused (.words company title location) (.words company title' location')
  | link {url : String} {other : Named} (h : url.toList = other.key) (hother : other.kind ≠ .canonicalUrl) :
      Confused (.link url) other
  | link' {url : String} {other : Named} (h : url.toList = other.key) (hother : other.kind ≠ .canonicalUrl) :
      Confused other (.link url)

/-- What `new URL` returns has no spaces before its query, if it has a host. -/
def Platform.EncodesSpaces (platform : Platform) : Prop :=
  ∀ input url, platform.parseUrl input = some url → url.hostname ≠ "" →
    ' ' ∉ url.hostname.toList ∧ ' ' ∉ url.pathname.toList

lemma AtsTenantProvider.colon_not_mem_name (provider : AtsTenantProvider) : ':' ∉ provider.name.toList := by
  cases provider <;> decide

lemma AtsTenantProvider.name_inj {a b : AtsTenantProvider} (h : a.name.toList = b.name.toList) : a = b := by
  cases a <;> cases b <;> first | rfl | exact absurd h (by decide)

lemma Named.Confused.not_agree {a b : Named} (h : a.Confused b) : a.key = b.key ∧ ¬ a.Agree b := by
  cases h with
  | tenant h =>
    refine ⟨?_, fun hagree => h.ne (congrArg String.toList hagree.2.1)⟩
    rw [key, key, joined_eq_iff.mpr (.inr h)]
  | company h =>
    refine ⟨?_, fun hagree => h.ne (congrArg String.toList hagree.1)⟩
    rw [key, key, joined_eq_iff.mpr (.inr h)]
  | title h =>
    refine ⟨?_, fun hagree => h.ne (congrArg String.toList hagree.2.1)⟩
    rw [key, key, joined_eq_iff.mpr (.inr h)]
  | link h hother =>
    refine ⟨h, fun hagree => ?_⟩
    cases b with
    | link => exact hother rfl
    | _ => exact hagree
  | link' h hother =>
    refine ⟨h.symm, fun hagree => ?_⟩
    cases a with
    | link => exact hother rfl
    | _ => exact hagree

/-! ## Spaces -/

variable {platform : Platform}

variable {c : Char} {segment tenant : String} {provider : AtsTenantProvider}

lemma mem_intercalate_of_mem {parts : List (List Char)} {part : List Char} (h : part ∈ parts)
    (hc : c ∈ part) (separator : List Char) : c ∈ separator.intercalate parts := by
  induction parts with
  | nil => exact absurd h List.not_mem_nil
  | cons first parts ih =>
    rcases eq_or_ne parts [] with rfl | hne
    · rw [List.intercalate_singleton]
      exact List.mem_singleton.mp h ▸ hc
    · rw [List.intercalate_cons_of_ne_nil hne]
      rcases List.mem_cons.mp h with rfl | h
      · exact List.mem_append_left _ (List.mem_append_left _ hc)
      · exact List.mem_append_right _ (ih h)

lemma mem_of_mem_pathSegments {url : Url} (h : segment ∈ pathSegments url) (hc : c ∈ segment.toList) :
    c ∈ url.pathname.toList := by
  obtain ⟨part, hpart, rfl⟩ := List.mem_map.mp h
  rw [String.toList_ofList] at hc
  have hmem := mem_intercalate_of_mem (List.mem_of_mem_filter hpart) hc ['/']
  rwa [List.intercalate_splitOn] at hmem

variable {url : Url} {found : TenantRequisition}

lemma mem_lowerHost (h : c ∈ (lowerHost url).toList) :
    ∃ d ∈ url.hostname.toList, d.toLower = c := by
  rw [lowerHost, String.toList_ofList] at h
  exact List.mem_map.mp h

lemma of_tenantRequisition {tenant id : Option String} (h : tenantRequisition tenant id = some found) :
    tenant = some found.tenant ∧ id = some found.requisitionId := by
  cases tenant with
  | none => cases h
  | some tenant =>
    cases id with
    | none => cases h
    | some id =>
      cases h
      exact ⟨rfl, rfl⟩

lemma mem_of_withoutSuffix {suffix text : String} (h : withoutSuffix suffix text = some tenant)
    (hc : c ∈ tenant.toList) : c ∈ text.toList := by
  unfold withoutSuffix at h
  split at h
  · cases h
    rw [String.toList_ofList] at hc
    exact List.mem_of_mem_take hc
  · cases h

lemma segmentAfter_mem {marker : String} (h : segmentAfter marker url = some segment) :
    segment ∈ pathSegments url := by
  unfold segmentAfter at h
  split at h
  · exact List.mem_of_getElem? h
  · cases h

lemma found_of_extractor {extractor : AtsTenantProvider × (Url → Option TenantRequisition)}
    (h : extractor ∈ requisitionExtractors) (hfound : extractor.2 url = some found) :
    url.hostname ≠ "" ∧ found.requisitionId ∈ pathSegments url ∧
      (found.tenant ∈ pathSegments url ∨ ∀ c ∈ found.tenant.toList, c ∈ (lowerHost url).toList) := by
  have hempty : url.hostname = "" → lowerHost url = "" := fun h => by rw [lowerHost, h]; rfl
  simp only [requisitionExtractors, List.mem_cons, List.not_mem_nil, or_false] at h
  rcases h with rfl | rfl | rfl | rfl | rfl | rfl
  · change greenhouseRequisition url = some found at hfound
    unfold greenhouseRequisition at hfound
    split_ifs at hfound with hhost
    dsimp only at hfound
    split at hfound
    · cases hfound
    · obtain ⟨htenant, hid⟩ := of_tenantRequisition hfound
      split_ifs at htenant
      refine ⟨fun h => ?_, List.mem_of_getElem? hid, .inl (List.mem_of_getElem? htenant)⟩
      rw [hempty h] at hhost
      exact absurd hhost (by decide)
  · change leverRequisition url = some found at hfound
    unfold leverRequisition at hfound
    split at hfound
    · cases hfound
    · next hhost =>
      obtain ⟨htenant, hid⟩ := of_tenantRequisition hfound
      refine ⟨fun h => hhost ?_, List.mem_of_getElem? hid, .inl (List.mem_of_getElem? htenant)⟩
      rw [hempty h]
      decide
  · change ashbyRequisition url = some found at hfound
    unfold ashbyRequisition at hfound
    split_ifs at hfound with hhost
    obtain ⟨htenant, hid⟩ := of_tenantRequisition hfound
    refine ⟨fun h => ?_, List.mem_of_getElem? hid, .inl (List.mem_of_getElem? htenant)⟩
    rw [hempty h] at hhost
    exact absurd hhost (by decide)
  · obtain ⟨htenant, hid⟩ := of_tenantRequisition hfound
    obtain ⟨htenant, -⟩ := Option.filter_eq_some_iff.mp htenant
    have hsuffix : ∃ suffix ∈ [".jobs.personio.de", ".jobs.personio.com"],
        withoutSuffix suffix (lowerHost url) = some found.tenant := by
      rcases Option.or_eq_some_iff.mp htenant with h | ⟨-, h⟩
      · exact ⟨_, List.mem_cons_self, h⟩
      · exact ⟨_, List.mem_cons_of_mem _ List.mem_cons_self, h⟩
    obtain ⟨suffix, hmem, hsuffix⟩ := hsuffix
    refine ⟨fun h => ?_, segmentAfter_mem hid, .inr fun c => mem_of_withoutSuffix hsuffix⟩
    rw [hempty h] at hsuffix
    simp only [List.mem_cons, List.not_mem_nil, or_false] at hmem
    rcases hmem with rfl | rfl <;> cases hsuffix
  · obtain ⟨htenant, hid⟩ := of_tenantRequisition hfound
    obtain ⟨htenant, -⟩ := Option.filter_eq_some_iff.mp htenant
    refine ⟨fun h => ?_, segmentAfter_mem hid, .inr fun c => mem_of_withoutSuffix htenant⟩
    rw [hempty h] at htenant
    cases htenant
  · change ripplingRequisition url = some found at hfound
    unfold ripplingRequisition at hfound
    split_ifs at hfound with hhost
    split at hfound
    · cases hfound
    · split_ifs at hfound
      obtain ⟨htenant, hid⟩ := of_tenantRequisition hfound
      refine ⟨fun h => ?_, List.mem_of_getElem? hid, .inl (List.mem_of_getElem? htenant)⟩
      rw [hempty h] at hhost
      exact absurd hhost (by decide)

lemma toLower_ne_space (h : c ≠ ' ') : c.toLower ≠ ' ' := by
  unfold Char.toLower
  split
  · next hupper =>
    intro heq
    have hval : c.val + 32 = 32 := congrArg Char.val heq
    have hlow : 65 ≤ c.val.toNat := hupper.1
    have hhigh : c.val.toNat ≤ 90 := hupper.2
    have hsum := congrArg UInt32.toNat hval
    rw [UInt32.toNat_add] at hsum
    omega
  · exact h

lemma space_not_mem_requisition (hplatform : platform.EncodesSpaces) {input : String}
    (h : atsRequisitionFor platform input = some (provider, found)) :
    (∀ c ∈ found.tenant.toList, c.toLower ≠ ' ') ∧ ' ' ∉ found.requisitionId.toList := by
  obtain ⟨url, hurl, h⟩ := Option.bind_eq_some_iff.mp h
  obtain ⟨extractor, hmem, h⟩ := List.exists_of_findSome?_eq_some h
  obtain ⟨found', hfound, heq⟩ := Option.map_eq_some_iff.mp h
  cases heq
  obtain ⟨hextract, -⟩ := Option.filter_eq_some_iff.mp hfound
  obtain ⟨hhost, hid, htenant⟩ := found_of_extractor hmem hextract
  obtain ⟨hspace, hpath⟩ := hplatform input url hurl hhost
  refine ⟨fun c hc => toLower_ne_space fun heq => ?_, fun hc => hpath (mem_of_mem_pathSegments hid hc)⟩
  rcases htenant with htenant | htenant
  · exact hpath (mem_of_mem_pathSegments htenant (heq ▸ hc))
  · obtain ⟨d, hd, hlower⟩ := mem_lowerHost (htenant c hc)
    exact toLower_ne_space (fun hd' => hspace (hd' ▸ hd)) (hlower.trans heq)

lemma space_not_mem_key (hplatform : platform.EncodesSpaces) {input : IdentityInput}
    (h : (named platform input).kind = .requisition) : ' ' ∉ (named platform input).key := by
  unfold named at h ⊢
  cases hsnapshot : if input.provider = some "mpsv_cz" then portalId (input.key.getD "") else none with
  | some id =>
    obtain ⟨-, hid⟩ := Option.ite_none_right_eq_some.mp hsnapshot
    rw [portalId] at hid
    obtain ⟨⟨-, -, hdigits⟩, hid⟩ := Option.ite_none_right_eq_some.mp hid
    cases hid
    rw [Named.key, String.toList_ofList, List.mem_append]
    rintro (hmem | hmem)
    · exact absurd hmem (by decide)
    · exact absurd (List.all_eq_true.mp hdigits _ hmem) (by decide)
  | none =>
    rw [hsnapshot] at h
    cases hfound : atsRequisitionFor platform input.url with
    | some pair =>
      obtain ⟨provider, found⟩ := pair
      obtain ⟨htenant, hid⟩ := space_not_mem_requisition hplatform hfound
      have hname : ' ' ∉ provider.name.toList := by cases provider <;> decide
      simp only [Named.key, String.toList_ofList, List.mem_append, List.mem_map, List.mem_singleton, not_or]
      refine ⟨hname, by decide, ?_, by decide, hid⟩
      rintro ⟨c, hc, heq⟩
      exact htenant c hc heq
    | none =>
      rw [hfound] at h
      dsimp only at h
      split at h
      · cases h
      · cases h

lemma Named.space_mem_words (company title location : String) : ' ' ∈ (words company title location).key :=
  List.mem_append_right _ (List.mem_append_left _ (by decide))

lemma Named.snapshot_ne_requisition {id id' : String} :
    (snapshot id).key ≠ (requisition provider tenant id').key := by
  intro h
  have hname : ['m', 'p', 's', 'v', '_', 'c', 'z'] = provider.name.toList :=
    (append_separator_inj (by decide) provider.colon_not_mem_name h).1
  cases provider <;> exact absurd hname (by decide)

lemma Named.agree_or_confused {a b : Named} (ha : a.kind = .requisition → ' ' ∉ a.key)
    (hb : b.kind = .requisition → ' ' ∉ b.key) (h : a.key = b.key) : a.Agree b ∨ a.Confused b := by
  cases a with
  | snapshot id =>
    cases b with
    | snapshot id' => exact .inl (String.toList_inj.mp (List.append_cancel_left h))
    | requisition => exact absurd h snapshot_ne_requisition
    | link url => exact .inr (.link' h.symm fun heq => by cases heq)
    | words => exact absurd (h ▸ space_mem_words _ _ _) (ha rfl)
  | requisition provider tenant id =>
    cases b with
    | snapshot id' => exact absurd h.symm snapshot_ne_requisition
    | requisition provider' tenant' id' =>
      obtain ⟨hname, hrest⟩ := append_separator_inj provider.colon_not_mem_name provider'.colon_not_mem_name h
      obtain rfl := AtsTenantProvider.name_inj hname
      have hcolon : tenant.toList ++ ([':'] ++ id.toList) = tenant'.toList ++ ([':'] ++ id'.toList) := hrest
      rcases joined_eq_iff.mp hcolon with ⟨htenant, hid⟩ | hmoved
      · exact .inl ⟨rfl, String.toList_inj.mp htenant, String.toList_inj.mp hid⟩
      · exact .inr (.tenant hmoved)
    | link url => exact .inr (.link' h.symm fun heq => by cases heq)
    | words => exact absurd (h ▸ space_mem_words _ _ _) (ha rfl)
  | link url =>
    cases b with
    | link url' => exact .inl trivial
    | _ => exact .inr (.link h fun heq => by cases heq)
  | words company title location =>
    cases b with
    | words company' title' location' =>
      rcases joined_eq_iff.mp h with ⟨hcompany, hrest⟩ | hmoved
      · obtain rfl := String.toList_inj.mp hcompany
        rcases joined_eq_iff.mp hrest with ⟨htitle, hlocation⟩ | hmoved
        · exact .inl ⟨rfl, String.toList_inj.mp htitle, String.toList_inj.mp hlocation⟩
        · exact .inr (.title hmoved)
      · exact .inr (.company hmoved)
    | link url => exact .inr (.link' h.symm fun heq => by cases heq)
    | _ => exact absurd (h ▸ space_mem_words _ _ _) (hb rfl)

lemma Named.Agree.kind_eq {a b : Named} (h : a.Agree b) : a.kind = b.kind := by
  cases a <;> cases b <;> first | rfl | exact h.elim

/-- **Keys tell vacancies apart, unless a separator is moved.**  Two vacancies with one key have the same kind and the
same components exactly if no colon is moved between a tenant and an id, no separator between a company, a title
and a place, and no link spells the key of something that is no link. -/
theorem agree_of_key_eq_iff (platform : Platform) (hplatform : platform.EncodesSpaces) (a b : IdentityInput) :
    ((vacancyIdentityFor platform a).key = (vacancyIdentityFor platform b).key →
        (vacancyIdentityFor platform a).kind = (vacancyIdentityFor platform b).kind ∧
          (named platform a).Agree (named platform b)) ↔
      ¬ (named platform a).Confused (named platform b) := by
  rw [(named_kind platform a).1, (named_kind platform b).1, ← String.toList_inj, (named_kind platform a).2,
    (named_kind platform b).2]
  constructor
  · intro h hconfused
    exact hconfused.not_agree.2 (h hconfused.not_agree.1).2
  · intro h hkey
    have hagree := (Named.agree_or_confused (space_not_mem_key hplatform) (space_not_mem_key hplatform)
      hkey).resolve_right h
    exact ⟨hagree.kind_eq, hagree⟩

/-! ## A tenant with a colon -/

def spacelessPlatform : Platform :=
  { asciiPlatform with parseUrl := fun input => if ' ' ∈ input.toList then none else asciiPlatform.parseUrl input }

lemma spacelessPlatform_encodesSpaces : spacelessPlatform.EncodesSpaces := by
  rintro input url h -
  obtain ⟨hspace, h⟩ := Option.ite_none_left_eq_some.mp h
  obtain ⟨-, h⟩ := Option.ite_none_right_eq_some.mp h
  cases h
  rw [String.toList_ofList, String.toList_ofList]
  have hmem : ∀ c ∈ input.toList.drop 8, c ≠ ' ' := fun c hc heq => hspace (heq ▸ List.mem_of_mem_drop hc)
  exact ⟨fun h => hmem _ (List.takeWhile_subset _ h) rfl, fun h => hmem _ (List.dropWhile_subset _ h) rfl⟩

def greenhouseRow (path : String) : IdentityInput :=
  ⟨"https://job-boards.greenhouse.io" ++ path, "Acme", "Engineer", "Remote", none, none⟩

/-- The key of the one tenant's requisition is the key of the other tenant's. -/
theorem colon_moves : (vacancyIdentityFor spacelessPlatform (greenhouseRow "/a:b/jobs/c")).key =
      (vacancyIdentityFor spacelessPlatform (greenhouseRow "/a/jobs/b:c")).key ∧
    ¬ (named spacelessPlatform (greenhouseRow "/a:b/jobs/c")).Agree
      (named spacelessPlatform (greenhouseRow "/a/jobs/b:c")) := by
  have hleft : named spacelessPlatform (greenhouseRow "/a:b/jobs/c") = .requisition .greenhouse "a:b" "c" := by
    decide +kernel
  have hright : named spacelessPlatform (greenhouseRow "/a/jobs/b:c") = .requisition .greenhouse "a" "b:c" := by
    decide +kernel
  refine ⟨by decide +kernel, ?_⟩
  rw [hleft, hright]
  exact fun h => absurd h.2.1 (by decide)

theorem colon_moves_iff :
    ((vacancyIdentityFor spacelessPlatform (greenhouseRow "/a/jobs/1")).key =
          (vacancyIdentityFor spacelessPlatform (greenhouseRow "/A/jobs/1")).key →
        (vacancyIdentityFor spacelessPlatform (greenhouseRow "/a/jobs/1")).kind =
            (vacancyIdentityFor spacelessPlatform (greenhouseRow "/A/jobs/1")).kind ∧
          (named spacelessPlatform (greenhouseRow "/a/jobs/1")).Agree
            (named spacelessPlatform (greenhouseRow "/A/jobs/1"))) ↔
      ¬ (named spacelessPlatform (greenhouseRow "/a/jobs/1")).Confused
        (named spacelessPlatform (greenhouseRow "/A/jobs/1")) :=
  agree_of_key_eq_iff spacelessPlatform spacelessPlatform_encodesSpaces _ _

end VacancyRadar.GlobalRemote
