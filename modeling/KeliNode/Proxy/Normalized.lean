import KeliNode.Proxy.Config
import KeliNode.Lib.Except

/-!
# What a normalised configuration looks like

A kept profile is the trimmed form of a listed one, names a site and a valid upstream, and shares its key with no
other kept profile (`mem_keepProfiles`, `nodup_keepProfiles`).  For a whole configuration these facts are the
fields of `NormalizedConfig`, which every result of `normalizeSubscriptionProxyConfig` has
(`normalized_of_ok`).
-/

namespace KeliNode

open Lib

/-! ## The profile loop -/

section

variable {α : Type} {prepare : α → α} {isBlank : α → Bool} {refusal : α → Option Text} {key : α → Text}

/-- What the loop did with its first entry. -/
theorem keepProfiles_cons_ok {raw : α} {rest kept : List α} {seen : List Text}
    (h : keepProfiles prepare isBlank refusal key seen (raw :: rest) = .ok kept) :
    (isBlank (prepare raw) = true ∧ keepProfiles prepare isBlank refusal key seen rest = .ok kept) ∨
    (isBlank (prepare raw) = false ∧ refusal (prepare raw) = none ∧
      ((key (prepare raw) ∈ seen ∧ keepProfiles prepare isBlank refusal key seen rest = .ok kept) ∨
       (key (prepare raw) ∉ seen ∧ ∃ kept', kept = prepare raw :: kept' ∧
          keepProfiles prepare isBlank refusal key (key (prepare raw) :: seen) rest = .ok kept'))) := by
  simp only [keepProfiles] at h
  by_cases hblank : isBlank (prepare raw) = true
  · rw [if_pos hblank] at h
    exact .inl ⟨hblank, h⟩
  · rw [if_neg hblank] at h
    refine .inr ⟨by simpa using hblank, ?_⟩
    cases hrefusal : refusal (prepare raw) with
    | some error => rw [hrefusal] at h; cases h
    | none =>
      refine ⟨rfl, ?_⟩
      by_cases hseen : seen.contains (key (prepare raw)) = true
      · simp only [hrefusal, hseen, if_true] at h
        exact .inl ⟨List.contains_iff_mem.1 hseen, h⟩
      · simp only [hrefusal, hseen] at h
        obtain ⟨kept', hkept, rfl⟩ := map_eq_ok.1 h
        exact .inr ⟨fun hmem => hseen (List.contains_iff_mem.2 hmem), kept', rfl, hkept⟩

/-- A kept profile: a listed one, trimmed, neither blank nor refused, under a key not seen before. -/
theorem mem_keepProfiles {listed kept : List α} {seen : List Text}
    (h : keepProfiles prepare isBlank refusal key seen listed = .ok kept) {profile : α} (hp : profile ∈ kept) :
    (∃ raw ∈ listed, prepare raw = profile) ∧ isBlank profile = false ∧ refusal profile = none ∧ key profile ∉ seen := by
  induction listed generalizing seen kept with
  | nil => cases h; cases hp
  | cons raw rest ih =>
    rcases keepProfiles_cons_ok h with ⟨_, h⟩ | ⟨hblank, hrefusal, ⟨_, h⟩ | ⟨hseen, kept', rfl, hrest⟩⟩
    · obtain ⟨⟨raw', hraw, heq⟩, hfacts⟩ := ih h hp
      exact ⟨⟨raw', List.mem_cons_of_mem _ hraw, heq⟩, hfacts⟩
    · obtain ⟨⟨raw', hraw, heq⟩, hfacts⟩ := ih h hp
      exact ⟨⟨raw', List.mem_cons_of_mem _ hraw, heq⟩, hfacts⟩
    · rcases List.mem_cons.1 hp with rfl | hp
      · exact ⟨⟨raw, List.mem_cons_self, rfl⟩, hblank, hrefusal, hseen⟩
      · obtain ⟨⟨raw', hraw, heq⟩, hb, hr, hk⟩ := ih hrest hp
        exact ⟨⟨raw', List.mem_cons_of_mem _ hraw, heq⟩, hb, hr, fun hmem => hk (List.mem_cons_of_mem _ hmem)⟩

theorem length_keepProfiles {listed kept : List α} {seen : List Text}
    (h : keepProfiles prepare isBlank refusal key seen listed = .ok kept) : kept.length ≤ listed.length := by
  induction listed generalizing seen kept with
  | nil => cases h; exact Nat.le_refl _
  | cons raw rest ih =>
    rcases keepProfiles_cons_ok h with ⟨_, h⟩ | ⟨_, _, ⟨_, h⟩ | ⟨_, kept', rfl, hrest⟩⟩
    · exact (ih h).trans (Nat.le_succ _)
    · exact (ih h).trans (Nat.le_succ _)
    · exact Nat.succ_le_succ (ih hrest)

/-- A loop that passes nothing over keeps every entry in its trimmed form. -/
theorem keepProfiles_eq_map {listed kept : List α} {seen : List Text}
    (h : keepProfiles prepare isBlank refusal key seen listed = .ok kept) (hlen : listed.length ≤ kept.length) :
    kept = listed.map prepare := by
  induction listed generalizing seen kept with
  | nil => cases h; rfl
  | cons raw rest ih =>
    rcases keepProfiles_cons_ok h with ⟨_, h⟩ | ⟨_, _, ⟨_, h⟩ | ⟨_, kept', rfl, hrest⟩⟩
    · exact absurd (length_keepProfiles h) (by simp only [List.length_cons] at hlen; omega)
    · exact absurd (length_keepProfiles h) (by simp only [List.length_cons] at hlen; omega)
    · rw [List.map_cons, ih hrest (Nat.le_of_succ_le_succ hlen)]

/-- The loop fails on a refused profile. -/
theorem refusal_eq_none_of_ok {listed kept : List α} {seen : List Text}
    (h : keepProfiles prepare isBlank refusal key seen listed = .ok kept) {raw : α} (hraw : raw ∈ listed)
    (hblank : isBlank (prepare raw) = false) : refusal (prepare raw) = none := by
  induction listed generalizing seen kept with
  | nil => cases hraw
  | cons first rest ih =>
    rcases keepProfiles_cons_ok h with ⟨hfirst, h⟩ | ⟨_, hrefusal, ⟨_, h⟩ | ⟨_, kept', _, h⟩⟩
    · rcases List.mem_cons.1 hraw with rfl | hraw
      · rw [hfirst] at hblank
        cases hblank
      · exact ih h hraw
    · rcases List.mem_cons.1 hraw with rfl | hraw
      · exact hrefusal
      · exact ih h hraw
    · rcases List.mem_cons.1 hraw with rfl | hraw
      · exact hrefusal
      · exact ih h hraw

/-- The loop fails on a refused profile only. -/
theorem keepProfiles_isOk {listed : List α}
    (h : ∀ raw ∈ listed, isBlank (prepare raw) = false → refusal (prepare raw) = none) (seen : List Text) :
    ∃ kept, keepProfiles prepare isBlank refusal key seen listed = .ok kept := by
  induction listed generalizing seen with
  | nil => exact ⟨[], rfl⟩
  | cons raw rest ih =>
    have ih := ih fun raw' hraw => h raw' (List.mem_cons_of_mem _ hraw)
    simp only [keepProfiles]
    by_cases hblank : isBlank (prepare raw) = true
    · rw [if_pos hblank]
      exact ih seen
    · rw [if_neg hblank, h raw List.mem_cons_self (by simpa using hblank)]
      by_cases hseen : seen.contains (key (prepare raw)) = true
      · simp only [hseen, if_true]
        exact ih seen
      · obtain ⟨kept, hkept⟩ := ih (key (prepare raw) :: seen)
        simp only [hseen, hkept]
        exact ⟨_, rfl⟩

/-- A profile that is not blank keeps the list from coming out empty. -/
theorem keepProfiles_ne_nil {listed kept : List α} {seen : List Text}
    (h : keepProfiles prepare isBlank refusal key seen listed = .ok kept) {raw : α} (hraw : raw ∈ listed)
    (hblank : isBlank (prepare raw) = false) (hseen : key (prepare raw) ∉ seen) : kept ≠ [] := by
  induction listed generalizing seen kept with
  | nil => cases hraw
  | cons first rest ih =>
    rcases keepProfiles_cons_ok h with ⟨hfirst, h⟩ | ⟨_, _, ⟨hkey, h⟩ | ⟨_, kept', rfl, h⟩⟩
    · rcases List.mem_cons.1 hraw with rfl | hraw
      · rw [hfirst] at hblank
        cases hblank
      · exact ih h hraw hseen
    · rcases List.mem_cons.1 hraw with rfl | hraw
      · exact absurd hkey hseen
      · exact ih h hraw hseen
    · exact List.cons_ne_nil _ _

/-- No two kept profiles have one key. -/
theorem nodup_keepProfiles {listed kept : List α} {seen : List Text}
    (h : keepProfiles prepare isBlank refusal key seen listed = .ok kept) : (kept.map key).Nodup := by
  induction listed generalizing seen kept with
  | nil => cases h; exact List.nodup_nil
  | cons raw rest ih =>
    rcases keepProfiles_cons_ok h with ⟨_, h⟩ | ⟨_, _, ⟨_, h⟩ | ⟨_, kept', rfl, hrest⟩⟩
    · exact ih h
    · exact ih h
    · refine List.nodup_cons.2 ⟨?_, ih hrest⟩
      intro hmem
      obtain ⟨other, hother, heq⟩ := List.mem_map.1 hmem
      exact (mem_keepProfiles hrest hother).2.2.2 (heq ▸ List.mem_cons_self)

end

/-! ## Text fields -/

theorem trim_firstNonEmpty {value fallback : Text} (hv : trim value = value) (hf : trim fallback = fallback) :
    trim (firstNonEmpty value fallback) = firstNonEmpty value fallback := by
  rw [firstNonEmpty]
  split <;> assumption

theorem firstNonEmpty_ne_nil {value fallback : Text} (hf : fallback ≠ []) : firstNonEmpty value fallback ≠ [] := by
  rw [firstNonEmpty]
  split
  · exact hf
  · simpa [List.isEmpty_iff] using ‹¬value.isEmpty = true›

theorem firstNonEmpty_eq_self {value fallback : Text} (hv : value ≠ []) : firstNonEmpty value fallback = value := by
  simp [firstNonEmpty, hv]

theorem trimTrailingSlashes_idem (s : Text) : trimTrailingSlashes (trimTrailingSlashes s) = trimTrailingSlashes s :=
  trimEndMatches_idem _ s

/-- A normalised prefix is the root, or starts with a slash and ends with something else. -/
theorem normalizeProxyPathPrefix_shape (value : Text) : normalizeProxyPathPrefix value = "/" ∨
    (∃ rest, normalizeProxyPathPrefix value = '/' :: rest ∧ rest ≠ [] ∧ rest.getLast? ≠ some '/') := by
  simp only [normalizeProxyPathPrefix]
  generalize hv : trimEndMatches (· = '/') (trim value) = v
  have hlast : v.getLast? ≠ some '/' := by
    intro h
    have hp := getLast?_trimEndMatches (hv ▸ h : (trimEndMatches (· = '/') (trim value)).getLast? = some '/')
    simp at hp
  by_cases hroot : (v.isEmpty || v = "/") = true
  · exact .inl (if_pos hroot)
  · rw [if_neg hroot]
    simp only [Bool.or_eq_true, List.isEmpty_iff, decide_eq_true_eq, not_or] at hroot
    right
    cases v with
    | nil => exact absurd rfl hroot.1
    | cons c rest =>
      by_cases hslash : (c :: rest).head? = some '/'
      · rw [if_pos hslash]
        cases Option.some.inj hslash
        have hne : rest ≠ [] := by
          rintro rfl
          exact hlast rfl
        refine ⟨rest, rfl, hne, ?_⟩
        rwa [List.getLast?_cons, Option.getD_of_ne_none (by simpa using hne)] at hlast
      · rw [if_neg hslash]
        exact ⟨c :: rest, rfl, by simp, hlast⟩

theorem normalizeProxyPathPrefix_ne_nil (value : Text) : normalizeProxyPathPrefix value ≠ [] := by
  rcases normalizeProxyPathPrefix_shape value with h | ⟨rest, h, _⟩ <;> rw [h]
  · decide
  · simp

theorem head?_normalizeProxyPathPrefix (value : Text) : (normalizeProxyPathPrefix value).head? = some '/' := by
  rcases normalizeProxyPathPrefix_shape value with h | ⟨rest, h, _⟩ <;> rw [h] <;> rfl

/-! ## Upstream URLs -/

def IsScheme (scheme : Text) : Prop := scheme = "https://" ∨ scheme = "http://"

theorem stripScheme_eq_some {value rest : Text} :
    (Json.stripPrefix "https://" value).or (Json.stripPrefix "http://" value) = some rest ↔
      ∃ scheme, IsScheme scheme ∧ value = scheme ++ rest := by
  constructor
  · intro h
    rcases Option.or_eq_some_iff.1 h with h | ⟨_, h⟩
    · exact ⟨_, .inl rfl, Json.stripPrefix_eq_some.1 h⟩
    · exact ⟨_, .inr rfl, Json.stripPrefix_eq_some.1 h⟩
  · rintro ⟨scheme, rfl | rfl, rfl⟩
    · rw [Json.stripPrefix_append]
      rfl
    · have hnone : Json.stripPrefix "https://" ("http://" ++ rest) = none := by
        rw [Json.stripPrefix_eq_none]
        rintro ⟨back, hback⟩
        have hfifth := congrArg (fun s : Text => s[4]?) hback
        exact absurd (Option.some.inj hfifth) (by decide)
      rw [hnone, Json.stripPrefix_append]
      rfl

/-- A valid upstream URL: a scheme, a host that is not blank, and what follows from a slash on. -/
theorem isValidUpstreamBaseUrl_iff {value : Text} : isValidUpstreamBaseUrl value = true ↔
    ∃ scheme host rest, IsScheme scheme ∧ value = scheme ++ (host ++ rest) ∧ '/' ∉ host ∧
      (∃ c ∈ host, isWhite c = false) ∧ ∀ c, rest.head? = some c → c = '/' := by
  rw [isValidUpstreamBaseUrl]
  constructor
  · intro h
    cases hstrip : (Json.stripPrefix "https://" value).or (Json.stripPrefix "http://" value) with
    | none => rw [hstrip] at h; cases h
    | some afterScheme =>
      rw [hstrip] at h
      obtain ⟨scheme, hscheme, rfl⟩ := stripScheme_eq_some.1 hstrip
      refine ⟨scheme, afterScheme.takeWhile (· ≠ '/'), afterScheme.dropWhile (· ≠ '/'), hscheme, ?_, ?_, ?_, ?_⟩
      · rw [List.takeWhile_append_dropWhile]
      · exact not_mem_takeWhile_ne _ _
      · by_contra hwhite
        have hblank : trim (afterScheme.takeWhile (· ≠ '/')) = [] := by
          apply trim_eq_nil_iff.2
          intro c hc
          by_contra hdark
          exact hwhite ⟨c, hc, by simpa using hdark⟩
        simp only [hblank] at h
        cases h
      · exact fun c => head?_dropWhile_ne
  · rintro ⟨scheme, host, rest, hscheme, rfl, hslash, ⟨c, hc, hdark⟩, hrest⟩
    rw [stripScheme_eq_some.2 ⟨scheme, hscheme, rfl⟩]
    have htake : (host ++ rest).takeWhile (· ≠ '/') = host := by
      rw [List.takeWhile_append_of_pos]
      · cases rest with
        | nil => simp
        | cons d rest => simp [hrest d rfl]
      · intro d hd
        simpa using fun h : d = '/' => hslash (h ▸ hd)
    simp only [htake, Bool.not_eq_true', List.isEmpty_eq_false_iff]
    intro hnil
    rw [trim_eq_nil_iff.1 hnil c hc] at hdark
    cases hdark

theorem head?_scheme {scheme : Text} (h : IsScheme scheme) (rest : Text) : (scheme ++ rest).head? = some 'h' := by
  rcases h with rfl | rfl <;> rfl

/-- A valid URL stays valid when it is trimmed once more. -/
theorem isValidUpstreamBaseUrl_trim {value : Text} (h : isValidUpstreamBaseUrl value = true) :
    isValidUpstreamBaseUrl (trimTrailingSlashes (trim value)) = true := by
  obtain ⟨scheme, host, rest, hscheme, rfl, hslash, ⟨c, hc, hdark⟩, hrest⟩ := isValidUpstreamBaseUrl_iff.1 h
  obtain ⟨front, back, rfl⟩ := List.append_of_mem hc
  have hc' : c ≠ '/' := fun heq => hslash (heq ▸ hc)
  have hstart : trimStartMatches isWhite (scheme ++ ((front ++ c :: back) ++ rest)) =
      scheme ++ ((front ++ c :: back) ++ rest) := by
    apply trimStartMatches_eq_self
    intro d hd
    rw [head?_scheme hscheme] at hd
    cases hd
    decide
  have hsplit : scheme ++ ((front ++ c :: back) ++ rest) = (scheme ++ front) ++ c :: (back ++ rest) := by simp
  rw [trim, hstart, hsplit, trimEndMatches_append_cons hdark, trimTrailingSlashes,
    trimEndMatches_append_cons (by simpa using hc')]
  generalize trimEndMatches (· = '/') (trimEndMatches isWhite (back ++ rest)) = tail
  refine isValidUpstreamBaseUrl_iff.2
    ⟨scheme, front ++ c :: tail.takeWhile (· ≠ '/'), tail.dropWhile (· ≠ '/'), hscheme, ?_, ?_, ⟨c, by simp, hdark⟩, ?_⟩
  · simp
  · simp only [List.mem_append, List.mem_cons, not_or] at hslash ⊢
    exact ⟨hslash.1, hslash.2.1, not_mem_takeWhile_ne _ _⟩
  · exact fun d => head?_dropWhile_ne
/-! ## Profiles -/

/-- A subscription profile that went through the normalisation. -/
structure NormalizedProfile (profile : SubscriptionProxyProfile) : Prop where
  siteTrimmed : trim profile.siteId = profile.siteId
  siteNe : profile.siteId ≠ []
  baseTrimmed : trimTrailingSlashes profile.upstreamBaseUrl = profile.upstreamBaseUrl
  baseValid : isValidUpstreamBaseUrl profile.upstreamBaseUrl = true
  pathTrimmed : trimMatches (· = '/') profile.subscribePath = profile.subscribePath
  pathNe : profile.subscribePath ≠ []

/-- A website profile that went through the normalisation. -/
structure NormalizedWebsite (profile : WebsiteProxyProfile) : Prop where
  siteTrimmed : trim profile.siteId = profile.siteId
  siteNe : profile.siteId ≠ []
  baseTrimmed : trimTrailingSlashes profile.upstreamBaseUrl = profile.upstreamBaseUrl
  baseValid : isValidUpstreamBaseUrl profile.upstreamBaseUrl = true
  prefixed : profile.pathPrefix.head? = some '/'

theorem subscribePath_prepared (value : Text) :
    trimMatches (· = '/') (firstNonEmpty (trimSubscriptionPath value) "s") =
      firstNonEmpty (trimSubscriptionPath value) "s" := by
  rw [firstNonEmpty]
  split
  · decide
  · exact trimMatches_idem _ _

theorem SubscriptionProxyProfile.valid_of_refusal {profile : SubscriptionProxyProfile} (h : profile.refusal = none) :
    isValidUpstreamBaseUrl profile.upstreamBaseUrl = true := by
  by_contra hinvalid
  rw [SubscriptionProxyProfile.refusal, if_neg hinvalid] at h
  cases h

theorem WebsiteProxyProfile.valid_of_refusal {profile : WebsiteProxyProfile} (h : profile.refusal = none) :
    isValidUpstreamBaseUrl profile.upstreamBaseUrl = true := by
  by_contra hinvalid
  rw [WebsiteProxyProfile.refusal, if_neg hinvalid] at h
  cases h

theorem normalizedProfile_of_mem {listed kept : List SubscriptionProxyProfile} (h : normalizeProfiles listed = .ok kept)
    {profile : SubscriptionProxyProfile} (hp : profile ∈ kept) : NormalizedProfile profile := by
  obtain ⟨⟨raw, _, rfl⟩, hblank, hvalid, _⟩ := mem_keepProfiles h hp
  simp only [SubscriptionProxyProfile.isBlank, Bool.or_eq_false_iff, List.isEmpty_eq_false_iff] at hblank
  exact ⟨trim_trim _, hblank.1, trimTrailingSlashes_idem _, SubscriptionProxyProfile.valid_of_refusal hvalid,
    subscribePath_prepared _, firstNonEmpty_ne_nil (by decide)⟩

theorem normalizedWebsite_of_mem {listed kept : List WebsiteProxyProfile} (h : normalizeWebsiteProfiles listed = .ok kept)
    {profile : WebsiteProxyProfile} (hp : profile ∈ kept) : NormalizedWebsite profile := by
  obtain ⟨⟨raw, _, rfl⟩, hblank, hvalid, _⟩ := mem_keepProfiles h hp
  simp only [WebsiteProxyProfile.isBlank, Bool.or_eq_false_iff, List.isEmpty_eq_false_iff] at hblank
  exact ⟨trim_trim _, hblank.1, trimTrailingSlashes_idem _, WebsiteProxyProfile.valid_of_refusal hvalid,
    head?_normalizeProxyPathPrefix _⟩

/-! ## Configurations -/

/-- A configuration that went through the normalisation. -/
structure NormalizedConfig (config : SubscriptionProxyConfig) : Prop where
  httpsTrimmed : trim config.httpsListen = config.httpsListen
  httpsNe : config.httpsListen ≠ []
  httpTrimmed : trim config.httpListen = config.httpListen
  certTrimmed : trim config.certFile = config.certFile
  keyTrimmed : trim config.keyFile = config.keyFile
  domainTrimmed : trim config.certificateDomain = config.certificateDomain
  challengeTrimmed : trim config.challengeDir = config.challengeDir
  challengeNe : config.challengeDir ≠ []
  limitNe : config.maxResponseBytes ≠ 0
  profiles : ∀ profile ∈ config.profiles, NormalizedProfile profile
  profilesNodup : (config.profiles.map SubscriptionProxyProfile.key).Nodup
  websites : ∀ profile ∈ config.websiteProfiles, NormalizedWebsite profile
  websitesNodup : (config.websiteProfiles.map WebsiteProxyProfile.key).Nodup

/-- What a successful normalisation went through; it is enabled exactly when it has something to serve. -/
theorem normalize_eq_ok {source config : SubscriptionProxyConfig}
    (h : normalizeSubscriptionProxyConfig source = .ok config) : ∃ profiles websiteProfiles enabled,
      normalizeProfiles (source.profiles ++ legacyProfile (trimSubscriptionProxyConfig source)) = .ok profiles ∧
      normalizeWebsiteProfiles source.websiteProfiles = .ok websiteProfiles ∧
      (enabled = true ↔ profiles ≠ [] ∨ websiteProfiles ≠ []) ∧
      config = { trimSubscriptionProxyConfig source with profiles, websiteProfiles, enabled } := by
  simp only [normalizeSubscriptionProxyConfig, bind_eq_ok] at h
  obtain ⟨profiles, hprofiles, websiteProfiles, hwebsites, h⟩ := h
  split at h
  · cases h
  · rename_i hserves
    cases h
    refine ⟨profiles, websiteProfiles, _, hprofiles, hwebsites, ?_, rfl⟩
    cases profiles <;> cases websiteProfiles <;> simp_all

/-- **Normalised**: every result of the normalisation has the shape the rest of the proxy relies on. -/
theorem normalized_of_ok {source config : SubscriptionProxyConfig}
    (h : normalizeSubscriptionProxyConfig source = .ok config) : NormalizedConfig config := by
  obtain ⟨profiles, websiteProfiles, enabled, hprofiles, hwebsites, _, rfl⟩ := normalize_eq_ok h
  constructor
  case httpsTrimmed => exact trim_firstNonEmpty (trim_trim _) (by decide)
  case httpsNe => exact firstNonEmpty_ne_nil (by decide)
  case challengeTrimmed => exact trim_firstNonEmpty (trim_trim _) (by decide)
  case challengeNe => exact firstNonEmpty_ne_nil (by decide)
  case limitNe =>
    change (if source.maxResponseBytes = 0 then defaultMaxResponseBytes else source.maxResponseBytes) ≠ 0
    split
    · decide
    · assumption
  case profiles => exact fun _ => normalizedProfile_of_mem hprofiles
  case profilesNodup => exact nodup_keepProfiles hprofiles
  case websites => exact fun _ => normalizedWebsite_of_mem hwebsites
  case websitesNodup => exact nodup_keepProfiles hwebsites
  all_goals exact trim_trim _

/-! ## Normalising again -/

theorem SubscriptionProxyProfile.isBlank_eq_false {profile : SubscriptionProxyProfile} :
    profile.isBlank = false ↔ profile.siteId ≠ [] ∧ profile.upstreamBaseUrl ≠ [] := by
  simp [SubscriptionProxyProfile.isBlank]

theorem WebsiteProxyProfile.isBlank_eq_false {profile : WebsiteProxyProfile} :
    profile.isBlank = false ↔ profile.siteId ≠ [] ∧ profile.upstreamBaseUrl ≠ [] := by
  simp [WebsiteProxyProfile.isBlank]

theorem ne_nil_of_valid {value : Text} (h : isValidUpstreamBaseUrl value = true) : value ≠ [] := by
  rintro rfl
  revert h
  decide

theorem prepare_base_ne_nil {value : Text} (h : trimTrailingSlashes (trim value) ≠ []) : value ≠ [] := by
  rintro rfl
  exact h rfl

theorem SubscriptionProxyProfile.refusal_eq_none {profile : SubscriptionProxyProfile}
    (h : isValidUpstreamBaseUrl profile.upstreamBaseUrl = true) : profile.refusal = none := if_pos h

theorem WebsiteProxyProfile.refusal_eq_none {profile : WebsiteProxyProfile}
    (h : isValidUpstreamBaseUrl profile.upstreamBaseUrl = true) : profile.refusal = none := if_pos h

theorem mem_legacyProfile {config : SubscriptionProxyConfig} {profile : SubscriptionProxyProfile}
    (h : profile ∈ legacyProfile config) :
    profile.siteId = config.siteId ∧ profile.upstreamBaseUrl = config.upstreamBaseUrl := by
  rw [legacyProfile] at h
  split at h
  · rw [List.mem_singleton.1 h]
    exact ⟨rfl, rfl⟩
  · cases h

theorem exists_mem_legacyProfile {config : SubscriptionProxyConfig} (h : config.upstreamBaseUrl ≠ []) :
    ∃ profile, profile ∈ legacyProfile config := by
  rw [legacyProfile, if_pos (by simp [h])]
  exact ⟨_, List.mem_singleton.2 rfl⟩

/-- The single site of the older form is listed again, trimmed once more; what is left of it was already kept. -/
theorem legacyProfile_again {source : SubscriptionProxyConfig} {raw : SubscriptionProxyProfile}
    (hraw : raw ∈ legacyProfile (trimSubscriptionProxyConfig (trimSubscriptionProxyConfig source)))
    (hblank : raw.prepare.isBlank = false) : ∃ raw₀ ∈ legacyProfile (trimSubscriptionProxyConfig source),
      raw₀.prepare.isBlank = false ∧ raw₀.prepare.upstreamBaseUrl = raw.upstreamBaseUrl := by
  obtain ⟨hsite, hbase⟩ := SubscriptionProxyProfile.isBlank_eq_false.1 hblank
  obtain ⟨hrawSite, hrawBase⟩ := mem_legacyProfile hraw
  have hbase₂ : raw.upstreamBaseUrl ≠ [] := prepare_base_ne_nil hbase
  have hbase₁ : trimTrailingSlashes (trim source.upstreamBaseUrl) ≠ [] := by
    rw [hrawBase] at hbase₂
    exact prepare_base_ne_nil hbase₂
  obtain ⟨raw₀, hraw₀⟩ := (exists_mem_legacyProfile hbase₁ : ∃ raw, raw ∈ legacyProfile (trimSubscriptionProxyConfig source))
  obtain ⟨hraw₀Site, hraw₀Base⟩ := mem_legacyProfile hraw₀
  have hprepared : raw₀.prepare.upstreamBaseUrl = raw.upstreamBaseUrl := by
    rw [hrawBase]
    change trimTrailingSlashes (trim raw₀.upstreamBaseUrl) = _
    rw [hraw₀Base]
    rfl
  refine ⟨raw₀, hraw₀, SubscriptionProxyProfile.isBlank_eq_false.2 ⟨?_, hprepared ▸ hbase₂⟩, hprepared⟩
  change trim raw.siteId ≠ [] at hsite
  change trim raw₀.siteId ≠ []
  rw [hrawSite] at hsite
  rw [hraw₀Site]
  change trim (trim (trim source.siteId)) ≠ [] at hsite
  rwa [trim_trim] at hsite

theorem normalizeProfiles_again {source : SubscriptionProxyConfig} {profiles : List SubscriptionProxyProfile}
    (h : normalizeProfiles (source.profiles ++ legacyProfile (trimSubscriptionProxyConfig source)) = .ok profiles) :
    ∃ again, normalizeProfiles (profiles ++ legacyProfile (trimSubscriptionProxyConfig (trimSubscriptionProxyConfig source))) =
      .ok again ∧ (again = [] ↔ profiles = []) := by
  have hnormal : ∀ profile ∈ profiles, NormalizedProfile profile := fun _ => normalizedProfile_of_mem h
  have hok : ∀ raw ∈ profiles ++ legacyProfile (trimSubscriptionProxyConfig (trimSubscriptionProxyConfig source)),
      raw.prepare.isBlank = false → raw.prepare.refusal = none := by
    intro raw hraw hblank
    apply SubscriptionProxyProfile.refusal_eq_none
    rcases List.mem_append.1 hraw with hraw | hraw
    · exact isValidUpstreamBaseUrl_trim (hnormal raw hraw).baseValid
    · obtain ⟨raw₀, hraw₀, hblank₀, hbase⟩ := legacyProfile_again hraw hblank
      have hvalid := SubscriptionProxyProfile.valid_of_refusal
        (refusal_eq_none_of_ok h (List.mem_append_right _ hraw₀) hblank₀)
      rw [hbase] at hvalid
      exact isValidUpstreamBaseUrl_trim hvalid
  obtain ⟨again, hagain⟩ := keepProfiles_isOk hok []
  refine ⟨again, hagain, ?_, ?_⟩
  · rintro rfl
    by_contra hne
    obtain ⟨profile, rest, rfl⟩ := List.exists_cons_of_ne_nil hne
    have hp := hnormal profile List.mem_cons_self
    refine keepProfiles_ne_nil hagain (List.mem_append_left _ List.mem_cons_self) ?_ (List.not_mem_nil) rfl
    refine SubscriptionProxyProfile.isBlank_eq_false.2 ⟨?_, ne_nil_of_valid (isValidUpstreamBaseUrl_trim hp.baseValid)⟩
    change trim profile.siteId ≠ []
    rw [hp.siteTrimmed]
    exact hp.siteNe
  · rintro rfl
    by_contra hne
    obtain ⟨profile, rest, rfl⟩ := List.exists_cons_of_ne_nil hne
    obtain ⟨⟨raw, hraw, rfl⟩, hblank, _⟩ := mem_keepProfiles hagain (List.mem_cons_self)
    obtain ⟨raw₀, hraw₀, hblank₀, _⟩ := legacyProfile_again (by simpa using hraw) hblank
    exact keepProfiles_ne_nil h (List.mem_append_right _ hraw₀) hblank₀ List.not_mem_nil rfl

theorem normalizeWebsiteProfiles_again {listed profiles : List WebsiteProxyProfile}
    (h : normalizeWebsiteProfiles listed = .ok profiles) :
    ∃ again, normalizeWebsiteProfiles profiles = .ok again ∧ (again = [] ↔ profiles = []) := by
  have hnormal : ∀ profile ∈ profiles, NormalizedWebsite profile := fun _ => normalizedWebsite_of_mem h
  have hok : ∀ raw ∈ profiles, raw.prepare.isBlank = false → raw.prepare.refusal = none := fun raw hraw _ =>
    WebsiteProxyProfile.refusal_eq_none (isValidUpstreamBaseUrl_trim (hnormal raw hraw).baseValid)
  obtain ⟨again, hagain⟩ := keepProfiles_isOk hok []
  refine ⟨again, hagain, ?_, ?_⟩
  · rintro rfl
    by_contra hne
    obtain ⟨profile, rest, rfl⟩ := List.exists_cons_of_ne_nil hne
    have hp := hnormal profile List.mem_cons_self
    refine keepProfiles_ne_nil hagain List.mem_cons_self ?_ (List.not_mem_nil) rfl
    refine WebsiteProxyProfile.isBlank_eq_false.2 ⟨?_, ne_nil_of_valid (isValidUpstreamBaseUrl_trim hp.baseValid)⟩
    change trim profile.siteId ≠ []
    rw [hp.siteTrimmed]
    exact hp.siteNe
  · rintro rfl
    cases hagain
    rfl

theorem isIdle_iff {source config : SubscriptionProxyConfig} (h : normalizeSubscriptionProxyConfig source = .ok config) :
    config.isIdle = true ↔ config.profiles = [] ∧ config.websiteProfiles = [] := by
  obtain ⟨profiles, websiteProfiles, enabled, _, _, henabled, rfl⟩ := normalize_eq_ok h
  simp only [SubscriptionProxyConfig.isIdle]
  cases enabled <;> simp_all

/-- Normalising a normalised configuration succeeds and leaves as much to serve. -/
theorem normalize_again {source config : SubscriptionProxyConfig}
    (h : normalizeSubscriptionProxyConfig source = .ok config) :
    ∃ again, normalizeSubscriptionProxyConfig config = .ok again ∧ again.isIdle = config.isIdle := by
  obtain ⟨profiles, websiteProfiles, enabled, hprofiles, hwebsites, henabled, hconfig⟩ := normalize_eq_ok h
  obtain ⟨profiles', hprofiles', hiff⟩ := normalizeProfiles_again hprofiles
  obtain ⟨websiteProfiles', hwebsites', hwiff⟩ := normalizeWebsiteProfiles_again hwebsites
  have hlegacy : legacyProfile (trimSubscriptionProxyConfig config) =
      legacyProfile (trimSubscriptionProxyConfig (trimSubscriptionProxyConfig source)) := by
    rw [hconfig]
    rfl
  have hagain : ∃ again, normalizeSubscriptionProxyConfig config = .ok again ∧ again.profiles = profiles' ∧
      again.websiteProfiles = websiteProfiles' := by
    have hlists : config.profiles = profiles ∧ config.websiteProfiles = websiteProfiles ∧ config.enabled = enabled := by
      rw [hconfig]
      exact ⟨rfl, rfl, rfl⟩
    rw [normalizeSubscriptionProxyConfig]
    change ∃ again, (normalizeProfiles (config.profiles ++ legacyProfile (trimSubscriptionProxyConfig config)) >>= _) = _ ∧ _
    rw [hlegacy, hlists.1, hprofiles']
    change ∃ again, (normalizeWebsiteProfiles config.websiteProfiles >>= _) = _ ∧ _
    rw [hlists.2.1, hwebsites']
    refine ⟨_, if_neg ?_, rfl, rfl⟩
    change ¬ ((config.enabled || _ || _) && _ && _) = true
    have hserves : ∀ e a b : Bool, (e = true → a = false ∨ b = false) → ¬ ((e || !a || !b) && a && b) = true := by
      decide
    refine hserves _ _ _ fun he => ?_
    rw [hlists.2.2] at he
    rw [List.isEmpty_eq_false_iff, List.isEmpty_eq_false_iff, ne_eq, ne_eq, hiff, hwiff]
    exact henabled.1 he
  obtain ⟨again, hagain, rfl, rfl⟩ := hagain
  refine ⟨again, hagain, ?_⟩
  rw [Bool.eq_iff_iff, isIdle_iff hagain, isIdle_iff h, hiff, hwiff, hconfig]

end KeliNode
