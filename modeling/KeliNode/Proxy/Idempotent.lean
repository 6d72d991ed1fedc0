import KeliNode.Proxy.Normalized
import Mathlib.Data.List.Nodup

/-!
# Normalising twice

White space is trimmed first and slashes are cut then, once each, so white space in front of a cut slash stays at an
end of the value (`https://a /`, `/x /`).  The second normalisation trims it.  Nothing else changes: the single site of
the older form is listed again, but its key was taken (`normalizeProfiles_twice`).
-/

namespace KeliNode

open Lib

/-! ## The profile loop over its own result -/

section

variable {α : Type} {prepare : α → α} {isBlank : α → Bool} {refusal : α → Option Text} {key : α → Text}

/-- The profile is the first of its key that is not blank. -/
def IsKept (prepare : α → α) (isBlank : α → Bool) (key : α → Text) (listed : List α) (raw : α) : Prop :=
  isBlank (prepare raw) = false ∧ ∃ before after, listed = before ++ raw :: after ∧
    ∀ other ∈ before, isBlank (prepare other) = false → key (prepare other) ≠ key (prepare raw)

theorem isKept_append {listed more : List α} {raw : α} (h : IsKept prepare isBlank key listed raw) :
    IsKept prepare isBlank key (listed ++ more) raw := by
  obtain ⟨hblank, before, after, rfl, hfirst⟩ := h
  exact ⟨hblank, before, after ++ more, by simp, hfirst⟩

theorem isKept_of_append {listed more : List α} {raw : α} (h : IsKept prepare isBlank key (listed ++ more) raw) :
    IsKept prepare isBlank key listed raw ∨ raw ∈ more := by
  obtain ⟨hblank, before, after, happend, hfirst⟩ := h
  rcases List.append_eq_append_iff.1 happend with ⟨front, rfl, hmore⟩ | ⟨front, rfl, hafter⟩
  · exact .inr (by rw [hmore]; simp)
  · cases front with
    | nil => exact .inr (by rw [List.nil_append] at hafter; rw [← hafter]; exact List.mem_cons_self)
    | cons first front =>
      cases hafter
      exact .inl ⟨hblank, before, front, rfl, hfirst⟩

theorem isKept_cons_iff {first raw : α} {rest : List α} : IsKept prepare isBlank key (first :: rest) raw ↔
    (isBlank (prepare raw) = false ∧ raw = first) ∨ (IsKept prepare isBlank key rest raw ∧
      (isBlank (prepare first) = false → key (prepare first) ≠ key (prepare raw))) := by
  constructor
  · rintro ⟨hblank, before, after, hsplit, hfirst⟩
    cases before with
    | nil =>
      cases hsplit
      exact .inl ⟨hblank, rfl⟩
    | cons head before =>
      cases hsplit
      rw [List.forall_mem_cons] at hfirst
      exact .inr ⟨⟨hblank, before, after, rfl, hfirst.2⟩, hfirst.1⟩
  · rintro (⟨hblank, rfl⟩ | ⟨⟨hblank, before, after, rfl, hfirst⟩, hhead⟩)
    · exact ⟨hblank, [], rest, rfl, by simp⟩
    · exact ⟨hblank, first :: before, after, rfl, List.forall_mem_cons.2 ⟨hhead, hfirst⟩⟩

/-- The loop returns the trimmed forms of the profiles that are kept. -/
theorem mem_keepProfiles_iff {listed kept : List α} {seen : List Text}
    (h : keepProfiles prepare isBlank refusal key seen listed = .ok kept) {profile : α} :
    profile ∈ kept ↔ ∃ raw, IsKept prepare isBlank key listed raw ∧ key (prepare raw) ∉ seen ∧ prepare raw = profile := by
  induction listed generalizing seen kept with
  | nil =>
    cases h
    constructor
    · intro hp
      cases hp
    · rintro ⟨raw, ⟨-, before, after, hsplit, -⟩, -⟩
      simp at hsplit
  | cons first rest ih =>
    simp only [isKept_cons_iff]
    rcases keepProfiles_cons_ok h with ⟨hfirst, h⟩ | ⟨hfirst, -, ⟨htaken, h⟩ | ⟨hnew, kept', rfl, hrest⟩⟩
    · rw [ih h]
      constructor
      · rintro ⟨raw, hraw, hseen, rfl⟩
        refine ⟨raw, .inr ⟨hraw, fun hblank => ?_⟩, hseen, rfl⟩
        rw [hfirst] at hblank
        cases hblank
      · rintro ⟨raw, ⟨hblank, rfl⟩ | ⟨hraw, -⟩, hseen, heq⟩
        · rw [hfirst] at hblank
          cases hblank
        · exact ⟨raw, hraw, hseen, heq⟩
    · rw [ih h]
      constructor
      · rintro ⟨raw, hraw, hseen, rfl⟩
        exact ⟨raw, .inr ⟨hraw, fun _ heq => hseen (heq ▸ htaken)⟩, hseen, rfl⟩
      · rintro ⟨raw, ⟨-, rfl⟩ | ⟨hraw, -⟩, hseen, heq⟩
        · exact absurd htaken hseen
        · exact ⟨raw, hraw, hseen, heq⟩
    · rw [List.mem_cons, ih hrest]
      constructor
      · rintro (rfl | ⟨raw, hraw, hseen, rfl⟩)
        · exact ⟨first, .inl ⟨hfirst, rfl⟩, hnew, rfl⟩
        · rw [List.mem_cons, not_or] at hseen
          exact ⟨raw, .inr ⟨hraw, fun _ => Ne.symm hseen.1⟩, hseen.2, rfl⟩
      · rintro ⟨raw, ⟨-, rfl⟩ | ⟨hraw, hhead⟩, hseen, rfl⟩
        · exact .inl rfl
        · refine .inr ⟨raw, hraw, fun hmem => ?_, rfl⟩
          rcases List.mem_cons.1 hmem with heq | hmem
          · exact hhead hfirst heq.symm
          · exact hseen hmem

/-- The trimmed forms are settled exactly if those of the kept profiles are. -/
theorem map_prepare_eq_iff {listed kept : List α}
    (h : keepProfiles prepare isBlank refusal key [] listed = .ok kept) :
    kept.map prepare = kept ↔
      ∀ raw, IsKept prepare isBlank key listed raw → prepare (prepare raw) = prepare raw := by
  have hself : kept.map prepare = kept ↔ ∀ profile ∈ kept, prepare profile = profile := by
    conv_lhs => rhs; rw [← List.map_id kept]
    exact List.map_inj_left
  rw [hself]
  constructor
  · exact fun hall raw hraw => hall _ ((mem_keepProfiles_iff h).2 ⟨raw, hraw, List.not_mem_nil, rfl⟩)
  · intro hall profile hp
    obtain ⟨raw, hraw, -, rfl⟩ := (mem_keepProfiles_iff h).1 hp
    exact hall raw hraw

/-- Every profile that is not blank has one of its key among those that are kept. -/
theorem exists_key_keepProfiles {listed kept : List α} {seen : List Text}
    (h : keepProfiles prepare isBlank refusal key seen listed = .ok kept) {raw : α} (hraw : raw ∈ listed)
    (hblank : isBlank (prepare raw) = false) (hseen : key (prepare raw) ∉ seen) :
    ∃ profile ∈ kept, key profile = key (prepare raw) := by
  induction listed generalizing seen kept with
  | nil => cases hraw
  | cons first rest ih =>
    rcases keepProfiles_cons_ok h with ⟨hfirst, h⟩ | ⟨-, -, ⟨htaken, h⟩ | ⟨hnew, kept', rfl, hrest⟩⟩
    · rcases List.mem_cons.1 hraw with rfl | hraw
      · rw [hfirst] at hblank
        cases hblank
      · exact ih h hraw hseen
    · rcases List.mem_cons.1 hraw with rfl | hraw
      · exact absurd htaken hseen
      · exact ih h hraw hseen
    · by_cases hsame : key (prepare raw) = key (prepare first)
      · exact ⟨_, List.mem_cons_self, hsame.symm⟩
      · rcases List.mem_cons.1 hraw with rfl | hraw
        · exact absurd rfl hsame
        · obtain ⟨profile, hp, hkey⟩ := ih hrest hraw (List.not_mem_cons_of_ne_of_not_mem hsame hseen)
          exact ⟨profile, List.mem_cons_of_mem _ hp, hkey⟩

/-- The trimmed forms stay as they are listed; what is added finds its key taken. -/
theorem keepProfiles_append {listed extra : List α} {seen : List Text}
    (hblank : ∀ raw ∈ listed, isBlank (prepare raw) = false) (hvalid : ∀ raw ∈ listed, refusal (prepare raw) = none)
    (hkeys : (listed.map fun raw => key (prepare raw)).Nodup) (hseen : ∀ raw ∈ listed, key (prepare raw) ∉ seen)
    (hextra : ∀ raw ∈ extra, isBlank (prepare raw) = true ∨
      refusal (prepare raw) = none ∧ (key (prepare raw) ∈ seen ∨ ∃ other ∈ listed, key (prepare other) = key (prepare raw))) :
    keepProfiles prepare isBlank refusal key seen (listed ++ extra) = .ok (listed.map prepare) := by
  induction listed generalizing seen with
  | nil =>
    induction extra with
    | nil => rfl
    | cons raw extra ih =>
      rw [List.forall_mem_cons] at hextra
      have ih := ih hextra.2
      rw [List.nil_append] at ih ⊢
      rw [keepProfiles]
      rcases hextra.1 with hraw | ⟨hraw, htaken⟩
      · simp only [hraw, if_true]
        exact ih
      · have htaken : seen.contains (key (prepare raw)) = true := by
          rw [List.contains_iff_mem]
          rcases htaken with htaken | ⟨other, hother, -⟩
          · exact htaken
          · cases hother
        simp only [hraw, htaken, if_true]
        rw [ih]
        exact ite_self _
  | cons raw rest ih =>
    rw [List.forall_mem_cons] at hblank hvalid hseen
    rw [List.map_cons, List.nodup_cons] at hkeys
    have hnew : seen.contains (key (prepare raw)) = false := by
      rw [← Bool.not_eq_true, List.contains_iff_mem]
      exact hseen.1
    rw [List.cons_append, keepProfiles]
    simp only [hblank.1, hvalid.1, hnew, Bool.false_eq_true, if_false]
    rw [ih hblank.2 hvalid.2 hkeys.2]
    · rfl
    · intro other hother hmem
      rcases List.mem_cons.1 hmem with heq | hmem
      · exact hkeys.1 (List.mem_map.2 ⟨other, hother, heq⟩)
      · exact hseen.2 other hother hmem
    · intro other hother
      rcases hextra other hother with h | ⟨h, htaken | ⟨taker, htaker, heq⟩⟩
      · exact .inl h
      · exact .inr ⟨h, .inl (List.mem_cons_of_mem _ htaken)⟩
      · rcases List.mem_cons.1 htaker with rfl | htaker
        · exact .inr ⟨h, .inl (heq ▸ List.mem_cons_self)⟩
        · exact .inr ⟨h, .inr ⟨taker, htaker, heq⟩⟩

end

/-! ## The fields -/

section

variable {value : Text}

theorem trim_eq_of_length (h : value.length ≤ (trim value).length) : trim value = value := by
  have hfront := trimEndMatches_isPrefix isWhite (trimStartMatches isWhite value)
  have hback : trimStartMatches isWhite value <:+ value := List.dropWhile_suffix _
  have hstart : trimStartMatches isWhite value = value :=
    hback.eq_of_length_le (h.trans hfront.length_le)
  have hend : trim value = trimStartMatches isWhite value := by
    apply hfront.eq_of_length_le
    exact (congrArg List.length hstart).le.trans h
  rw [hend, hstart]

/-- Trimming comes before a cut, so a value that is cut stays as it is exactly if there is nothing to trim. -/
theorem cut_again_iff {cut : Text → Text} (hlen : ∀ value, (cut value).length ≤ value.length) (hcut : cut value = value) :
    cut (trim value) = value ↔ trim value = value := by
  constructor
  · intro h
    apply trim_eq_of_length
    calc value.length = (cut (trim value)).length := by rw [h]
      _ ≤ (trim value).length := hlen _
  · intro h
    rw [h, hcut]

theorem length_trimEndMatches_le (p : Char → Bool) (value : Text) : (trimEndMatches p value).length ≤ value.length :=
  (trimEndMatches_isPrefix p value).length_le

theorem length_trimMatches_le (p : Char → Bool) (value : Text) : (trimMatches p value).length ≤ value.length :=
  (length_trimEndMatches_le p _).trans (List.dropWhile_suffix p).length_le

/-- An upstream stays. -/
theorem base_again_iff : trimTrailingSlashes (trim (trimTrailingSlashes (trim value))) = trimTrailingSlashes (trim value) ↔
    trim (trimTrailingSlashes (trim value)) = trimTrailingSlashes (trim value) :=
  cut_again_iff (length_trimEndMatches_le _) (trimTrailingSlashes_idem _)

theorem path_again_iff : trimSubscriptionPath (trimSubscriptionPath value) = trimSubscriptionPath value ↔
    trim (trimSubscriptionPath value) = trimSubscriptionPath value :=
  cut_again_iff (length_trimMatches_le _) (trimMatches_idem _ _)

/-- The path of a profile, which is never empty. -/
theorem firstNonEmpty_path_again_iff :
    firstNonEmpty (trimSubscriptionPath (firstNonEmpty (trimSubscriptionPath value) "s")) "s" =
      firstNonEmpty (trimSubscriptionPath value) "s" ↔ trim (trimSubscriptionPath value) = trimSubscriptionPath value := by
  rw [← path_again_iff]
  generalize trimSubscriptionPath value = path
  by_cases hpath : path = []
  · rw [hpath]
    decide
  · rw [firstNonEmpty_eq_self hpath]
    by_cases hagain : trimSubscriptionPath path = []
    · rw [hagain]
      constructor
      · intro h
        have hs : trimSubscriptionPath "s" = "s" := by decide
        have hpath : path = "s" := h.symm
        rw [hpath, hs] at hagain
        cases hagain
      · exact fun h => absurd h.symm hpath
    · rw [firstNonEmpty_eq_self hagain]

theorem prefix_again_iff :
    normalizeProxyPathPrefix (normalizeProxyPathPrefix value) = normalizeProxyPathPrefix value ↔
      trim (normalizeProxyPathPrefix value) = normalizeProxyPathPrefix value := by
  rcases normalizeProxyPathPrefix_shape value with h | ⟨rest, h, hne, hlast⟩ <;> rw [h]
  · decide
  · have hdark : trimStartMatches isWhite ('/' :: rest) = '/' :: rest := by
      rw [trimStartMatches, List.dropWhile_cons, if_neg (by decide)]
    constructor
    · intro hagain
      apply trim_eq_of_length
      have hcut : trimEndMatches (· = '/') (trim ('/' :: rest)) <+: '/' :: rest :=
        (trimEndMatches_isPrefix _ _).trans (by rw [trim, hdark]; exact trimEndMatches_isPrefix _ _)
      have hshort : (trimEndMatches (· = '/') (trim ('/' :: rest))).length ≤ (trim ('/' :: rest)).length :=
        length_trimEndMatches_le _ _
      simp only [normalizeProxyPathPrefix] at hagain
      generalize trimEndMatches (· = '/') (trim ('/' :: rest)) = cut at hagain hcut hshort
      split at hagain
      · cases hagain
        exact absurd rfl hne
      · rename_i hroot
        cases cut with
        | nil => exact absurd rfl hroot
        | cons c cut =>
          obtain ⟨tail, htail⟩ := hcut
          cases htail
          rw [if_pos List.head?_cons] at hagain
          exact (congrArg List.length hagain).ge.trans hshort
    · intro htrim
      have hend : trimEndMatches (· = '/') ('/' :: rest) = '/' :: rest := by
        apply trimEndMatches_eq_self
        intro c hc
        rw [List.getLast?_cons, Option.getD_of_ne_none (by simpa using hne)] at hc
        have hslash : c ≠ '/' := fun heq => hlast (heq ▸ hc)
        simpa using hslash
      rw [normalizeProxyPathPrefix, htrim, hend]
      simp [hne]

end

/-! ## Profiles -/

/-- Nothing is left to trim once the slashes of the upstream and of the path are cut. -/
structure SettledProfile (profile : SubscriptionProxyProfile) : Prop where
  base : trim (trimTrailingSlashes (trim profile.upstreamBaseUrl)) = trimTrailingSlashes (trim profile.upstreamBaseUrl)
  path : trim (trimSubscriptionPath profile.subscribePath) = trimSubscriptionPath profile.subscribePath

structure SettledWebsite (profile : WebsiteProxyProfile) : Prop where
  base : trim (trimTrailingSlashes (trim profile.upstreamBaseUrl)) = trimTrailingSlashes (trim profile.upstreamBaseUrl)
  pathPrefix : trim (normalizeProxyPathPrefix profile.pathPrefix) = normalizeProxyPathPrefix profile.pathPrefix

theorem SubscriptionProxyProfile.prepare_again_iff {profile : SubscriptionProxyProfile} :
    profile.prepare.prepare = profile.prepare ↔ SettledProfile profile := by
  simp only [SubscriptionProxyProfile.prepare, SubscriptionProxyProfile.mk.injEq, trim_trim, true_and, base_again_iff,
    firstNonEmpty_path_again_iff]
  exact ⟨fun h => ⟨h.1, h.2⟩, fun h => ⟨h.1, h.2⟩⟩

theorem WebsiteProxyProfile.prepare_again_iff {profile : WebsiteProxyProfile} :
    profile.prepare.prepare = profile.prepare ↔ SettledWebsite profile := by
  simp only [WebsiteProxyProfile.prepare, WebsiteProxyProfile.mk.injEq, trim_trim, true_and, base_again_iff,
    prefix_again_iff]
  exact ⟨fun h => ⟨h.1, h.2⟩, fun h => ⟨h.1, h.2⟩⟩

theorem SubscriptionProxyProfile.key_prepare_again (profile : SubscriptionProxyProfile) :
    profile.prepare.prepare.key = profile.prepare.key := by
  simp only [SubscriptionProxyProfile.key, SubscriptionProxyProfile.prepare, trim_trim]

section

variable {source config : SubscriptionProxyConfig}

/-- The second pass over the subscription profiles keeps them all, and the single site finds its key taken. -/
theorem normalizeProfiles_twice {profiles : List SubscriptionProxyProfile}
    (h : normalizeProfiles (source.profiles ++ legacyProfile (trimSubscriptionProxyConfig source)) = .ok profiles) :
    normalizeProfiles (profiles ++ legacyProfile (trimSubscriptionProxyConfig (trimSubscriptionProxyConfig source))) =
      .ok (profiles.map SubscriptionProxyProfile.prepare) := by
  have hnormal : ∀ profile ∈ profiles, NormalizedProfile profile := fun _ => normalizedProfile_of_mem h
  have hkey : ∀ profile ∈ profiles, profile.prepare.key = profile.key := by
    intro profile hp
    obtain ⟨⟨raw, -, rfl⟩, -⟩ := mem_keepProfiles h hp
    exact raw.key_prepare_again
  apply keepProfiles_append
  · intro profile hp
    have hbase := ne_nil_of_valid (isValidUpstreamBaseUrl_trim (hnormal profile hp).baseValid)
    refine SubscriptionProxyProfile.isBlank_eq_false.2 ⟨?_, hbase⟩
    change trim profile.siteId ≠ []
    rw [(hnormal profile hp).siteTrimmed]
    exact (hnormal profile hp).siteNe
  · exact fun profile hp =>
      SubscriptionProxyProfile.refusal_eq_none (isValidUpstreamBaseUrl_trim (hnormal profile hp).baseValid)
  · rw [List.map_congr_left hkey]
    exact nodup_keepProfiles h
  · exact fun _ _ => List.not_mem_nil
  · intro raw hraw
    by_cases hblank : raw.prepare.isBlank = false
    · obtain ⟨raw₀, hraw₀, hblank₀, hbase⟩ := legacyProfile_again hraw hblank
      have hmem : raw₀ ∈ source.profiles ++ legacyProfile (trimSubscriptionProxyConfig source) :=
        List.mem_append_right _ hraw₀
      have hvalid := SubscriptionProxyProfile.valid_of_refusal (refusal_eq_none_of_ok h hmem hblank₀)
      rw [hbase] at hvalid
      obtain ⟨profile, hp, hprofile⟩ := exists_key_keepProfiles h hmem hblank₀ List.not_mem_nil
      refine .inr ⟨SubscriptionProxyProfile.refusal_eq_none (isValidUpstreamBaseUrl_trim hvalid), .inr ⟨profile, hp, ?_⟩⟩
      rw [hkey profile hp, hprofile]
      change asciiLower (trim raw₀.siteId) = asciiLower (trim raw.siteId)
      rw [(mem_legacyProfile hraw).1, (mem_legacyProfile hraw₀).1]
      change asciiLower (trim (trim source.siteId)) = asciiLower (trim (trim (trim source.siteId)))
      rw [trim_trim (trim source.siteId)]
    · exact .inl (by simpa using hblank)

/-- The second pass rewrites two fields of the configuration and the two lists. -/
theorem trimmed_eq_iff (hnormal : NormalizedConfig config) (hsite : trim config.siteId = config.siteId)
    {profiles : List SubscriptionProxyProfile} {websiteProfiles : List WebsiteProxyProfile} {enabled : Bool} :
    { trimSubscriptionProxyConfig config with profiles, websiteProfiles, enabled } = config ↔
      trimTrailingSlashes (trim config.upstreamBaseUrl) = config.upstreamBaseUrl ∧
      trimSubscriptionPath config.subscribePath = config.subscribePath ∧
      profiles = config.profiles ∧ websiteProfiles = config.websiteProfiles ∧ enabled = config.enabled := by
  constructor
  · intro h
    exact ⟨congrArg (·.upstreamBaseUrl) h, congrArg (·.subscribePath) h, congrArg (·.profiles) h,
      congrArg (·.websiteProfiles) h, congrArg (·.enabled) h⟩
  · rintro ⟨hbase, hpath, rfl, rfl, rfl⟩
    simp only [trimSubscriptionProxyConfig, hnormal.httpsTrimmed, hnormal.httpTrimmed, hnormal.certTrimmed,
      hnormal.keyTrimmed, hnormal.domainTrimmed, hnormal.challengeTrimmed, hsite, hbase, hpath,
      firstNonEmpty_eq_self hnormal.httpsNe, firstNonEmpty_eq_self hnormal.challengeNe, if_neg hnormal.limitNe]

end

/-! ## Configurations -/

/-- No white space stands in front of a slash that is cut. -/
structure SettledConfig (source : SubscriptionProxyConfig) : Prop where
  base : trim (trimTrailingSlashes (trim source.upstreamBaseUrl)) = trimTrailingSlashes (trim source.upstreamBaseUrl)
  path : trim (trimSubscriptionPath source.subscribePath) = trimSubscriptionPath source.subscribePath
  profiles : ∀ raw, IsKept SubscriptionProxyProfile.prepare SubscriptionProxyProfile.isBlank SubscriptionProxyProfile.key
    source.profiles raw → SettledProfile raw
  websites : ∀ raw, IsKept WebsiteProxyProfile.prepare WebsiteProxyProfile.isBlank WebsiteProxyProfile.key
    source.websiteProfiles raw → SettledWebsite raw

/-- Normalising leaves the configuration as it is, and no site is listed twice. -/
structure NormalForm (config : SubscriptionProxyConfig) : Prop where
  again : normalizeSubscriptionProxyConfig config = .ok config
  sites : (config.profiles.map fun profile => asciiLower profile.siteId).Nodup
  websites : (config.websiteProfiles.map fun profile => (asciiLower profile.siteId, profile.pathPrefix)).Nodup

section

variable {source config : SubscriptionProxyConfig}

theorem settledProfile_legacy {raw : SubscriptionProxyProfile}
    (hbase : trim (trimTrailingSlashes (trim source.upstreamBaseUrl)) = trimTrailingSlashes (trim source.upstreamBaseUrl))
    (hpath : trim (trimSubscriptionPath source.subscribePath) = trimSubscriptionPath source.subscribePath)
    (hraw : raw ∈ legacyProfile (trimSubscriptionProxyConfig source)) : SettledProfile raw := by
  rw [legacyProfile] at hraw
  split at hraw
  · obtain rfl := List.mem_singleton.1 hraw
    constructor
    · change trim (trimTrailingSlashes (trim (trimTrailingSlashes (trim source.upstreamBaseUrl)))) =
        trimTrailingSlashes (trim (trimTrailingSlashes (trim source.upstreamBaseUrl)))
      rw [base_again_iff.2 hbase, hbase]
    · change trim (trimSubscriptionPath (trimSubscriptionPath source.subscribePath)) =
        trimSubscriptionPath (trimSubscriptionPath source.subscribePath)
      rw [path_again_iff.2 hpath, hpath]
  · cases hraw

theorem prepare_kept_iff {profiles : List SubscriptionProxyProfile}
    (h : normalizeProfiles (source.profiles ++ legacyProfile (trimSubscriptionProxyConfig source)) = .ok profiles)
    (hbase : trim (trimTrailingSlashes (trim source.upstreamBaseUrl)) = trimTrailingSlashes (trim source.upstreamBaseUrl))
    (hpath : trim (trimSubscriptionPath source.subscribePath) = trimSubscriptionPath source.subscribePath) :
    profiles.map SubscriptionProxyProfile.prepare = profiles ↔
      ∀ raw, IsKept SubscriptionProxyProfile.prepare SubscriptionProxyProfile.isBlank SubscriptionProxyProfile.key
        source.profiles raw → SettledProfile raw := by
  rw [map_prepare_eq_iff h]
  constructor
  · exact fun hall raw hraw => SubscriptionProxyProfile.prepare_again_iff.1 (hall raw (isKept_append hraw))
  · intro hall raw hraw
    rw [SubscriptionProxyProfile.prepare_again_iff]
    rcases isKept_of_append hraw with hraw | hraw
    · exact hall raw hraw
    · exact settledProfile_legacy hbase hpath hraw

/-- The second pass over the website profiles: two of them may trim to one prefix. -/
theorem normalizeWebsiteProfiles_again_iff {listed profiles again : List WebsiteProxyProfile}
    (h : normalizeWebsiteProfiles listed = .ok profiles) (hagain : normalizeWebsiteProfiles profiles = .ok again) :
    again = profiles ↔ ∀ raw, IsKept WebsiteProxyProfile.prepare WebsiteProxyProfile.isBlank WebsiteProxyProfile.key
      listed raw → SettledWebsite raw := by
  have hmap : (profiles.map WebsiteProxyProfile.prepare = profiles ↔ _) := map_prepare_eq_iff h
  simp only [← WebsiteProxyProfile.prepare_again_iff, ← hmap]
  constructor
  · rintro rfl
    exact (keepProfiles_eq_map hagain (Nat.le_refl _)).symm
  · intro hself
    have hprepare : ∀ profile ∈ profiles, profile.prepare = profile := by
      intro profile hp
      obtain ⟨raw, hraw, -, rfl⟩ := (mem_keepProfiles_iff h).1 hp
      exact hmap.1 hself raw hraw
    have hkept := @keepProfiles_append _ WebsiteProxyProfile.prepare WebsiteProxyProfile.isBlank
      WebsiteProxyProfile.refusal WebsiteProxyProfile.key profiles [] []
      (fun profile hp => by rw [hprepare profile hp]; exact (mem_keepProfiles h hp).2.1)
      (fun profile hp => by rw [hprepare profile hp]; exact (mem_keepProfiles h hp).2.2.1)
      (by
        rw [List.map_congr_left fun profile hp => congrArg WebsiteProxyProfile.key (hprepare profile hp)]
        exact nodup_keepProfiles h)
      (fun _ _ => List.not_mem_nil) (fun _ hp => absurd hp List.not_mem_nil)
    rw [List.append_nil, hself] at hkept
    exact Except.ok.inj (hagain.symm.trans hkept)

end

/-- **Normal form**: a normalised configuration stays as it is, and lists no site twice, exactly if no white space stood
in front of a slash that was cut. -/
theorem normalize_idempotent_iff {source config : SubscriptionProxyConfig}
    (h : normalizeSubscriptionProxyConfig source = .ok config) : NormalForm config ↔ SettledConfig source := by
  have hnormal := normalized_of_ok h
  have hwebsitePairs : (config.websiteProfiles.map fun profile => (asciiLower profile.siteId, profile.pathPrefix)).Nodup := by
    apply List.Nodup.of_map (fun pair : Text × Text => pair.1 ++ '\x00' :: pair.2)
    rw [List.map_map]
    exact hnormal.websitesNodup
  have hform : NormalForm config ↔ normalizeSubscriptionProxyConfig config = .ok config :=
    ⟨fun hform => hform.again, fun hagain => ⟨hagain, hnormal.profilesNodup, hwebsitePairs⟩⟩
  obtain ⟨profiles, websiteProfiles, enabled, hprofiles, hwebsites, henabled, hconfig⟩ := normalize_eq_ok h
  obtain ⟨again, hagain, hidle⟩ := normalize_again h
  obtain ⟨profiles', websiteProfiles', enabled', hprofiles', hwebsites', henabled', heq⟩ := normalize_eq_ok hagain
  have hsite : trim config.siteId = config.siteId := by
    rw [hconfig]
    exact trim_trim _
  have hbase : config.upstreamBaseUrl = trimTrailingSlashes (trim source.upstreamBaseUrl) := by rw [hconfig]; rfl
  have hpath : config.subscribePath = trimSubscriptionPath source.subscribePath := by rw [hconfig]; rfl
  have hlists : config.profiles = profiles ∧ config.websiteProfiles = websiteProfiles ∧ config.enabled = enabled := by
    rw [hconfig]
    exact ⟨rfl, rfl, rfl⟩
  have hlegacy : legacyProfile (trimSubscriptionProxyConfig config) =
      legacyProfile (trimSubscriptionProxyConfig (trimSubscriptionProxyConfig source)) := by
    rw [hconfig]
    rfl
  rw [hlegacy, hlists.1, normalizeProfiles_twice hprofiles] at hprofiles'
  have hmap : profiles' = profiles.map SubscriptionProxyProfile.prepare := (Except.ok.inj hprofiles').symm
  rw [hlists.2.1] at hwebsites'
  have hwebsite := normalizeWebsiteProfiles_again_iff hwebsites hwebsites'
  have htrimmed := @trimmed_eq_iff config hnormal hsite profiles' websiteProfiles' enabled'
  rw [hform, hagain, Except.ok.injEq, heq, htrimmed, hbase, hpath, base_again_iff, path_again_iff, hlists.1, hlists.2.1,
    hlists.2.2, hmap, hwebsite]
  constructor
  · rintro ⟨hbase, hpath, hprofile, hwebsite, -⟩
    exact ⟨hbase, hpath, (prepare_kept_iff hprofiles hbase hpath).1 hprofile, hwebsite⟩
  · rintro ⟨hbase, hpath, hprofile, hsettled⟩
    refine ⟨hbase, hpath, (prepare_kept_iff hprofiles hbase hpath).2 hprofile, hsettled, ?_⟩
    rw [Bool.eq_iff_iff, henabled', henabled, hwebsite.2 hsettled, hmap,
      (prepare_kept_iff hprofiles hbase hpath).2 hprofile]

/-! ## A space before a slash -/

def spacedConfig : SubscriptionProxyConfig where
  profiles := [{ siteId := "a", upstreamBaseUrl := "https://up /", subscribePath := "s" }]

def onceConfig : SubscriptionProxyConfig where
  enabled := true
  httpsListen := defaultHttpsListen
  challengeDir := defaultChallengeDir
  maxResponseBytes := defaultMaxResponseBytes
  profiles := [{ siteId := "a", upstreamBaseUrl := "https://up ", subscribePath := "s" }]

theorem normalize_spaced : normalizeSubscriptionProxyConfig spacedConfig = .ok onceConfig := by decide +kernel

/-- The configuration of the space. -/
theorem normalForm_spaced : NormalForm onceConfig ↔ SettledConfig spacedConfig :=
  normalize_idempotent_iff normalize_spaced

/-- `https://up /` comes out with its space, and loses it the second time. -/
theorem spaced_not_normal : normalizeSubscriptionProxyConfig spacedConfig = .ok onceConfig ∧
    normalizeSubscriptionProxyConfig onceConfig ≠ .ok onceConfig := by
  decide +kernel

end KeliNode
