import KeliNode.Proxy.Plan
import KeliNode.Proxy.Match
import KeliNode.Lib.Records

/-!
# What the fingerprint tells apart (`subscription_proxy.rs:1450`)

The fingerprint joins the settings and the sorted profiles with NUL characters.  Over normalised configurations without
NUL it determines the settings and both lists of profiles up to their order (`fingerprint_inj`): a subscription
profile's third part never starts with a slash and a website profile's always does.

Routing does not look at the order of subscription profiles.  It does look at the order of website profiles that
share a prefix: the last listed takes the requests.  So two configurations with one fingerprint answer alike exactly
when those last ones agree (`sameAnswers_iff`); `reordered_websites` has two that do not.
-/

namespace KeliNode

open Lib

/-! ## NUL-free configurations -/

def SubscriptionProxyProfile.strings (profile : SubscriptionProxyProfile) : List Text :=
  [profile.siteId, profile.upstreamBaseUrl, profile.subscribePath]

def WebsiteProxyProfile.strings (profile : WebsiteProxyProfile) : List Text :=
  [profile.siteId, profile.upstreamBaseUrl, profile.pathPrefix]

def SubscriptionProxyZeroSslConfig.strings (zerossl : SubscriptionProxyZeroSslConfig) : List Text :=
  [ zerossl.status, zerossl.certificateId, zerossl.validationPath, zerossl.validationContent, zerossl.certificatePem,
    zerossl.caBundlePem, zerossl.expiresAt ]

/-- Every string of a configuration. -/
def SubscriptionProxyConfig.strings (config : SubscriptionProxyConfig) : List Text :=
  [ config.httpsListen, config.httpListen, config.certFile, config.keyFile, config.certificateDomain,
    config.challengeDir, config.siteId, config.upstreamBaseUrl, config.subscribePath ] ++ config.zerossl.strings ++
    config.profiles.flatMap (·.strings) ++ config.websiteProfiles.flatMap (·.strings)

def NulFree (config : SubscriptionProxyConfig) : Prop := ∀ s ∈ config.strings, '\x00' ∉ s

instance (config : SubscriptionProxyConfig) : Decidable (NulFree config) :=
  inferInstanceAs (Decidable (∀ s ∈ config.strings, '\x00' ∉ s))

theorem nul_notMem_trim {s : Text} (h : '\x00' ∉ s) : '\x00' ∉ trim s := fun hmem => h (mem_of_mem_trimMatches hmem)

theorem nul_notMem_prefix {value : Text} (h : '\x00' ∉ value) : '\x00' ∉ normalizeProxyPathPrefix value := by
  have hv : '\x00' ∉ trimEndMatches (· = '/') (trim value) := fun hmem => nul_notMem_trim h (mem_of_mem_trimEndMatches hmem)
  rw [normalizeProxyPathPrefix]
  split
  · decide
  · split
    · exact hv
    · rw [List.mem_cons, not_or]
      exact ⟨by decide, hv⟩

/-- The parts of one subscription profile. -/
def SubscriptionProxyProfile.parts (profile : SubscriptionProxyProfile) : List Text :=
  [trim profile.siteId, trimTrailingSlashes profile.upstreamBaseUrl, trimMatches (· = '/') profile.subscribePath]

def WebsiteProxyProfile.parts (profile : WebsiteProxyProfile) : List Text :=
  [trim profile.siteId, trimTrailingSlashes profile.upstreamBaseUrl, normalizeProxyPathPrefix profile.pathPrefix]

theorem nul_notMem_fixedParts {config : SubscriptionProxyConfig} (h : NulFree config) :
    ∀ part ∈ fixedParts config, '\x00' ∉ part := by
  have hstring : ∀ s, s ∈ config.strings → '\x00' ∉ trim s := fun s hs => nul_notMem_trim (h s hs)
  simp only [fixedParts, List.forall_mem_cons]
  refine ⟨hstring _ ?_, hstring _ ?_, hstring _ ?_, hstring _ ?_, hstring _ ?_, hstring _ ?_, hstring _ ?_, hstring _ ?_,
    hstring _ ?_, hstring _ ?_, hstring _ ?_, ?_, not_mem_decimal (by decide) _, fun _ h => nomatch h⟩
  case refine_12 => split <;> decide
  all_goals simp [SubscriptionProxyConfig.strings, SubscriptionProxyZeroSslConfig.strings]

theorem nul_notMem_profileParts {config : SubscriptionProxyConfig} (h : NulFree config) :
    ∀ profile ∈ config.profiles, ∀ part ∈ profile.parts, '\x00' ∉ part := by
  intro profile hprofile
  have hstring : ∀ s ∈ profile.strings, '\x00' ∉ s := fun s hs => h s (by
    simp only [SubscriptionProxyConfig.strings, List.mem_append, List.mem_flatMap]
    exact .inl (.inr ⟨profile, hprofile, hs⟩))
  simp only [SubscriptionProxyProfile.strings, List.forall_mem_cons] at hstring
  obtain ⟨hsite, hbase, hpath, _⟩ := hstring
  simp only [SubscriptionProxyProfile.parts, List.forall_mem_cons]
  exact ⟨nul_notMem_trim hsite, fun hmem => hbase (mem_of_mem_trimEndMatches hmem),
    fun hmem => hpath (mem_of_mem_trimMatches hmem), fun _ h => nomatch h⟩

theorem nul_notMem_websiteParts {config : SubscriptionProxyConfig} (h : NulFree config) :
    ∀ profile ∈ config.websiteProfiles, ∀ part ∈ profile.parts, '\x00' ∉ part := by
  intro profile hprofile
  have hstring : ∀ s ∈ profile.strings, '\x00' ∉ s := fun s hs => h s (by
    simp only [SubscriptionProxyConfig.strings, List.mem_append, List.mem_flatMap]
    exact .inr ⟨profile, hprofile, hs⟩)
  simp only [WebsiteProxyProfile.strings, List.forall_mem_cons] at hstring
  obtain ⟨hsite, hbase, hpre, _⟩ := hstring
  simp only [WebsiteProxyProfile.parts, List.forall_mem_cons]
  exact ⟨nul_notMem_trim hsite, fun hmem => hbase (mem_of_mem_trimEndMatches hmem), nul_notMem_prefix hpre,
    fun _ h => nomatch h⟩

/-! ## What one fingerprint determines -/

/-- A website profile as routing reads it. -/
def WebsiteProxyProfile.effective (profile : WebsiteProxyProfile) : WebsiteProxyProfile :=
  { profile with pathPrefix := profile.effectivePrefix }

theorem perm_sortedProfiles (profiles : List SubscriptionProxyProfile) : (sortedProfiles profiles).Perm profiles :=
  List.perm_insertionSort _ _

theorem perm_sortedWebsiteProfiles (profiles : List WebsiteProxyProfile) :
    (sortedWebsiteProfiles profiles).Perm profiles := List.perm_insertionSort _ _

/-- The parts of a fingerprint, before they are joined. -/
def fingerprintParts (config : SubscriptionProxyConfig) : List Text :=
  fixedParts config ++ ((sortedProfiles config.profiles).flatMap (·.parts) ++
    (sortedWebsiteProfiles config.websiteProfiles).flatMap (·.parts))

theorem subscriptionProxyFingerprint_eq (config : SubscriptionProxyConfig) :
    subscriptionProxyFingerprint config = join ['\x00'] (fingerprintParts config) := by
  rw [subscriptionProxyFingerprint, fingerprintParts, List.append_assoc]
  rfl

theorem nul_notMem_fingerprintParts {config : SubscriptionProxyConfig} (h : NulFree config) :
    ∀ part ∈ fingerprintParts config, '\x00' ∉ part := by
  intro part hpart
  simp only [fingerprintParts, List.mem_append, List.mem_flatMap] at hpart
  rcases hpart with hpart | ⟨profile, hprofile, hpart⟩ | ⟨profile, hprofile, hpart⟩
  · exact nul_notMem_fixedParts h part hpart
  · exact nul_notMem_profileParts h profile ((perm_sortedProfiles _).mem_iff.1 hprofile) part hpart
  · exact nul_notMem_websiteParts h profile ((perm_sortedWebsiteProfiles _).mem_iff.1 hprofile) part hpart

/-- The third part of a subscription profile starts with no slash, that of a website profile does. -/
theorem parts_ne (profile : SubscriptionProxyProfile) (website : WebsiteProxyProfile) : profile.parts ≠ website.parts := by
  intro h
  simp only [SubscriptionProxyProfile.parts, WebsiteProxyProfile.parts, List.cons.injEq, and_true] at h
  have hhead := head?_normalizeProxyPathPrefix website.pathPrefix
  rw [← h.2.2] at hhead
  simpa using head?_trimMatches hhead

section

variable {left right : SubscriptionProxyConfig}

/-- **Injective**: one fingerprint, one list of settings and the same profiles up to their order. -/
theorem fingerprint_inj (hleft : NormalizedConfig left) (hright : NormalizedConfig right) (hnulLeft : NulFree left)
    (hnulRight : NulFree right) (h : subscriptionProxyFingerprint left = subscriptionProxyFingerprint right) :
    fixedParts left = fixedParts right ∧ left.profiles.Perm right.profiles ∧
      (left.websiteProfiles.map (·.effective)).Perm (right.websiteProfiles.map (·.effective)) := by
  rw [subscriptionProxyFingerprint_eq, subscriptionProxyFingerprint_eq] at h
  have hparts := join_inj (by simp [fingerprintParts, fixedParts]) (by simp [fingerprintParts, fixedParts])
    (nul_notMem_fingerprintParts hnulLeft) (nul_notMem_fingerprintParts hnulRight) h
  obtain ⟨hfixed, hlists⟩ := List.append_inj hparts (by simp [fixedParts])
  obtain ⟨hprofiles, hwebsites⟩ := records_inj (by decide : 0 < 3) (fun _ => rfl) (fun _ => rfl) parts_ne hlists
  refine ⟨hfixed, ?_, ?_⟩
  · -- A normalised profile is its parts.
    have hself : ∀ {config : SubscriptionProxyConfig}, NormalizedConfig config → ∀ profile ∈ sortedProfiles config.profiles,
        profile.parts = profile.strings := by
      intro config hconfig profile hprofile
      have hp := hconfig.profiles profile ((perm_sortedProfiles _).mem_iff.1 hprofile)
      rw [SubscriptionProxyProfile.parts, hp.siteTrimmed, hp.baseTrimmed, hp.pathTrimmed]
      rfl
    rw [List.map_congr_left (hself hleft), List.map_congr_left (hself hright)] at hprofiles
    have hinj : Function.Injective SubscriptionProxyProfile.strings := by
      rintro ⟨_, _, _⟩ ⟨_, _, _⟩ heq
      simpa [SubscriptionProxyProfile.strings] using heq
    have hsorted := List.map_injective_iff.2 hinj hprofiles
    exact (perm_sortedProfiles _).symm.trans (hsorted ▸ perm_sortedProfiles _)
  · have hself : ∀ {config : SubscriptionProxyConfig}, NormalizedConfig config →
        ∀ profile ∈ sortedWebsiteProfiles config.websiteProfiles, profile.parts = profile.effective.strings := by
      intro config hconfig profile hprofile
      have hp := hconfig.websites profile ((perm_sortedWebsiteProfiles _).mem_iff.1 hprofile)
      rw [WebsiteProxyProfile.parts, hp.siteTrimmed, hp.baseTrimmed]
      rfl
    rw [List.map_congr_left (hself hleft), List.map_congr_left (hself hright)] at hwebsites
    have hinj : Function.Injective WebsiteProxyProfile.strings := by
      rintro ⟨_, _, _⟩ ⟨_, _, _⟩ heq
      simpa [WebsiteProxyProfile.strings] using heq
    have hsorted : (sortedWebsiteProfiles left.websiteProfiles).map (·.effective) =
        (sortedWebsiteProfiles right.websiteProfiles).map (·.effective) := by
      apply List.map_injective_iff.2 hinj
      rw [List.map_map, List.map_map]
      exact hwebsites
    exact ((perm_sortedWebsiteProfiles _).map _).symm.trans (hsorted ▸ (perm_sortedWebsiteProfiles _).map _)

end

/-! ## Servers -/

/-- The same server, up to the order its profiles are listed in and the spelling of their prefixes. -/
structure SameServer (left right : SubscriptionProxyMainServerPlan) : Prop where
  settings : { left with profiles := right.profiles, websiteProfiles := right.websiteProfiles } = right
  profiles : left.profiles.Perm right.profiles
  websites : (left.websiteProfiles.map (·.effective)).Perm (right.websiteProfiles.map (·.effective))

theorem SameServer.refl (plan : SubscriptionProxyMainServerPlan) : SameServer plan plan :=
  ⟨rfl, List.Perm.refl _, List.Perm.refl _⟩

/-- Both configurations ask for the same servers. -/
structure SameAsked (left right : SubscriptionProxyConfig) : Prop where
  main : ∀ mode, SameServer (planSubscriptionProxyMainServer left mode) (planSubscriptionProxyMainServer right mode)
  http : planSubscriptionProxyHttpServer left = planSubscriptionProxyHttpServer right

theorem SameAsked.refl (config : SubscriptionProxyConfig) : SameAsked config config := ⟨fun _ => SameServer.refl _, rfl⟩

section

variable {left right : SubscriptionProxyConfig}

/-- The settings a fingerprint holds decide everything that is planned but the profiles. -/
theorem planned_of_fixedParts (h : fixedParts left = fixedParts right) :
    planSubscriptionProxyHttpServer left = planSubscriptionProxyHttpServer right ∧
    (∀ mode, { planSubscriptionProxyMainServer left mode with
        profiles := right.profiles, websiteProfiles := right.websiteProfiles } =
      planSubscriptionProxyMainServer right mode) ∧
    planSubscriptionProxyValidationFile left = planSubscriptionProxyValidationFile right ∧
    planSubscriptionProxyCertificateFile left = planSubscriptionProxyCertificateFile right ∧
    (∀ request, planSubscriptionProxyHttpRequest left request = planSubscriptionProxyHttpRequest right request) := by
  simp only [fixedParts, List.cons.injEq, and_true] at h
  obtain ⟨hhttps, hhttp, hcert, hkey, _, hdir, _, hpath, hcontent, hpem, hbundle, _, hlimit⟩ := h
  have hlimit := decimal_inj hlimit
  refine ⟨?_, fun mode => ?_, ?_, ?_, fun request => ?_⟩
  · simp only [planSubscriptionProxyHttpServer, hhttp, hdir]
  · simp only [planSubscriptionProxyMainServer, hhttps, hcert, hkey, hlimit]
  · simp only [planSubscriptionProxyValidationFile, hpath, hcontent, hdir]
  · simp only [planSubscriptionProxyCertificateFile, hpem, hbundle, hcert]
  · simp only [planSubscriptionProxyHttpRequest, hdir]

end

/-! ## Routing -/

/-- The upstream a website profile stands for. -/
def WebsiteProxyProfile.upstream (profile : WebsiteProxyProfile) : Text :=
  trimTrailingSlashes (trim profile.upstreamBaseUrl)

/-- What the plan of a website request uses of the match. -/
def matchedUpstream (profiles : List WebsiteProxyProfile) (path : Text) : Option (Text × Text × Text) :=
  (websiteProxyMatch profiles path).map fun found => (found.1.upstream, found.2)

theorem planSubscriptionRoute_congr {left right : List SubscriptionProxyProfile}
    (h : ∀ siteId, left.find? (fun profile => eqIgnoreCase profile.siteId siteId) =
      right.find? fun profile => eqIgnoreCase profile.siteId siteId)
    (request : SubscriptionProxyInboundRequest) (rest : Text) :
    planSubscriptionRoute left request rest = planSubscriptionRoute right request rest := by
  simp only [planSubscriptionRoute, h]

theorem planWebsiteRoute_congr {left right : List WebsiteProxyProfile} {request : SubscriptionProxyInboundRequest}
    (h : matchedUpstream left request.path = matchedUpstream right request.path) :
    planWebsiteRoute left request = planWebsiteRoute right request := by
  simp only [planWebsiteRoute]
  split
  · rfl
  · simp only [matchedUpstream] at h
    cases hleft : websiteProxyMatch left request.path with
    | none =>
      rw [hleft, Option.map_none, eq_comm, Option.map_eq_none_iff] at h
      rw [h]
    | some found =>
      rw [hleft, Option.map_some, eq_comm, Option.map_eq_some_iff] at h
      obtain ⟨found', hright, heq⟩ := h
      rw [hright]
      obtain ⟨profile, pathPrefix, upstreamPath⟩ := found
      obtain ⟨profile', pathPrefix', upstreamPath'⟩ := found'
      simp only [Prod.mk.injEq, WebsiteProxyProfile.upstream] at heq
      obtain ⟨hbase, rfl, rfl⟩ := heq
      simp only [buildWebsiteUpstreamUrl, hbase]

/-- Where website profiles share a prefix that reaches the websites at all, the last listed ones agree on the upstream. -/
def SameOwners (left right : List WebsiteProxyProfile) : Prop :=
  ∀ pathPrefix, ¬ ("/sub/" : Text) <+: pathPrefix →
    (prefixOwner left pathPrefix).map (·.upstream) = (prefixOwner right pathPrefix).map (·.upstream)

section

variable {left right : List WebsiteProxyProfile}

/-- A prefix one list has, the other has. -/
theorem exists_prefix_of_perm (h : (left.map (·.effective)).Perm (right.map (·.effective))) {profile : WebsiteProxyProfile}
    (hprofile : profile ∈ left) : ∃ other ∈ right, other.effectivePrefix = profile.effectivePrefix := by
  obtain ⟨other, hother, heq⟩ := List.mem_map.1 (h.mem_iff.1 (List.mem_map_of_mem hprofile))
  exact ⟨other, hother, congrArg WebsiteProxyProfile.pathPrefix heq⟩

/-- The longest prefix is the same in both lists. -/
theorem longest_le_of_perm (h : (left.map (·.effective)).Perm (right.map (·.effective))) {path : Text} (hpath : path ≠ [])
    {profile other : WebsiteProxyProfile} {pathPrefix otherPrefix upstreamPath otherPath : Text}
    (hleft : websiteProxyMatch left path = some (profile, pathPrefix, upstreamPath))
    (hright : websiteProxyMatch right path = some (other, otherPrefix, otherPath)) :
    byteLen pathPrefix ≤ byteLen otherPrefix := by
  obtain ⟨howner, hpre, hmatches, _, _⟩ := websiteProxyMatch_eq_some hpath hleft
  obtain ⟨_, _, _, _, hlongest⟩ := websiteProxyMatch_eq_some hpath hright
  obtain ⟨profile', hprofile', heq⟩ := exists_prefix_of_perm h (prefixOwner_mem howner).1
  rw [hpre, ← heq]
  exact hlongest profile' hprofile' (by rwa [heq, ← hpre])

theorem matchedUpstream_eq_of_owners (h : (left.map (·.effective)).Perm (right.map (·.effective)))
    (howners : SameOwners left right) {path : Text} (hpath : path ≠ []) (hsub : ¬ ("/sub/" : Text) <+: path) :
    matchedUpstream left path = matchedUpstream right path := by
  have hnone : websiteProxyMatch left path = none ↔ websiteProxyMatch right path = none := by
    rw [websiteProxyMatch_eq_none hpath, websiteProxyMatch_eq_none hpath]
    constructor
    · intro hleft profile hprofile
      obtain ⟨other, hother, heq⟩ := exists_prefix_of_perm h.symm hprofile
      rw [← heq]
      exact hleft other hother
    · intro hright profile hprofile
      obtain ⟨other, hother, heq⟩ := exists_prefix_of_perm h hprofile
      rw [← heq]
      exact hright other hother
  cases hleft : websiteProxyMatch left path with
  | none => rw [matchedUpstream, matchedUpstream, hleft, hnone.1 hleft]
  | some found =>
    cases hright : websiteProxyMatch right path with
    | none => rw [hnone.2 hright] at hleft; cases hleft
    | some other =>
      obtain ⟨profile, pathPrefix, upstreamPath⟩ := found
      obtain ⟨profile', pathPrefix', upstreamPath'⟩ := other
      obtain ⟨howner, hpre, hmatches, rfl, _⟩ := websiteProxyMatch_eq_some hpath hleft
      obtain ⟨howner', hpre', hmatches', rfl, _⟩ := websiteProxyMatch_eq_some hpath hright
      have hsame : pathPrefix = pathPrefix' := by
        have hlen := Nat.le_antisymm (longest_le_of_perm h hpath hleft hright) (longest_le_of_perm h.symm hpath hright hleft)
        have hm : websiteProxyPathMatches profile.effectivePrefix path = true := hpre ▸ hmatches
        have hm' : websiteProxyPathMatches profile'.effectivePrefix path = true := hpre' ▸ hmatches'
        rw [hpre, hpre'] at hlen ⊢
        exact prefix_unique hm hm' hlen
      have hreach : ¬ ("/sub/" : Text) <+: pathPrefix := by
        intro hfront
        rcases isPrefix_of_matches hmatches with rfl | hpre
        · revert hfront
          decide
        · exact hsub (hfront.trans hpre)
      have hup := howners pathPrefix hreach
      rw [howner, hsame, howner', Option.map_some, Option.map_some, Option.some.injEq] at hup
      rw [matchedUpstream, matchedUpstream, hleft, hright, Option.map_some, Option.map_some, hup, hsame]

/-- A path that only this prefix, and shorter ones, match, and that is not the health path. -/
def pathUnder (pathPrefix : Text) : Text := if pathPrefix = "/health" then "/health/" else pathPrefix

theorem pathUnder_eq (pathPrefix : Text) : pathUnder pathPrefix = pathPrefix ∨
    (pathPrefix = "/health" ∧ pathUnder pathPrefix = pathPrefix ++ "/") := by
  rw [pathUnder]
  split
  · rename_i h
    exact .inr ⟨h, by rw [h]; decide⟩
  · exact .inl rfl

/-- No normalised prefix ends with a slash after `/health`. -/
theorem healthSlash_ne {pathPrefix : Text} (h : pathPrefix = "/health") (profile : WebsiteProxyProfile) :
    pathPrefix ++ "/" ≠ profile.effectivePrefix := by
  intro heq
  rcases normalizeProxyPathPrefix_shape profile.pathPrefix with hroot | ⟨rest, hshape, _, hlast⟩
  · rw [WebsiteProxyProfile.effectivePrefix, hroot, h] at heq
    revert heq
    decide
  · rw [WebsiteProxyProfile.effectivePrefix, hshape, h] at heq
    have hrest : rest = "health/" := (List.cons.inj heq).2.symm
    rw [hrest] at hlast
    exact hlast (by decide)

/-- The match of such a path is the owner of the prefix. -/
theorem websiteProxyMatch_pathUnder {profiles : List WebsiteProxyProfile} {profile : WebsiteProxyProfile}
    (hprofile : profile ∈ profiles) : ∃ owner, prefixOwner profiles profile.effectivePrefix = some owner ∧
      websiteProxyMatch profiles (pathUnder profile.effectivePrefix) =
        some (owner, profile.effectivePrefix,
          websiteProxyUpstreamPath profile.effectivePrefix (pathUnder profile.effectivePrefix)) := by
  have hne : profile.effectivePrefix ≠ [] := normalizeProxyPathPrefix_ne_nil _
  have hpath : pathUnder profile.effectivePrefix ≠ [] := by
    rcases pathUnder_eq profile.effectivePrefix with h | ⟨_, h⟩ <;> rw [h]
    · exact hne
    · exact List.append_ne_nil_of_left_ne_nil hne _
  have hmatches : websiteProxyPathMatches profile.effectivePrefix (pathUnder profile.effectivePrefix) = true := by
    rw [websiteProxyPathMatches_iff]
    rcases pathUnder_eq profile.effectivePrefix with h | ⟨_, h⟩
    · exact .inr (.inl h)
    · exact .inr (.inr ⟨[], h⟩)
  cases hmatch : websiteProxyMatch profiles (pathUnder profile.effectivePrefix) with
  | none =>
    rw [(websiteProxyMatch_eq_none hpath).1 hmatch profile hprofile] at hmatches
    cases hmatches
  | some found =>
    obtain ⟨owner, pathPrefix, upstreamPath⟩ := found
    obtain ⟨howner, hpre, hownerMatches, rfl, hlongest⟩ := websiteProxyMatch_eq_some hpath hmatch
    have hle : byteLen pathPrefix ≤ byteLen profile.effectivePrefix := by
      rcases isPrefix_of_matches hownerMatches with hroot | hfront
      · rw [hroot]
        exact one_le_byteLen_prefix _
      · rcases pathUnder_eq profile.effectivePrefix with h | ⟨hhealth, h⟩
        · exact byteLen_le_of_isPrefix (h ▸ hfront)
        · rw [h] at hfront
          rcases List.prefix_concat_iff.1 hfront with heq | hfront
          · exact absurd (heq ▸ hpre) (healthSlash_ne hhealth owner)
          · exact byteLen_le_of_isPrefix hfront
    have hsame : pathPrefix = profile.effectivePrefix := by
      have hm : websiteProxyPathMatches owner.effectivePrefix (pathUnder profile.effectivePrefix) = true :=
        hpre ▸ hownerMatches
      have hlen := Nat.le_antisymm hle (hlongest profile hprofile hmatches)
      rw [hpre] at hlen ⊢
      exact prefix_unique hm hmatches hlen
    rw [hsame] at howner ⊢
    exact ⟨owner, howner, rfl⟩

end

/-! ## Same answers -/

/-- The upstream a planned website request rewrites its response for. -/
def rewrittenUpstream : Except SubscriptionProxyRouteError SubscriptionProxyRoute → Option Text
  | .ok (.upstream request) => request.responseRewrite.map (·.upstreamBaseUrl)
  | _ => none

/-- A `GET` of the path. -/
def getRequest (path : Text) : SubscriptionProxyInboundRequest := { method := "GET", path }

theorem buildWebsiteUpstreamUrl_isOk {profile : WebsiteProxyProfile} (h : NormalizedWebsite profile)
    (upstreamPath rawQuery : Text) : ∃ url, buildWebsiteUpstreamUrl profile upstreamPath rawQuery = .ok url := by
  simp only [buildWebsiteUpstreamUrl, isValidUpstreamBaseUrl_trim h.baseValid]
  exact ⟨_, rfl⟩

/-- A `GET` under a prefix that reaches the websites is planned for the upstream of its owner. -/
theorem rewrittenUpstream_pathUnder {config : SubscriptionProxyConfig} (hnormal : NormalizedConfig config)
    {profile : WebsiteProxyProfile} (hprofile : profile ∈ config.websiteProfiles)
    (hsub : ¬ ("/sub/" : Text) <+: profile.effectivePrefix) :
    rewrittenUpstream (planSubscriptionProxyRequest config.profiles config.websiteProfiles
      (getRequest (pathUnder profile.effectivePrefix))) =
        (prefixOwner config.websiteProfiles profile.effectivePrefix).map (·.upstream) := by
  obtain ⟨owner, howner, hmatch⟩ := websiteProxyMatch_pathUnder hprofile
  have hhealth : pathUnder profile.effectivePrefix ≠ "/health" := by
    rcases pathUnder_eq profile.effectivePrefix with h | ⟨hq, h⟩
    · intro heq
      rw [pathUnder, if_pos (h ▸ heq)] at heq
      revert heq
      decide
    · rw [h, hq]
      decide
  have hstrip : Json.stripPrefix "/sub/" (pathUnder profile.effectivePrefix) = none := by
    rw [Json.stripPrefix_eq_none]
    rcases pathUnder_eq profile.effectivePrefix with h | ⟨hq, h⟩
    · rwa [h]
    · rw [h, hq]
      decide
  have howned := hnormal.websites owner (prefixOwner_mem howner).1
  obtain ⟨url, hurl⟩ := buildWebsiteUpstreamUrl_isOk howned
    (websiteProxyUpstreamPath profile.effectivePrefix (pathUnder profile.effectivePrefix)) []
  have hmethod : isAllowedWebsiteProxyMethod (asciiUpper (trim "GET")) = true := by decide
  simp only [planSubscriptionProxyRequest, getRequest, hhealth, if_false, hstrip, planWebsiteRoute, hmatch, hurl, howner,
    hmethod]
  rfl

/-- The two configurations cannot be told apart by what they plan. -/
structure SameAnswers (left right : SubscriptionProxyConfig) : Prop where
  requests : ∀ request, planSubscriptionProxyRequest left.profiles left.websiteProfiles request =
    planSubscriptionProxyRequest right.profiles right.websiteProfiles request
  httpRequests : ∀ request, planSubscriptionProxyHttpRequest left request = planSubscriptionProxyHttpRequest right request
  servers : SameAsked left right
  validation : planSubscriptionProxyValidationFile left = planSubscriptionProxyValidationFile right
  certificate : planSubscriptionProxyCertificateFile left = planSubscriptionProxyCertificateFile right

/-- Subscription sites are found in any order. -/
theorem findSite_of_perm {left right : List SubscriptionProxyProfile} (h : left.Perm right)
    (hnodup : (left.map SubscriptionProxyProfile.key).Nodup) (siteId : Text) :
    left.find? (fun profile => eqIgnoreCase profile.siteId siteId) =
      right.find? fun profile => eqIgnoreCase profile.siteId siteId :=
  find?_eq_of_perm h hnodup (asciiLower siteId)

section

variable {left right : SubscriptionProxyConfig}

theorem requests_eq_of_owners (hleft : NormalizedConfig left) (hprofiles : left.profiles.Perm right.profiles)
    (hwebsites : (left.websiteProfiles.map (·.effective)).Perm (right.websiteProfiles.map (·.effective)))
    (howners : SameOwners left.websiteProfiles right.websiteProfiles) (request : SubscriptionProxyInboundRequest) :
    planSubscriptionProxyRequest left.profiles left.websiteProfiles request =
      planSubscriptionProxyRequest right.profiles right.websiteProfiles request := by
  simp only [planSubscriptionProxyRequest]
  split
  · rfl
  · cases hstrip : Json.stripPrefix "/sub/" request.path with
    | some rest => exact planSubscriptionRoute_congr (findSite_of_perm hprofiles hleft.profilesNodup) request rest
    | none =>
      rw [Json.stripPrefix_eq_none] at hstrip
      apply planWebsiteRoute_congr
      by_cases hempty : request.path = []
      · -- An empty path is routed as the root.
        have hroot : ∀ profiles, matchedUpstream profiles request.path = matchedUpstream profiles "/" := by
          intro profiles
          rw [hempty]
          rfl
        rw [hroot, hroot]
        exact matchedUpstream_eq_of_owners hwebsites howners (by decide) (by decide)
      · exact matchedUpstream_eq_of_owners hwebsites howners hempty hstrip

theorem owners_of_requests (hleft : NormalizedConfig left) (hright : NormalizedConfig right)
    (hwebsites : (left.websiteProfiles.map (·.effective)).Perm (right.websiteProfiles.map (·.effective)))
    (h : ∀ request, planSubscriptionProxyRequest left.profiles left.websiteProfiles request =
      planSubscriptionProxyRequest right.profiles right.websiteProfiles request) :
    SameOwners left.websiteProfiles right.websiteProfiles := by
  intro pathPrefix hsub
  by_cases hlisted : ∃ profile ∈ left.websiteProfiles, profile.effectivePrefix = pathPrefix
  · obtain ⟨profile, hprofile, rfl⟩ := hlisted
    obtain ⟨other, hother, heq⟩ := exists_prefix_of_perm hwebsites hprofile
    have hr := rewrittenUpstream_pathUnder hright hother (heq ▸ hsub)
    rw [heq] at hr
    rw [← rewrittenUpstream_pathUnder hleft hprofile hsub, ← hr, h]
  · have hnone : ∀ profiles : List WebsiteProxyProfile, (∀ profile ∈ profiles, profile.effectivePrefix ≠ pathPrefix) →
        prefixOwner profiles pathPrefix = none := by
      intro profiles hprofiles
      rw [prefixOwner, List.getLast?_eq_none_iff, List.filter_eq_nil_iff]
      simpa using hprofiles
    rw [hnone left.websiteProfiles fun profile hprofile heq => hlisted ⟨profile, hprofile, heq⟩,
      hnone right.websiteProfiles fun profile hprofile heq => ?_]
    obtain ⟨other, hother, heq'⟩ := exists_prefix_of_perm hwebsites.symm hprofile
    exact hlisted ⟨other, hother, heq'.trans heq⟩

end

/-- **One fingerprint, one behaviour, up to shared prefixes**: two normalised NUL-free configurations with one
fingerprint plan the same exactly when the last listed website under every shared prefix is the same. -/
theorem sameAnswers_iff {source₁ source₂ left right : SubscriptionProxyConfig}
    (hleft : normalizeSubscriptionProxyConfig source₁ = .ok left)
    (hright : normalizeSubscriptionProxyConfig source₂ = .ok right) (hnulLeft : NulFree left) (hnulRight : NulFree right)
    (h : subscriptionProxyFingerprint left = subscriptionProxyFingerprint right) :
    SameAnswers left right ↔ SameOwners left.websiteProfiles right.websiteProfiles := by
  have hl := normalized_of_ok hleft
  have hr := normalized_of_ok hright
  obtain ⟨hfixed, hprofiles, hwebsites⟩ := fingerprint_inj hl hr hnulLeft hnulRight h
  obtain ⟨hhttp, hmain, hvalidation, hcertificate, hrequests⟩ := planned_of_fixedParts hfixed
  constructor
  · intro hsame
    exact owners_of_requests hl hr hwebsites hsame.requests
  · intro howners
    exact ⟨requests_eq_of_owners hl hprofiles hwebsites howners, hrequests,
      ⟨fun mode => ⟨hmain mode, hprofiles, hwebsites⟩, hhttp⟩, hvalidation, hcertificate⟩

/-- A configuration in normal form that serves two websites. -/
def websitesConfig (websiteProfiles : List WebsiteProxyProfile) : SubscriptionProxyConfig where
  enabled := true
  httpsListen := defaultHttpsListen
  challengeDir := defaultChallengeDir
  maxResponseBytes := defaultMaxResponseBytes
  websiteProfiles := websiteProfiles

def siteA (pathPrefix : Text) : WebsiteProxyProfile := { siteId := "a", upstreamBaseUrl := "https://a", pathPrefix }

def siteB (pathPrefix : Text) : WebsiteProxyProfile := { siteId := "b", upstreamBaseUrl := "https://b", pathPrefix }

/-- Two prefixes, listed either way. -/
theorem sameAnswers_two_prefixes :
    SameAnswers (websitesConfig [siteA "/x", siteB "/y"]) (websitesConfig [siteB "/y", siteA "/x"]) ↔
      SameOwners [siteA "/x", siteB "/y"] [siteB "/y", siteA "/x"] :=
  have hxy : normalizeSubscriptionProxyConfig (websitesConfig [siteA "/x", siteB "/y"]) =
      .ok (websitesConfig [siteA "/x", siteB "/y"]) := by decide +kernel
  have hyx : normalizeSubscriptionProxyConfig (websitesConfig [siteB "/y", siteA "/x"]) =
      .ok (websitesConfig [siteB "/y", siteA "/x"]) := by decide +kernel
  sameAnswers_iff hxy hyx (by decide +kernel) (by decide +kernel) (by decide +kernel)

/-- Two sites under one prefix, listed either way, have one fingerprint and different upstreams. -/
theorem reordered_websites :
    normalizeSubscriptionProxyConfig (websitesConfig [siteA "/x", siteB "/x"]) =
        .ok (websitesConfig [siteA "/x", siteB "/x"]) ∧
      normalizeSubscriptionProxyConfig (websitesConfig [siteB "/x", siteA "/x"]) =
        .ok (websitesConfig [siteB "/x", siteA "/x"]) ∧
      NulFree (websitesConfig [siteA "/x", siteB "/x"]) ∧ NulFree (websitesConfig [siteB "/x", siteA "/x"]) ∧
      subscriptionProxyFingerprint (websitesConfig [siteA "/x", siteB "/x"]) =
        subscriptionProxyFingerprint (websitesConfig [siteB "/x", siteA "/x"]) ∧
      ¬ SameAnswers (websitesConfig [siteA "/x", siteB "/x"]) (websitesConfig [siteB "/x", siteA "/x"]) := by
  refine ⟨by decide +kernel, by decide +kernel, by decide +kernel, by decide +kernel, by decide +kernel, ?_⟩
  intro hsame
  have hupstream := congrArg rewrittenUpstream (hsame.requests (getRequest "/x"))
  exact absurd hupstream (by decide +kernel)

end KeliNode
