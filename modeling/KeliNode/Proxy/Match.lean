import KeliNode.Proxy.Normalized
import KeliNode.Proxy.Route

/-!
# Which website a path goes to

A prefix matches a path on a segment boundary (`websiteProxyPathMatches_iff`).  Two prefixes of one length that
match one path are the same (`prefix_unique`), so the longest one is unique, and of the profiles that share it the last
listed takes the request (`websiteProxyMatch_eq_some`).
-/

namespace KeliNode

open Lib

/-! ## Prefixes -/

/-- The prefix routing compares with. -/
def WebsiteProxyProfile.effectivePrefix (profile : WebsiteProxyProfile) : Text :=
  normalizeProxyPathPrefix profile.pathPrefix

theorem websiteProxyPathMatches_iff {pathPrefix path : Text} : websiteProxyPathMatches pathPrefix path = true ↔
    pathPrefix = "/" ∨ path = pathPrefix ∨ ∃ rest, path = pathPrefix ++ '/' :: rest := by
  rw [websiteProxyPathMatches]
  by_cases hroot : pathPrefix = "/"
  · rw [if_pos hroot]
    exact ⟨fun _ => .inl hroot, fun _ => rfl⟩
  · rw [if_neg hroot, Bool.or_eq_true, decide_eq_true_eq]
    refine Iff.trans (or_congr_right ?_) (or_iff_right hroot).symm
    cases hstrip : Json.stripPrefix pathPrefix path with
    | none =>
      refine ⟨(fun h => nomatch h), ?_⟩
      rintro ⟨rest, rfl⟩
      rw [Json.stripPrefix_append] at hstrip
      cases hstrip
    | some rest =>
      obtain rfl := Json.stripPrefix_eq_some.1 hstrip
      simp only [decide_eq_true_eq, List.append_cancel_left_eq]
      constructor
      · intro hhead
        cases rest with
        | nil => cases hhead
        | cons c rest => exact ⟨rest, by rw [Option.some.inj hhead]⟩
      · rintro ⟨rest', rfl⟩
        rfl

/-- A prefix that matches is a front of the path, or the root. -/
theorem isPrefix_of_matches {pathPrefix path : Text} (h : websiteProxyPathMatches pathPrefix path = true) :
    pathPrefix = "/" ∨ pathPrefix <+: path := by
  rcases websiteProxyPathMatches_iff.1 h with h | rfl | ⟨rest, rfl⟩
  · exact .inl h
  · exact .inr (List.prefix_refl _)
  · exact .inr (List.prefix_append _ _)

theorem byteLen_le_of_isPrefix {s t : Text} (h : s <+: t) : byteLen s ≤ byteLen t := by
  obtain ⟨rest, rfl⟩ := h
  rw [byteLen_append]
  omega

theorem eq_of_isPrefix_of_byteLen {s t : Text} (h : s <+: t) (hlen : byteLen t ≤ byteLen s) : s = t := by
  obtain ⟨rest, rfl⟩ := h
  rw [byteLen_append] at hlen
  by_cases hrest : rest = []
  · rw [hrest, List.append_nil]
  · have := byteLen_pos hrest
    omega

/-- No normalised prefix is shorter than the root. -/
theorem one_le_byteLen_prefix (value : Text) : 1 ≤ byteLen (normalizeProxyPathPrefix value) :=
  byteLen_pos (normalizeProxyPathPrefix_ne_nil value)

/-- A normalised prefix no longer than the root is the root. -/
theorem eq_root_of_byteLen {value : Text} (h : byteLen (normalizeProxyPathPrefix value) ≤ 1) :
    normalizeProxyPathPrefix value = "/" := by
  have hroot : ("/" : Text) <+: normalizeProxyPathPrefix value := by
    have hhead := head?_normalizeProxyPathPrefix value
    cases hvalue : normalizeProxyPathPrefix value with
    | nil => rw [hvalue] at hhead; cases hhead
    | cons c rest =>
      rw [hvalue] at hhead
      cases hhead
      exact ⟨rest, rfl⟩
  exact (eq_of_isPrefix_of_byteLen hroot (h.trans (by decide))).symm

/-- **Uniqueness**: two normalised prefixes of one length that match one path are the same. -/
theorem prefix_unique {left right path : Text}
    (hleft : websiteProxyPathMatches (normalizeProxyPathPrefix left) path = true)
    (hright : websiteProxyPathMatches (normalizeProxyPathPrefix right) path = true)
    (hlen : byteLen (normalizeProxyPathPrefix left) = byteLen (normalizeProxyPathPrefix right)) :
    normalizeProxyPathPrefix left = normalizeProxyPathPrefix right := by
  have hroot : byteLen ("/" : Text) = 1 := by decide
  rcases isPrefix_of_matches hleft with hl | hl
  · rw [hl, hroot] at hlen
    rw [hl, eq_root_of_byteLen hlen.ge]
  · rcases isPrefix_of_matches hright with hr | hr
    · rw [hr, hroot] at hlen
      rw [hr, eq_root_of_byteLen hlen.le]
    · rcases List.prefix_or_prefix_of_prefix hl hr with h | h
      · exact eq_of_isPrefix_of_byteLen h hlen.ge
      · exact (eq_of_isPrefix_of_byteLen h hlen.le).symm

/-! ## The match -/

section

variable {profiles : List WebsiteProxyProfile} {path : Text}

theorem websiteProxyCandidates_cons (profile : WebsiteProxyProfile) : websiteProxyCandidates (profile :: profiles) path =
    if websiteProxyPathMatches profile.effectivePrefix path = true then
      (profile, profile.effectivePrefix, websiteProxyUpstreamPath profile.effectivePrefix path) ::
        websiteProxyCandidates profiles path
    else websiteProxyCandidates profiles path := by
  simp only [websiteProxyCandidates, List.filterMap_cons, WebsiteProxyProfile.effectivePrefix]
  split <;> rename_i hmatches <;> split at hmatches <;> simp_all

theorem mem_websiteProxyCandidates {profile : WebsiteProxyProfile} {pathPrefix upstreamPath : Text} :
    (profile, pathPrefix, upstreamPath) ∈ websiteProxyCandidates profiles path ↔
      profile ∈ profiles ∧ websiteProxyPathMatches profile.effectivePrefix path = true ∧
        pathPrefix = profile.effectivePrefix ∧ upstreamPath = websiteProxyUpstreamPath profile.effectivePrefix path := by
  induction profiles with
  | nil => simp [websiteProxyCandidates]
  | cons first rest ih =>
    rw [websiteProxyCandidates_cons, List.mem_cons]
    by_cases hmatches : websiteProxyPathMatches first.effectivePrefix path = true
    · rw [if_pos hmatches, List.mem_cons, ih]
      constructor
      · rintro (h | ⟨hprofile, hfacts⟩)
        · cases h
          exact ⟨.inl rfl, hmatches, rfl, rfl⟩
        · exact ⟨.inr hprofile, hfacts⟩
      · rintro ⟨rfl | hprofile, hfacts⟩
        · exact .inl (by rw [hfacts.2.1, hfacts.2.2])
        · exact .inr ⟨hprofile, hfacts⟩
    · rw [if_neg hmatches, ih]
      refine ⟨fun ⟨hprofile, hfacts⟩ => ⟨.inr hprofile, hfacts⟩, ?_⟩
      rintro ⟨rfl | hprofile, hfacts⟩
      · exact absurd hfacts.1 hmatches
      · exact ⟨hprofile, hfacts⟩

/-- The candidates under one matching prefix are the profiles with that prefix, in their order. -/
theorem candidates_with_prefix {pathPrefix : Text} (h : websiteProxyPathMatches pathPrefix path = true) :
    ((websiteProxyCandidates profiles path).filter fun candidate => candidate.2.1 = pathPrefix).map (·.1) =
      profiles.filter fun profile => profile.effectivePrefix = pathPrefix := by
  induction profiles with
  | nil => rfl
  | cons first rest ih =>
    rw [websiteProxyCandidates_cons]
    by_cases hpre : first.effectivePrefix = pathPrefix
    · rw [if_pos (hpre ▸ h), List.filter_cons_of_pos (by simpa using hpre),
        List.filter_cons_of_pos (by simpa using hpre), List.map_cons, ih]
    · rw [List.filter_cons_of_neg (a := first) (by simpa using hpre)]
      split
      · rw [List.filter_cons_of_neg (by simpa using hpre), ih]
      · exact ih

end

/-- The last listed profile with this prefix. -/
def prefixOwner (profiles : List WebsiteProxyProfile) (pathPrefix : Text) : Option WebsiteProxyProfile :=
  (profiles.filter fun profile => profile.effectivePrefix = pathPrefix).getLast?

theorem prefixOwner_mem {profiles : List WebsiteProxyProfile} {pathPrefix : Text} {owner : WebsiteProxyProfile}
    (h : prefixOwner profiles pathPrefix = some owner) : owner ∈ profiles ∧ owner.effectivePrefix = pathPrefix := by
  have hmem := List.mem_of_getLast? h
  simpa using hmem

/-- **The website a path goes to**: its prefix is the longest that matches, and of the profiles with that prefix it is
the last listed. -/
theorem websiteProxyMatch_eq_some {profiles : List WebsiteProxyProfile} {path : Text} (hpath : path ≠ [])
    {profile : WebsiteProxyProfile} {pathPrefix upstreamPath : Text}
    (h : websiteProxyMatch profiles path = some (profile, pathPrefix, upstreamPath)) :
    prefixOwner profiles pathPrefix = some profile ∧ pathPrefix = profile.effectivePrefix ∧
      websiteProxyPathMatches pathPrefix path = true ∧ upstreamPath = websiteProxyUpstreamPath pathPrefix path ∧
      ∀ other ∈ profiles, websiteProxyPathMatches other.effectivePrefix path = true →
        byteLen other.effectivePrefix ≤ byteLen pathPrefix := by
  simp only [websiteProxyMatch, List.isEmpty_iff, hpath, if_false] at h
  obtain ⟨hprofile, hmatches, hpre, hupstream⟩ := mem_websiteProxyCandidates.1 (mem_of_maxByKey _ h)
  refine ⟨?_, hpre, hpre ▸ hmatches, hpre ▸ hupstream, ?_⟩
  · obtain ⟨front, back, hsplit, _, hback⟩ := maxByKey_eq_some _ h
    have hlater : back.filter (fun candidate => candidate.2.1 = pathPrefix) = [] := by
      rw [List.filter_eq_nil_iff]
      intro candidate hcandidate hsame
      have hlt := hback candidate hcandidate
      rw [decide_eq_true_eq] at hsame
      rw [hsame] at hlt
      exact absurd hlt (Nat.lt_irrefl _)
    rw [prefixOwner, ← candidates_with_prefix (hpre ▸ hmatches), hsplit, List.filter_append, List.filter_cons,
      if_pos (by simp), hlater]
    simp
  · intro other hother hothers
    have hmem : (other, other.effectivePrefix, websiteProxyUpstreamPath other.effectivePrefix path) ∈
        websiteProxyCandidates profiles path := mem_websiteProxyCandidates.2 ⟨hother, hothers, rfl, rfl⟩
    exact le_of_maxByKey (fun candidate : WebsiteProxyProfile × Text × Text => byteLen candidate.2.1) h hmem

theorem websiteProxyMatch_eq_none {profiles : List WebsiteProxyProfile} {path : Text} (hpath : path ≠ []) :
    websiteProxyMatch profiles path = none ↔
      ∀ profile ∈ profiles, websiteProxyPathMatches profile.effectivePrefix path = false := by
  simp only [websiteProxyMatch, List.isEmpty_iff, hpath, if_false, maxByKey_eq_none, List.eq_nil_iff_forall_not_mem]
  constructor
  · intro h profile hprofile
    rw [Bool.eq_false_iff]
    exact fun hmatches => h _ (mem_websiteProxyCandidates.2 ⟨hprofile, hmatches, rfl, rfl⟩)
  · rintro h ⟨profile, pathPrefix, upstreamPath⟩ hmem
    obtain ⟨hprofile, hmatches, _⟩ := mem_websiteProxyCandidates.1 hmem
    rw [h profile hprofile] at hmatches
    cases hmatches

end KeliNode
