import KeliNode.Proxy.Match
import KeliNode.Proxy.Request
import KeliNode.Proxy.Percent
import KeliNode.Lib.Url

/-!
# What a request can address on the upstream

A planned URL is the base of the selected profile and what the request adds behind a slash.  The client of the
upstream reads it as a reference and removes the dot segments (`sentPath`).

A token is one segment, so a subscription URL stays where it belongs unless the token is `.` or `..`, or the
configuration itself leaves its path (`subscription_stays_iff`).  A website path is passed on as it is: it stays below
the base exactly if it goes down again what it climbed (`website_stays_iff`).
-/

namespace KeliNode

open Lib

/-! ## The URL that is sent -/

/-- No query and no fragment. -/
def PathOnly (s : Text) : Prop := '?' ∉ s ∧ '#' ∉ s

instance (s : Text) : Decidable (PathOnly s) := inferInstanceAs (Decidable (_ ∧ _))

theorem pathOnly_iff {s : Text} : PathOnly s ↔ ∀ c ∈ s, c ∉ ['?', '#'] := by
  constructor
  · rintro ⟨hquery, hfragment⟩ c hc
    simp only [List.mem_cons, List.not_mem_nil, or_false, not_or]
    exact ⟨fun heq => hquery (heq ▸ hc), fun heq => hfragment (heq ▸ hc)⟩
  · intro h
    exact ⟨fun hmem => h _ hmem (by simp), fun hmem => h _ hmem (by simp)⟩

def SameOrigin (base url : Text) : Prop :=
  (parseReference url).scheme = (parseReference base).scheme ∧
    (parseReference url).authority = (parseReference base).authority

def sentPath (url : Text) : Text := removeDotSegments (parseReference url).path

/-- The directory of a base URL. -/
def basePath (base : Text) : Text := directory (parseReference base).path

theorem exists_scheme {base : Text} (h : isValidUpstreamBaseUrl base = true) : ∃ scheme after : Text,
    base = scheme ++ ':' :: '/' :: '/' :: after ∧ scheme ≠ [] ∧ ∀ c ∈ scheme, c ∉ [':', '/', '?', '#'] := by
  obtain ⟨scheme, host, rest, hscheme, rfl, -⟩ := isValidUpstreamBaseUrl_iff.1 h
  rcases hscheme with rfl | rfl
  · exact ⟨"https", host ++ rest, rfl, by simp, by simp⟩
  · exact ⟨"http", host ++ rest, rfl, by simp, by simp⟩

section

variable {base : Text}

/-- A path or a query that is added to the base is added to its path, if the base ends with its path, and to the query
or the fragment otherwise. -/
theorem parse_behind {tail : Text} (h : isValidUpstreamBaseUrl base = true)
    (htail : ∀ c, tail.head? = some c → c = '/' ∨ c = '?') : SameOrigin base (base ++ tail) ∧
    (parseReference (base ++ tail)).path =
      (if PathOnly base then (parseReference base).path ++ pathPart tail else (parseReference base).path) ∧
    (parseReference (base ++ tail)).query = queryPart (base ++ tail) := by
  obtain ⟨scheme, after, rfl, hne, hfree⟩ := exists_scheme h
  have happend : scheme ++ ':' :: '/' :: '/' :: after ++ tail = scheme ++ ':' :: '/' :: '/' :: (after ++ tail) := by simp
  have hscheme : ∀ c ∈ scheme ++ [':', '/', '/'], c ∉ ['?', '#'] := by
    intro c hc hmem
    rcases List.mem_append.1 hc with hc | hc
    · refine hfree c hc ?_
      simp only [List.mem_cons, List.not_mem_nil, or_false] at hmem ⊢
      tauto
    · simp only [List.mem_cons, List.not_mem_nil, or_false] at hc hmem
      rcases hc with rfl | rfl | rfl <;> simp at hmem
  have hsplit : before ['/', '?', '#'] after ++ fromFirst ['/', '?', '#'] after = after := before_append_fromFirst
  have hplain : PathOnly (scheme ++ ':' :: '/' :: '/' :: after) ↔ PathOnly after := by
    have hregroup : scheme ++ ':' :: '/' :: '/' :: after = (scheme ++ [':', '/', '/']) ++ after := by simp
    rw [hregroup, pathOnly_iff, pathOnly_iff]
    refine ⟨fun hall c hc => hall c (List.mem_append_right _ hc), fun hall c hc => ?_⟩
    rcases List.mem_append.1 hc with hc | hc
    · exact hscheme c hc
    · exact hall c hc
  obtain ⟨hscheme₁, hauthority₁, hpath₁⟩ := parseReference_absolute (s := after) hne hfree
  obtain ⟨hscheme₂, hauthority₂, hpath₂⟩ := parseReference_absolute (s := after ++ tail) hne hfree
  have hquery : queryPart (scheme ++ ':' :: '/' :: '/' :: (after ++ tail)) = queryPart (after ++ tail) := by
    have hregroup : scheme ++ ':' :: '/' :: '/' :: (after ++ tail) = (scheme ++ [':', '/', '/']) ++ (after ++ tail) := by simp
    rw [hregroup, queryPart_append_of_free hscheme]
  rw [happend, SameOrigin, hscheme₁, hscheme₂, hauthority₁, hauthority₂, hpath₁, hpath₂, query_absolute hne hfree, hquery]
  simp only [hplain, true_and, Option.some.injEq, and_true]
  by_cases hslash : ∃ c ∈ after, c ∈ ['/', '?', '#']
  · -- the authority ends inside the base
    obtain ⟨c, hc, hdelim⟩ := hslash
    obtain ⟨hbefore, hfrom⟩ := before_append_of_mem (t := tail) hc hdelim
    refine ⟨hbefore, ?_⟩
    rw [hfrom]
    split
    · rename_i hafter
      have hrest : ∀ c ∈ fromFirst ['/', '?', '#'] after, c ∉ ['?', '#'] := fun c hc =>
        pathOnly_iff.1 hafter c (hsplit ▸ List.mem_append_right _ hc)
      rw [before_append_of_free hrest, before_of_free hrest, pathPart]
    · rename_i hafter
      rw [pathOnly_iff] at hafter
      push Not at hafter
      obtain ⟨c, hc, hdelim⟩ := hafter
      have hrest : c ∈ fromFirst ['/', '?', '#'] after := by
        rw [← hsplit, List.mem_append] at hc
        refine hc.resolve_left (notMem_before ?_)
        simp only [List.mem_cons, List.not_mem_nil, or_false] at hdelim ⊢
        tauto
      exact (before_append_of_mem hrest hdelim).1
  · push Not at hslash
    have hafter : PathOnly after := pathOnly_iff.2 fun c hc hmem => hslash c hc (by
      simp only [List.mem_cons, List.not_mem_nil, or_false] at hmem ⊢
      tauto)
    have hstop : before ['/', '?', '#'] tail = [] ∧ fromFirst ['/', '?', '#'] tail = tail := by
      cases tail with
      | nil => exact ⟨rfl, rfl⟩
      | cons c tail => rcases htail c rfl with rfl | rfl <;> simp [before, fromFirst]
    rw [before_append_of_free hslash, before_of_free hslash, fromFirst_append_of_free hslash, fromFirst_of_free hslash,
      if_pos hafter, hstop.1, hstop.2, List.append_nil, pathPart]
    exact ⟨rfl, rfl⟩

/-- What is added behind a slash. -/
theorem parse_extended (tail : Text) (h : isValidUpstreamBaseUrl base = true) : SameOrigin base (base ++ '/' :: tail) ∧
    (parseReference (base ++ '/' :: tail)).path =
      if PathOnly base then (parseReference base).path ++ '/' :: before ['?', '#'] tail else (parseReference base).path := by
  have hslash : ∀ c, ('/' :: tail).head? = some c → c = '/' ∨ c = '?' := fun c hc => .inl (Option.some.inj hc).symm
  obtain ⟨horigin, hpath, -⟩ := parse_behind h hslash
  rw [pathPart, before_cons (by simp)] at hpath
  exact ⟨horigin, hpath⟩

end

/-! ## Staying below the base -/

/-- A subscription is fetched from `<base>/<path>/<one segment>`. -/
def WithinSubscription (base path url : Text) : Prop :=
  SameOrigin base url ∧
    ∃ segment, segment ≠ [] ∧ '/' ∉ segment ∧ sentPath url = basePath base ++ '/' :: (path ++ '/' :: segment)

/-- A website is fetched from its base or from below it. -/
def WithinWebsite (base url : Text) : Prop := SameOrigin base url ∧ Below (basePath base) (sentPath url)

/-- Base and path address what they say, and the token is not the name of another directory. -/
structure SubscriptionStays (base path token : Text) : Prop where
  baseOnly : PathOnly base
  pathOnly : PathOnly path
  plain : ∀ segment ∈ splitOn '/' path, isDotSegment segment = false
  dots : token ≠ "." ∧ token ≠ ".."

/-- The segments that a website path adds to the base. -/
def addedSegments (rest : Text) : List Text := splitOn '/' (before ['?', '#'] (trimStartMatches (· = '/') rest))

/-- What the path climbs, it goes down again. -/
def WebsiteStays (base rest : Text) : Prop :=
  PathOnly base →
    let dir := walk [] (segments (parseReference base).path)
    dir.drop (dir.length - (climb (addedSegments rest)).1) <+:
      (climb (addedSegments rest)).2 ++ trailing (addedSegments rest)

section

variable {base path token rest query : Text}

theorem before_append_query (hquery : ∀ c, query.head? = some c → c = '?') (s : Text) :
    before ['?', '#'] (s ++ query) = before ['?', '#'] s := by
  by_cases hs : ∃ c ∈ s, c ∈ ['?', '#']
  · obtain ⟨c, hc, hdelim⟩ := hs
    exact (before_append_of_mem hc hdelim).1
  · push Not at hs
    rw [before_append_of_free hs, before_of_free hs]
    cases query with
    | nil => simp [before]
    | cons c query =>
      obtain rfl := hquery c rfl
      simp [before]

theorem delim_notMem_path {c : Char} (hc : c ∈ ['?', '#']) (s : Text) : c ∉ (parseReference s).path := notMem_before hc

theorem basePath_slashes (base path segment : Text) (hsegment : '/' ∉ segment) :
    basePath base ++ '/' :: (path ++ '/' :: segment) =
      joinSegments (walk [] (segments (parseReference base).path) ++ (splitOn '/' path ++ [segment])) := by
  have hlast : splitOn '/' segment = [segment] := List.splitOn_eq_singleton hsegment
  rw [joinSegments_append, basePath, directory, ← hlast, joinSegments_append, joinSegments_splitOn, joinSegments_splitOn]
  simp

theorem within_segments_iff (hbase : isValidUpstreamBaseUrl base = true) (hplain : PathOnly base) (hpath : PathOnly path)
    (hquery : ∀ c, query.head? = some c → c = '?') :
    WithinSubscription base path (base ++ '/' :: (path ++ '/' :: (percentEncodePathSegment token ++ query))) ↔
      ∃ segment, segment ≠ [] ∧ '/' ∉ segment ∧
        collapse (segments (parseReference base).path ++ (splitOn '/' path ++ [percentEncodePathSegment token])) =
          walk [] (segments (parseReference base).path) ++ (splitOn '/' path ++ [segment]) := by
  have hslash : '/' ∉ percentEncodePathSegment token := fun hmem => segment_of_encode hmem (by simp)
  have hfree : ∀ c ∈ path ++ '/' :: percentEncodePathSegment token, c ∉ ['?', '#'] := by
    intro c hc
    rcases List.mem_append.1 hc with hc | hc
    · exact pathOnly_iff.1 hpath c hc
    · rcases List.mem_cons.1 hc with rfl | hc
      · decide
      · exact fun hdelim => segment_of_encode hc (List.mem_cons_of_mem _ hdelim)
  obtain ⟨horigin, hurl⟩ :=
    parse_extended (path ++ '/' :: (percentEncodePathSegment token ++ query)) hbase
  have hregroup : path ++ '/' :: (percentEncodePathSegment token ++ query) =
      (path ++ '/' :: percentEncodePathSegment token) ++ query := by simp
  rw [if_pos hplain, hregroup, before_append_query hquery, before_of_free hfree] at hurl
  have hsegments : segments ((parseReference base).path ++ '/' :: (path ++ '/' :: percentEncodePathSegment token)) =
      segments (parseReference base).path ++ (splitOn '/' path ++ [percentEncodePathSegment token]) := by
    have hlast : splitOn '/' (percentEncodePathSegment token) = [percentEncodePathSegment token] :=
      List.splitOn_eq_singleton hslash
    rw [segments_append, ← hlast]
    exact congrArg _ (List.splitOn_append_cons_self _ _)
  rw [WithinSubscription, and_iff_right (hregroup ▸ horigin), sentPath, hregroup, hurl, removeDotSegments, hsegments]
  refine exists_congr fun segment => and_congr_right fun _ => and_congr_right fun hsegment => ?_
  rw [basePath_slashes base path segment hsegment]
  constructor
  · intro h
    refine joinSegments_inj ?_ ?_ h
    · rw [← hsegments]
      exact collapse_slashFree
    · intro s hs
      simp only [List.mem_append, List.mem_singleton] at hs
      rcases hs with hs | hs | rfl
      · exact walk_slashFree s hs
      · exact (part_of_mem_splitOn hs).1
      · exact hsegment
  · exact fun h => h ▸ rfl

variable (path) in
/-- **A token**: its URL is where it belongs exactly if neither the configuration nor the token leaves it. -/
theorem subscription_stays_iff (hbase : isValidUpstreamBaseUrl base = true) (htoken : token ≠ [])
    (hquery : ∀ c, query.head? = some c → c = '?') :
    WithinSubscription base path (base ++ '/' :: (path ++ '/' :: (percentEncodePathSegment token ++ query))) ↔
      SubscriptionStays base path token := by
  by_cases hplain : PathOnly base
  case neg =>
    -- the path of the URL is the path of the base
    refine ⟨?_, fun h => absurd h.baseOnly hplain⟩
    rintro ⟨-, segment, hne, -, hsent⟩
    have hurl := (parse_extended (path ++ '/' :: (percentEncodePathSegment token ++ query)) hbase).2
    rw [if_neg hplain] at hurl
    have hlen := congrArg List.length hsent
    have hpos := List.length_pos_of_ne_nil hne
    rw [sentPath, hurl, basePath] at hlen
    rcases removeDotSegments_eq (parseReference base).path with heq | heq
    all_goals
      rw [heq] at hlen
      simp only [List.length_append, List.length_cons, List.length_nil] at hlen
      omega
  by_cases hpath : PathOnly path
  case neg =>
    -- the path that was configured is cut off
    refine ⟨?_, fun h => absurd h.pathOnly hpath⟩
    rintro ⟨-, segment, -, -, hsent⟩
    rw [pathOnly_iff] at hpath
    push Not at hpath
    obtain ⟨c, hc, hdelim⟩ := hpath
    have hslash : c ≠ '/' := by
      rintro rfl
      exact absurd hdelim (by decide)
    have hmem : c ∈ sentPath (base ++ '/' :: (path ++ '/' :: (percentEncodePathSegment token ++ query))) := by
      rw [hsent]
      exact List.mem_append_right _ (List.mem_cons_of_mem _ (List.mem_append_left _ hc))
    exact absurd (mem_of_mem_removeDotSegments hslash hmem) (delim_notMem_path hdelim _)
  rw [within_segments_iff hbase hplain hpath hquery]
  generalize segments (parseReference base).path = dir
  constructor
  · rintro ⟨segment, hne, hslash, hcollapse⟩
    have hsegments : ∀ s ∈ splitOn '/' path, isDotSegment s = false := fun s hs =>
      (mem_collapse (hcollapse ▸ List.mem_append_right _ (List.mem_append_left _ hs))).2
    refine ⟨hplain, hpath, hsegments, ?_⟩
    by_contra hdots
    have hdot : isDotSegment (percentEncodePathSegment token) = true := isDotSegment_encode.2 (by tauto)
    rw [collapse, ← List.append_assoc dir, trailing_append_singleton, if_pos hdot, ← List.append_assoc] at hcollapse
    exact hne (List.singleton_inj.1 (List.append_inj_right' hcollapse rfl)).symm
  · rintro ⟨-, -, hsegments, hdots⟩
    have hdot : isDotSegment (percentEncodePathSegment token) = false := by
      rw [Bool.eq_false_iff, Ne, isDotSegment_encode]
      tauto
    refine ⟨percentEncodePathSegment token, encode_ne_nil htoken, fun hmem => segment_of_encode hmem (by simp), ?_⟩
    have hrow : ∀ s ∈ splitOn '/' path ++ [percentEncodePathSegment token], isDotSegment s = false := by
      intro s hs
      rcases List.mem_append.1 hs with hs | hs
      · exact hsegments s hs
      · exact List.mem_singleton.1 hs ▸ hdot
    rw [collapse, walk_append, walk_of_plain hrow, ← List.append_assoc dir, trailing_append_singleton, hdot]
    simp

variable (rest) in
/-- **A path**: its URL is below the base exactly if the path goes down again what it climbed. -/
theorem website_stays_iff (hbase : isValidUpstreamBaseUrl base = true) (hquery : ∀ c, query.head? = some c → c = '?') :
    WithinWebsite base (base ++ '/' :: (trimStartMatches (· = '/') rest ++ query)) ↔ WebsiteStays base rest := by
  obtain ⟨horigin, hurl⟩ := parse_extended (trimStartMatches (· = '/') rest ++ query) hbase
  rw [WithinWebsite, and_iff_right horigin, sentPath, hurl, WebsiteStays]
  by_cases hplain : PathOnly base
  · rw [if_pos hplain, before_append_query hquery, removeDotSegments, basePath, directory,
      below_joinSegments walk_slashFree collapse_slashFree, segments_append]
    simp only [hplain, true_imp_iff]
    have hne : splitOn '/' (before ['?', '#'] (trimStartMatches (· = '/') rest)) ≠ [] := List.splitOn_ne_nil _ _
    rw [collapse, walk_append, trailing_append hne, prefix_walk_iff, addedSegments]
  · rw [if_neg hplain]
    exact ⟨fun _ h => absurd h hplain, fun _ => below_directory _⟩

end

/-! ## A planned request -/

/-- The base URL as the routes read it. -/
def upstreamBase (value : Text) : Text := trimTrailingSlashes (trim value)

/-- The subscription path as the routes read it. -/
def upstreamSubscribePath (value : Text) : Text := firstNonEmpty (trimSubscriptionPath value) "s"

theorem slash_text : ("/" : Text) = ['/'] := rfl

theorem head?_querySuffix (rawQuery : Text) : ∀ c, (querySuffix rawQuery).head? = some c → c = '?' := by
  intro c hc
  rw [querySuffix] at hc
  split at hc
  · cases hc
  · exact (Option.some.inj hc).symm

theorem badGateway_eq_ok {α : Type} {result : Except Text α} {a : α} : badGateway result = .ok a ↔ result = .ok a := by
  cases result <;> simp [badGateway, Except.mapError]

section

variable {profiles : List SubscriptionProxyProfile} {websites : List WebsiteProxyProfile}
  {request : SubscriptionProxyInboundRequest} {upstream : SubscriptionProxyUpstreamRequest} {rest : Text}

theorem buildSubscriptionUpstreamUrl_ok {profile : SubscriptionProxyProfile} {token rawQuery url : Text}
    (h : buildSubscriptionUpstreamUrl profile token rawQuery = .ok url) :
    isValidUpstreamBaseUrl (upstreamBase profile.upstreamBaseUrl) = true ∧ trim token ≠ [] ∧
      url = upstreamBase profile.upstreamBaseUrl ++ '/' :: (upstreamSubscribePath profile.subscribePath ++
        '/' :: (percentEncodePathSegment (trim token) ++ querySuffix rawQuery)) := by
  simp only [buildSubscriptionUpstreamUrl] at h
  split at h
  · cases h
  · rename_i hvalid
    split at h
    · cases h
    · rename_i hne
      cases h
      refine ⟨by simpa [upstreamBase] using hvalid, by simpa using hne, ?_⟩
      simp [upstreamBase, upstreamSubscribePath, slash_text]

/-- What a subscription route that goes upstream was made from. -/
theorem planSubscriptionRoute_upstream (h : planSubscriptionRoute profiles request rest = .ok (.upstream upstream)) :
    ∃ siteId tokenPart profile token, splitOnce '/' rest = some (siteId, tokenPart) ∧
      profiles.find? (fun profile => eqIgnoreCase profile.siteId siteId) = some profile ∧
      percentDecodePathSegment tokenPart = .ok token ∧ trim token ≠ [] ∧
      isValidUpstreamBaseUrl (upstreamBase profile.upstreamBaseUrl) = true ∧
      upstream.url = upstreamBase profile.upstreamBaseUrl ++ '/' :: (upstreamSubscribePath profile.subscribePath ++
        '/' :: (percentEncodePathSegment (trim token) ++ querySuffix request.rawQuery)) := by
  unfold planSubscriptionRoute at h
  simp only at h
  split at h
  · cases h
  · split at h
    · cases h
    · rename_i siteId tokenPart hsplit
      split at h
      · cases h
      · split at h
        · cases h
        · rename_i profile hfind
          obtain ⟨token, htoken, h⟩ := bind_eq_ok.1 h
          split at h
          · cases h
          · obtain ⟨url, hurl, h⟩ := bind_eq_ok.1 h
            cases h
            rw [badGateway_eq_ok] at htoken hurl
            obtain ⟨hvalid, hne, rfl⟩ := buildSubscriptionUpstreamUrl_ok hurl
            exact ⟨siteId, tokenPart, profile, token, hsplit, hfind, htoken, hne, hvalid, rfl⟩

theorem head?_websiteProxyUpstreamPath {path pathPrefix : Text} (hpath : path.head? = some '/') :
    (websiteProxyUpstreamPath pathPrefix path).head? = some '/' := by
  simp only [websiteProxyUpstreamPath]
  split
  · split
    · rfl
    · exact hpath
  · split
    · rfl
    · split
      · assumption
      · rfl

/-- What a website route that goes upstream was made from. -/
theorem planWebsiteRoute_upstream (hpath : request.path.head? = some '/')
    (h : planWebsiteRoute websites request = .ok (.upstream upstream)) :
    ∃ profile pathPrefix rest, websiteProxyMatch websites request.path = some (profile, pathPrefix, rest) ∧
      isValidUpstreamBaseUrl (upstreamBase profile.upstreamBaseUrl) = true ∧
      upstream.url = upstreamBase profile.upstreamBaseUrl ++ '/' :: (trimStartMatches (· = '/') rest ++
        querySuffix request.rawQuery) ∧
      upstream.responseRewrite = some ⟨upstreamBase profile.upstreamBaseUrl, pathPrefix⟩ := by
  unfold planWebsiteRoute at h
  simp only at h
  split at h
  · cases h
  · split at h
    · cases h
    · rename_i profile pathPrefix rest hmatch
      obtain ⟨url, hurl, h⟩ := bind_eq_ok.1 h
      cases h
      rw [badGateway_eq_ok] at hurl
      have hne : request.path ≠ [] := by
        rintro hnil
        rw [hnil] at hpath
        cases hpath
      have hhead : rest.head? = some '/' := by
        obtain ⟨-, -, -, rfl, -⟩ := websiteProxyMatch_eq_some hne hmatch
        exact head?_websiteProxyUpstreamPath hpath
      have hdark : trim rest ≠ [] := by
        intro hblank
        have hwhite := trim_eq_nil_iff.1 hblank '/' (List.mem_of_head? hhead)
        cases hwhite
      simp only [buildWebsiteUpstreamUrl, List.isEmpty_iff, hdark, if_false] at hurl
      split at hurl
      · cases hurl
      · rename_i hvalid
        cases hurl
        refine ⟨profile, pathPrefix, rest, hmatch, by simpa [upstreamBase] using hvalid, ?_, rfl⟩
        split
        · rename_i hroot
          rw [hroot]
          simp [upstreamBase, trimStartMatches, slash_text]
        · simp [upstreamBase, slash_text]

end

/-- The URL stays where the selected profile belongs. -/
def Contained (config : SubscriptionProxyConfig) (request : SubscriptionProxyInboundRequest) (url : Text) : Prop :=
  match Json.stripPrefix "/sub/" request.path with
  | some rest => ∀ siteId tokenPart profile, splitOnce '/' rest = some (siteId, tokenPart) →
      config.profiles.find? (fun profile => eqIgnoreCase profile.siteId siteId) = some profile →
      WithinSubscription (upstreamBase profile.upstreamBaseUrl) (upstreamSubscribePath profile.subscribePath) url
  | none => ∀ profile pathPrefix rest,
      websiteProxyMatch config.websiteProfiles request.path = some (profile, pathPrefix, rest) →
      WithinWebsite (upstreamBase profile.upstreamBaseUrl) url

/-- Neither the request nor the selected profile leaves the upstream path. -/
def Stays (config : SubscriptionProxyConfig) (request : SubscriptionProxyInboundRequest) : Prop :=
  match Json.stripPrefix "/sub/" request.path with
  | some rest => ∀ siteId tokenPart profile token, splitOnce '/' rest = some (siteId, tokenPart) →
      config.profiles.find? (fun profile => eqIgnoreCase profile.siteId siteId) = some profile →
      percentDecodePathSegment tokenPart = .ok token →
      SubscriptionStays (upstreamBase profile.upstreamBaseUrl) (upstreamSubscribePath profile.subscribePath) (trim token)
  | none => ∀ profile pathPrefix rest,
      websiteProxyMatch config.websiteProfiles request.path = some (profile, pathPrefix, rest) →
      WebsiteStays (upstreamBase profile.upstreamBaseUrl) rest

/-- **Containment**, for every request that parses, whatever the profiles are. -/
theorem contained_iff {config : SubscriptionProxyConfig} {raw : Bytes} {remoteAddr : Text}
    {request : SubscriptionProxyInboundRequest} {upstream : SubscriptionProxyUpstreamRequest}
    (hparse : parseSubscriptionProxyHttpRequest raw remoteAddr = .ok request)
    (hplan : planSubscriptionProxyRequest config.profiles config.websiteProfiles request = .ok (.upstream upstream)) :
    Contained config request upstream.url ↔ Stays config request := by
  unfold planSubscriptionProxyRequest at hplan
  split at hplan
  · simp only at hplan
    split at hplan <;> cases hplan
  · unfold Contained Stays
    cases hstrip : Json.stripPrefix "/sub/" request.path with
    | some rest =>
      rw [hstrip] at hplan
      obtain ⟨siteId, tokenPart, profile, token, hsplit, hfind, hdecode, hne, hvalid, hurl⟩ :=
        planSubscriptionRoute_upstream hplan
      have hiff := subscription_stays_iff (upstreamSubscribePath profile.subscribePath) hvalid hne
        (head?_querySuffix request.rawQuery)
      simp only [hsplit, hurl, Option.some.injEq, Prod.mk.injEq]
      constructor
      · rintro h _ _ _ _ ⟨rfl, rfl⟩ hfind' hdecode'
        rw [hfind] at hfind'
        cases hfind'
        rw [hdecode] at hdecode'
        cases hdecode'
        exact hiff.1 (h _ _ _ ⟨rfl, rfl⟩ hfind)
      · rintro h _ _ _ ⟨rfl, rfl⟩ hfind'
        rw [hfind] at hfind'
        cases hfind'
        exact hiff.2 (h _ _ _ _ ⟨rfl, rfl⟩ hfind hdecode)
    | none =>
      rw [hstrip] at hplan
      obtain ⟨profile, pathPrefix, rest, hmatch, hvalid, hurl, -⟩ :=
        planWebsiteRoute_upstream (head?_path_of_parse hparse) hplan
      have hiff := website_stays_iff rest hvalid (head?_querySuffix request.rawQuery)
      simp only [hmatch, hurl, Option.some.injEq, Prod.mk.injEq]
      constructor
      · rintro h _ _ _ ⟨rfl, rfl, rfl⟩
        exact hiff.1 (h _ _ _ ⟨rfl, rfl, rfl⟩)
      · rintro h _ _ _ ⟨rfl, rfl, rfl⟩
        exact hiff.2 (h _ _ _ ⟨rfl, rfl, rfl⟩)

/-! ## A token that climbs -/

def siteProfile : SubscriptionProxyProfile where
  siteId := "a"
  upstreamBaseUrl := "https://up/base"
  subscribePath := "s"

/-- A configuration in normal form with one subscription site. -/
def oneSiteConfig : SubscriptionProxyConfig where
  enabled := true
  httpsListen := defaultHttpsListen
  challengeDir := defaultChallengeDir
  maxResponseBytes := defaultMaxResponseBytes
  profiles := [siteProfile]

def climbingRaw : Bytes := utf8 "GET /sub/a/%2e%2e HTTP/1.1\r\n\r\n"

def climbingRequest : SubscriptionProxyInboundRequest where
  method := "GET"
  path := "/sub/a/%2e%2e"

def climbingUpstream : SubscriptionProxyUpstreamRequest where
  method := "GET"
  url := "https://up/base/s/.."
  headers := upstreamForwardedHeaders climbingRequest
  body := []
  headOnly := false
  followRedirects := true
  responseRewrite := none

theorem parse_climbing : parseSubscriptionProxyHttpRequest climbingRaw [] = .ok climbingRequest := by
  have hend : httpHeaderEnd climbingRaw = some 26 := by decide +kernel
  have hhead : climbingRaw.take 26 = utf8 "GET /sub/a/%2e%2e HTTP/1.1" := by decide +kernel
  rw [parseSubscriptionProxyHttpRequest, hend]
  simp only [hhead, fromUtf8_utf8]
  rfl

theorem stripPrefix_climbing : Json.stripPrefix "/sub/" climbingRequest.path = some ("a/%2e%2e" : Text) := by
  decide +kernel

theorem plan_climbing :
    planSubscriptionProxyRequest oneSiteConfig.profiles oneSiteConfig.websiteProfiles climbingRequest =
      .ok (.upstream climbingUpstream) := by
  have hhealth : climbingRequest.path ≠ "/health" := by decide +kernel
  have hmethod : asciiUpper (trim climbingRequest.method) = "GET" := by decide +kernel
  have hsplit : splitOnce '/' "a/%2e%2e" = some (("a" : Text), ("%2e%2e" : Text)) := by decide +kernel
  have hfind : oneSiteConfig.profiles.find? (fun profile => eqIgnoreCase profile.siteId "a") = some siteProfile := by
    decide +kernel
  have hbytes : percentDecodeBytes (utf8 "%2e%2e") = some (utf8 "..") := by decide +kernel
  have hdecode : percentDecodePathSegment "%2e%2e" = .ok ".." := by
    simp only [percentDecodePathSegment, hbytes, Option.bind_some, fromUtf8_utf8]
  have hnot : ¬ (("GET" : Text) ≠ "GET" ∧ ("GET" : Text) ≠ "HEAD") := fun h => h.1 rfl
  have hblank : ((trim "a").isEmpty || (trim "%2e%2e").isEmpty) = false := by decide +kernel
  rw [planSubscriptionProxyRequest, if_neg hhealth, stripPrefix_climbing]
  simp only [planSubscriptionRoute, hmethod, if_neg hnot, hsplit, hblank, hfind, hdecode, badGateway, Except.mapError,
    Bool.false_eq_true, if_false]
  rfl

/-- The request of the token, against what it addresses. -/
theorem contained_climbing :
    Contained oneSiteConfig climbingRequest climbingUpstream.url ↔ Stays oneSiteConfig climbingRequest :=
  contained_iff parse_climbing plan_climbing

/-- `/sub/a/%2e%2e` addresses the base itself. -/
theorem climbing_token :
    normalizeSubscriptionProxyConfig oneSiteConfig = .ok oneSiteConfig ∧
      parseSubscriptionProxyHttpRequest climbingRaw [] = .ok climbingRequest ∧
      planSubscriptionProxyRequest oneSiteConfig.profiles oneSiteConfig.websiteProfiles climbingRequest =
        .ok (.upstream climbingUpstream) ∧
      sentPath climbingUpstream.url = "/base/" ∧ ¬ Contained oneSiteConfig climbingRequest climbingUpstream.url := by
  have hsent : sentPath climbingUpstream.url = "/base/" := by decide +kernel
  refine ⟨by decide +kernel, parse_climbing, plan_climbing, hsent, ?_⟩
  intro h
  rw [Contained, stripPrefix_climbing] at h
  obtain ⟨-, segment, -, -, hpath⟩ := h "a" "%2e%2e" siteProfile (by decide +kernel) (by decide +kernel)
  have hbase : (basePath (upstreamBase siteProfile.upstreamBaseUrl)).length = 5 := by decide +kernel
  have hsentLength : ("/base/" : Text).length = 6 := by decide
  have hlen := congrArg List.length hpath
  rw [hsent, hsentLength] at hlen
  simp only [List.length_append, List.length_cons, hbase] at hlen
  have hroom : (upstreamSubscribePath siteProfile.subscribePath).length = 1 := by decide +kernel
  omega

end KeliNode
