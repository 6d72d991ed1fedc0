import KeliNode.Proxy.Contained
import KeliNode.Proxy.Response

/-!
# Where a rewritten `Location` leads

The upstream answers with a `Location`; the client is told another one, asks this proxy for it, and the proxy asks the
upstream again.  What is asked for then is compared with what the upstream meant: the `Location` resolved against the
URL that it answered.

The second request adds the path of the reference to the base, its leading slashes dropped, and the query, its leading
question marks dropped (`asked_again`).  For a reference that spells out the base this is the reference itself, up to
what was dropped (`behind_base_iff`); for a path it is the same place only where the base has no path of its own
(`named_by_path_iff`).
-/

namespace KeliNode

open Lib

/-! ## What is asked for -/

section

variable {s t pathPrefix reference : Text}

theorem pathPart_append_of_free (h : ∀ c ∈ s, c ∉ ['?', '#']) : pathPart (s ++ t) = s ++ pathPart t :=
  before_append_of_free h

theorem slash_free : ∀ c ∈ ['/'], c ∉ ['?', '#'] := by simp

theorem pathPart_slash : pathPart ('/' :: t) = '/' :: pathPart t := pathPart_append_of_free slash_free

theorem queryPart_slash : queryPart ('/' :: t) = queryPart t := queryPart_append_of_free slash_free

theorem pathPart_mark : pathPart ('?' :: t) = [] := by simp [pathPart, before]

theorem pathPart_free : ∀ c ∈ pathPart s, c ∉ ['?', '#'] := fun _ hc hdelim => notMem_before hdelim hc

theorem trimStart_pathPart (s : Text) : trimStartMatches (· = '/') (pathPart s) = pathPart (trimStartMatches (· = '/') s) := by
  induction s with
  | nil => rfl
  | cons c s ih =>
    by_cases hc : c = '/'
    · subst hc
      rw [pathPart_slash]
      simpa [trimStartMatches] using ih
    · by_cases hdelim : c ∈ ['?', '#']
      · have hstop : ['?', '#'].contains c = true := List.contains_iff_mem.2 hdelim
        have hnil : pathPart (c :: s) = [] := by rw [pathPart, before, List.takeWhile_cons, hstop]; rfl
        simp [trimStartMatches, hc, hnil]
      · have hcons : pathPart (c :: s) = c :: pathPart s := before_cons hdelim
        rw [hcons]
        simp [trimStartMatches, hc, hcons]

theorem trimStart_slash : trimStartMatches (· = '/') ('/' :: t) = trimStartMatches (· = '/') t := by
  simp [trimStartMatches]

theorem trimStart_trimStart : trimStartMatches (· = '/') (trimStartMatches (· = '/') s) = trimStartMatches (· = '/') s :=
  trimStartMatches_eq_self fun _ hc => head?_trimStartMatches hc

theorem queryPart_trimStart (s : Text) : queryPart (trimStartMatches (· = '/') s) = queryPart s := by
  induction s with
  | nil => rfl
  | cons c s ih =>
    by_cases hc : c = '/'
    · subst hc
      rw [queryPart_slash, trimStart_slash, ih]
    · simp [trimStartMatches, hc]

/-- A reference that is a path or a query. -/
def Relative (reference : Text) : Prop := reference.head? = some '/' ∨ reference.head? = some '?'

theorem websiteProxyUpstreamPath_self (h : pathPrefix ≠ "/") : websiteProxyUpstreamPath pathPrefix pathPrefix = "/" := by
  have hstrip : Json.stripPrefix pathPrefix pathPrefix = some [] := Json.stripPrefix_eq_some.2 (by simp)
  rw [websiteProxyUpstreamPath, if_neg h, hstrip]
  rfl

theorem websiteProxyUpstreamPath_below (h : pathPrefix ≠ "/") :
    websiteProxyUpstreamPath pathPrefix (pathPrefix ++ '/' :: t) = '/' :: t := by
  rw [websiteProxyUpstreamPath, if_neg h, Json.stripPrefix_append]
  rfl

/-- A normalised prefix other than the root does not end in a slash. -/
theorem trimEnd_of_normal (hnormal : normalizeProxyPathPrefix pathPrefix = pathPrefix) (hroot : pathPrefix ≠ "/") :
    trimEndMatches (· = '/') pathPrefix = pathPrefix := by
  rcases normalizeProxyPathPrefix_shape pathPrefix with h | ⟨rest, h, hne, hlast⟩
  · exact absurd (hnormal.symm.trans h) hroot
  · rw [hnormal] at h
    apply trimEndMatches_eq_self
    intro c hc
    rw [h, List.getLast?_cons_of_ne_nil hne] at hc
    simpa using fun heq : c = '/' => hlast (heq ▸ hc)

/-- What a client that was told `reference` under the prefix asks the upstream for, if the request goes to the website
of that prefix again. -/
theorem asked_again (hnormal : normalizeProxyPathPrefix pathPrefix = pathPrefix) (hreference : Relative reference)
    (hmatches : websiteProxyPathMatches pathPrefix (pathPart (prefixedProxyPath pathPrefix reference)) = true) :
    trimStartMatches (· = '/') (websiteProxyUpstreamPath pathPrefix (pathPart (prefixedProxyPath pathPrefix reference))) =
        trimStartMatches (· = '/') (pathPart reference) ∧
      queryPart (prefixedProxyPath pathPrefix reference) = queryPart reference := by
  have hdark : (trim reference).isEmpty = false := by
    rw [List.isEmpty_eq_false_iff]
    intro hblank
    have hwhite := trim_eq_nil_iff.1 hblank
    rcases hreference with h | h
    · exact absurd (hwhite _ (List.mem_of_head? h)) (by decide)
    · exact absurd (hwhite _ (List.mem_of_head? h)) (by decide)
  have htold : prefixedProxyPath pathPrefix reference =
      if reference.head? = some '?' then (if pathPrefix = "/" then '/' :: reference else pathPrefix ++ reference)
      else if pathPrefix = "/" then (if reference.head? = some '/' then reference else '/' :: reference)
      else if reference = "/" then pathPrefix
      else trimEndMatches (· = '/') pathPrefix ++ "/" ++ trimStartMatches (· = '/') reference := by
    simp [prefixedProxyPath, hdark]
  rw [htold] at hmatches ⊢
  by_cases hroot : pathPrefix = "/"
  · -- the root adds nothing but a slash before a query
    subst hroot
    have hself : ∀ path : Text, path ≠ [] → websiteProxyUpstreamPath "/" path = path := by
      intro path hpath
      simp [websiteProxyUpstreamPath, hpath]
    rcases hreference with hslash | hmark
    · obtain ⟨tail, rfl⟩ : ∃ tail, reference = '/' :: tail := List.head?_eq_some_iff.1 hslash
      rw [if_neg (by simp), if_pos rfl, if_pos hslash, hself _ (by simp [pathPart_slash])]
      exact ⟨rfl, rfl⟩
    · obtain ⟨tail, rfl⟩ : ∃ tail, reference = '?' :: tail := List.head?_eq_some_iff.1 hmark
      rw [if_pos hmark, if_pos rfl, hself _ (by simp [pathPart_slash]), pathPart_slash, trimStart_slash]
      exact ⟨rfl, queryPart_slash⟩
  · rw [if_neg hroot, if_neg hroot] at hmatches ⊢
    have hfree : ∀ c ∈ pathPrefix, c ∉ ['?', '#'] := fun c hc =>
      pathPart_free c (((isPrefix_of_matches hmatches).resolve_left hroot).subset hc)
    rcases hreference with hslash | hmark
    · obtain ⟨tail, rfl⟩ : ∃ tail, reference = '/' :: tail := List.head?_eq_some_iff.1 hslash
      rw [if_neg (by simp)]
      by_cases hsingle : '/' :: tail = ("/" : Text)
      · rw [if_pos hsingle, hsingle]
        have hpath : pathPart pathPrefix = pathPrefix := before_of_free hfree
        rw [hpath, websiteProxyUpstreamPath_self hroot, queryPart_of_free hfree]
        exact ⟨rfl, rfl⟩
      · have hregroup : pathPrefix ++ "/" ++ trimStartMatches (· = '/') ('/' :: tail) =
            pathPrefix ++ '/' :: trimStartMatches (· = '/') ('/' :: tail) := by simp [slash_text]
        rw [if_neg hsingle, trimEnd_of_normal hnormal hroot, hregroup, pathPart_append_of_free hfree, pathPart_slash,
          websiteProxyUpstreamPath_below hroot, trimStart_slash, queryPart_append_of_free hfree, queryPart_slash,
          queryPart_trimStart, ← trimStart_pathPart, trimStart_trimStart]
        exact ⟨rfl, rfl⟩
    · obtain ⟨tail, rfl⟩ : ∃ tail, reference = '?' :: tail := List.head?_eq_some_iff.1 hmark
      rw [if_pos hmark, pathPart_append_of_free hfree, queryPart_append_of_free hfree, pathPart_mark, List.append_nil,
        websiteProxyUpstreamPath_self hroot]
      exact ⟨rfl, rfl⟩

/-- A reference to the base or below it. -/
def FromBase (base location : Text) : Prop := ∃ rest, location = base ++ rest ∧ (rest = [] ∨ Relative rest)

theorem stripPrefix_of_path {base location : Text} (hbase : isValidUpstreamBaseUrl base = true)
    (hlocation : location.head? = some '/') : Json.stripPrefix base location = none := by
  cases hstrip : Json.stripPrefix base location with
  | none => rfl
  | some rest =>
    obtain rfl := Json.stripPrefix_eq_some.1 hstrip
    obtain ⟨scheme, host, tail, hscheme, rfl, -⟩ := isValidUpstreamBaseUrl_iff.1 hbase
    rw [List.append_assoc, head?_scheme hscheme] at hlocation
    cases hlocation

/-- What the client is told instead of a reference below the base, or of a path. -/
theorem rewriteWebsiteLocation_eq {base : Text} (value : Text) (hbase : isValidUpstreamBaseUrl base = true)
    (hcut : upstreamBase base = base) (hnormal : normalizeProxyPathPrefix pathPrefix = pathPrefix) :
    (∀ rest, trim value = base ++ rest → rest = [] ∨ Relative rest →
      rewriteWebsiteLocation value ⟨base, pathPrefix⟩ = prefixedProxyPath pathPrefix (firstNonEmpty rest "/")) ∧
    ((trim value).head? = some '/' →
      rewriteWebsiteLocation value ⟨base, pathPrefix⟩ = prefixedProxyPath pathPrefix (trim value)) := by
  rw [upstreamBase] at hcut
  constructor
  · intro rest hvalue hrest
    have hboundary : (rest.isEmpty || rest.head? = some '/' || rest.head? = some '?') = true := by
      rcases hrest with rfl | hslash | hmark
      · rfl
      · simp [hslash]
      · simp [hmark]
    simp only [rewriteWebsiteLocation, hcut, hnormal, hvalue, Json.stripPrefix_append]
    rw [if_pos hboundary]
  · intro hslash
    simp only [rewriteWebsiteLocation, hcut, hnormal, stripPrefix_of_path hbase hslash]
    rw [if_pos hslash]

end

/-! ## What is passed on -/

/-- A query that is passed on as it is: neither empty nor behind a second question mark. -/
def PassedOn (query : Option Text) : Prop := ∀ q ∈ query, q ≠ [] ∧ q.head? ≠ some '?'

instance (query : Option Text) : Decidable (PassedOn query) := inferInstanceAs (Decidable (∀ q ∈ query, _ ∧ _))

/-- A query with its question mark. -/
def marked : Option Text → Text
  | some query => '?' :: query
  | none => []

/-- A path behind exactly one slash. -/
def OneSlash (path : Text) : Prop := path.head? = some '/' ∧ (path.drop 1).head? ≠ some '/'

instance (path : Text) : Decidable (OneSlash path) := inferInstanceAs (Decidable (_ ∧ _))

section

variable {query : Option Text} {reference path : Text}

theorem querySuffix_eq_marked : querySuffix (query.getD []) = marked query ↔ PassedOn query := by
  cases query with
  | none => exact ⟨fun _ q hq => (by cases hq), fun _ => rfl⟩
  | some query =>
    simp only [PassedOn, Option.mem_def, Option.some.injEq, forall_eq', Option.getD_some, marked, querySuffix]
    constructor
    · intro h
      split at h
      · cases h
      · rename_i hne
        have htrim : trimStartMatches (· = '?') query = query := (List.cons_inj_right _).1 h
        refine ⟨fun hnil => hne (by rw [hnil]; rfl), fun hmark => ?_⟩
        rw [← htrim] at hmark
        simpa using head?_trimStartMatches hmark
    · rintro ⟨hne, hmark⟩
      have htrim : trimStartMatches (· = '?') query = query := by
        apply trimStartMatches_eq_self
        intro c hc
        simpa using fun heq : c = '?' => hmark (heq ▸ hc)
      rw [htrim, if_neg (by simpa using hne)]

/-- A query ends before the fragment. -/
theorem fragment_free_queryPart {q : Text} (h : q ∈ queryPart reference) : ∀ c ∈ q, c ∉ ['#'] := by
  obtain ⟨tail, _, rfl⟩ := Option.map_eq_some_iff.1 h
  exact fun c hc hdelim => notMem_before hdelim hc

theorem mem_of_mem_querySuffix {c : Char} {q : Text} (h : c ∈ querySuffix q) : c = '?' ∨ c ∈ q := by
  rw [querySuffix] at h
  split at h
  · cases h
  · rcases List.mem_cons.1 h with h | h
    · exact .inl h
    · exact .inr ((List.dropWhile_suffix _).subset h)

theorem fragment_free_querySuffix : ∀ c ∈ querySuffix ((queryPart reference).getD []), c ∉ ['#'] := by
  intro c hc
  rcases mem_of_mem_querySuffix hc with rfl | hc
  · simp
  · cases hquery : queryPart reference with
    | none => rw [hquery] at hc; cases hc
    | some q =>
      rw [hquery] at hc
      exact fragment_free_queryPart (Option.mem_def.2 hquery) c hc

theorem queryPart_marked (h : ∀ q ∈ query, ∀ c ∈ q, c ∉ ['#']) : queryPart (marked query) = query := by
  cases query with
  | none => rfl
  | some query => rw [marked, queryPart_mark, before_of_free (h query rfl)]

/-- The suffix of a raw query is a query or nothing. -/
theorem querySuffix_shape (q : Text) : querySuffix q = [] ∨ querySuffix q = '?' :: trimStartMatches (· = '?') q := by
  rw [querySuffix]
  split
  · exact .inl rfl
  · exact .inr rfl

/-- The query that is asked for is the query of the reference exactly if it is passed on. -/
theorem queryPart_querySuffix :
    queryPart (querySuffix ((queryPart reference).getD [])) = queryPart reference ↔ PassedOn (queryPart reference) := by
  have hfree : ∀ q ∈ queryPart reference, ∀ c ∈ q, c ∉ ['#'] := fun _ => fragment_free_queryPart
  rw [← querySuffix_eq_marked]
  constructor
  · intro h
    rcases querySuffix_shape ((queryPart reference).getD []) with hnil | hmark
    · rw [hnil] at h
      rw [hnil, ← h]
      rfl
    · have hsuffix : ∀ c ∈ trimStartMatches (· = '?') ((queryPart reference).getD []), c ∉ ['#'] := fun c hc =>
        @fragment_free_querySuffix reference c (by rw [hmark]; exact List.mem_cons_of_mem _ hc)
      rw [hmark, queryPart_mark, before_of_free hsuffix] at h
      rw [hmark]
      conv => enter [2]; rw [← h]
      rfl
  · intro h
    rw [h, queryPart_marked hfree]

/-- A reference without its fragment. -/
theorem before_fragment (reference : Text) :
    before ['#'] reference = pathPart reference ++ marked (queryPart reference) := by
  have hsplit : pathPart reference ++ fromFirst ['?', '#'] reference = reference := before_append_fromFirst
  have hpath : ∀ c ∈ pathPart reference, c ∉ ['#'] := fun c hc hdelim => pathPart_free c hc (List.mem_cons_of_mem _ hdelim)
  conv => enter [1]; rw [← hsplit]
  rw [before_append_of_free hpath, queryPart]
  cases htail : fromFirst ['?', '#'] reference with
  | nil => rfl
  | cons c tail =>
    have hhead : (fromFirst ['?', '#'] reference).head? = some c := by rw [htail]; rfl
    rcases List.mem_cons.1 (head?_fromFirst hhead) with rfl | hc
    · rw [before_cons (by simp)]
      rfl
    · rw [List.mem_singleton] at hc
      subst hc
      rfl

end

/-! ## Below the base -/

/-- The slashes in front of a path, but one. -/
def extraSlashes (path : Text) : Nat := path.length - (trimStartMatches (· = '/') path).length - 1

/-- What stands behind the base is asked for as it stands: one slash and the rest.  Without a path, the base ends in a
dot segment or has no path; behind more slashes, the rest climbs over them and over the base. -/
def PathKept (base path : Text) : Prop :=
  OneSlash path ∨
    if path = [] then ∀ s ∈ (segments (parseReference base).path).getLast?, isDotSegment s = true
    else (walk [] (segments (parseReference base).path)).length + extraSlashes path ≤
      (climb (splitOn '/' (trimStartMatches (· = '/') path))).1

instance (base path : Text) : Decidable (PathKept base path) := by
  unfold PathKept
  infer_instance

/-- A reference below the base leads back to itself. -/
def BehindBase (base rest : Text) : Prop :=
  if '#' ∈ base then True
  else PassedOn (queryPart rest) ∧ if '?' ∈ base then OneSlash (pathPart rest) else PathKept base (pathPart rest)

instance (base rest : Text) : Decidable (BehindBase base rest) := by
  unfold BehindBase
  infer_instance

section

variable {base rest path : Text}

theorem requestPath_eq (h : segments path ≠ []) : requestPath path = joinSegments (collapse (segments path)) := by
  have hne : removeDotSegments path ≠ [] := by
    intro hnil
    have hsegs := congrArg segments hnil
    rw [removeDotSegments, segments_joinSegments collapse_slashFree] at hsegs
    exact collapse_ne_nil h hsegs
  rw [requestPath, if_neg hne, removeDotSegments]

theorem requestPath_iff {other : Text} (h : segments path ≠ []) (hother : segments other ≠ []) :
    requestPath path = requestPath other ↔ collapse (segments path) = collapse (segments other) := by
  rw [requestPath_eq h, requestPath_eq hother]
  exact ⟨joinSegments_inj collapse_slashFree collapse_slashFree, fun heq => heq ▸ rfl⟩

theorem splitOn_slash (s : Text) : splitOn '/' ('/' :: s) = [] :: splitOn '/' s :=
  List.splitOn_append_cons_self_of_not_mem (List.not_mem_nil : '/' ∉ ([] : Text)) s

theorem splitOn_replicate (count : Nat) (s : Text) :
    splitOn '/' (List.replicate count '/' ++ s) = List.replicate count [] ++ splitOn '/' s := by
  induction count with
  | zero => rfl
  | succ count ih => rw [List.replicate_succ, List.cons_append, splitOn_slash, ih, List.replicate_succ, List.cons_append]

/-- A path behind at least one slash. -/
theorem slashes_eq (h : path.head? = some '/') :
    path = '/' :: (List.replicate (extraSlashes path) '/' ++ trimStartMatches (· = '/') path) := by
  have hsplit : path.takeWhile (· = '/') ++ trimStartMatches (· = '/') path = path := List.takeWhile_append_dropWhile
  have hreplicate : path.takeWhile (· = '/') = List.replicate (path.takeWhile (· = '/')).length '/' :=
    List.eq_replicate_length.2 fun c hc => by simpa using List.mem_takeWhile_imp hc
  have hlen := congrArg List.length hsplit
  rw [List.length_append] at hlen
  have hpos : 0 < (path.takeWhile (· = '/')).length := by
    obtain ⟨tail, rfl⟩ := List.head?_eq_some_iff.1 h
    simp
  have hcount : (path.takeWhile (· = '/')).length = extraSlashes path + 1 := by
    rw [extraSlashes]
    omega
  rw [← List.cons_append, ← List.replicate_succ, ← hcount, ← hreplicate, hsplit]

theorem oneSlash_iff (h : path.head? = some '/') : OneSlash path ↔ extraSlashes path = 0 := by
  rw [OneSlash, and_iff_right h]
  cases hcount : extraSlashes path with
  | zero =>
    have heq := slashes_eq h
    rw [hcount] at heq
    refine iff_of_true (fun hsecond => ?_) rfl
    rw [heq] at hsecond
    simpa using head?_trimStartMatches hsecond
  | succ count =>
    have heq := slashes_eq h
    rw [hcount] at heq
    refine iff_of_false (fun hsecond => hsecond ?_) (by omega)
    rw [heq]
    simp [List.replicate_succ]

/-- **The path behind the base** is the path that is asked for exactly if it is kept. -/
theorem requestPath_behind (hpath : path = [] ∨ path.head? = some '/') :
    requestPath ((parseReference base).path ++ '/' :: trimStartMatches (· = '/') path) =
      requestPath ((parseReference base).path ++ path) ↔ PathKept base path := by
  rw [PathKept]
  generalize (parseReference base).path = home
  have hasked : segments (home ++ '/' :: trimStartMatches (· = '/') path) =
      segments home ++ splitOn '/' (trimStartMatches (· = '/') path) := segments_append
  have hsplitNe : ∀ s, splitOn '/' s ≠ [] := fun s => List.splitOn_ne_nil _ _
  have hne : ∀ segs s, segs ++ splitOn '/' s ≠ [] := fun segs s hnil => hsplitNe s (List.append_eq_nil_iff.1 hnil).2
  rcases hpath with rfl | hslash
  · -- the slash that is added is there already
    have hsplit : splitOn '/' (trimStartMatches (· = '/') ([] : Text)) = [[]] := by simp [splitOn, trimStartMatches]
    have hnot : ¬ OneSlash [] := by simp [OneSlash]
    rw [hsplit] at hasked
    rw [if_pos rfl, or_iff_right hnot, List.append_nil]
    by_cases hhome : segments home = []
    · have hroot : requestPath home = ['/'] := by rw [requestPath, removeDotSegments, hhome]; rfl
      rw [hhome, hroot, requestPath_eq (by rw [hasked]; simp), hasked, hhome]
      have hplain : collapse [[]] = [[]] := collapse_of_plain fun s hs => List.mem_singleton.1 hs ▸ isDotSegment_nil
      simp [hplain]
    · rw [requestPath_iff (by rw [hasked]; simp) hhome, hasked, collapse_append_empty hhome]
  · have hnil : path ≠ [] := by
      rintro rfl
      cases hslash
    have hnamed : segments (home ++ path) =
        (segments home ++ List.replicate (extraSlashes path) []) ++ splitOn '/' (trimStartMatches (· = '/') path) := by
      conv => enter [1]; rw [slashes_eq hslash]
      rw [segments_append, splitOn_replicate, List.append_assoc]
    rw [if_neg hnil, oneSlash_iff hslash, requestPath_iff (by rw [hasked]; exact hne _ _)
      (by rw [hnamed]; exact hne _ _), hasked, hnamed]
    by_cases hcount : extraSlashes path = 0
    · simp [hcount]
    · rw [or_iff_right hcount]
      have hempty : ∀ s ∈ List.replicate (extraSlashes path) ([] : Text), isDotSegment s = false := fun s hs =>
        (List.eq_of_mem_replicate hs) ▸ isDotSegment_nil
      have hwalk : walk [] (segments home ++ List.replicate (extraSlashes path) []) =
          walk [] (segments home) ++ List.replicate (extraSlashes path) [] := by
        rw [walk_append, walk_of_plain hempty]
      rw [collapse_append_iff (hsplitNe _) (by simpa using hcount) hwalk, hwalk, List.length_append,
        List.length_replicate]

theorem sent_eq_iff {left right : Reference} : left.sent = right.sent ↔ left.scheme = right.scheme ∧
    left.authority = right.authority ∧ requestPath left.path = requestPath right.path ∧ left.query = right.query := by
  simp [Reference.sent]

theorem scheme_of_valid (h : isValidUpstreamBaseUrl base = true) : (parseReference base).scheme.isSome = true := by
  obtain ⟨scheme, after, rfl, hne, hfree⟩ := exists_scheme h
  rw [(parseReference_absolute hne hfree).1]
  rfl

/-- A reference with a scheme is asked for as it is, wherever it is read. -/
theorem sent_resolve_of_scheme {home ref : Reference} (h : ref.scheme.isSome = true) : (resolve home ref).sent = ref.sent := by
  rw [resolve, if_pos h, sent_eq_iff]
  exact ⟨rfl, rfl, requestPath_removeDotSegments _, rfl⟩

/-- The URL that is asked for behind the base. -/
def askedUrl (base reference : Text) : Text :=
  base ++ '/' :: (trimStartMatches (· = '/') (pathPart reference) ++ querySuffix ((queryPart reference).getD []))

section

variable {reference : Text}

theorem trimmed_free (reference : Text) : ∀ c ∈ trimStartMatches (· = '/') (pathPart reference), c ∉ ['?', '#'] :=
  fun c hc => pathPart_free c ((List.dropWhile_suffix _).subset hc)

theorem pathPart_querySuffix (q : Text) : pathPart (querySuffix q) = [] := by
  rcases querySuffix_shape q with hnil | hmark
  · rw [hnil]
    rfl
  · rw [hmark, pathPart_mark]

theorem pathPart_marked (query : Option Text) : pathPart (marked query) = [] := by
  cases query with
  | none => rfl
  | some query => exact pathPart_mark

theorem oneSlash_iff_trimmed : OneSlash path ↔ '/' :: trimStartMatches (· = '/') path = path := by
  constructor
  · intro h
    have hcount := (oneSlash_iff h.1).1 h
    conv => enter [2]; rw [slashes_eq h.1, hcount]
    rfl
  · intro h
    refine ⟨by rw [← h]; rfl, fun hsecond => ?_⟩
    rw [← h] at hsecond
    simpa using head?_trimStartMatches hsecond

theorem asked_free (reference : Text) : ∀ c ∈ '/' :: (trimStartMatches (· = '/') (pathPart reference) ++
    querySuffix ((queryPart reference).getD [])), c ∉ ['#'] := by
  intro c hc
  rcases List.mem_cons.1 hc with rfl | hc
  · simp
  · rcases List.mem_append.1 hc with hc | hc
    · exact fun hdelim => trimmed_free reference c hc (List.mem_cons_of_mem _ hdelim)
    · exact fragment_free_querySuffix c hc

/-- What is added behind the base is the reference itself, up to a fragment, exactly if nothing was dropped. -/
theorem asked_text_iff (reference : Text) :
    before ['#'] ('/' :: (trimStartMatches (· = '/') (pathPart reference) ++ querySuffix ((queryPart reference).getD []))) =
      pathPart reference ++ marked (queryPart reference) ↔
    PassedOn (queryPart reference) ∧ OneSlash (pathPart reference) := by
  rw [before_of_free (asked_free reference), ← List.cons_append, ← querySuffix_eq_marked, oneSlash_iff_trimmed]
  have hslashFree : ∀ c ∈ '/' :: trimStartMatches (· = '/') (pathPart reference), c ∉ ['?', '#'] := by
    intro c hc
    rcases List.mem_cons.1 hc with rfl | hc
    · simp
    · exact trimmed_free reference c hc
  constructor
  · intro h
    have hpath := congrArg pathPart h
    rw [pathPart_append_of_free hslashFree, pathPart_append_of_free pathPart_free, pathPart_querySuffix, pathPart_marked,
      List.append_nil, List.append_nil] at hpath
    rw [hpath] at h
    exact ⟨List.append_cancel_left h, hpath⟩
  · rintro ⟨hquery, hpath⟩
    rw [hquery, hpath]

/-- What is asked for, read as a reference. -/
theorem parse_asked (h : isValidUpstreamBaseUrl base = true) (reference : Text) :
    SameOrigin base (askedUrl base reference) ∧
      (parseReference (askedUrl base reference)).path =
        (if PathOnly base then (parseReference base).path ++ '/' :: trimStartMatches (· = '/') (pathPart reference)
        else (parseReference base).path) ∧
      (parseReference (askedUrl base reference)).query = queryPart (askedUrl base reference) := by
  have hslash : ∀ c, ('/' :: (trimStartMatches (· = '/') (pathPart reference) ++
      querySuffix ((queryPart reference).getD []))).head? = some c → c = '/' ∨ c = '?' :=
    fun c hc => .inl (Option.some.inj hc).symm
  obtain ⟨horigin, hpath, hquery⟩ := parse_behind h hslash
  rw [pathPart_slash, pathPart_append_of_free (trimmed_free reference), pathPart_querySuffix, List.append_nil] at hpath
  exact ⟨horigin, hpath, hquery⟩

/-- The query that is asked for: what follows a base with a query is part of it. -/
theorem query_asked (hfragment : '#' ∉ base) : queryPart (askedUrl base reference) =
    if '?' ∈ base then queryPart (base ++ '/' :: (trimStartMatches (· = '/') (pathPart reference) ++
      querySuffix ((queryPart reference).getD [])))
    else queryPart (querySuffix ((queryPart reference).getD [])) := by
  split
  · rfl
  · rename_i hmark
    have hbase : ∀ c ∈ base, c ∉ ['?', '#'] := pathOnly_iff.1 ⟨hmark, hfragment⟩
    rw [askedUrl, queryPart_append_of_free hbase, queryPart_slash, queryPart_append_of_free (trimmed_free reference)]

end

/-- **Below the base**: the reference is asked for exactly if it leads back. -/
theorem behind_base_iff {home : Reference} (h : isValidUpstreamBaseUrl base = true) (hrest : rest = [] ∨ Relative rest) :
    (parseReference (askedUrl base rest)).sent = (resolve home (parseReference (base ++ rest))).sent ↔ BehindBase base rest := by
  have hhead : ∀ c, rest.head? = some c → c = '/' ∨ c = '?' := by
    rintro c hc
    rcases hrest with rfl | hslash | hmark
    · cases hc
    · rw [hslash] at hc; exact .inl (Option.some.inj hc).symm
    · rw [hmark] at hc; exact .inr (Option.some.inj hc).symm
  obtain ⟨⟨hscheme₁, hauthority₁⟩, hpath₁, hquery₁⟩ := parse_asked h rest
  obtain ⟨⟨hscheme₂, hauthority₂⟩, hpath₂, hquery₂⟩ := parse_behind h hhead
  rw [sent_resolve_of_scheme (by rw [hscheme₂]; exact scheme_of_valid h), sent_eq_iff, hscheme₁, hscheme₂, hauthority₁,
    hauthority₂, hpath₁, hpath₂, hquery₁, hquery₂, BehindBase]
  simp only [true_and]
  by_cases hfragment : '#' ∈ base
  · -- nothing of what is added is sent
    have hplain : ¬ PathOnly base := fun hplain => hplain.2 hfragment
    rw [if_neg hplain, if_neg hplain, if_pos hfragment, askedUrl, queryPart_append_of_fragment hfragment,
      queryPart_append_of_fragment hfragment]
    simp
  · rw [if_neg hfragment]
    by_cases hmark : '?' ∈ base
    · -- all of what is added is part of the query
      have hplain : ¬ PathOnly base := fun hplain => hplain.1 hmark
      obtain ⟨query, hquery⟩ := queryPart_append_of_query hmark hfragment
      rw [if_neg hplain, if_neg hplain, if_pos hmark, askedUrl, hquery, hquery, before_fragment rest]
      simp only [true_and, Option.some.injEq, List.append_cancel_left_eq]
      exact asked_text_iff rest
    · have hplain : PathOnly base := ⟨hmark, hfragment⟩
      have hbase : ∀ c ∈ base, c ∉ ['?', '#'] := pathOnly_iff.1 hplain
      have hpath : pathPart rest = [] ∨ (pathPart rest).head? = some '/' := by
        rcases hrest with rfl | hslash | hquery
        · exact .inl rfl
        · obtain ⟨tail, rfl⟩ := List.head?_eq_some_iff.1 hslash
          exact .inr (by rw [pathPart_slash]; rfl)
        · obtain ⟨tail, rfl⟩ := List.head?_eq_some_iff.1 hquery
          exact .inl pathPart_mark
      rw [if_pos hplain, if_pos hplain, if_neg hmark, query_asked hfragment, if_neg hmark, queryPart_append_of_free hbase,
        queryPart_querySuffix, requestPath_behind hpath, and_comm]

end

/-! ## Named by its path -/

/-- A `Location` that is a path leads back: it stays with the authority and climbs over the path of the base, which
may have no query; behind a base with a fragment it names that base. -/
def NamedByPath (base location : Text) : Prop :=
  (∀ authority ∈ (parseReference location).authority, (parseReference base).authority = some authority) ∧
    if '#' ∈ base then
      requestPath (parseReference location).path = requestPath (parseReference base).path ∧
        (parseReference location).query = queryPart base
    else '?' ∉ base ∧ PassedOn (parseReference location).query ∧
      (walk [] (segments (parseReference base).path ++ (parseReference location).authority.toList)).length ≤
        (climb (segments (parseReference location).path)).1

instance (base location : Text) : Decidable (NamedByPath base location) := by
  unfold NamedByPath
  infer_instance

section

variable {base location : Text}

/-- A reference that starts with a slash: a path, or an authority and its path. -/
theorem parse_path (h : location.head? = some '/') : (parseReference location).scheme = none ∧
    (parseReference location).query = queryPart location ∧
    (((parseReference location).authority = none ∧ (parseReference location).path = pathPart location ∧
        (location.drop 1).head? ≠ some '/') ∨
      ∃ authority, (parseReference location).authority = some authority ∧ '/' ∉ authority ∧
        pathPart location = '/' :: '/' :: (authority ++ (parseReference location).path) ∧
        ((parseReference location).path = [] ∨ (parseReference location).path.head? = some '/')) := by
  obtain ⟨tail, rfl⟩ := List.head?_eq_some_iff.1 h
  have hscheme : splitScheme ('/' :: tail) = (none, '/' :: tail) := by simp [splitScheme, fromFirst]
  simp only [parseReference, hscheme, true_and]
  by_cases hdouble : tail.head? = some '/'
  · obtain ⟨rest, rfl⟩ := List.head?_eq_some_iff.1 hdouble
    have hsplit : before ['/', '?', '#'] rest ++ fromFirst ['/', '?', '#'] rest = rest := before_append_fromFirst
    have hfree : ∀ c ∈ before ['/', '?', '#'] rest, c ∉ ['?', '#'] := fun c hc hdelim =>
      notMem_before (List.mem_cons_of_mem _ hdelim) hc
    refine ⟨?_, .inr ⟨_, rfl, notMem_before (by simp), ?_, ?_⟩⟩
    · simp only [splitAuthority]
      rw [queryPart_slash, queryPart_slash, queryPart, fromFirst_fromFirst (by simp)]
    · rw [pathPart_slash, pathPart_slash]
      conv => enter [1]; rw [← hsplit, pathPart_append_of_free hfree]
      rfl
    · simp only [splitAuthority]
      cases htail : fromFirst ['/', '?', '#'] rest with
      | nil => exact .inl rfl
      | cons c tail =>
        have hhead : (fromFirst ['/', '?', '#'] rest).head? = some c := by rw [htail]; rfl
        rcases List.mem_cons.1 (head?_fromFirst hhead) with rfl | hc
        · exact .inr (by rw [← pathPart, pathPart_slash]; rfl)
        · left
          have hstop : ['?', '#'].contains c = true := List.contains_iff_mem.2 hc
          rw [before, List.takeWhile_cons, hstop]
          rfl
  · have hauthority : splitAuthority ('/' :: tail) = (none, '/' :: tail) := by
      cases tail with
      | nil => rfl
      | cons c tail =>
        have hc : c ≠ '/' := fun heq => hdouble (heq ▸ rfl)
        rw [splitAuthority]
        rintro _ heq
        exact hc (List.cons.inj (List.cons.inj heq).2).1
    simp only [hauthority, queryPart, true_and]
    exact .inl ⟨rfl, by simpa using hdouble⟩

theorem sent_resolve_of_path {home ref : Reference} (hscheme : ref.scheme = none)
    (hpath : ref.authority = none → ref.path.head? = some '/') : (resolve home ref).sent =
      { scheme := home.scheme, authority := ref.authority.or home.authority, path := requestPath ref.path,
        query := ref.query, fragment := none } := by
  rw [resolve, if_neg (by simp [hscheme])]
  cases hauthority : ref.authority with
  | some authority =>
    rw [if_pos (by simp)]
    simp [Reference.sent, requestPath_removeDotSegments]
  | none =>
    have hslash := hpath hauthority
    have hne : ref.path ≠ [] := by
      intro hnil
      rw [hnil] at hslash
      cases hslash
    rw [if_neg (by simp), if_neg hne, if_pos hslash]
    simp [Reference.sent, requestPath_removeDotSegments]

/-- A query that is asked for behind another one is never the whole query. -/
theorem query_ne_behind (query text q : Text) : q ≠ query ++ '/' :: (text ++ querySuffix q) := by
  intro heq
  have hsplit : q.takeWhile (· = '?') ++ trimStartMatches (· = '?') q = q := List.takeWhile_append_dropWhile
  have hmarks : '/' ∉ q.takeWhile (· = '?') := by
    intro hmem
    have himp := List.mem_takeWhile_imp hmem
    simp at himp
  rw [querySuffix] at heq
  split at heq
  · rename_i hempty
    rw [List.isEmpty_iff] at hempty
    rw [hempty, List.append_nil] at hsplit
    rw [hsplit, heq] at hmarks
    simp at hmarks
  · have hboth : q.takeWhile (· = '?') ++ trimStartMatches (· = '?') q =
        (query ++ '/' :: (text ++ ['?'])) ++ trimStartMatches (· = '?') q := by
      rw [hsplit]
      conv => enter [1]; rw [heq]
      simp
    rw [List.append_cancel_right hboth] at hmarks
    simp at hmarks

theorem authority_ne_nil {authority : Text} (h : isValidUpstreamBaseUrl base = true) (hplain : PathOnly base)
    (hauthority : (parseReference base).authority = some authority) : authority ≠ [] := by
  obtain ⟨scheme, host, rest, hscheme, rfl, hslash, ⟨c, hc, -⟩, -⟩ := isValidUpstreamBaseUrl_iff.1 h
  have hhost : ∀ d ∈ host, d ∉ ['/', '?', '#'] := by
    intro d hd hdelim
    rcases List.mem_cons.1 hdelim with rfl | hdelim
    · exact hslash hd
    · exact pathOnly_iff.1 hplain d (List.mem_append_right _ (List.mem_append_left _ hd)) hdelim
  have hparse : (parseReference (scheme ++ (host ++ rest))).authority = some (before ['/', '?', '#'] (host ++ rest)) := by
    rcases hscheme with rfl | rfl
    · have hne : ("https" : Text) ≠ [] := by simp
      exact (parseReference_absolute hne (by simp)).2.1
    · have hne : ("http" : Text) ≠ [] := by simp
      exact (parseReference_absolute hne (by simp)).2.1
  rw [hparse, before_append_of_free hhost, Option.some.injEq] at hauthority
  rintro rfl
  rw [List.append_eq_nil_iff] at hauthority
  rw [hauthority.1] at hc
  cases hc

theorem segments_slash (s : Text) : segments ('/' :: s) = splitOn '/' s := by
  rw [segments, splitOn_slash, List.tail_cons]

/-- The row of a path behind an authority that stands as its first segment. -/
theorem splitOn_authority {authority path : Text} (hauthority : '/' ∉ authority) (hpath : path = [] ∨ path.head? = some '/') :
    splitOn '/' (authority ++ path) = authority :: segments path := by
  rcases hpath with rfl | hslash
  · rw [List.append_nil]
    exact List.splitOn_eq_singleton hauthority
  · obtain ⟨tail, rfl⟩ := List.head?_eq_some_iff.1 hslash
    rw [segments_slash]
    exact List.splitOn_append_cons_self_of_not_mem hauthority tail

/-- The path that is asked for, against a path that is not below the base. -/
theorem requestPath_named {home path : Text} {authority : Option Text} (hauthority : ∀ a ∈ authority, a ≠ [] ∧ '/' ∉ a)
    (hpath : authority = none → segments path ≠ []) :
    joinSegments (collapse (segments home ++ (authority.toList ++ segments path))) = requestPath path ↔
      (walk [] (segments home ++ authority.toList)).length ≤ (climb (segments path)).1 := by
  have hfree : ∀ s ∈ collapse ((segments home ++ authority.toList) ++ segments path), '/' ∉ s := by
    intro s hs
    rcases (mem_collapse hs).1 with rfl | hmem
    · exact List.not_mem_nil
    · simp only [List.mem_append, Option.mem_toList] at hmem
      rcases hmem with (hmem | hmem) | hmem
      · exact (part_of_mem_segments hmem).1
      · exact (hauthority s hmem).2
      · exact (part_of_mem_segments hmem).1
  rw [← List.append_assoc]
  by_cases hsegs : segments path = []
  · -- the Location is an authority alone
    obtain ⟨a, rfl⟩ : ∃ a, authority = some a := Option.ne_none_iff_exists'.1 fun hnone => hpath hnone hsegs
    have hroot : requestPath path = joinSegments [[]] := by rw [requestPath, removeDotSegments, hsegs]; rfl
    rw [hsegs, List.append_nil] at hfree ⊢
    have hcollapse : joinSegments (collapse (segments home ++ [a])) = joinSegments [[]] ↔
        collapse (segments home ++ [a]) = [[]] :=
      ⟨joinSegments_inj hfree (by simp), fun heq => heq ▸ rfl⟩
    rw [hroot, Option.toList_some, hcollapse]
    have hne : a ≠ [] := (hauthority a rfl).1
    change _ ↔ _ ≤ 0
    rw [Nat.le_zero, List.length_eq_zero_iff, collapse, trailing_append_singleton]
    by_cases hdot : isDotSegment a = true
    · simp [hdot]
    · have hplain : ∀ s ∈ [a], isDotSegment s = false := fun s hs => List.mem_singleton.1 hs ▸ by simpa using hdot
      rw [walk_append, walk_of_plain hplain]
      simp [hdot, List.append_eq_singleton_iff, hne]
  · rw [requestPath_eq hsegs, ← collapse_append_eq_collapse hsegs]
    exact ⟨joinSegments_inj hfree collapse_slashFree, fun heq => heq ▸ rfl⟩

/-- **A path**: it is asked for exactly if it leads back. -/
theorem named_by_path_iff {url : Text} (h : isValidUpstreamBaseUrl base = true) (hurl : SameOrigin base url)
    (hlocation : location.head? = some '/') :
    (parseReference (askedUrl base location)).sent = (resolve (parseReference url) (parseReference location)).sent ↔
      NamedByPath base location := by
  obtain ⟨hscheme, hquery, hshape⟩ := parse_path hlocation
  obtain ⟨⟨hscheme₁, hauthority₁⟩, hpath₁, hquery₁⟩ := parse_asked h location
  have habsolute : (parseReference location).authority = none → (parseReference location).path.head? = some '/' := by
    intro hnone
    rcases hshape with ⟨-, hpath, -⟩ | ⟨authority, hsome, -⟩
    · obtain ⟨tail, rfl⟩ := List.head?_eq_some_iff.1 hlocation
      rw [hpath, pathPart_slash]
      rfl
    · rw [hnone] at hsome
      cases hsome
  have horigin : (parseReference base).authority = (parseReference location).authority.or (parseReference base).authority ↔
      ∀ authority ∈ (parseReference location).authority, (parseReference base).authority = some authority := by
    cases (parseReference location).authority <;> simp
  rw [sent_resolve_of_path hscheme habsolute, Reference.sent, Reference.mk.injEq, hscheme₁, hauthority₁, hpath₁, hquery₁,
    hurl.1, hurl.2, horigin, NamedByPath]
  simp only [true_and, and_true]
  refine and_congr_right fun hsame => ?_
  by_cases hfragment : '#' ∈ base
  · have hplain : ¬ PathOnly base := fun hplain => hplain.2 hfragment
    rw [if_neg hplain, if_pos hfragment, askedUrl, queryPart_append_of_fragment hfragment]
    exact and_congr eq_comm eq_comm
  · rw [if_neg hfragment]
    by_cases hmark : '?' ∈ base
    · -- the query that is asked for goes on behind the query of the base
      obtain ⟨query, hbehind⟩ := queryPart_append_of_query hmark hfragment
      refine iff_of_false (fun hsent => ?_) (fun hcond => hcond.1 hmark)
      have hgiven := hsent.2
      rw [askedUrl, hbehind, before_of_free (asked_free location), hquery] at hgiven
      have hwhole := congrArg (fun given => given.getD []) hgiven
      exact query_ne_behind _ _ _ hwhole.symm
    · have hplain : PathOnly base := ⟨hmark, hfragment⟩
      rw [if_pos hplain, query_asked hfragment, if_neg hmark, hquery, queryPart_querySuffix]
      simp only [hmark, not_false_eq_true, true_and]
      rw [and_comm]
      refine and_congr_right fun _ => ?_
      have hrow : splitOn '/' (trimStartMatches (· = '/') (pathPart location)) =
          (parseReference location).authority.toList ++ segments (parseReference location).path := by
        rcases hshape with ⟨hnone, hpath, hsingle⟩ | ⟨authority, hsome, hfree, hpath, hend⟩
        · obtain ⟨tail, rfl⟩ := List.head?_eq_some_iff.1 hlocation
          have htrim : trimStartMatches (· = '/') tail = tail := by
            apply trimStartMatches_eq_self
            intro c hc
            simpa using fun heq : c = '/' => hsingle (heq ▸ hc)
          rw [hnone, hpath, trimStart_pathPart, trimStart_slash, htrim, pathPart_slash, segments_slash]
          rfl
        · have hne := authority_ne_nil h hplain (hsame authority hsome)
          have htrim : trimStartMatches (· = '/') (authority ++ (parseReference location).path) =
              authority ++ (parseReference location).path := by
            apply trimStartMatches_eq_self
            intro c hc
            rw [List.head?_append_of_ne_nil _ hne] at hc
            simpa using fun heq : c = '/' => hfree (heq ▸ List.mem_of_head? hc)
          rw [hsome, hpath, trimStart_slash, trimStart_slash, htrim, splitOn_authority hfree hend]
          rfl
      have hsegs : segments ((parseReference base).path ++ '/' :: trimStartMatches (· = '/') (pathPart location)) =
          segments (parseReference base).path ++
            ((parseReference location).authority.toList ++ segments (parseReference location).path) := by
        rw [segments_append, hrow]
      have hne : segments (parseReference base).path ++
          ((parseReference location).authority.toList ++ segments (parseReference location).path) ≠ [] := by
        rw [← hrow]
        exact fun hnil => List.splitOn_ne_nil _ _ (List.append_eq_nil_iff.1 hnil).2
      rw [requestPath_eq (hsegs ▸ hne), hsegs]
      apply requestPath_named
      · intro a ha
        rcases hshape with ⟨hnone, -, -⟩ | ⟨authority, hsome, hfree, -, -⟩
        · rw [hnone] at ha
          cases ha
        · rw [hsome] at ha
          cases ha
          exact ⟨authority_ne_nil h hplain (hsame _ hsome), hfree⟩
      · intro hnone
        obtain ⟨tail, htail⟩ := List.head?_eq_some_iff.1 (habsolute hnone)
        rw [htail, segments_slash]
        exact List.splitOn_ne_nil _ _

end

/-! ## An answer and the request that follows it -/

/-- A `Location` that leads back to what the upstream meant, for a website with this base. -/
def LocationReturns (base location : Text) : Prop :=
  match Json.stripPrefix base location with
  | some rest => BehindBase base rest
  | none => NamedByPath base location

instance (base location : Text) : Decidable (LocationReturns base location) := by
  unfold LocationReturns
  split <;> infer_instance

/-- A website answers with a `Location`, and the client asks this proxy, at the same website, for what it was told. -/
structure Exchange (websites : List WebsiteProxyProfile) where
  request : SubscriptionProxyInboundRequest
  rooted : request.path.head? = some '/'
  upstream : SubscriptionProxyUpstreamRequest
  planned : planWebsiteRoute websites request = .ok (.upstream upstream)
  response : SubscriptionProxyUpstreamResponse
  maxResponseBytes : Nat
  client : SubscriptionProxyClientResponse
  answered : planSubscriptionProxyResponse response maxResponseBytes upstream.headOnly upstream.responseRewrite = .ok client
  key : Text
  isLocation : eqIgnoreCase key "location" = true
  value : Text
  given : response.headers.get? key = some value
  told : Text
  shown : client.headers.get? key = some told
  /-- The client keeps the fragment to itself. -/
  next : SubscriptionProxyInboundRequest
  nextRooted : next.path.head? = some '/'
  nextPath : next.path = pathPart told
  nextQuery : next.rawQuery = (queryPart told).getD []
  profile : WebsiteProxyProfile
  routed : (websiteProxyMatch websites request.path).map (·.1) = some profile
  routedAgain : (websiteProxyMatch websites next.path).map (·.1) = some profile
  again : SubscriptionProxyUpstreamRequest
  plannedAgain : planWebsiteRoute websites next = .ok (.upstream again)

/-- The base of the website. -/
def Exchange.base {websites : List WebsiteProxyProfile} (exchange : Exchange websites) : Text :=
  upstreamBase exchange.profile.upstreamBaseUrl

/-- The upstream is asked for what its `Location` meant where it was read. -/
def Exchange.Returns {websites : List WebsiteProxyProfile} (exchange : Exchange websites) : Prop :=
  (parseReference exchange.again.url).sent =
    (resolve (parseReference exchange.upstream.url) (parseReference (trim exchange.value))).sent

instance {websites : List WebsiteProxyProfile} (exchange : Exchange websites) : Decidable exchange.Returns :=
  inferInstanceAs (Decidable (_ = _))

section

variable {headers : BTreeMap Text Text} {key value : Text}

theorem get?_forwardedHeaders (hkey : eqIgnoreCase key "location" = true) :
    (forwardedHeaders headers).get? key = headers.get? key := by
  have hlower : asciiLower key = asciiLower "location" := of_decide_eq_true hkey
  have hkept : (!isHopByHopHeader key && !eqIgnoreCase key "host" && !eqIgnoreCase key "content-length") = true := by
    simp only [isHopByHopHeader, eqIgnoreCase, hlower]
    decide
  rw [forwardedHeaders, Std.ExtTreeMap.get?_eq_getElem?, Std.ExtTreeMap.getElem?_filter', Std.ExtTreeMap.get?_eq_getElem?]
  cases headers[key]? with
  | none => rfl
  | some value => rw [Option.filter_some, hkept, if_pos rfl]

theorem get?_takeCookieHeader {taken : BTreeMap Text Text × List Text} {cookieKey : Text} (hkey : key ≠ cookieKey) :
    (takeCookieHeader taken cookieKey).1.get? key = taken.1.get? key := by
  unfold takeCookieHeader
  split
  · rw [Std.ExtTreeMap.get?_eq_getElem?, Std.ExtTreeMap.getElem?_erase, if_neg (by simpa using hkey.symm)]
    rfl
  · rfl

theorem get?_foldl_takeCookieHeader {cookieKeys : List Text} (hkey : key ∉ cookieKeys) :
    ∀ taken : BTreeMap Text Text × List Text, (cookieKeys.foldl takeCookieHeader taken).1.get? key = taken.1.get? key := by
  induction cookieKeys with
  | nil => exact fun _ => rfl
  | cons cookieKey cookieKeys ih =>
    rw [List.mem_cons, not_or] at hkey
    intro taken
    rw [List.foldl_cons, ih hkey.2, get?_takeCookieHeader hkey.1]

/-- The client is told the rewritten `Location`. -/
theorem told_of_answered {response : SubscriptionProxyUpstreamResponse} {maxResponseBytes : Nat} {headOnly : Bool}
    {rewrite : WebsiteProxyRewriteContext} {client : SubscriptionProxyClientResponse} {told : Text}
    (h : planSubscriptionProxyResponse response maxResponseBytes headOnly (some rewrite) = .ok client)
    (hkey : eqIgnoreCase key "location" = true) (hgiven : response.headers.get? key = some value)
    (hshown : client.headers.get? key = some told) : told = rewriteWebsiteLocation value rewrite := by
  unfold planSubscriptionProxyResponse at h
  generalize (if maxResponseBytes = 0 then defaultMaxResponseBytes else maxResponseBytes) = limit at h
  simp only at h
  split at h
  · cases h
  · cases h
    have hcookie : key ∉ (forwardedHeaders response.headers).keys.filter (eqIgnoreCase · "set-cookie") := by
      intro hmem
      have hcookie := (List.mem_filter.1 hmem).2
      have hlower : asciiLower key = asciiLower "location" := of_decide_eq_true hkey
      rw [eqIgnoreCase, hlower] at hcookie
      revert hcookie
      decide
    simp only [rewriteResponseHeaders] at hshown
    rw [Std.ExtTreeMap.get?_eq_getElem?, Std.ExtTreeMap.getElem?_map, ← Std.ExtTreeMap.get?_eq_getElem?,
      get?_foldl_takeCookieHeader hcookie, get?_forwardedHeaders hkey, hgiven, Option.map_some, hkey, if_pos rfl] at hshown
    exact (Option.some.inj hshown).symm

end

/-! ## Routing and returning -/

section

variable {websites : List WebsiteProxyProfile} {path : Text}

/-- A prefix stands in front of a path on a segment boundary; the root stands in front of every path. -/
def OnBoundary (pathPrefix path : Text) : Prop :=
  pathPrefix = "/" ∨ path = pathPrefix ∨ ∃ rest, path = pathPrefix ++ '/' :: rest

/-- A website is selected for a path: its prefix is the longest on a boundary, and the upstream path is what follows. -/
structure RoutedTo (websites : List WebsiteProxyProfile) (path : Text) (profile : WebsiteProxyProfile)
    (pathPrefix upstreamPath : Text) : Prop where
  listed : profile ∈ websites
  own : pathPrefix = profile.effectivePrefix
  boundary : OnBoundary pathPrefix path
  longest : ∀ other ∈ websites, OnBoundary other.effectivePrefix path → byteLen other.effectivePrefix ≤ byteLen pathPrefix
  whole : path = (if pathPrefix = "/" then [] else pathPrefix) ++ upstreamPath ∨ path = pathPrefix ∧ upstreamPath = "/"

/-- **Routing**: a website is selected if there is one on a boundary. -/
theorem routed_of_match (hpath : path.head? = some '/') :
    (websiteProxyMatch websites path = none ↔ ∀ profile ∈ websites, ¬ OnBoundary profile.effectivePrefix path) ∧
    ∀ profile pathPrefix upstreamPath, websiteProxyMatch websites path = some (profile, pathPrefix, upstreamPath) →
      RoutedTo websites path profile pathPrefix upstreamPath := by
  have hne : path ≠ [] := by
    rintro rfl
    cases hpath
  constructor
  · rw [websiteProxyMatch_eq_none hne]
    simp only [← Bool.not_eq_true, websiteProxyPathMatches_iff, OnBoundary]
  · intro profile pathPrefix upstreamPath hmatch
    obtain ⟨howner, hown, hmatches, hupstream, hlongest⟩ := websiteProxyMatch_eq_some hne hmatch
    have hboundary := websiteProxyPathMatches_iff.1 hmatches
    refine ⟨(prefixOwner_mem howner).1, hown, hboundary, fun other hother h => ?_, ?_⟩
    · exact hlongest other hother (websiteProxyPathMatches_iff.2 h)
    · rw [hupstream]
      by_cases hroot : pathPrefix = "/"
      · left
        rw [if_pos hroot, hroot, websiteProxyUpstreamPath, if_pos rfl, if_neg (by simpa using hne), List.nil_append]
      · rw [if_neg hroot]
        rcases hboundary.resolve_left hroot with heq | ⟨rest, heq⟩
        · right
          rw [heq, websiteProxyUpstreamPath_self hroot]
          exact ⟨rfl, rfl⟩
        · left
          rw [heq, websiteProxyUpstreamPath_below hroot]

/-- In a list that normalisation gives back, every profile is in its trimmed form. -/
theorem prepared_of_normal (hnormal : normalizeWebsiteProfiles websites = .ok websites) {profile : WebsiteProxyProfile}
    (h : profile ∈ websites) : profile.prepare = profile := by
  have hmap : websites.map WebsiteProxyProfile.prepare = websites.map id :=
    (keepProfiles_eq_map hnormal (Nat.le_refl _)).symm.trans (List.map_id _).symm
  exact List.map_inj_left.1 hmap profile h

/-- **Returning**: the upstream is asked for what its `Location` meant exactly if that `Location` leads back. -/
theorem exchange_returns_iff (hnormal : normalizeWebsiteProfiles websites = .ok websites) (exchange : Exchange websites)
    (hlocation : FromBase exchange.base (trim exchange.value) ∨ (trim exchange.value).head? = some '/') :
    exchange.Returns ↔ LocationReturns exchange.base (trim exchange.value) := by
  obtain ⟨profile, pathPrefix, upstreamPath, hmatch, hvalid, hurl, hrewrite⟩ :=
    planWebsiteRoute_upstream exchange.rooted exchange.planned
  obtain ⟨again, againPrefix, againPath, hmatchAgain, -, hurlAgain, -⟩ :=
    planWebsiteRoute_upstream exchange.nextRooted exchange.plannedAgain
  -- both requests go to one website, under one prefix
  obtain rfl : profile = exchange.profile := by
    have hrouted := exchange.routed
    rw [hmatch] at hrouted
    exact Option.some.inj hrouted
  obtain rfl : again = exchange.profile := by
    have hrouted := exchange.routedAgain
    rw [hmatchAgain] at hrouted
    exact Option.some.inj hrouted
  have hne : ∀ {request : SubscriptionProxyInboundRequest}, request.path.head? = some '/' → request.path ≠ [] := by
    intro request hrooted hnil
    rw [hnil] at hrooted
    cases hrooted
  obtain ⟨howner, rfl, -⟩ := websiteProxyMatch_eq_some (hne exchange.rooted) hmatch
  obtain ⟨-, rfl, hmatchesAgain, rfl, -⟩ := websiteProxyMatch_eq_some (hne exchange.nextRooted) hmatchAgain
  have hprepared := prepared_of_normal hnormal (prefixOwner_mem howner).1
  have hcut : upstreamBase exchange.profile.upstreamBaseUrl = exchange.profile.upstreamBaseUrl :=
    congrArg WebsiteProxyProfile.upstreamBaseUrl hprepared
  have htrimmed : exchange.profile.effectivePrefix = exchange.profile.pathPrefix :=
    congrArg WebsiteProxyProfile.pathPrefix hprepared
  have hnormalPrefix : normalizeProxyPathPrefix exchange.profile.effectivePrefix = exchange.profile.effectivePrefix := by
    rw [htrimmed]
    exact htrimmed
  have hanswered := exchange.answered
  rw [hrewrite] at hanswered
  have htold := told_of_answered hanswered exchange.isLocation exchange.given exchange.shown
  obtain ⟨hbehind, hpath⟩ := rewriteWebsiteLocation_eq exchange.value hvalid (by rw [hcut, hcut]) hnormalPrefix
  rw [exchange.nextPath] at hmatchesAgain hurlAgain
  rw [exchange.nextQuery] at hurlAgain
  have hbase : exchange.base = upstreamBase exchange.profile.upstreamBaseUrl := rfl
  rw [Exchange.Returns, hurlAgain, LocationReturns]
  rcases hlocation with ⟨rest, hvalue, hrest⟩ | hslash
  · rw [hbase] at hvalue ⊢
    have hrelative : Relative (firstNonEmpty rest "/") := by
      rcases hrest with rfl | hrest
      · exact .inl rfl
      · rw [firstNonEmpty, if_neg (by rintro hnil; rw [List.isEmpty_iff] at hnil; rcases hrest with h | h <;> simp [hnil] at h)]
        exact hrest
    have hdefault : trimStartMatches (· = '/') (pathPart (firstNonEmpty rest "/")) = trimStartMatches (· = '/') (pathPart rest) ∧
        queryPart (firstNonEmpty rest "/") = queryPart rest := by
      cases rest with
      | nil => exact ⟨rfl, rfl⟩
      | cons c rest => exact ⟨rfl, rfl⟩
    rw [hbehind rest hvalue hrest] at htold
    rw [htold] at hmatchesAgain ⊢
    obtain ⟨hasked, hquery⟩ := asked_again hnormalPrefix hrelative hmatchesAgain
    rw [hasked, hquery, hdefault.1, hdefault.2, hvalue, Json.stripPrefix_append]
    exact behind_base_iff hvalid hrest
  · rw [hbase]
    rw [hpath hslash] at htold
    rw [htold] at hmatchesAgain ⊢
    obtain ⟨hasked, hquery⟩ := asked_again hnormalPrefix (.inl hslash) hmatchesAgain
    rw [hasked, hquery, stripPrefix_of_path hvalid hslash]
    refine named_by_path_iff hvalid ?_ hslash
    rw [hurl]
    exact (parse_extended _ hvalid).1

/-- **Routing and returning**, for every list that normalisation gives back. -/
theorem websites_routed_and_returned (hnormal : normalizeWebsiteProfiles websites = .ok websites) :
    (∀ path, path.head? = some '/' →
      (websiteProxyMatch websites path = none ↔ ∀ profile ∈ websites, ¬ OnBoundary profile.effectivePrefix path) ∧
      ∀ profile pathPrefix upstreamPath, websiteProxyMatch websites path = some (profile, pathPrefix, upstreamPath) →
        RoutedTo websites path profile pathPrefix upstreamPath) ∧
    ∀ exchange : Exchange websites,
      FromBase exchange.base (trim exchange.value) ∨ (trim exchange.value).head? = some '/' →
      (exchange.Returns ↔ LocationReturns exchange.base (trim exchange.value)) :=
  ⟨fun _ => routed_of_match, exchange_returns_iff hnormal⟩

end

/-! ## A path below the base -/

def appWebsite : WebsiteProxyProfile where
  siteId := "app"
  upstreamBaseUrl := "https://up/app"
  pathPrefix := "/site"

def appRequest : SubscriptionProxyInboundRequest where
  method := "GET"
  path := "/site/x"

def loginRequest : SubscriptionProxyInboundRequest where
  method := "GET"
  path := "/site/login"

/-- What is sent upstream for the website. -/
def appUpstream (request : SubscriptionProxyInboundRequest) (url : Text) : SubscriptionProxyUpstreamRequest where
  method := "GET"
  url
  headers := upstreamForwardedHeaders request
  body := []
  headOnly := false
  followRedirects := false
  responseRewrite := some ⟨"https://up/app", "/site"⟩

def loginResponse (value : Text) : SubscriptionProxyUpstreamResponse where
  status := 302
  headers := (∅ : BTreeMap Text Text).insert "Location" value

def loginClientResponse : SubscriptionProxyClientResponse where
  status := 302
  headers := (∅ : BTreeMap Text Text).insert "Location" "/site/login"

/-- The application sends the client to its login page. -/
def loginExchange (value : Text)
    (answered : planSubscriptionProxyResponse (loginResponse value) 0 false
      (appUpstream appRequest "https://up/app/x").responseRewrite = .ok loginClientResponse) : Exchange [appWebsite] where
  request := appRequest
  rooted := rfl
  upstream := appUpstream appRequest "https://up/app/x"
  planned := by with_unfolding_all rfl
  response := loginResponse value
  maxResponseBytes := 0
  client := loginClientResponse
  answered
  key := "Location"
  isLocation := by decide
  value
  given := by with_unfolding_all rfl
  told := "/site/login"
  shown := by with_unfolding_all rfl
  next := loginRequest
  nextRooted := rfl
  nextPath := by with_unfolding_all rfl
  nextQuery := by with_unfolding_all rfl
  profile := appWebsite
  routed := by with_unfolding_all rfl
  routedAgain := by with_unfolding_all rfl
  again := appUpstream loginRequest "https://up/app/login"
  plannedAgain := by with_unfolding_all rfl

/-- The login page, named in full. -/
def fullLogin : Exchange [appWebsite] := loginExchange "https://up/app/login" (by with_unfolding_all rfl)

/-- A login page of the same upstream, named by its path: it is not the application's. -/
def pathLogin : Exchange [appWebsite] := loginExchange "/login" (by with_unfolding_all rfl)

theorem fullLogin_routed_and_returned :
    RoutedTo [appWebsite] "/site/x" appWebsite "/site" "/x" ∧
      (fullLogin.Returns ↔ LocationReturns fullLogin.base (trim fullLogin.value)) ∧
      LocationReturns fullLogin.base (trim fullLogin.value) := by
  have hnormal : normalizeWebsiteProfiles [appWebsite] = .ok [appWebsite] := by with_unfolding_all rfl
  obtain ⟨hrouted, hreturned⟩ := websites_routed_and_returned hnormal
  refine ⟨(hrouted "/site/x" rfl).2 _ _ _ (by with_unfolding_all rfl), hreturned fullLogin (.inl ?_), by decide +kernel⟩
  exact ⟨"/login", by decide +kernel, .inr (.inl rfl)⟩

/-- `/login` is asked for as `/app/login`. -/
theorem pathLogin_lost :
    normalizeWebsiteProfiles [appWebsite] = .ok [appWebsite] ∧ (trim pathLogin.value).head? = some '/' ∧
      (parseReference pathLogin.again.url).sent.path = "/app/login" ∧
      (resolve (parseReference pathLogin.upstream.url) (parseReference (trim pathLogin.value))).sent.path = "/login" ∧
      ¬ pathLogin.Returns := by
  refine ⟨by with_unfolding_all rfl, by decide +kernel, by decide +kernel, by decide +kernel, by decide +kernel⟩

end KeliNode
