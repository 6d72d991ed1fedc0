import KeliNode.Lib.DotSegments

/-!
# References

The components of a reference (RFC 3986, appendix B): a scheme, an authority behind two slashes, the path, the query
behind a question mark and the fragment behind a hash.  Each part ends at the first of its delimiters (`before`,
`fromFirst`), so what is added behind a delimiter changes no part before it.
-/

namespace Lib

/-! ## The first of some delimiters -/

def before (delims : List Char) (s : Text) : Text := s.takeWhile fun c => !delims.contains c

def fromFirst (delims : List Char) (s : Text) : Text := s.dropWhile fun c => !delims.contains c

section

variable {delims : List Char} {s t : Text}

theorem before_append_fromFirst : before delims s ++ fromFirst delims s = s := List.takeWhile_append_dropWhile

theorem notMem_before {c : Char} (hc : c ∈ delims) : c ∉ before delims s := by
  intro h
  have hfree := List.mem_takeWhile_imp h
  simp [hc] at hfree

theorem before_append_of_free (h : ∀ c ∈ s, c ∉ delims) : before delims (s ++ t) = s ++ before delims t :=
  List.takeWhile_append_of_pos fun c hc => by simpa using h c hc

theorem fromFirst_append_of_free (h : ∀ c ∈ s, c ∉ delims) : fromFirst delims (s ++ t) = fromFirst delims t :=
  List.dropWhile_append_of_pos fun c hc => by simpa using h c hc

theorem before_cons {d : Char} (hd : d ∉ delims) : before delims (d :: s) = d :: before delims s := by
  simp [before, hd]

theorem fromFirst_cons {d : Char} (hd : d ∉ delims) : fromFirst delims (d :: s) = fromFirst delims s := by
  simp [fromFirst, hd]

/-- A delimiter ends the part, whatever is added. -/
theorem before_append_of_mem {c : Char} (hc : c ∈ s) (hdelim : c ∈ delims) :
    before delims (s ++ t) = before delims s ∧ fromFirst delims (s ++ t) = fromFirst delims s ++ t := by
  induction s with
  | nil => cases hc
  | cons d s ih =>
    by_cases hd : d ∈ delims
    · simp [before, fromFirst, hd]
    · have hmem : c ∈ s := by
        rcases List.mem_cons.1 hc with rfl | hmem
        · exact absurd hdelim hd
        · exact hmem
      obtain ⟨hbefore, hfrom⟩ := ih hmem
      rw [List.cons_append, before_cons hd, before_cons hd, fromFirst_cons hd, fromFirst_cons hd, hbefore, hfrom]
      exact ⟨rfl, rfl⟩

theorem before_of_free (h : ∀ c ∈ s, c ∉ delims) : before delims s = s := by
  simpa [before] using before_append_of_free (t := []) h

theorem fromFirst_of_free (h : ∀ c ∈ s, c ∉ delims) : fromFirst delims s = [] := by
  simpa [fromFirst] using fromFirst_append_of_free (t := []) h

/-- Delimiters that are passed over are looked for in vain. -/
theorem fromFirst_fromFirst {more : List Char} (h : ∀ c ∈ delims, c ∈ more) :
    fromFirst delims (fromFirst more s) = fromFirst delims s := by
  have hfree : ∀ c ∈ before more s, c ∉ delims := fun c hc hdelim => notMem_before (h c hdelim) hc
  have hsplit : before more s ++ fromFirst more s = s := before_append_fromFirst
  conv => enter [2]; rw [← hsplit, fromFirst_append_of_free hfree]

theorem head?_fromFirst {c : Char} (h : (fromFirst delims s).head? = some c) : c ∈ delims := by
  have hhead := List.head?_dropWhile_not (fun c => !delims.contains c) s
  rw [fromFirst] at h
  rw [h] at hhead
  simpa using hhead

end

/-! ## Components -/

structure Reference where
  scheme : Option Text := none
  authority : Option Text := none
  path : Text := []
  query : Option Text := none
  fragment : Option Text := none
  deriving DecidableEq

/-- A scheme is not empty. -/
def splitScheme (s : Text) : Option Text × Text :=
  match fromFirst [':', '/', '?', '#'] s with
  | ':' :: rest => if before [':', '/', '?', '#'] s = [] then (none, s) else (some (before [':', '/', '?', '#'] s), rest)
  | _ => (none, s)

def splitAuthority : Text → Option Text × Text
  | '/' :: '/' :: rest => (some (before ['/', '?', '#'] rest), fromFirst ['/', '?', '#'] rest)
  | s => (none, s)

/-- What stands behind `mark`. -/
def behind (mark : Char) : Text → Option Text
  | [] => none
  | c :: rest => if c = mark then some rest else none

def pathPart (s : Text) : Text := before ['?', '#'] s

def queryPart (s : Text) : Option Text := (behind '?' (fromFirst ['?', '#'] s)).map (before ['#'])

def parseReference (s : Text) : Reference :=
  let (scheme, hier) := splitScheme s
  let (authority, rest) := splitAuthority hier
  let tail := fromFirst ['?', '#'] rest
  { scheme, authority
    path := before ['?', '#'] rest
    query := (behind '?' tail).map (before ['#'])
    fragment := behind '#' (fromFirst ['#'] tail) }

section

variable {scheme s : Text}

theorem splitScheme_of_scheme (hne : scheme ≠ []) (hfree : ∀ c ∈ scheme, c ∉ [':', '/', '?', '#']) :
    splitScheme (scheme ++ ':' :: s) = (some scheme, s) := by
  have hbefore : before [':', '/', '?', '#'] (scheme ++ ':' :: s) = scheme := by
    rw [before_append_of_free hfree]
    simp [before]
  have hfrom : fromFirst [':', '/', '?', '#'] (scheme ++ ':' :: s) = ':' :: s := by
    rw [fromFirst_append_of_free hfree]
    simp [fromFirst]
  simp only [splitScheme, hbefore, hfrom, if_neg hne]

/-- Scheme, authority and path of a reference that has a scheme and an authority. -/
theorem parseReference_absolute (hne : scheme ≠ []) (hfree : ∀ c ∈ scheme, c ∉ [':', '/', '?', '#']) :
    (parseReference (scheme ++ ':' :: '/' :: '/' :: s)).scheme = some scheme ∧
    (parseReference (scheme ++ ':' :: '/' :: '/' :: s)).authority = some (before ['/', '?', '#'] s) ∧
    (parseReference (scheme ++ ':' :: '/' :: '/' :: s)).path = before ['?', '#'] (fromFirst ['/', '?', '#'] s) := by
  simp only [parseReference, splitScheme_of_scheme hne hfree, splitAuthority, and_self]

/-- Its query. -/
theorem query_absolute (hne : scheme ≠ []) (hfree : ∀ c ∈ scheme, c ∉ [':', '/', '?', '#']) :
    (parseReference (scheme ++ ':' :: '/' :: '/' :: s)).query = queryPart s := by
  simp only [parseReference, splitScheme_of_scheme hne hfree, splitAuthority, queryPart]
  rw [fromFirst_fromFirst (by simp)]

end

/-! ## Path and query -/

section

variable {s t : Text}

theorem queryPart_append_of_free (h : ∀ c ∈ s, c ∉ ['?', '#']) : queryPart (s ++ t) = queryPart t := by
  rw [queryPart, fromFirst_append_of_free h, ← queryPart]

theorem queryPart_of_free (h : ∀ c ∈ s, c ∉ ['?', '#']) : queryPart s = none := by
  rw [queryPart, fromFirst_of_free h]
  rfl

theorem queryPart_mark : queryPart ('?' :: t) = some (before ['#'] t) := by
  simp [queryPart, fromFirst, behind]

/-- Behind a fragment nothing is added to the query. -/
theorem queryPart_append_of_fragment (h : '#' ∈ s) : queryPart (s ++ t) = queryPart s := by
  have hmark : '#' ∈ fromFirst ['?', '#'] s := by
    have hsplit : before ['?', '#'] s ++ fromFirst ['?', '#'] s = s := before_append_fromFirst
    have hs := h
    rw [← hsplit, List.mem_append] at hs
    exact hs.resolve_left (notMem_before (by simp))
  rw [queryPart, (before_append_of_mem h (by simp)).2, queryPart]
  cases htail : fromFirst ['?', '#'] s with
  | nil => rw [htail] at hmark; cases hmark
  | cons c tail =>
    by_cases hc : c = '?'
    · rw [htail, hc] at hmark
      have hinside : '#' ∈ tail := by simpa using hmark
      simp [behind, hc, (before_append_of_mem (t := t) hinside (List.mem_singleton.2 rfl)).1]
    · simp [behind, hc]

/-- Behind a query all but a fragment is added to it. -/
theorem queryPart_append_of_query (hmark : '?' ∈ s) (hfragment : '#' ∉ s) :
    ∃ query, ∀ t, queryPart (s ++ t) = some (query ++ before ['#'] t) := by
  have hsplit : before ['?', '#'] s ++ fromFirst ['?', '#'] s = s := before_append_fromFirst
  have hmem : '?' ∈ fromFirst ['?', '#'] s := by
    rw [← hsplit, List.mem_append] at hmark
    exact hmark.resolve_left (notMem_before (by simp))
  cases htail : fromFirst ['?', '#'] s with
  | nil => rw [htail] at hmem; cases hmem
  | cons c query =>
    have hc : c = '?' := by
      have hhead : (fromFirst ['?', '#'] s).head? = some c := by rw [htail]; rfl
      have hdelim := head?_fromFirst hhead
      rcases List.mem_cons.1 hdelim with hc | hc
      · exact hc
      · rw [List.mem_singleton] at hc
        rw [← hsplit, htail, hc] at hfragment
        exact absurd (by simp) hfragment
    have hquery : ∀ d ∈ query, d ∉ ['#'] := by
      intro d hd hdelim
      rw [List.mem_singleton] at hdelim
      rw [← hsplit, htail, ← hdelim] at hfragment
      exact hfragment (by simp [hd])
    refine ⟨query, fun t => ?_⟩
    rw [queryPart, (before_append_of_mem hmark (by simp)).2, htail, hc]
    simp [behind, before_append_of_free hquery]

end

/-! ## Resolution -/

/-- The path that `ref` is merged into, behind an authority (RFC 3986, 5.2.3). -/
def mergePath (base ref : Reference) : Text :=
  if base.path = [] then '/' :: ref.path else (base.path.reverse.dropWhile (· ≠ '/')).reverse ++ ref.path

/-- The reference that `ref` stands for where `base` is read, a reference with an authority (RFC 3986, 5.2.2). -/
def resolve (base ref : Reference) : Reference :=
  if ref.scheme.isSome then { ref with path := removeDotSegments ref.path }
  else if ref.authority.isSome then { ref with scheme := base.scheme, path := removeDotSegments ref.path }
  else if ref.path = [] then { base with query := ref.query.or base.query, fragment := ref.fragment }
  else
    { ref with
      scheme := base.scheme
      authority := base.authority
      path := removeDotSegments (if ref.path.head? = some '/' then ref.path else mergePath base ref) }

/-- The path that a request carries. -/
def requestPath (path : Text) : Text := if removeDotSegments path = [] then ['/'] else removeDotSegments path

/-- What is asked for where a reference with an authority is followed: an empty path is the root, and a fragment stays
with the client. -/
def Reference.sent (ref : Reference) : Reference := { ref with path := requestPath ref.path, fragment := none }

theorem requestPath_removeDotSegments (path : Text) : requestPath (removeDotSegments path) = requestPath path := by
  rw [requestPath, removeDotSegments_idem, ← requestPath]

end Lib
